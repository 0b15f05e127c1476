import GeoSearch.Predicate.Evaluation
import GeoSearch.Predicate.Tree
import GeoSearch.Proofs.Predicate.Like
import Mathlib.Data.List.Forall2
/-!
What patterns mean in a predicate. A pattern is read from left to right into tokens, and a text matches
it if the text is cut into consecutive pieces, one for each token. Evaluation of a tree decides its
patterns so, and so does the expression that a pattern is written as, also when it is looked up among
the expressions that were written for all patterns of the tree.
-/
namespace GeoSearch

namespace Like

/-- A pattern reads as tokens. Of characters that coincide the escape counts first, then the wildcard
of runs. -/
inductive Reads (w : Wildcards) : List Char → List Token → Prop where
  | nil : Reads w [] []
  | escaped (c : Char) : Reads w rest later → Reads w (w.escape :: c :: rest) (.char c :: later)
  | escapeLast : Reads w [w.escape] [.char w.escape]
  | anyRun : w.anyRun ≠ w.escape → Reads w rest later → Reads w (w.anyRun :: rest) (.anyRun :: later)
  | single : w.single ≠ w.escape → w.single ≠ w.anyRun → Reads w rest later →
      Reads w (w.single :: rest) (.single :: later)
  | char : c ≠ w.escape → c ≠ w.anyRun → c ≠ w.single → Reads w rest later →
      Reads w (c :: rest) (.char c :: later)

def Token.Takes (matchCase : Bool) (piece : List Char) : Token → Prop
  | .anyRun => True
  | .single => ∃ d, piece = [d]
  | .char c => ∃ d, piece = [d] ∧ Text.sameChar matchCase c d

def Matches (w : Wildcards) (pattern text : String) : Prop :=
  ∃ tokens pieces, Reads w pattern.toList tokens ∧ text.toList = pieces.flatten ∧
    List.Forall₂ (fun token piece => Token.Takes w.matchCase piece token) tokens pieces

variable {w : Wildcards} {matchCase : Bool}

theorem reads_tokensOf (w : Wildcards) (pattern : List Char) : Reads w pattern (tokensOf w pattern) := by
  fun_induction tokensOf w pattern with
  | case1 => exact .nil
  | case2 => exact .escapeLast
  | case3 next rest ih => exact .escaped next ih
  | case4 rest other ih => exact .anyRun other ih
  | case5 rest other another ih => exact .single other another ih
  | case6 c rest _ _ _ ih => exact .char ‹_› ‹_› ‹_› ih

/-- There is one reading of a pattern. -/
theorem reads_iff {pattern : List Char} {tokens : List Token} :
    Reads w pattern tokens ↔ tokens = tokensOf w pattern := by
  constructor
  · intro reads
    induction reads with
    | nil => rfl
    | escaped c _ ih => simp [tokensOf, ih]
    | escapeLast => simp [tokensOf]
    | anyRun other _ ih =>
      rw [tokensOf.eq_def]
      simp [other, ih]
    | single other another _ ih =>
      rw [tokensOf.eq_def]
      simp [other, another, ih]
    | char plain run single _ ih =>
      rw [tokensOf.eq_def]
      simp [plain, run, single, ih]
  · rintro rfl
    exact reads_tokensOf w pattern

/-- The pieces of a split, one by one. -/
theorem splits_iff_pieces {tokens : List Token} {text : List Char} :
    Splits matchCase tokens text ↔ ∃ pieces, text = pieces.flatten ∧
      List.Forall₂ (fun token piece => Token.Takes matchCase piece token) tokens pieces := by
  constructor
  · intro split
    induction split with
    | nil => exact ⟨[], rfl, .nil⟩
    | anyRun run _ ih =>
      obtain ⟨pieces, rfl, taken⟩ := ih
      exact ⟨run :: pieces, rfl, .cons trivial taken⟩
    | single c _ ih =>
      obtain ⟨pieces, rfl, taken⟩ := ih
      exact ⟨[c] :: pieces, rfl, .cons ⟨c, rfl⟩ taken⟩
    | char same _ ih =>
      obtain ⟨pieces, rfl, taken⟩ := ih
      exact ⟨[_] :: pieces, rfl, .cons ⟨_, rfl, same⟩ taken⟩
  · rintro ⟨pieces, rfl, taken⟩
    induction taken with
    | nil => exact .nil
    | @cons token piece _ _ first _ ih =>
      cases token with
      | anyRun => exact .anyRun piece ih
      | single =>
        obtain ⟨d, rfl⟩ := first
        exact .single d ih
      | char c =>
        obtain ⟨d, rfl, same⟩ := first
        exact .char same ih

theorem matches_iff_splits {pattern text : String} :
    Matches w pattern text ↔ Splits w.matchCase (tokens w pattern) text.toList := by
  rw [splits_iff_pieces]
  constructor
  · rintro ⟨_, pieces, reads, cut, taken⟩
    obtain rfl := reads_iff.mp reads
    exact ⟨pieces, cut, taken⟩
  · rintro ⟨pieces, cut, taken⟩
    exact ⟨_, pieces, reads_tokensOf w _, cut, taken⟩

end Like

/-! ### Expressions -/

namespace Expression

def operators : List Char :=
  ['\\', '.', '+', '*', '?', '(', ')', '|', '[', ']', '\x7b', '\x7d', '^', '$', '#', '&', '-', '~']

/-- What follows the opening anchor accepts a text up to its end. A dot takes every character, a line
break included. Of the operators only the backslash, the dot, the dot before a star and the closing
anchor have a reading here. -/
inductive Accepts (matchCase : Bool) : (expression text : List Char) → Prop where
  | closed : Accepts matchCase ['$'] []
  | escaped : c ∈ operators → Text.sameChar matchCase c d → Accepts matchCase rest text →
      Accepts matchCase ('\\' :: c :: rest) (d :: text)
  | anyRun (run : List Char) : Accepts matchCase rest text →
      Accepts matchCase ('.' :: '*' :: rest) (run ++ text)
  | any (d : Char) : rest.head? ≠ some '*' → Accepts matchCase rest text →
      Accepts matchCase ('.' :: rest) (d :: text)
  | plain : c ∉ operators → Text.sameChar matchCase c d → Accepts matchCase rest text →
      Accepts matchCase (c :: rest) (d :: text)

def Matches (expression text : String) : Prop :=
  (∃ rest, expression.toList = "(?s)^".toList ++ rest ∧ Accepts true rest text.toList) ∨
    ∃ rest, expression.toList = "(?si)^".toList ++ rest ∧ Accepts false rest text.toList

variable {matchCase : Bool} {rest text : List Char} {c : Char}

theorem accepts_closed : Accepts matchCase ['$'] text ↔ text = [] := by
  constructor
  · intro accepted
    cases accepted with
    | closed => rfl
    | plain plain _ _ => exact absurd (by decide) plain
  · rintro rfl
    exact .closed

theorem accepts_escaped (operator : c ∈ operators) : Accepts matchCase ('\\' :: c :: rest) text ↔
    ∃ d later, text = d :: later ∧ Text.sameChar matchCase c d ∧ Accepts matchCase rest later := by
  constructor
  · intro accepted
    cases accepted with
    | escaped _ same accepted => exact ⟨_, _, rfl, same, accepted⟩
    | plain plain _ _ => exact absurd (by decide) plain
  · rintro ⟨d, later, rfl, same, accepted⟩
    exact .escaped operator same accepted

theorem accepts_anyRun : Accepts matchCase ('.' :: '*' :: rest) text ↔
    ∃ run later, text = run ++ later ∧ Accepts matchCase rest later := by
  constructor
  · intro accepted
    cases accepted with
    | anyRun run accepted => exact ⟨run, _, rfl, accepted⟩
    | any _ other _ => exact absurd rfl other
    | plain plain _ _ => exact absurd (by decide) plain
  · rintro ⟨run, later, rfl, accepted⟩
    exact .anyRun run accepted

theorem accepts_any (other : rest.head? ≠ some '*') : Accepts matchCase ('.' :: rest) text ↔
    ∃ d later, text = d :: later ∧ Accepts matchCase rest later := by
  constructor
  · intro accepted
    cases accepted with
    | anyRun => exact absurd rfl other
    | any d _ accepted => exact ⟨d, _, rfl, accepted⟩
    | plain plain _ _ => exact absurd (by decide) plain
  · rintro ⟨d, later, rfl, accepted⟩
    exact .any d other accepted

theorem accepts_plain (plain : c ∉ operators) : Accepts matchCase (c :: rest) text ↔
    ∃ d later, text = d :: later ∧ Text.sameChar matchCase c d ∧ Accepts matchCase rest later := by
  constructor
  · intro accepted
    cases accepted with
    | plain _ same accepted => exact ⟨_, _, rfl, same, accepted⟩
    | closed | escaped | anyRun | any => exact absurd (by decide) plain
  · rintro ⟨d, later, rfl, same, accepted⟩
    exact .plain plain same accepted

end Expression

namespace Like

variable {w : Wildcards} {matchCase : Bool} {rest : List Token}

theorem head?_expression_chars (tokens : List Token) :
    (expression.chars tokens ++ ['$']).head? ≠ some '*' := by
  have first := head?_chars (d := expression) (by decide) rfl rfl tokens
  rw [List.head?_append]
  cases written : (expression.chars tokens).head? with
  | none => simp
  | some c => simpa [written] using first

/-- The written tokens and the closing anchor accept the texts that split into their pieces. -/
theorem accepts_expression_chars (tokens : List Token) (text : List Char) :
    Expression.Accepts matchCase (expression.chars tokens ++ ['$']) text ↔
      Splits matchCase tokens text := by
  induction tokens generalizing text with
  | nil => exact Expression.accepts_closed.trans splits_nil.symm
  | cons token rest ih =>
    rw [chars_cons, List.append_assoc]
    cases token with
    | anyRun =>
      rw [splits_anyRun]
      exact Expression.accepts_anyRun.trans (by simp [ih])
    | single =>
      rw [splits_single]
      exact (Expression.accepts_any (head?_expression_chars rest)).trans (by simp [ih])
    | char c =>
      simp only [splits_char, ← ih]
      rw [Dialect.token]
      split
      · next reserved =>
        exact Expression.accepts_escaped (List.contains_iff_mem.mp reserved)
      · next plain => exact Expression.accepts_plain (plain ∘ List.contains_iff_mem.mpr)

theorem toList_expressionText (w : Wildcards) (pattern : String) :
    (expressionText w pattern).toList = (if w.matchCase then "(?s)^" else "(?si)^").toList ++
      (expression.chars (tokens w pattern) ++ ['$']) := by
  simp [expressionText, Dialect.render]

/-- The expression that a pattern is written as, with its flags and anchors, matches the same texts. -/
theorem matches_expressionText (w : Wildcards) (pattern text : String) :
    Expression.Matches (expressionText w pattern) text ↔
      Splits w.matchCase (tokens w pattern) text.toList := by
  rw [Expression.Matches, toList_expressionText, ← accepts_expression_chars]
  generalize expression.chars (tokens w pattern) ++ ['$'] = written
  -- The flags of one reading of case are no beginning of the other's.
  cases w.matchCase <;> simp

end Like

/-! ### Expressions of a tree -/

abbrev Expressions := List ((String × Wildcards) × String)

namespace Expressions

def enter (written : Expressions) (pattern : String) (w : Wildcards) : Expressions :=
  if (written.lookup (pattern, w)).isSome then written
  else ((pattern, w), Like.expressionText w pattern) :: written

def enterLeaf (written : Expressions) : Predicate → Expressions
  | .like _ pattern w => written.enter pattern w
  | _ => written

def Own (written : Expressions) : Prop :=
  ∀ pattern w e, written.lookup (pattern, w) = some e → e = Like.expressionText w pattern

variable {written : Expressions} {pattern e : String} {w : Wildcards} {key : String × Wildcards}
  {leaf : Predicate}

theorem lookup_enter_of_some (found : written.lookup key = some e) :
    (written.enter pattern w).lookup key = some e := by
  unfold enter
  split
  · exact found
  · next absent =>
    have other : key ≠ (pattern, w) := by
      rintro rfl
      exact absent (found ▸ rfl)
    rw [List.lookup_cons, beq_false_of_ne other]
    exact found

theorem lookup_enter_self (own : written.Own) :
    (written.enter pattern w).lookup (pattern, w) = some (Like.expressionText w pattern) := by
  unfold enter
  split
  · next present =>
    obtain ⟨e, found⟩ := Option.isSome_iff_exists.mp present
    rw [found, own pattern w e found]
  · exact List.lookup_cons_self

theorem own_enter (own : written.Own) : (written.enter pattern w).Own := by
  intro other v e found
  unfold enter at found
  split at found
  · exact own other v e found
  · rw [List.lookup_cons] at found
    split at found
    · next same =>
      obtain ⟨rfl, rfl⟩ := Prod.mk.inj (eq_of_beq same)
      exact (Option.some.inj found).symm
    · exact own other v e found

theorem own_enterLeaf (own : written.Own) : (written.enterLeaf leaf).Own := by
  cases leaf with
  | like => exact own_enter own
  | _ => exact own

theorem lookup_enterLeaf_of_some (found : written.lookup key = some e) :
    (written.enterLeaf leaf).lookup key = some e := by
  cases leaf with
  | like => exact lookup_enter_of_some found
  | _ => exact found

/-- Later leaves leave what was written as it is. -/
theorem lookup_foldl_of_some (leaves : List Predicate) (found : written.lookup key = some e) :
    (leaves.foldl enterLeaf written).lookup key = some e := by
  induction leaves generalizing written with
  | nil => exact found
  | cons leaf rest ih => exact ih (lookup_enterLeaf_of_some found)

/-- Among the leaves of a tree each finds the expression of its own pattern. -/
theorem lookup_foldl_enterLeaf {leaves : List Predicate} {operand : Operand}
    (stands : Predicate.like operand pattern w ∈ leaves) (own : written.Own) :
    (leaves.foldl enterLeaf written).lookup (pattern, w) = some (Like.expressionText w pattern) := by
  induction leaves generalizing written with
  | nil => cases stands
  | cons leaf rest ih =>
    rcases List.mem_cons.mp stands with rfl | later
    · exact lookup_foldl_of_some rest (lookup_enter_self own)
    · exact ih later (own_enterLeaf own)

end Expressions

namespace Predicate

mutual

def write (written : Expressions) : Predicate → Expressions
  | .and children => writeAll written children
  | .or children => writeAll written children
  | .not child => write written child
  | .like _ pattern w => written.enter pattern w
  | _ => written

def writeAll (written : Expressions) : List Predicate → Expressions
  | [] => written
  | child :: rest => writeAll (write written child) rest

end

theorem writeAll_eq_foldl (children : List Predicate) (written : Expressions) :
    writeAll written children = children.foldl write written := by
  induction children generalizing written with
  | nil => rfl
  | cons child rest ih => exact ih (write written child)

/-- A tree is written leaf by leaf. -/
theorem write_eq (p : Predicate) (written : Expressions) :
    p.write written = p.leaves.foldl Expressions.enterLeaf written := by
  have members {children : List Predicate} (written : Expressions)
      (each : ∀ child ∈ children, ∀ written,
        write written child = child.leaves.foldl Expressions.enterLeaf written) :
      writeAll written children = (allLeaves children).foldl Expressions.enterLeaf written := by
    rw [writeAll_eq_foldl, allLeaves_eq_flatMap, List.foldl_flatMap]
    exact List.foldl_ext _ _ _ fun written child member => each child member written
  induction p using tree_induction generalizing written with
  | everything => rfl
  | nothing => rfl
  | and children ih => exact members written fun child member written => ih child member written
  | or children ih => exact members written fun child member written => ih child member written
  | not child ih => exact ih written
  | leaf p looks => cases p <;> first | rfl | cases looks

mutual

def Meets (leaf : Predicate → Prop) : Predicate → Prop
  | .everything => True
  | .nothing => False
  | .and children => AllMeet leaf children
  | .or children => AnyMeets leaf children
  | .not child => ¬ Meets leaf child
  | p => leaf p

def AllMeet (leaf : Predicate → Prop) : List Predicate → Prop
  | [] => True
  | child :: rest => Meets leaf child ∧ AllMeet leaf rest

def AnyMeets (leaf : Predicate → Prop) : List Predicate → Prop
  | [] => False
  | child :: rest => Meets leaf child ∨ AnyMeets leaf rest

end

variable {leaf : Predicate → Prop} {children : List Predicate}

theorem meets_and : Meets leaf (.and children) ↔ ∀ child ∈ children, Meets leaf child := by
  change AllMeet leaf children ↔ _
  induction children with
  | nil => simp [AllMeet]
  | cons child rest ih => simp [AllMeet, ih]

theorem meets_or : Meets leaf (.or children) ↔ ∃ child ∈ children, Meets leaf child := by
  change AnyMeets leaf children ↔ _
  induction children with
  | nil => simp [AnyMeets]
  | cons child rest ih => simp [AnyMeets, ih]

theorem meets_of_isLeaf {p : Predicate} (looks : p.isLeaf) : Meets leaf p ↔ leaf p := by
  cases p <;> first | rfl | cases looks

variable {type : FeatureType} {id : String} {source : Json}

/-- A tree is decided by its leaves. -/
theorem holds_iff_meets (alike : ∀ p : Predicate, p.isLeaf → (p.holds type id source = true ↔ leaf p))
    (p : Predicate) : p.holds type id source = true ↔ p.Meets leaf := by
  induction p using tree_induction with
  | everything => exact iff_of_true rfl trivial
  | nothing => exact iff_of_false Bool.false_ne_true fun met => met
  | and children ih =>
    rw [holds_and, List.all_eq_true, meets_and]
    exact forall₂_congr ih
  | or children ih =>
    rw [holds_or, List.any_eq_true, meets_or]
    exact exists_congr fun child => and_congr_right (ih child)
  | not child ih =>
    rw [holds_not, Bool.not_eq_true', ← Bool.not_eq_true]
    exact not_congr ih
  | leaf p looks => exact (alike p looks).trans (meets_of_isLeaf looks).symm

/-- What a leaf means for a feature. A pattern on a property matches the text of one of the values that
are stored there; the other leaves mean what their evaluation says. -/
def Means (type : FeatureType) (id : String) (source : Json) : Predicate → Prop
  | .like (.property name) pattern w =>
    ∃ v ∈ Document.lookup source (type.resolve name).field, ∃ text,
      Datum.text? (.value v) = some text ∧ Like.Matches w pattern text
  | p => p.holds type id source = true

theorem holds_iff_means (p : Predicate) : p.holds type id source = true ↔ p.Means type id source := by
  match p with
  | .like (.property name) pattern w =>
    simp only [holds, Operand.data, Means, Like.matches_iff_splits, ← Like.matchesText_iff]
    simp [Option.any_eq_true]
  | .like (.literal _) .. => rfl
  | .everything | .nothing | .and _ | .or _ | .not _ => rfl
  | .compare .. | .between .. | .isNull _ | .ids _ => rfl
  | .spatial .. | .distance .. | .temporal .. => rfl

/-- In every tree a pattern on a property is decided by cutting texts into pieces. For each leaf with a
pattern a stored text is accepted if it can be cut so that the tokens of the pattern take the pieces one
by one, whichever characters of the pattern coincide and whether case counts. The expression that is
found for the leaf, among those written for the whole tree, says the same. -/
theorem patterns_cut_texts (type : FeatureType) (id : String) (source : Json) (p : Predicate) :
    (p.holds type id source = true ↔ p.Meets (Means type id source)) ∧
      ∀ operand pattern w, .like operand pattern w ∈ p.leaves → ∀ text : String,
        ((Datum.value (.string text)).text?.any (Like.matchesText w pattern) = true ↔
          Like.Matches w pattern text) ∧
        ((∃ e, (p.write []).lookup (pattern, w) = some e ∧ Expression.Matches e text) ↔
          Like.Matches w pattern text) := by
  refine ⟨holds_iff_meets (fun p _ => holds_iff_means p) p, fun operand pattern w stands text => ?_⟩
  have found : (p.write []).lookup (pattern, w) = some (Like.expressionText w pattern) := by
    rw [write_eq]
    exact Expressions.lookup_foldl_enterLeaf stands fun _ _ _ absent => by cases absent
  rw [Like.matches_iff_splits]
  refine ⟨Like.matchesText_iff, ?_⟩
  simp only [found, Option.some.injEq, exists_eq_left']
  exact Like.matches_expressionText w pattern text

/-- One pattern in two leaves, of which only the second one leaves case aside. -/
theorem pattern_in_both_cases :
    let any : Wildcards := { matchCase := false }
    let p : Predicate :=
      .and [.like (.property "name") "b%" {}, .not (.like (.property "name") "b%" any)]
    (∃ e, (p.write []).lookup ("b%", any) = some e ∧ Expression.Matches e "Bc") ∧
      ¬ ∃ e, (p.write []).lookup ("b%", {}) = some e ∧ Expression.Matches e "Bc" := by
  intro any p
  obtain ⟨-, patterns⟩ := patterns_cut_texts {} "1" .null p
  have exact_case := (patterns (.property "name") "b%" {} (List.mem_cons_self ..) "Bc").2
  have any_case := (patterns (.property "name") "b%" any
    (List.mem_cons_of_mem _ (List.mem_cons_self ..)) "Bc").2
  rw [Like.matches_iff_splits, ← Like.matchesText_iff] at exact_case any_case
  exact ⟨any_case.mpr (by decide +kernel), exact_case.not.mpr (by decide +kernel)⟩

end Predicate

end GeoSearch
