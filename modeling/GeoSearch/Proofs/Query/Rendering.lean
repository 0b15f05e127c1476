import GeoSearch.Proofs.Predicate.Like
import GeoSearch.Query.Compile
/-!
The texts that patterns are sent in, read back. Reading from left to right gives the tokens that were
written: a backslash makes the next character stand for itself, and no character with a meaning of its
own is left without one but in the marks of runs and singles. So patterns that are sent alike have the
same tokens.
-/
namespace GeoSearch

namespace Like

/-! ### Readers -/

def readRegexp : List Char → List Token
  | [] => []
  | '\\' :: c :: rest => .char c :: readRegexp rest
  | '.' :: '*' :: rest => .anyRun :: readRegexp rest
  | '.' :: rest => .single :: readRegexp rest
  | c :: rest => .char c :: readRegexp rest

def readQueryString : List Char → List Token
  | [] => []
  | '\\' :: c :: rest => .char c :: readQueryString rest
  | '*' :: rest => .anyRun :: readQueryString rest
  | '?' :: rest => .single :: readQueryString rest
  | c :: rest => .char c :: readQueryString rest

/-- What is left of a text without its backslashes and the characters that follow them. -/
def unescaped : List Char → List Char
  | [] => []
  | '\\' :: _ :: rest => unescaped rest
  | c :: rest => c :: unescaped rest

def Dialect.mark (d : Dialect) : Token → List Char
  | .anyRun => d.anyRun
  | .single => d.single
  | .char _ => []

variable {d : Dialect} {read : List Char → List Token} {c : Char} {rest : List Char}

/-! ### What was written is read -/

structure Dialect.ReadBy (d : Dialect) (read : List Char → List Token) : Prop where
  nil : read [] = []
  anyRun (rest : List Char) : read (d.anyRun ++ rest) = .anyRun :: read rest
  /-- a single is told from the mark of a run by what is written after it -/
  single (later : List Token) : read (d.single ++ d.chars later) = .single :: read (d.chars later)
  escaped (c : Char) (rest : List Char) : read ('\\' :: c :: rest) = .char c :: read rest
  plain (c : Char) (rest : List Char) : c ∉ d.reserved → read (c :: rest) = .char c :: read rest

theorem Dialect.ReadBy.read_chars (reads : d.ReadBy read) (tokens : List Token) :
    read (d.chars tokens) = tokens := by
  induction tokens with
  | nil => exact reads.nil
  | cons token later ih =>
    rw [chars_cons]
    cases token with
    | anyRun => exact (reads.anyRun _).trans (congrArg _ ih)
    | single => exact (reads.single later).trans (congrArg _ ih)
    | char c =>
      rw [Dialect.token]
      split
      · exact (reads.escaped c _).trans (congrArg _ ih)
      · next plain =>
        exact (reads.plain c _ (plain ∘ List.contains_iff_mem.mpr)).trans (congrArg _ ih)

theorem Dialect.ReadBy.read_render (reads : d.ReadBy read) (w : Wildcards) (pattern : String) :
    read (d.render w pattern).toList = tokens w pattern := by
  rw [Dialect.render, String.toList_ofList, reads.read_chars]

/-- What is read back is not lost in writing. -/
theorem Dialect.ReadBy.render_eq_iff (reads : d.ReadBy read) {w v : Wildcards}
    {pattern other : String} :
    d.render v other = d.render w pattern ↔ tokens v other = tokens w pattern := by
  constructor
  · intro same
    rw [← reads.read_render, same, reads.read_render]
  · intro same
    rw [Dialect.render, same, Dialect.render]

theorem readRegexp_single (other : rest.head? ≠ some '*') :
    readRegexp ('.' :: rest) = .single :: readRegexp rest := by
  rw [readRegexp]
  rintro later rfl
  exact other rfl

theorem readRegexp_plain (slash : c ≠ '\\') (dot : c ≠ '.') :
    readRegexp (c :: rest) = .char c :: readRegexp rest := by
  rw [readRegexp.eq_def]
  split <;> simp_all

theorem readQueryString_plain (slash : c ≠ '\\') (star : c ≠ '*') (mark : c ≠ '?') :
    readQueryString (c :: rest) = .char c :: readQueryString rest := by
  rw [readQueryString.eq_def]
  split <;> simp_all

theorem regexp_readBy : regexp.ReadBy readRegexp where
  nil := rfl
  anyRun _ := rfl
  single later := readRegexp_single (head?_chars (by decide) rfl rfl later)
  escaped _ _ := rfl
  plain c rest plain := by
    have other {e : Char} (reserved : e ∈ regexp.reserved) : c ≠ e :=
      (ne_of_mem_of_not_mem reserved plain).symm
    exact readRegexp_plain (other (by decide)) (other (by decide))

theorem queryString_readBy : queryString.ReadBy readQueryString where
  nil := rfl
  anyRun _ := rfl
  single _ := rfl
  escaped _ _ := rfl
  plain c rest plain := by
    have other {e : Char} (reserved : e ∈ queryString.reserved) : c ≠ e :=
      (ne_of_mem_of_not_mem reserved plain).symm
    exact readQueryString_plain (other (by decide)) (other (by decide)) (other (by decide))

/-! ### Reserved characters -/

structure Dialect.Guarded (d : Dialect) : Prop where
  backslash : '\\' ∈ d.reserved
  marks (token : Token) : ∀ c ∈ d.mark token, c ≠ '\\' ∧ c ∈ d.reserved

theorem unescaped_cons (other : c ≠ '\\') : unescaped (c :: rest) = c :: unescaped rest := by
  rw [unescaped.eq_def]
  split <;> simp_all

theorem unescaped_append {cs : List Char} (others : ∀ c ∈ cs, c ≠ '\\') :
    unescaped (cs ++ rest) = cs ++ unescaped rest := by
  induction cs with
  | nil => rfl
  | cons c cs ih =>
    rw [List.forall_mem_cons] at others
    rw [List.cons_append, unescaped_cons others.1, ih others.2, List.cons_append]

/-- Beside its mark a token leaves no reserved character without a backslash. -/
theorem Dialect.Guarded.filter_token (guarded : d.Guarded) (token : Token) (rest : List Char) :
    (unescaped (d.token token ++ rest)).filter (d.reserved.contains ·) =
      d.mark token ++ (unescaped rest).filter (d.reserved.contains ·) := by
  have marked (token : Token) :
      (unescaped (d.mark token ++ rest)).filter (d.reserved.contains ·) =
        d.mark token ++ (unescaped rest).filter (d.reserved.contains ·) := by
    have marks := guarded.marks token
    rw [unescaped_append fun c member => (marks c member).1, List.filter_append,
      List.filter_eq_self.mpr fun c member => List.contains_iff_mem.mpr (marks c member).2]
  cases token with
  | anyRun => exact marked .anyRun
  | single => exact marked .single
  | char c =>
    rw [Dialect.token]
    split
    · rfl
    · next plain =>
      have other : c ≠ '\\' :=
        (ne_of_mem_of_not_mem guarded.backslash (plain ∘ List.contains_iff_mem.mpr)).symm
      rw [List.singleton_append, unescaped_cons other, List.filter_cons_of_neg plain]
      rfl

theorem Dialect.Guarded.filter_chars (guarded : d.Guarded) (tokens : List Token) :
    (unescaped (d.chars tokens)).filter (d.reserved.contains ·) = tokens.flatMap d.mark := by
  induction tokens with
  | nil => rfl
  | cons token later ih => rw [chars_cons, guarded.filter_token, ih, List.flatMap_cons]

theorem Dialect.Guarded.filter_render (guarded : d.Guarded) (w : Wildcards) (pattern : String) :
    (unescaped (d.render w pattern).toList).filter (d.reserved.contains ·) =
      (tokens w pattern).flatMap d.mark := by
  rw [Dialect.render, String.toList_ofList, guarded.filter_chars]

theorem regexp_guarded : regexp.Guarded where
  backslash := by decide
  marks
  | .anyRun => List.forall_mem_cons.mpr ⟨by decide, List.forall_mem_singleton.mpr (by decide)⟩
  | .single => List.forall_mem_singleton.mpr (by decide)
  | .char _ => nofun

theorem queryString_guarded : queryString.Guarded where
  backslash := by decide
  marks
  | .anyRun => List.forall_mem_singleton.mpr (by decide)
  | .single => List.forall_mem_singleton.mpr (by decide)
  | .char _ => nofun

end Like

namespace Predicate

variable {type : FeatureType} {name pattern other : String} {w v : Wildcards}

/-- A field is sent one text for a pattern, by its tokens. -/
theorem compile_like_eq_iff :
    compile type (.like (.property name) other v) = compile type (.like (.property name) pattern w) ↔
      Like.tokens v other = Like.tokens w pattern := by
  have enclosed (a b : Clause) : (type.resolve name).enclose a = (type.resolve name).enclose b ↔ a = b := by
    rw [Attribute.enclose, Attribute.enclose]
    cases (type.resolve name).nestedPath? <;> simp [Clause.within]
  simp only [compile, likeClause, Compilation.ofExcept, Compilation.mk.injEq, and_true, enclosed]
  split
  · rw [Clause.queryString.injEq, Like.queryString_readBy.render_eq_iff]
    simp
  · rw [Clause.regexp.injEq, Like.regexp_readBy.render_eq_iff]
    simp

/-- A pattern is read back from the expression and from the query string that it is sent in. In
neither is a reserved character without a backslash but those that stand for runs and singles. Two
patterns come to one text, and to one query on a field, just when their tokens are the same. -/
theorem patterns_read_back (w : Wildcards) (pattern : String) :
    (Like.readRegexp (Like.regexp.render w pattern).toList = Like.tokens w pattern ∧
      Like.readQueryString (Like.queryString.render w pattern).toList = Like.tokens w pattern) ∧
    ((Like.unescaped (Like.regexp.render w pattern).toList).filter (Like.regexp.reserved.contains ·) =
        (Like.tokens w pattern).flatMap Like.regexp.mark ∧
      (Like.unescaped (Like.queryString.render w pattern).toList).filter
          (Like.queryString.reserved.contains ·) =
        (Like.tokens w pattern).flatMap Like.queryString.mark) ∧
    ∀ (v : Wildcards) (other : String),
      (Like.regexp.render v other = Like.regexp.render w pattern ↔
        Like.tokens v other = Like.tokens w pattern) ∧
      (Like.queryString.render v other = Like.queryString.render w pattern ↔
        Like.tokens v other = Like.tokens w pattern) ∧
      ∀ (type : FeatureType) (name : String),
        compile type (.like (.property name) other v) =
            compile type (.like (.property name) pattern w) ↔
          Like.tokens v other = Like.tokens w pattern := by
  refine ⟨⟨?_, ?_⟩, ⟨?_, ?_⟩, fun v other => ⟨?_, ?_, fun type name => compile_like_eq_iff⟩⟩
  · exact Like.regexp_readBy.read_render w pattern
  · exact Like.queryString_readBy.read_render w pattern
  · exact Like.regexp_guarded.filter_render w pattern
  · exact Like.queryString_guarded.filter_render w pattern
  · exact Like.regexp_readBy.render_eq_iff
  · exact Like.queryString_readBy.render_eq_iff

/-- A run after a single, a star after a single, and an escape at the end. -/
example : Like.readRegexp (Like.regexp.render {} "_%_*\\").toList =
    [.single, .anyRun, .single, .char '*', .char '\\'] := by decide

end Predicate

end GeoSearch
