import GeoSearch.Predicate.Like
/-!
Texts that split into one piece for each token of a pattern, and the row by row matcher that finds
them.
-/
namespace GeoSearch.Like

/-- A text splits into pieces, one for each token in order: any run of characters, any one character,
or one that is the given character. -/
inductive Splits (matchCase : Bool) : List Token → List Char → Prop where
  | nil : Splits matchCase [] []
  | anyRun (run : List Char) : Splits matchCase rest text →
      Splits matchCase (.anyRun :: rest) (run ++ text)
  | single (c : Char) : Splits matchCase rest text → Splits matchCase (.single :: rest) (c :: text)
  | char : Text.sameChar matchCase c d → Splits matchCase rest text →
      Splits matchCase (.char c :: rest) (d :: text)

variable {matchCase : Bool} {rest : List Token} {text : List Char} {c : Char}

theorem splits_nil : Splits matchCase [] text ↔ text = [] := by
  constructor
  · rintro ⟨⟩
    rfl
  · rintro rfl
    exact .nil

theorem splits_anyRun : Splits matchCase (.anyRun :: rest) text ↔
    ∃ run later, text = run ++ later ∧ Splits matchCase rest later := by
  constructor
  · rintro (_ | ⟨run, split⟩)
    exact ⟨run, _, rfl, split⟩
  · rintro ⟨run, later, rfl, split⟩
    exact .anyRun run split

theorem splits_single : Splits matchCase (.single :: rest) text ↔
    ∃ d later, text = d :: later ∧ Splits matchCase rest later := by
  constructor
  · rintro (_ | _ | ⟨d, split⟩)
    exact ⟨d, _, rfl, split⟩
  · rintro ⟨d, later, rfl, split⟩
    exact .single d split

theorem splits_char : Splits matchCase (.char c :: rest) text ↔
    ∃ d later, text = d :: later ∧ Text.sameChar matchCase c d ∧ Splits matchCase rest later := by
  constructor
  · rintro (_ | _ | _ | ⟨same, split⟩)
    exact ⟨_, _, rfl, same, split⟩
  · rintro ⟨d, later, rfl, same, split⟩
    exact .char same split

/-- A run takes nothing, or one character and goes on. -/
theorem splits_anyRun_cons : Splits matchCase (.anyRun :: rest) (c :: text) ↔
    Splits matchCase rest (c :: text) ∨ Splits matchCase (.anyRun :: rest) text := by
  simp only [splits_anyRun]
  constructor
  · rintro ⟨run, later, whole, split⟩
    cases run with
    | nil => exact .inl (whole ▸ split)
    | cons d run =>
      cases whole
      exact .inr ⟨run, later, rfl, split⟩
  · rintro (split | ⟨run, later, rfl, split⟩)
    · exact ⟨[], _, rfl, split⟩
    · exact ⟨c :: run, later, rfl, split⟩

/-! ### The rows of the matcher -/

theorem anyLater_cons (here : Bool) (ends : List Bool) :
    anyLater (here :: ends) = (here || (anyLater ends).headD false) :: anyLater ends := by
  cases ends <;> rfl

/-- There is an entry for the text itself. -/
theorem matchingEnds_row (matchCase : Bool) (text : List Char) (tokens : List Token) :
    ∃ here ends, matchingEnds matchCase text tokens = here :: ends := by
  refine List.exists_cons_of_ne_nil ?_
  induction tokens with
  | nil => simp [matchingEnds]
  | cons token rest ih =>
    cases token with
    | anyRun =>
      obtain ⟨here, ends, row⟩ := List.exists_cons_of_ne_nil ih
      simp [matchingEnds, Token.extend, row, anyLater_cons]
    | single => simp [matchingEnds, Token.extend]
    | char c => simp [matchingEnds, Token.extend]

/-- The row of a text goes on with the row of what follows its first character. -/
theorem tail_matchingEnds (matchCase : Bool) (c : Char) (text : List Char) (tokens : List Token) :
    (matchingEnds matchCase (c :: text) tokens).tail = matchingEnds matchCase text tokens := by
  induction tokens with
  | nil => rfl
  | cons token rest ih =>
    obtain ⟨here, ends, row⟩ := matchingEnds_row matchCase (c :: text) rest
    obtain ⟨first, later, next⟩ := matchingEnds_row matchCase text rest
    rw [row, List.tail_cons, next] at ih
    simp only [matchingEnds, row, next, ih]
    cases token with
    | anyRun => rw [Token.extend, anyLater_cons]; rfl
    | single => rfl
    | char d => rfl

theorem matchingEnds_cons (c : Char) (text : List Char) (tokens : List Token) :
    matchingEnds matchCase (c :: text) tokens =
      matchesTokens matchCase tokens (c :: text) :: matchingEnds matchCase text tokens := by
  obtain ⟨here, ends, row⟩ := matchingEnds_row matchCase (c :: text) tokens
  have later := tail_matchingEnds matchCase c text tokens
  rw [row, List.tail_cons] at later
  rw [matchesTokens, row, later]
  rfl

/-- No text has more than that entry. -/
theorem matchingEnds_nil_row (matchCase : Bool) (tokens : List Token) :
    ∃ last, matchingEnds matchCase [] tokens = [last] := by
  induction tokens with
  | nil => exact ⟨_, rfl⟩
  | cons token rest ih =>
    obtain ⟨last, row⟩ := ih
    rw [matchingEnds, row]
    cases token <;> exact ⟨_, rfl⟩

/-! ### What a row says of the text itself -/

@[simp] theorem matchesTokens_nil (text : List Char) :
    matchesTokens matchCase [] text = text.isEmpty := by
  cases text <;> rfl

@[simp] theorem matchesTokens_single_nil : matchesTokens matchCase (.single :: rest) [] = false := by
  obtain ⟨last, row⟩ := matchingEnds_nil_row matchCase rest
  rw [matchesTokens, matchingEnds, row]
  rfl

@[simp] theorem matchesTokens_char_nil : matchesTokens matchCase (.char c :: rest) [] = false := by
  rw [matchesTokens, matchingEnds]
  rfl

@[simp] theorem matchesTokens_anyRun_nil :
    matchesTokens matchCase (.anyRun :: rest) [] = matchesTokens matchCase rest [] := by
  obtain ⟨last, row⟩ := matchingEnds_nil_row matchCase rest
  rw [matchesTokens, matchesTokens, matchingEnds, row]
  cases last <;> rfl

@[simp] theorem matchesTokens_single_cons (d : Char) :
    matchesTokens matchCase (.single :: rest) (d :: text) = matchesTokens matchCase rest text := by
  obtain ⟨here, ends, row⟩ := matchingEnds_row matchCase text rest
  rw [matchesTokens, matchesTokens, matchingEnds, matchingEnds_cons, row]
  rfl

@[simp] theorem matchesTokens_char_cons (d : Char) :
    matchesTokens matchCase (.char c :: rest) (d :: text) =
      (Text.sameChar matchCase c d && matchesTokens matchCase rest text) := by
  obtain ⟨here, ends, row⟩ := matchingEnds_row matchCase text rest
  rw [matchesTokens, matchesTokens, matchingEnds, matchingEnds_cons, row]
  rfl

@[simp] theorem matchesTokens_anyRun_cons (d : Char) :
    matchesTokens matchCase (.anyRun :: rest) (d :: text) =
      (matchesTokens matchCase rest (d :: text) || matchesTokens matchCase (.anyRun :: rest) text) := by
  rw [matchesTokens, matchingEnds, matchingEnds_cons, Token.extend, anyLater_cons]
  rfl

/-- The matcher finds just the texts that split into the pieces of a pattern. -/
theorem matchesTokens_iff (tokens : List Token) (text : List Char) :
    matchesTokens matchCase tokens text = true ↔ Splits matchCase tokens text := by
  induction tokens generalizing text with
  | nil => simp [splits_nil]
  | cons token rest ih =>
    cases token with
    | anyRun =>
      induction text with
      | nil => simp [ih, splits_anyRun, and_assoc]
      | cons d text further => simp [ih, further, splits_anyRun_cons]
    | single => cases text <;> simp [ih, splits_single, and_assoc]
    | char c => cases text <;> simp [ih, splits_char, and_assoc]

theorem matchesText_iff {w : Wildcards} {pattern text : String} :
    matchesText w pattern text = true ↔ Splits w.matchCase (tokens w pattern) text.toList :=
  matchesTokens_iff _ _

/-- A text that splits where case counts splits anyhow. -/
theorem Splits.anyCase {tokens : List Token} (split : Splits true tokens text) (matchCase : Bool) :
    Splits matchCase tokens text := by
  induction split with
  | nil => exact .nil
  | anyRun run _ ih => exact .anyRun run ih
  | single c _ ih => exact .single c ih
  | char same _ ih =>
    obtain rfl : _ = _ := by simpa [Text.sameChar] using same
    exact .char (by simp [Text.sameChar]) ih

/-! ### Written tokens -/

theorem chars_cons (d : Dialect) (token : Token) :
    d.chars (token :: rest) = d.token token ++ d.chars rest := by
  simp [Dialect.chars]

/-- A star of the pattern follows a backslash, so that none follows the dot of a single. -/
theorem head?_chars {d : Dialect} (reserved : '*' ∈ d.reserved) (run : d.anyRun.head? = some '.')
    (single : d.single.head? = some '.') (tokens : List Token) :
    (d.chars tokens).head? ≠ some '*' := by
  cases tokens with
  | nil => simp [Dialect.chars]
  | cons token rest =>
    rw [chars_cons]
    cases token with
    | anyRun => simp [Dialect.token, run]
    | single => simp [Dialect.token, single]
    | char c =>
      rw [Dialect.token]
      split
      · simp
      · next plain =>
        rintro same
        cases same
        exact plain (List.contains_iff_mem.mpr reserved)

end GeoSearch.Like
