/-!
Texts cut at a separator, and texts trimmed of white space: the 25 characters of the Unicode property
White_Space.
-/
namespace GeoSearch.Text

/-! ### White space -/

/-- Closed ranges of code points, ascending and apart. -/
def blankRanges : List (Nat × Nat) :=
  [(0x09, 0x0D), (0x20, 0x20), (0x85, 0x85), (0xA0, 0xA0), (0x1680, 0x1680), (0x2000, 0x200A),
   (0x2028, 0x2029), (0x202F, 0x202F), (0x205F, 0x205F), (0x3000, 0x3000)]

def isBlank (c : Char) : Bool :=
  blankRanges.any fun range => range.1 ≤ c.toNat && c.toNat ≤ range.2

/-- The text without the blanks at its two ends. -/
def trimChars (text : List Char) : List Char :=
  (((text.dropWhile isBlank).reverse).dropWhile isBlank).reverse

def trim (text : String) : String := String.ofList (trimChars text.toList)

/-! ### Separators -/

def split (separator : Char) : List Char → List (List Char)
  | [] => [[]]
  | c :: rest =>
    match split separator rest with
    | [] => [[c]]
    | piece :: pieces => if c = separator then [] :: piece :: pieces else (c :: piece) :: pieces

theorem split_ne_nil (separator : Char) (text : List Char) : split separator text ≠ [] := by
  cases text with
  | nil => simp [split]
  | cons c rest =>
    rw [split]
    split
    · simp
    · split <;> simp

variable {separator : Char}

theorem split_append (first second : List Char) :
    split separator (first ++ separator :: second) = split separator first ++ split separator second := by
  induction first with
  | nil =>
    obtain ⟨piece, pieces, parts⟩ := List.exists_cons_of_ne_nil (split_ne_nil separator second)
    simp [split, parts]
  | cons c rest ih =>
    obtain ⟨piece, pieces, parts⟩ := List.exists_cons_of_ne_nil (split_ne_nil separator rest)
    rw [List.cons_append, split, split, ih, parts, List.cons_append]
    by_cases same : c = separator <;> simp [same]

theorem split_of_notMem {text : List Char} (plain : separator ∉ text) : split separator text = [text] := by
  induction text with
  | nil => rfl
  | cons c rest ih =>
    rw [List.mem_cons, not_or] at plain
    rw [split, ih plain.2]
    exact if_neg (Ne.symm plain.1)

/-- The pieces, with separators between them, are the text. -/
theorem intercalate_split (separator : Char) (text : List Char) :
    [separator].intercalate (split separator text) = text := by
  induction text with
  | nil => rfl
  | cons c rest ih =>
    obtain ⟨first, pieces, parts⟩ := List.exists_cons_of_ne_nil (split_ne_nil separator rest)
    rw [parts] at ih
    rw [split, parts]
    by_cases same : c = separator
    · simp [same, ← ih]
    · cases pieces <;> simp [same, ← ih]

theorem notMem_of_mem_split {text piece : List Char} (member : piece ∈ split separator text) :
    separator ∉ piece := by
  induction text generalizing piece with
  | nil =>
    rw [split, List.mem_singleton] at member
    simp [member]
  | cons c rest ih =>
    obtain ⟨first, pieces, parts⟩ := List.exists_cons_of_ne_nil (split_ne_nil separator rest)
    rw [parts] at ih
    rw [split, parts] at member
    by_cases same : c = separator
    · simp only [same, if_true, List.mem_cons] at member
      rcases member with rfl | member
      · exact List.not_mem_nil
      · exact ih (List.mem_cons.mpr member)
    · simp only [same, if_false, List.mem_cons] at member
      rcases member with rfl | member
      · simp [Ne.symm same, ih List.mem_cons_self]
      · exact ih (List.mem_cons_of_mem _ member)

/-- What follows a beginning, if the text has it. -/
def after? : (beginning text : List Char) → Option (List Char)
  | [], text => some text
  | _ :: _, [] => none
  | b :: beginning, c :: text => if b = c then after? beginning text else none

theorem after?_eq_some_iff {beginning text rest : List Char} :
    after? beginning text = some rest ↔ text = beginning ++ rest := by
  induction beginning generalizing text with
  | nil => exact Option.some_inj
  | cons b beginning ih =>
    cases text with
    | nil => simp [after?]
    | cons c text =>
      by_cases same : b = c
      · simp [after?, same, ih]
      · simp [after?, same, Ne.symm same]

end GeoSearch.Text
