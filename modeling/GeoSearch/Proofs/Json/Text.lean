import GeoSearch.Json.Parser
import GeoSearch.Json.Printer
import GeoSearch.Proofs.Decimal.Layout
/-!
The text of a document. It ends by itself: where two texts go on with anything that is not part of a
number, they are the texts of the same document. And what goes on with a bar is no document.
-/
namespace GeoSearch.Json

open Decimal Text
open Reader (inNumber hexValue? unescape?)

/-! ### Numbers -/

namespace Number

theorem integer_chars (n : Int) :
    (integer n).chars = if n < 0 then '-' :: digitsOf n.natAbs else digitsOf n.natAbs := by
  rw [chars, Int.toString_eq_repr, Int.repr_eq_if]
  by_cases negative : n < 0
  · have size : (-n).toNat = n.natAbs := by omega
    rw [if_neg (by omega), if_pos negative, size]
    simp [digitsOf]
  · have size : n.toNat = n.natAbs := by omega
    rw [if_pos (by omega), if_neg negative, size]
    simp [digitsOf]

theorem digitsOf_ne_minus (n : Nat) (rest : List Char) : digitsOf n ≠ '-' :: rest := by
  intro text
  have digit := digits_digitsOf n '-' (text ▸ List.mem_cons_self)
  exact absurd digit (by decide)

theorem digitsOf_inj {m n : Nat} (same : digitsOf m = digitsOf n) : m = n := by
  rw [← natOfDigits_digitsOf m, same, natOfDigits_digitsOf]

theorem integer_inj {m n : Int} (same : (integer m).chars = (integer n).chars) : m = n := by
  rw [integer_chars, integer_chars] at same
  split at same <;> split at same
  · have size := digitsOf_inj (List.tail_eq_of_cons_eq same)
    omega
  · exact absurd same.symm (digitsOf_ne_minus _ _)
  · exact absurd same (digitsOf_ne_minus _ _)
  · have size := digitsOf_inj same
    omega

theorem inNumber_digit {c : Char} (digit : c.isDigit = true) : inNumber c = true := by
  simp [inNumber, digit]

theorem inNumber_tail {c : Char} (tail : InTail c) : inNumber c = true := by
  rcases tail with digit | mark
  · exact inNumber_digit digit
  · simp only [List.mem_cons, List.not_mem_nil, or_false] at mark
    rcases mark with rfl | rfl | rfl | rfl <;> rfl

/-- The mark of a binary64 number is not part of an integer. -/
theorem integer_ne_float (n : Int) (x : Float) : (integer n).chars ≠ (float x).chars := by
  intro same
  obtain ⟨whole, mark, rest, text, -, -, point, -⟩ := marked_size x
  have marked : mark ∈ (float x).chars := by
    rw [chars, finite_eq, text]
    split <;> simp
  rw [← same, integer_chars] at marked
  have digit : mark.isDigit = true ∨ mark = '-' := by
    split at marked
    · rcases List.mem_cons.mp marked with minus | member
      · exact .inr minus
      · exact .inl (digits_digitsOf _ mark member)
    · exact .inl (digits_digitsOf _ mark marked)
  rcases point with rfl | rfl <;> exact absurd digit (by decide)

theorem chars_inj {m n : Number} (same : m.chars = n.chars) : m = n := by
  cases m with
  | integer a =>
    cases n with
    | integer b => rw [integer_inj same]
    | float y => exact absurd same (integer_ne_float a y)
  | float x =>
    cases n with
    | integer b => exact absurd same.symm (integer_ne_float b x)
    | float y => rw [finite_inj same]

theorem inNumber_size (x : Float) : ∀ c ∈ size x, inNumber c = true := by
  obtain ⟨whole, mark, rest, text, -, digits, point, tail⟩ := marked_size x
  intro c member
  rw [text] at member
  rcases List.mem_append.mp member with member | member
  · exact inNumber_digit (digits c member)
  · rcases List.mem_cons.mp member with rfl | member
    · rcases point with rfl | rfl <;> rfl
    · exact inNumber_tail (tail c member)

theorem inNumber_chars (n : Number) : ∀ c ∈ n.chars, inNumber c = true := by
  intro c member
  cases n with
  | integer n =>
    rw [integer_chars] at member
    split at member
    · rcases List.mem_cons.mp member with rfl | member
      · rfl
      · exact inNumber_digit (digits_digitsOf _ c member)
    · exact inNumber_digit (digits_digitsOf _ c member)
  | float x =>
    rw [chars, finite_eq] at member
    split at member
    · rcases List.mem_cons.mp member with rfl | member
      · rfl
      · exact inNumber_size x c member
    · exact inNumber_size x c member

theorem chars_ne_nil (n : Number) : n.chars ≠ [] := by
  cases n with
  | integer n =>
    rw [integer_chars]
    split
    · simp
    · exact digitsOf_ne_nil _
  | float x =>
    obtain ⟨whole, mark, rest, text, -⟩ := marked_size x
    rw [chars, finite_eq, text]
    split <;> simp

/-- A number ends where something else begins. -/
theorem chars_append_inj {m n : Number} {rest tail : List Char} (left : Ends inNumber rest)
    (right : Ends inNumber tail) (same : m.chars ++ rest = n.chars ++ tail) : m = n ∧ rest = tail := by
  have first := parts_append m.inNumber_chars left
  have second := parts_append n.inNumber_chars right
  rw [same] at first
  exact ⟨chars_inj (first.1.symm.trans second.1), first.2.symm.trans second.2⟩

end Number

/-! ### Strings -/

theorem unescape?_shortEscape? {c letter : Char} (short : shortEscape? c = some letter) :
    unescape? letter = some c := by
  unfold shortEscape? at short
  split at short <;> cases short <;> rfl

theorem hexValue?_hexDigit : ∀ n < 16, hexValue? (hexDigit n) = some n := by decide

/-- What stands for a character: a letter behind a backslash, its number, or the character. -/
theorem escaped_cases (c : Char) :
    (∃ letter, escaped c = ['\\', letter] ∧ unescape? letter = some c) ∨
    (∃ high low, escaped c = ['\\', 'u', '0', '0', hexDigit high, hexDigit low] ∧ high < 16 ∧ low < 16 ∧
      c.toNat = 16 * high + low) ∨
    (escaped c = [c] ∧ c ≠ '\\' ∧ c ≠ '"') := by
  unfold escaped
  split
  · next letter short => exact .inl ⟨letter, rfl, unescape?_shortEscape? short⟩
  · next plain =>
    split
    · next control => exact .inr (.inl ⟨_, _, rfl, by omega, by omega, by omega⟩)
    · refine .inr (.inr ⟨rfl, ?_, ?_⟩) <;> rintro rfl <;> cases plain

theorem escaped_append_inj {c d : Char} {rest tail : List Char}
    (same : escaped c ++ rest = escaped d ++ tail) : c = d ∧ rest = tail := by
  -- Each of the three forms is read back; no two of them begin alike.
  rcases escaped_cases c with ⟨letter, left, read⟩ | ⟨high, low, left, top, bottom, code⟩ | ⟨left, slash, -⟩ <;>
    rcases escaped_cases d with ⟨other, right, again⟩ | ⟨high', low', right, top', bottom', code'⟩ | ⟨right, slash', -⟩ <;>
      simp only [left, right, List.cons_append, List.nil_append, List.cons.injEq, true_and] at same
  · obtain ⟨rfl, rfl⟩ := same
    exact ⟨Option.some.inj (read.symm.trans again), rfl⟩
  · obtain ⟨rfl, -⟩ := same
    cases read
  · exact absurd same.1.symm slash'
  · obtain ⟨rfl, -⟩ := same
    cases again
  · obtain ⟨first, second, rfl⟩ := same
    have upper := hexValue?_hexDigit high top
    have lower := hexValue?_hexDigit low bottom
    rw [first, hexValue?_hexDigit high' top', Option.some.injEq] at upper
    rw [second, hexValue?_hexDigit low' bottom', Option.some.injEq] at lower
    have equal : c.toNat = d.toNat := by omega
    exact ⟨Char.toNat_inj.mp equal, rfl⟩
  · exact absurd same.1.symm slash'
  · exact absurd same.1 slash
  · exact absurd same.1 slash
  · exact same

theorem escaped_ne_quote (c : Char) (rest tail : List Char) : escaped c ++ rest ≠ '"' :: tail := by
  rcases escaped_cases c with ⟨letter, text, -⟩ | ⟨high, low, text, -⟩ | ⟨text, -, quote⟩ <;> rw [text]
  · simp
  · simp
  · simpa using fun same => absurd same quote

theorem flatMap_escaped_inj {left right rest tail : List Char}
    (same : left.flatMap escaped ++ '"' :: rest = right.flatMap escaped ++ '"' :: tail) :
    left = right ∧ rest = tail := by
  induction left generalizing right with
  | nil =>
    cases right with
    | nil => exact ⟨rfl, List.tail_eq_of_cons_eq same⟩
    | cons d right =>
      rw [List.flatMap_cons, List.append_assoc] at same
      exact absurd same.symm (escaped_ne_quote d _ _)
  | cons c left ih =>
    cases right with
    | nil =>
      rw [List.flatMap_cons, List.append_assoc] at same
      exact absurd same (escaped_ne_quote c _ _)
    | cons d right =>
      rw [List.flatMap_cons, List.flatMap_cons, List.append_assoc, List.append_assoc] at same
      obtain ⟨rfl, others⟩ := escaped_append_inj same
      obtain ⟨rfl, rest⟩ := ih others
      exact ⟨rfl, rest⟩

/-- A string ends at its closing quote. -/
theorem quoted_append_inj {s t : String} {rest tail : List Char}
    (same : quoted s ++ rest = quoted t ++ tail) : s = t ∧ rest = tail := by
  simp only [quoted, List.cons_append, List.append_assoc, List.nil_append, List.cons.injEq, true_and]
    at same
  obtain ⟨text, others⟩ := flatMap_escaped_inj same
  exact ⟨String.toList_inj.mp text, others⟩

/-! ### Documents -/

inductive Kind where
  | null
  | bool
  | number
  | string
  | array
  | object
  deriving DecidableEq

def kind : Json → Kind
  | .null => .null
  | .bool _ => .bool
  | .number _ => .number
  | .string _ => .string
  | .array _ => .array
  | .object _ => .object

def Kind.ofChar? (c : Char) : Option Kind :=
  if inNumber c then some .number
  else match c with
    | 'n' => some .null
    | 't' => some .bool
    | 'f' => some .bool
    | '"' => some .string
    | '[' => some .array
    | '\x7b' => some .object
    | _ => none

theorem chars_head (document : Json) :
    ∃ c rest, chars document = c :: rest ∧ Kind.ofChar? c = some document.kind := by
  match document with
  | .null => exact ⟨_, _, rfl, rfl⟩
  | .bool true => exact ⟨_, _, rfl, rfl⟩
  | .bool false => exact ⟨_, _, rfl, rfl⟩
  | .number n =>
    obtain ⟨c, rest, text⟩ := List.exists_cons_of_ne_nil n.chars_ne_nil
    have digit := n.inNumber_chars c (text ▸ List.mem_cons_self)
    exact ⟨c, rest, by rw [chars, text], by simp only [Kind.ofChar?, digit, if_true, kind]⟩
  | .string s => exact ⟨_, _, by rw [chars, quoted], rfl⟩
  | .array [] => exact ⟨_, _, by rw [chars], rfl⟩
  | .array (item :: rest) => exact ⟨_, _, by rw [chars], rfl⟩
  | .object [] => exact ⟨_, _, by rw [chars], rfl⟩
  | .object ((k, v) :: rest) => exact ⟨_, _, by rw [chars], rfl⟩

theorem kind_eq {left right : Json} {rest tail : List Char}
    (same : chars left ++ rest = chars right ++ tail) : left.kind = right.kind := by
  obtain ⟨c, front, text, kind⟩ := chars_head left
  obtain ⟨d, back, other, kind'⟩ := chars_head right
  rw [text, other] at same
  obtain ⟨rfl, -⟩ := List.cons_eq_cons.mp same
  exact Option.some.inj (kind.symm.trans kind')

/-- No document begins as an array ends. -/
theorem chars_ne_close (document : Json) (rest tail : List Char) : chars document ++ rest ≠ ']' :: tail := by
  obtain ⟨c, front, text, kind⟩ := chars_head document
  rw [text]
  rintro ⟨⟩
  cases kind

theorem ends_itemChars (items : List Json) (rest : List Char) :
    Ends inNumber (itemChars items ++ rest) := by
  cases items with
  | nil => exact ends_cons rfl
  | cons item items => exact ends_cons rfl

theorem ends_memberChars (members : Members) (rest : List Char) :
    Ends inNumber (memberChars members ++ rest) := by
  cases members with
  | nil => exact ends_cons rfl
  | cons member members => exact ends_cons rfl

/-! The first item of an array reads like any other, with the bracket in place of a comma. -/

theorem itemChars_of_array {items others : List Json} {rest tail : List Char}
    (same : chars (.array items) ++ rest = chars (.array others) ++ tail) :
    itemChars items ++ rest = itemChars others ++ tail := by
  cases items <;> cases others
  case nil.cons other others =>
    simp only [chars, List.cons_append, List.append_assoc, List.cons.injEq, true_and,
      List.nil_append] at same
    exact absurd same.symm (chars_ne_close other _ _)
  case cons.nil item items =>
    simp only [chars, List.cons_append, List.append_assoc, List.cons.injEq, true_and,
      List.nil_append] at same
    exact absurd same (chars_ne_close item _ _)
  all_goals simpa [chars, itemChars] using same

theorem memberChars_of_object {members others : Members} {rest tail : List Char}
    (same : chars (.object members) ++ rest = chars (.object others) ++ tail) :
    memberChars members ++ rest = memberChars others ++ tail := by
  cases members <;> cases others
  case nil.cons => simp [chars, quoted] at same
  case cons.nil => simp [chars, quoted] at same
  all_goals simpa [chars, memberChars] using same

mutual

/-- Texts that go on with something else than a number are of the same document. -/
theorem chars_append_inj : ∀ (left : Json) {right : Json} {rest tail : List Char},
    Ends inNumber rest → Ends inNumber tail → chars left ++ rest = chars right ++ tail →
    left = right ∧ rest = tail
  | .null, right, rest, tail, first, second, same => by
    have kind := kind_eq same
    cases right with
    | null => exact ⟨rfl, List.append_cancel_left same⟩
    | _ => cases kind
  | .bool b, right, rest, tail, first, second, same => by
    have kind := kind_eq same
    cases right with
    | bool c =>
      cases b <;> cases c <;> simp [chars] at same
      · exact ⟨rfl, same⟩
      · exact ⟨rfl, same⟩
    | _ => cases kind
  | .number m, right, rest, tail, first, second, same => by
    have kind := kind_eq same
    cases right with
    | number n =>
      rw [chars, chars] at same
      obtain ⟨rfl, others⟩ := Number.chars_append_inj first second same
      exact ⟨rfl, others⟩
    | _ => cases kind
  | .string s, right, rest, tail, first, second, same => by
    have kind := kind_eq same
    cases right with
    | string t =>
      rw [chars, chars] at same
      obtain ⟨rfl, others⟩ := quoted_append_inj same
      exact ⟨rfl, others⟩
    | _ => cases kind
  | .array items, right, rest, tail, first, second, same => by
    have kind := kind_eq same
    cases right with
    | array others =>
      obtain ⟨rfl, rest⟩ := itemChars_append_inj items (itemChars_of_array same)
      exact ⟨rfl, rest⟩
    | _ => cases kind
  | .object members, right, rest, tail, first, second, same => by
    have kind := kind_eq same
    cases right with
    | object others =>
      obtain ⟨rfl, rest⟩ := memberChars_append_inj members (memberChars_of_object same)
      exact ⟨rfl, rest⟩
    | _ => cases kind

theorem itemChars_append_inj : ∀ (left : List Json) {right : List Json} {rest tail : List Char},
    itemChars left ++ rest = itemChars right ++ tail → left = right ∧ rest = tail
  | [], right, rest, tail, same => by
    cases right with
    | nil => exact ⟨rfl, List.append_cancel_left same⟩
    | cons other others => simp [itemChars] at same
  | item :: items, right, rest, tail, same => by
    cases right with
    | nil => simp [itemChars] at same
    | cons other others =>
      simp only [itemChars, List.cons_append, List.append_assoc, List.cons.injEq, true_and] at same
      obtain ⟨rfl, further⟩ := chars_append_inj item (ends_itemChars _ _) (ends_itemChars _ _) same
      obtain ⟨rfl, rest⟩ := itemChars_append_inj items further
      exact ⟨rfl, rest⟩

theorem memberChars_append_inj : ∀ (left : Members) {right : Members} {rest tail : List Char},
    memberChars left ++ rest = memberChars right ++ tail → left = right ∧ rest = tail
  | [], right, rest, tail, same => by
    cases right with
    | nil => exact ⟨rfl, List.append_cancel_left same⟩
    | cons other others => simp [memberChars] at same
  | (key, value) :: members, right, rest, tail, same => by
    cases right with
    | nil => simp [memberChars] at same
    | cons other others =>
      obtain ⟨key', value'⟩ := other
      simp only [memberChars, List.cons_append, List.append_assoc, List.cons.injEq, true_and] at same
      obtain ⟨rfl, valued⟩ := quoted_append_inj same
      obtain ⟨rfl, further⟩ := chars_append_inj value (ends_memberChars _ _) (ends_memberChars _ _)
        (List.tail_eq_of_cons_eq valued)
      obtain ⟨rfl, rest⟩ := memberChars_append_inj members further
      exact ⟨rfl, rest⟩

end

theorem text_append_inj {left right : Json} {rest tail : String} (first : Ends inNumber rest.toList)
    (second : Ends inNumber tail.toList) (same : left.text ++ rest = right.text ++ tail) :
    left = right ∧ rest = tail := by
  have chars := congrArg String.toList same
  simp only [text, String.toList_append, String.toList_ofList] at chars
  obtain ⟨document, others⟩ := chars_append_inj left first second chars
  exact ⟨document, String.toList_inj.mp others⟩

/-! ### Documents apart -/

namespace Reader

theorem continue?_bar (value : Json) : continue? '|' value [] = none := rfl

theorem step_bar_of_finish {r : Reader} {document : Json} (whole : r.finish = some document) :
    r.step '|' = none := by
  obtain ⟨mode, frames⟩ := r
  unfold finish at whole
  split at whole
  · next value closed complete =>
    obtain rfl : frames = [] := closed
    obtain rfl : mode = .after value := complete
    rfl
  · next value closed complete =>
    obtain rfl : frames = [] := closed
    obtain rfl : mode = .word [] value := complete
    rfl
  · next digits closed complete =>
    obtain rfl : frames = [] := closed
    obtain rfl : mode = .number digits := complete
    have other : inNumber '|' = false := rfl
    simp [step, other, continue?_bar]
  · cases whole

end Reader

def Whole (text : String) : Prop := text = "" ∨ (spelled? text).isSome = true

/-- What goes on with a bar is no document. -/
theorem spelled?_bar {front : String} (whole : Whole front) (rest : List Char) :
    spelled? (String.ofList (front.toList ++ '|' :: rest)) = none := by
  have stuck : (front.toList.foldlM Reader.step Reader.start).bind (Reader.step · '|') = none := by
    rcases whole with rfl | whole
    · rfl
    · unfold spelled? at whole
      cases read : front.toList.foldlM Reader.step Reader.start with
      | none => rfl
      | some r =>
        rw [read, Option.bind_some] at whole
        obtain ⟨document, finished⟩ := Option.isSome_iff_exists.mp whole
        exact Reader.step_bar_of_finish finished
  have further : (front.toList ++ '|' :: rest).foldlM Reader.step Reader.start =
      ((front.toList.foldlM Reader.step Reader.start).bind (Reader.step · '|')).bind
        (rest.foldlM Reader.step ·) := by
    rw [List.foldlM_append, Option.bind_assoc]
    rfl
  rw [spelled?, String.toList_ofList, further, stuck]
  rfl

theorem not_whole_bar {front : String} (whole : Whole front) {text : String} {rest : List Char}
    (longer : text.toList = front.toList ++ '|' :: rest) : ¬ Whole text := by
  have same : text = String.ofList (front.toList ++ '|' :: rest) := by
    rw [← longer, String.ofList_toList]
  rintro (rfl | spelled)
  · simp at longer
  · rw [same, spelled?_bar whole] at spelled
    cases spelled

/-- Documents apart by a bar are found again. -/
theorem bar_append_inj {left right rest tail : String} (first : Whole left) (second : Whole right)
    (same : left ++ "|" ++ rest = right ++ "|" ++ tail) : left = right ∧ rest = tail := by
  have chars : left.toList ++ '|' :: rest.toList = right.toList ++ '|' :: tail.toList := by
    simpa using congrArg String.toList same
  -- Of two different cuts, the later document would go on over the earlier bar.
  rcases List.append_eq_append_iff.mp chars with ⟨middle, longer, others⟩ | ⟨middle, longer, others⟩
  · cases middle with
    | nil =>
      rw [List.append_nil] at longer
      exact ⟨String.toList_inj.mp longer.symm, String.toList_inj.mp (List.tail_eq_of_cons_eq others)⟩
    | cons c middle =>
      obtain ⟨rfl, -⟩ := List.cons_eq_cons.mp others
      exact absurd second (not_whole_bar first longer)
  · cases middle with
    | nil =>
      rw [List.append_nil] at longer
      exact ⟨String.toList_inj.mp longer, (String.toList_inj.mp (List.tail_eq_of_cons_eq others)).symm⟩
    | cons c middle =>
      obtain ⟨rfl, -⟩ := List.cons_eq_cons.mp others
      exact absurd first (not_whole_bar second longer)

end GeoSearch.Json
