import GeoSearch.Decimal.Layout
import GeoSearch.Decimal.Reader
import GeoSearch.Proofs.Decimal.Shortest
/-!
The text of a number. A document text spells the shortest decimal of its number, and so no two
numbers share one.
-/
namespace GeoSearch

def Text.Ends (p : Char → Bool) (text : List Char) : Prop :=
  ∀ c rest, text = c :: rest → p c = false

theorem Text.ends_nil {p : Char → Bool} : Ends p [] := by
  rintro c rest ⟨⟩

theorem Text.ends_cons {p : Char → Bool} {c : Char} {rest : List Char} (other : p c = false) :
    Ends p (c :: rest) := by
  rintro d tail ⟨⟩
  exact other

theorem Text.parts_append {p : Char → Bool} {front rest : List Char} (all : ∀ c ∈ front, p c = true)
    (ends : Ends p rest) :
    (front ++ rest).takeWhile p = front ∧ (front ++ rest).dropWhile p = rest := by
  have stop : rest.takeWhile p = [] ∧ rest.dropWhile p = rest := by
    cases rest with
    | nil => exact ⟨rfl, rfl⟩
    | cons c rest =>
      have other : ¬ p c = true := by simp [ends c rest rfl]
      exact ⟨List.takeWhile_cons_of_neg other, List.dropWhile_cons_of_neg other⟩
  rw [List.takeWhile_append_of_pos all, List.dropWhile_append_of_pos all, stop.1, stop.2,
    List.append_nil]
  exact ⟨rfl, rfl⟩

namespace Decimal

open Binary64 Text

def Digits (text : List Char) : Prop := ∀ c ∈ text, c.isDigit = true

theorem Digits.append {left right : List Char} (first : Digits left) (second : Digits right) :
    Digits (left ++ right) :=
  fun c member => (List.mem_append.mp member).elim (first c) (second c)

theorem splitDigits_append {digits rest : List Char} (all : Digits digits)
    (ends : Ends Char.isDigit rest) : splitDigits (digits ++ rest) = (digits, rest) := by
  obtain ⟨taken, left⟩ := parts_append all ends
  rw [splitDigits, taken, left]

/-! ### Digits -/

theorem digitsOf_eq (n : Nat) : digitsOf n = Nat.toDigits 10 n := by
  rw [digitsOf, Nat.toString_eq_ofList_toDigits, String.toList_ofList]

theorem digits_digitsOf (n : Nat) : Digits (digitsOf n) := by
  intro c member
  rw [digitsOf_eq] at member
  exact Nat.isDigit_of_mem_toDigits (by decide) (by decide) member

theorem digitsOf_ne_nil (n : Nat) : digitsOf n ≠ [] := by
  rw [digitsOf_eq]
  exact Nat.toDigits_ne_nil

theorem natOfDigits_digitsOf (n : Nat) : natOfDigits (digitsOf n) = n := by
  rw [digitsOf_eq]
  exact Nat.ofDigitChars_ten_toDigits

theorem natOfDigits_append (left right : List Char) :
    natOfDigits (left ++ right) = 10 ^ right.length * natOfDigits left + natOfDigits right := by
  have split : natOfDigits (left ++ right) = Nat.ofDigitChars 10 right (natOfDigits left) :=
    Nat.ofDigitChars_append 0
  rw [split, Nat.ofDigitChars_eq_ofDigitChars_zero]
  rfl

theorem natOfDigits_zeros (n : Nat) : natOfDigits (List.replicate n '0') = 0 :=
  Nat.ofDigitChars_replicate_zero

theorem natOfDigits_leading (n : Nat) (digits : List Char) :
    natOfDigits (List.replicate n '0' ++ digits) = natOfDigits digits := by
  rw [natOfDigits_append, natOfDigits_zeros, Nat.mul_zero, Nat.zero_add]

theorem natOfDigits_trailing (digits : List Char) (n : Nat) :
    natOfDigits (digits ++ List.replicate n '0') = 10 ^ n * natOfDigits digits := by
  rw [natOfDigits_append, natOfDigits_zeros, Nat.add_zero, List.length_replicate]

theorem digits_zeros (n : Nat) : Digits (List.replicate n '0') := by
  intro c member
  rw [List.eq_of_mem_replicate member]
  rfl

/-! ### What is spelled -/

/-- The rational that an unsigned text spells: digits with an optional point and exponent. -/
def spelled (text : List Char) : Rat :=
  let (whole, rest) := splitDigits text
  let (fraction, rest) := match rest with
    | '.' :: rest => splitDigits rest
    | rest => ([], rest)
  let power : Int := match rest with
    | _ :: tail => (exponent? tail).getD 0
    | [] => 0
  natOfDigits (whole ++ fraction) * (10 : Rat) ^ (power - fraction.length)

theorem spelled_point {whole fraction : List Char} (left : Digits whole) (right : Digits fraction) :
    spelled (whole ++ '.' :: fraction) =
      natOfDigits (whole ++ fraction) * (10 : Rat) ^ (-fraction.length : Int) := by
  have point : Ends Char.isDigit ('.' :: fraction) := ends_cons rfl
  have first := splitDigits_append left point
  have second := splitDigits_append right ends_nil
  rw [List.append_nil] at second
  simp [spelled, first, second]

theorem exponent?_signed (exponent : Int) :
    exponent? ((if exponent < 0 then '-' else '+') :: digitsOf exponent.natAbs) = some exponent := by
  have any : (digitsOf exponent.natAbs).isEmpty = false := by
    simp [List.isEmpty_eq_false_iff, digitsOf_ne_nil]
  have all : (digitsOf exponent.natAbs).all Char.isDigit = true :=
    List.all_eq_true.mpr (digits_digitsOf _)
  by_cases down : exponent < 0
  · simp [exponent?, down, any, all, natOfDigits_digitsOf, abs_of_neg down]
  · simp [exponent?, down, any, all, natOfDigits_digitsOf, Int.not_lt.mp down]

theorem spelled_scientific {digit : Char} {rest : List Char} (digits : Digits (digit :: rest))
    (exponent : Int) :
    spelled (scientific (digit :: rest) exponent) =
      natOfDigits (digit :: rest) * (10 : Rat) ^ (exponent - rest.length) := by
  have letter : Ends Char.isDigit
      ('e' :: (if exponent < 0 then '-' else '+') :: digitsOf exponent.natAbs) := ends_cons rfl
  cases rest with
  | nil =>
    have first := splitDigits_append digits letter
    simp [spelled, scientific, first, exponent?_signed] at first ⊢
  | cons second rest =>
    have one : Digits [digit] := fun c member => digits c (by simp_all)
    have others : Digits (second :: rest) := fun c member => digits c (List.mem_cons_of_mem _ member)
    have point : Ends Char.isDigit ('.' :: second :: rest ++
        'e' :: (if exponent < 0 then '-' else '+') :: digitsOf exponent.natAbs) := ends_cons rfl
    have first := splitDigits_append one point
    have second := splitDigits_append others letter
    simp [spelled, scientific, first, second, exponent?_signed] at first second ⊢

theorem pointed_parts {digits : List Char} (all : Digits digits) (any : digits ≠ []) (shift : Int) :
    ∃ whole fraction, pointed digits shift true = whole ++ '.' :: fraction ∧ whole ≠ [] ∧
      Digits whole ∧ Digits fraction ∧
      natOfDigits (whole ++ fraction) * (10 : Rat) ^ (-fraction.length : Int) =
        natOfDigits digits * (10 : Rat) ^ (shift - digits.length) := by
  have count : 0 < digits.length := List.length_pos_iff.mpr any
  unfold pointed
  dsimp only
  split
  · next small =>
    refine ⟨['0'], List.replicate (-shift).toNat '0' ++ digits, rfl, by simp, digits_zeros 1,
      (digits_zeros _).append all, ?_⟩
    have value := natOfDigits_leading (1 + (-shift).toNat) digits
    rw [List.replicate_add, List.append_assoc] at value
    refine congr (congrArg _ (congrArg _ value)) (congrArg _ ?_)
    rw [List.length_append, List.length_replicate]
    omega
  · split
    · next positive within =>
      refine ⟨digits.take shift.toNat, digits.drop shift.toNat, rfl, ?_,
        fun c member => all c (List.mem_of_mem_take member),
        fun c member => all c (List.mem_of_mem_drop member), ?_⟩
      · exact List.length_pos_iff.mp (by rw [List.length_take]; omega)
      · rw [List.take_append_drop]
        congr 2
        rw [List.length_drop]
        omega
    · next positive beyond =>
      obtain ⟨zeros, far⟩ : ∃ zeros : Nat, shift - digits.length = zeros :=
        ⟨(shift - digits.length).toNat, by omega⟩
      rw [far, Int.toNat_natCast, if_pos rfl]
      refine ⟨digits ++ List.replicate zeros '0', ['0'], rfl, by simp [any],
        all.append (digits_zeros zeros), digits_zeros 1, ?_⟩
      have value := natOfDigits_trailing digits (zeros + 1)
      rw [List.replicate_add, ← List.append_assoc] at value
      refine (congr (congrArg _ (congrArg _ value)) rfl).trans ?_
      simp [pow_succ]
      ring

theorem spelled_pointed {digits : List Char} (all : Digits digits) (any : digits ≠ []) (shift : Int) :
    spelled (pointed digits shift true) = natOfDigits digits * (10 : Rat) ^ (shift - digits.length) := by
  obtain ⟨whole, fraction, text, -, left, right, value⟩ := pointed_parts all any shift
  rw [text, spelled_point left right, value]

/-- A document text spells the decimal it is made of. -/
theorem spelled_magnitude (d : Decimal) : spelled (document.magnitude d) = d.value := by
  have all := digits_digitsOf d.coefficient
  unfold Layout.magnitude
  dsimp only
  rw [value_eq]
  split
  · rw [document, spelled_pointed all (digitsOf_ne_nil _), natOfDigits_digitsOf]
    congr 2
    omega
  · obtain ⟨digit, rest, digits⟩ := List.exists_cons_of_ne_nil (digitsOf_ne_nil d.coefficient)
    rw [digits] at all ⊢
    rw [spelled_scientific all, ← digits, natOfDigits_digitsOf, digits, List.length_cons]
    congr 2
    omega

/-! ### Characters -/

def InTail (c : Char) : Prop := c.isDigit = true ∨ c ∈ ['.', 'e', '+', '-']

/-- Digits, and then a point or an exponent: not the text of an integer. -/
def Marked (text : List Char) : Prop :=
  ∃ whole mark rest, text = whole ++ mark :: rest ∧ whole ≠ [] ∧ Digits whole ∧
    (mark = '.' ∨ mark = 'e') ∧ ∀ c ∈ rest, InTail c

theorem marked_pointed {digits : List Char} (all : Digits digits) (any : digits ≠ []) (shift : Int) :
    Marked (pointed digits shift true) := by
  obtain ⟨whole, fraction, text, filled, left, right, -⟩ := pointed_parts all any shift
  exact ⟨whole, '.', fraction, text, filled, left, .inl rfl, fun c member => .inl (right c member)⟩

theorem marked_scientific {digit : Char} {rest : List Char} (digits : Digits (digit :: rest))
    (exponent : Int) : Marked (scientific (digit :: rest) exponent) := by
  have one : Digits [digit] := fun c member => digits c (by simp_all)
  have power : ∀ c ∈ (if exponent < 0 then '-' else '+') :: digitsOf exponent.natAbs, InTail c := by
    intro c member
    rcases List.mem_cons.mp member with rfl | member
    · split <;> exact .inr (by simp)
    · exact .inl (digits_digitsOf _ c member)
  cases rest with
  | nil => exact ⟨[digit], 'e', _, rfl, by simp, one, .inr rfl, power⟩
  | cons second rest =>
    refine ⟨[digit], '.', _, rfl, by simp, one, .inl rfl, ?_⟩
    intro c member
    rcases List.mem_append.mp member with fraction | member
    · exact .inl (digits c (List.mem_cons_of_mem _ fraction))
    · rcases List.mem_cons.mp member with rfl | member
      · exact .inr (by simp)
      · exact power c member

theorem marked_magnitude (d : Decimal) : Marked (document.magnitude d) := by
  have all := digits_digitsOf d.coefficient
  unfold Layout.magnitude
  dsimp only
  split
  · exact marked_pointed all (digitsOf_ne_nil _) _
  · obtain ⟨digit, rest, digits⟩ := List.exists_cons_of_ne_nil (digitsOf_ne_nil d.coefficient)
    rw [digits] at all ⊢
    exact marked_scientific all _

/-! ### Numbers -/

/-- The text of a number without its sign. -/
def size (x : Float) : List Char :=
  if x == 0.0 then ['0', '.', '0'] else document.magnitude (shortest .toEven x)

theorem finite_eq (x : Float) :
    document.finite x = if negative x then '-' :: size x else size x := rfl

theorem marked_size (x : Float) : Marked (size x) := by
  unfold size
  split
  · exact marked_pointed (digits_zeros 1) (by simp) 1
  · exact marked_magnitude _

theorem significand_pos {x : Float} (nonzero : (x == 0.0) = false) : 0 < significand x := by
  have fields : ¬ (exponentField x = 0 ∧ fractionField x = 0) :=
    fun fields => Bool.eq_false_iff.mp nonzero ((beq_zero_iff x).mpr fields)
  unfold significand
  split <;> omega

theorem lower_pos {x : Float} (nonzero : (x == 0.0) = false) : 0 < (roundingInterval x).lower := by
  have positive := significand_pos nonzero
  rw [lower_eq]
  refine mul_pos (Nat.cast_pos.mpr (Nat.mul_pos ?_ (Nat.two_pow_pos _))) quarter_pos
  split <;> omega

theorem spelled_size {x : Float} (nonzero : (x == 0.0) = false) :
    (roundingInterval x).contains (spelled (size x)) = true := by
  rw [size, nonzero, if_neg Bool.false_ne_true, spelled_magnitude]
  exact shortest_contains .toEven (significand_pos nonzero)

theorem spelled_size_zero {x : Float} : spelled (size x) = 0 ↔ (x == 0.0) = true := by
  cases zero : x == 0.0 with
  | true =>
    have text : size x = pointed ['0'] 1 true := by rw [size, zero]; rfl
    have digits : Digits ['0'] := digits_zeros 1
    rw [text, spelled_pointed digits (by simp)]
    simp [natOfDigits, digitValue]
  | false =>
    have above := ((Interval.contains_iff _ _).mp (spelled_size zero)).1
    have positive := lt_of_lt_of_le (lower_pos zero) above
    simp [positive.ne']

theorem size_fields {x y : Float} (same : size x = size y) :
    exponentField x = exponentField y ∧ fractionField x = fractionField y := by
  have zeros : (x == 0.0) = (y == 0.0) := by
    rw [Bool.eq_iff_iff, ← spelled_size_zero, ← spelled_size_zero, same]
  cases zero : x == 0.0 with
  | true =>
    have left := (beq_zero_iff x).mp zero
    have right := (beq_zero_iff y).mp (zeros.symm.trans zero)
    exact ⟨left.1.trans right.1.symm, left.2.trans right.2.symm⟩
  | false =>
    have left := spelled_size zero
    have right := spelled_size (zeros.symm.trans zero)
    rw [same] at left
    exact fields_eq_of_contains left right

theorem size_ne_minus (x : Float) (rest : List Char) : size x ≠ '-' :: rest := by
  obtain ⟨whole, mark, tail, text, any, digits, -⟩ := marked_size x
  obtain ⟨digit, others, rfl⟩ := List.exists_cons_of_ne_nil any
  rw [text]
  rintro ⟨⟩
  exact absurd (digits '-' List.mem_cons_self) (by decide)

/-- Different numbers have different texts. -/
theorem finite_inj {x y : Float} (same : document.finite x = document.finite y) : x = y := by
  rw [finite_eq, finite_eq] at same
  -- No size begins with a minus, so the signs agree.
  obtain ⟨sign, rest⟩ : negative x = negative y ∧ size x = size y := by
    cases left : negative x <;> cases right : negative y <;>
      simp only [left, right, if_true, if_false, Bool.false_eq_true] at same
    · exact ⟨rfl, same⟩
    · exact absurd same (size_ne_minus x _)
    · exact absurd same.symm (size_ne_minus y _)
    · exact ⟨rfl, List.tail_eq_of_cons_eq same⟩
  obtain ⟨exponent, fraction⟩ := size_fields rest
  exact eq_of_fields sign exponent fraction

end Decimal

end GeoSearch
