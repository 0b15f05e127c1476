/-!
Texts in UTF-8. The encoding keeps the order: texts are ordered by their bytes as they are by their
characters.
-/
namespace GeoSearch.Text

def bytes (text : String) : List UInt8 := text.toUTF8.data.toList

theorem bytes_eq_flatMap (text : String) : bytes text = text.toList.flatMap String.utf8EncodeChar := by
  obtain ⟨characters, rfl⟩ : ∃ characters, text = String.ofList characters :=
    ⟨text.toList, (String.ofList_toList ..).symm⟩
  rw [bytes, String.toUTF8_eq_toByteArray, String.toByteArray_ofList, List.utf8Encode,
    List.toList_data_toByteArray, String.toList_ofList]

/-- Between one and four bytes: the first tells how many follow, and each of the others has six bits. -/
theorem utf8EncodeChar_cases (c : Char) : ∃ code, code = c.toNat ∧
    (code < 0x80 ∧ String.utf8EncodeChar c = [.ofNat code] ∨
    0x80 ≤ code ∧ code < 0x800 ∧
      String.utf8EncodeChar c = [.ofNat (code / 64 + 192), .ofNat (code % 64 + 128)] ∨
    0x800 ≤ code ∧ code < 0x10000 ∧
      String.utf8EncodeChar c =
        [.ofNat (code / 4096 + 224), .ofNat (code / 64 % 64 + 128), .ofNat (code % 64 + 128)] ∨
    0x10000 ≤ code ∧ code < 0x110000 ∧
      String.utf8EncodeChar c =
        [.ofNat (code / 262144 + 240), .ofNat (code / 4096 % 64 + 128), .ofNat (code / 64 % 64 + 128),
          .ofNat (code % 64 + 128)]) := by
  have last : c.val.toNat < 0x110000 := by
    have valid := c.valid
    unfold UInt32.isValidChar Nat.isValidChar at valid
    omega
  refine ⟨_, rfl, ?_⟩
  unfold String.utf8EncodeChar Char.toNat
  generalize c.val.toNat = code at last
  dsimp only
  split
  · exact .inl ⟨by omega, rfl⟩
  split
  · have first : code / 64 % 32 = code / 64 := Nat.mod_eq_of_lt (by omega)
    exact .inr (.inl ⟨by omega, by omega, by rw [first]⟩)
  split
  · have first : code / 4096 % 16 = code / 4096 := Nat.mod_eq_of_lt (by omega)
    exact .inr (.inr (.inl ⟨by omega, by omega, by rw [first]⟩))
  · have first : code / 262144 % 8 = code / 262144 := Nat.mod_eq_of_lt (by omega)
    exact .inr (.inr (.inr ⟨by omega, last, by rw [first]⟩))

theorem cons_ofNat_lt_cons_iff {m n : Nat} {rest tail : List UInt8} (small : m < 256) (bound : n < 256) :
    UInt8.ofNat m :: rest < UInt8.ofNat n :: tail ↔ m < n ∨ m = n ∧ rest < tail := by
  rw [List.cons_lt_cons_iff, UInt8.lt_iff_toNat_lt, ← UInt8.toNat_inj, UInt8.toNat_ofNat_of_lt' small,
    UInt8.toNat_ofNat_of_lt' bound]

/-- The first byte in which two characters differ has the order of the characters. -/
theorem utf8EncodeChar_append_lt {c d : Char} (less : c < d) (rest tail : List UInt8) :
    String.utf8EncodeChar c ++ rest < String.utf8EncodeChar d ++ tail := by
  have codes : c.toNat < d.toNat := less
  obtain ⟨m, left, first⟩ := utf8EncodeChar_cases c
  obtain ⟨n, right, second⟩ := utf8EncodeChar_cases d
  rw [← left, ← right] at codes
  rcases first with ⟨low, bytes⟩ | ⟨low, high, bytes⟩ | ⟨low, high, bytes⟩ | ⟨low, high, bytes⟩ <;>
    rcases second with ⟨low', bytes'⟩ | ⟨low', high', bytes'⟩ | ⟨low', high', bytes'⟩ | ⟨low', high', bytes'⟩ <;>
      rw [bytes, bytes'] <;>
      simp (disch := omega) only [List.cons_append, List.nil_append, cons_ofNat_lt_cons_iff] <;>
      omega

theorem flatMap_utf8EncodeChar_lt {left right : List Char} (less : left < right) :
    left.flatMap String.utf8EncodeChar < right.flatMap String.utf8EncodeChar := by
  induction left generalizing right with
  | nil =>
    cases right with
    | nil => exact absurd less (List.not_lt_nil _)
    | cons d right =>
      obtain ⟨byte, others, first⟩ := List.exists_cons_of_ne_nil (String.utf8EncodeChar_ne_nil (c := d))
      rw [List.flatMap_nil, List.flatMap_cons, first]
      exact List.nil_lt_cons _ _
  | cons c left ih =>
    cases right with
    | nil => exact absurd less (List.not_lt_nil _)
    | cons d right =>
      rw [List.flatMap_cons, List.flatMap_cons]
      rcases List.cons_lt_cons_iff.mp less with first | ⟨rfl, later⟩
      · exact utf8EncodeChar_append_lt first _ _
      · exact List.append_left_lt (ih later)

/-- Texts have the order of their bytes. -/
theorem bytes_lt_iff {first second : String} : bytes first < bytes second ↔ first < second := by
  have mono {a b : String} (less : a < b) : bytes a < bytes b := by
    rw [bytes_eq_flatMap, bytes_eq_flatMap]
    exact flatMap_utf8EncodeChar_lt (String.lt_iff.mp less)
  refine ⟨fun less => ?_, mono⟩
  by_cases before : first < second
  · exact before
  by_cases same : second = first
  · subst same
    exact absurd less (List.lt_irrefl _)
  · have after := Std.lt_of_le_of_ne (String.not_lt.mp before) same
    exact absurd less (List.lt_asymm (mono after))

end GeoSearch.Text
