import GeoSearch.Proofs.Binary64.Nearest
/-!
What rounding keeps. A significand of 53 bits at a scale in range is a number as it stands. What is
longer is rounded, but never below a number that it is not less than.
-/
namespace GeoSearch.Binary64

open Float.Model (UnpackedFloat Format totalExponent)
open Float.Model.UnpackedFloat (Sign ExtendedMantissa shiftToTargetExponent shiftToExponent)

structure Proper (m : Nat) (e : Int) : Prop where
  short : m < 2 ^ 53
  least : -1074 ≤ e
  full : 2 ^ 52 ≤ m ∨ e = -1074

variable {m : Nat} {e : Int}

/-! ### Shifts -/

/-- The scale that rounding brings a significand to. -/
theorem targetExponent_eq (m : Nat) (e : Int) :
    Format.binary64.targetExponent (totalExponent m e) = max ((m.log2 : Int) + e - 52) (-1074) := by
  simp only [Format.targetExponent, totalExponent, Format.mantissaBits, Format.minExponent]
  omega

theorem mantissa_shift (em : ExtendedMantissa) (k : Nat) :
    (em >>> k).mantissa = em.mantissa / 2 ^ k := by
  induction k with
  | zero => exact (Nat.div_one _).symm
  | succ k ih =>
    have step : (em >>> (k + 1)).mantissa = (em >>> k).mantissa / 2 := rfl
    rw [step, ih, Nat.div_div_eq_div_mul, Nat.pow_succ]

/-- Rounding takes a significand as it is or one higher. -/
theorem mantissa_le_rounded (em : ExtendedMantissa) :
    em.mantissa ≤ em.roundedMantissa ∧ em.roundedMantissa ≤ em.mantissa + 1 := by
  obtain ⟨m, round, sticky⟩ := em
  have parity : m % 2 ≤ 1 := Nat.le_of_lt_succ (Nat.mod_lt m (by decide))
  cases round <;> cases sticky <;>
    simp [ExtendedMantissa.roundedMantissa, ExtendedMantissa.accuracy,
      UnpackedFloat.Accuracy.roundToNearestEven, parity]

/-- A significand that fits is not shifted. -/
theorem shift_of_le (fits : max ((m.log2 : Int) + e - 52) (-1074) ≤ e) :
    shiftToTargetExponent .binary64 m e .exact = (⟨m, false, false⟩, e) := by
  have still : (max ((m.log2 : Int) + e - 52) (-1074) - e).toNat = 0 := by omega
  rw [shiftToTargetExponent, targetExponent_eq, shiftToExponent, still]
  simp [ExtendedMantissa.ofMantissaAndAccuracy, HShiftRight.hShiftRight, Nat.repeat]

/-! ### Rounding -/

theorem log2_mul_two_pow (positive : 0 < m) (k : Nat) : (m * 2 ^ k).log2 = m.log2 + k := by
  have scaled : 0 < m * 2 ^ k := Nat.mul_pos positive (Nat.two_pow_pos k)
  rw [Nat.log2_eq_iff scaled.ne', Nat.pow_add, Nat.add_right_comm, Nat.pow_add]
  exact ⟨Nat.mul_le_mul_right _ (Nat.log2_self_le positive.ne'),
    Nat.mul_lt_mul_of_pos_right Nat.lt_log2_self (Nat.two_pow_pos k)⟩

/-- The steps of rounding: to the scale, to a whole significand, and once more where that carried. -/
theorem round_eq (s : Sign) (m : Nat) (e : Int) :
    UnpackedFloat.round .binary64 s m e =
      let t := max ((m.log2 : Int) + e - 52) (-1074)
      UnpackedFloat.roundWithAccuracy .binary64 s (m * 2 ^ (e - t).toNat) (e - (e - t).toNat) .exact := by
  rw [UnpackedFloat.round, targetExponent_eq, UnpackedFloat.decreaseExponent, Nat.shiftLeft_eq]

/-- A significand at its scale is not rounded. -/
theorem roundWithAccuracy_of_le (s : Sign) (positive : 0 < m)
    (fits : max ((m.log2 : Int) + e - 52) (-1074) ≤ e) :
    UnpackedFloat.roundWithAccuracy .binary64 s m e .exact = .finite s m e positive := by
  have whole : ExtendedMantissa.roundedMantissa ⟨m, false, false⟩ = m := rfl
  rw [UnpackedFloat.roundWithAccuracy, shift_of_le fits]
  dsimp only
  rw [whole, shift_of_le fits]
  exact dif_neg positive.ne'

/-- A significand that is not too long keeps its value. -/
theorem round_of_le (s : Sign) (positive : 0 < m)
    (fits : max ((m.log2 : Int) + e - 52) (-1074) ≤ e) :
    ∃ n f some, UnpackedFloat.round .binary64 s m e = .finite s n f some ∧ Proper n f ∧ f ≤ e ∧
      (n : Rat) * 2 ^ f = m * 2 ^ e := by
  generalize scale : max ((m.log2 : Int) + e - 52) (-1074) = t at fits
  obtain ⟨k, rfl⟩ : ∃ k : Nat, e = t + k := ⟨(e - t).toNat, by omega⟩
  have some : 0 < m * 2 ^ k := Nat.mul_pos positive (Nat.two_pow_pos k)
  have order := log2_mul_two_pow positive k
  have settled : max (((m * 2 ^ k).log2 : Int) + t - 52) (-1074) ≤ t := by
    rw [order]
    omega
  have rounded : UnpackedFloat.round .binary64 s m (t + k) = .finite s (m * 2 ^ k) t some := by
    rw [round_eq, scale]
    dsimp only
    rw [add_sub_cancel_left, Int.toNat_natCast, add_sub_cancel_right]
    exact roundWithAccuracy_of_le s some settled
  refine ⟨_, _, some, rounded, ⟨?_, by omega, ?_⟩, by omega, ?_⟩
  · rw [← Nat.log2_lt some.ne']
    omega
  · by_cases least : t = -1074
    · exact .inr least
    · have full : (m * 2 ^ k).log2 = 52 := by omega
      exact .inl ((Nat.log2_eq_iff some.ne').mp full).1
  · rw [zpow_add₀ (by norm_num), zpow_natCast]
    push_cast
    ring

/-- A significand that was rounded up to one bit more is shifted once. -/
theorem shift_of_carry {f : Int} (least : -1074 ≤ f) :
    shiftToTargetExponent .binary64 (2 ^ 53) f .exact = (⟨2 ^ 52, false, false⟩, f + 1) := by
  have order : (2 ^ 53 : Nat).log2 = 53 := Nat.log2_two_pow
  have once : (max ((53 : Nat) + f - 52) (-1074) - f).toNat = 1 := by omega
  rw [shiftToTargetExponent, targetExponent_eq, order, shiftToExponent, once]
  rfl

/-- A full significand, also one that was rounded up, is shifted to a full one. -/
theorem shift_of_full {n : Nat} {f : Int} (low : 2 ^ 52 ≤ n) (high : n ≤ 2 ^ 53) (least : -1074 ≤ f) :
    ∃ em g, shiftToTargetExponent .binary64 n f .exact = (em, g) ∧ Proper em.mantissa g ∧
      2 ^ 52 ≤ em.mantissa ∧ (em.mantissa : Rat) * 2 ^ g = n * 2 ^ f := by
  rcases high.lt_or_eq with short | rfl
  · have order : n.log2 = 52 := (Nat.log2_eq_iff (by omega)).mpr ⟨low, short⟩
    exact ⟨_, f, shift_of_le (by omega), ⟨short, least, .inl low⟩, low, rfl⟩
  · refine ⟨⟨2 ^ 52, false, false⟩, f + 1, shift_of_carry least, ⟨by decide, by omega, .inl le_rfl⟩,
      le_rfl, ?_⟩
    rw [zpow_add_one₀ (by norm_num)]
    push_cast
    ring

/-- A longer significand has 53 bits before those that it is to lose. -/
theorem div_of_long {k : Nat} (order : m.log2 = 52 + k) : 2 ^ 52 ≤ m / 2 ^ k ∧ m / 2 ^ k < 2 ^ 53 := by
  have positive : m ≠ 0 := by
    rintro rfl
    rw [Nat.log2_zero] at order
    omega
  obtain ⟨below, above⟩ := (Nat.log2_eq_iff positive).mp order
  rw [Nat.le_div_iff_mul_le (Nat.two_pow_pos k), Nat.div_lt_iff_lt_mul (Nat.two_pow_pos k),
    ← Nat.pow_add, ← Nat.pow_add]
  exact ⟨below, above.trans_eq (congrArg (2 ^ ·) (by omega))⟩

/-- A longer significand loses its last bits, and may then be rounded up. -/
theorem round_of_long (s : Sign) (least : -1074 ≤ e) {k : Nat} (order : m.log2 = 52 + k) :
    ∃ n f some, UnpackedFloat.round .binary64 s m e = .finite s n f some ∧ Proper n f ∧
      ((m / 2 ^ k : Nat) : Rat) * 2 ^ (e + k) ≤ n * 2 ^ f := by
  obtain ⟨low, high⟩ := div_of_long order
  have scale : max ((m.log2 : Int) + e - 52) (-1074) = e + k := by omega
  have first : shiftToTargetExponent .binary64 m e .exact =
      ((⟨m, false, false⟩ : ExtendedMantissa) >>> k, e + k) := by
    rw [shiftToTargetExponent, targetExponent_eq, scale, shiftToExponent, add_sub_cancel_left,
      Int.toNat_natCast]
    rfl
  generalize shifted : (⟨m, false, false⟩ : ExtendedMantissa) >>> k = em at first
  have mantissa : em.mantissa = m / 2 ^ k := by rw [← shifted, mantissa_shift]
  obtain ⟨up, most⟩ := mantissa_le_rounded em
  obtain ⟨carried, g, second, proper, full, value⟩ :=
    shift_of_full (n := em.roundedMantissa) (f := e + k) (by omega) (by omega) (by omega)
  have some : 0 < carried.mantissa := by omega
  have start : (e - (e + (k : Int))).toNat = 0 := by omega
  refine ⟨carried.mantissa, g, some, ?_, proper, ?_⟩
  · rw [round_eq, scale]
    dsimp only
    rw [start, Nat.pow_zero, Nat.mul_one, Int.natCast_zero, sub_zero, UnpackedFloat.roundWithAccuracy,
      first]
    dsimp only
    rw [second]
    exact dif_neg some.ne'
  · rw [value]
    have least : ((m / 2 ^ k : Nat) : Rat) ≤ em.roundedMantissa := by
      exact_mod_cast mantissa ▸ up
    gcongr

/-! ### Rounded numbers -/

theorem bits_pack (u : UnpackedFloat) :
    (Float.ofModel (.pack u)).toModel.toBits.toBitVec = UnpackedFloat.pack .binary64 u := rfl

/-- The fields of a number with known bits. -/
theorem fields_of_components {x : Float} {s : Sign} {exponent : BitVec 11} {fraction : BitVec 52}
    (bits : x.toModel.toBits.toBitVec = UnpackedFloat.packComponents .binary64 s exponent fraction) :
    exponentField x = exponent.toNat ∧ fractionField x = fraction.toNat ∧ sign x = s := by
  rw [← unpackExponent_eq, ← unpackMantissa_eq, ← unpackSign_eq, bits,
    UnpackedFloat.unpackExponent_packComponents, UnpackedFloat.unpackMantissa_packComponents,
    UnpackedFloat.unpackSign_packComponents]
  exact ⟨rfl, rfl, by cases s <;> rfl⟩

theorem pack_of_fits (s : Sign) (some : 0 < m) (least : -1074 ≤ e) (fits : e ≤ 971) :
    UnpackedFloat.pack .binary64 (.finite s m e some) =
      UnpackedFloat.packComponents .binary64 s
        (if m.log2 = 52 then BitVec.ofNat 11 (e + 1075).toNat else 0) (BitVec.ofNat 52 m) := by
  have biased : e + (Format.binary64.exponentBias : Nat) + (52 : Nat) = e + 1075 := by
    have bias : Format.binary64.exponentBias = 1023 := rfl
    omega
  have small : ¬ 2 ^ 11 ≤ (e + 1075).toNat + 1 := by omega
  have bits : Format.binary64.mantissaBits = 53 := rfl
  rw [UnpackedFloat.pack]
  simp only [biased, bits, small, if_false, Nat.reduceEqDiff]
  split <;> rfl

/-- A rounded number that is not too large. -/
theorem value_pack (s : Sign) (proper : Proper m e) (some : 0 < m) (fits : e ≤ 971) :
    (Float.ofModel (.pack (.finite s m e some))).isFinite = true ∧
      value (.ofModel (.pack (.finite s m e some))) = s.apply m * (2 : Rat) ^ e := by
  obtain ⟨short, least, full⟩ := proper
  have packed := pack_of_fits s some least fits
  generalize number : Float.ofModel (.pack (.finite s m e some)) = x
  have bits : x.toModel.toBits.toBitVec = UnpackedFloat.pack .binary64 (.finite s m e some) := by
    rw [← number, bits_pack]
  rw [packed] at bits
  obtain ⟨exponent, fraction, signed⟩ := fields_of_components bits
  rw [BitVec.toNat_ofNat] at fraction
  have fields : significand x = m ∧ scale x = e ∧ exponentField x < 2047 := by
    by_cases normal : m.log2 = 52
    · have low := ((Nat.log2_eq_iff some.ne').mp normal).1
      rw [if_pos normal, BitVec.toNat_ofNat] at exponent
      have nonzero : exponentField x ≠ 0 := by omega
      rw [significand, scale, if_neg nonzero, if_neg nonzero]
      omega
    · have below : m.log2 < 52 := by
        have := (Nat.log2_lt some.ne').mpr short
        omega
      have subnormal := (Nat.log2_lt some.ne').mp below
      rw [if_neg normal] at exponent
      have zero : exponentField x = 0 := exponent
      rw [significand, scale, if_pos zero, if_pos zero]
      omega
  obtain ⟨significand, scale, small⟩ := fields
  refine ⟨(finite_iff x).mpr small, ?_⟩
  rw [value_eq, signed, magnitude_eq, significand, scale]
  cases s <;> simp [Sign.apply]

/-- What is too large is packed as infinity. -/
theorem pack_of_large (s : Sign) (some : 0 < m) (large : 971 < e) :
    UnpackedFloat.pack .binary64 (.finite s m e some) =
      UnpackedFloat.packComponents .binary64 s (-1#11) 0 := by
  have biased : e + (Format.binary64.exponentBias : Nat) + (52 : Nat) = e + 1075 := by
    have bias : Format.binary64.exponentBias = 1023 := rfl
    omega
  have beyond : 2 ^ 11 ≤ (e + 1075).toNat + 1 := by omega
  rw [UnpackedFloat.pack]
  simp only [biased, beyond, if_true]
  rfl

/-- Every number is at most a rounded one that is too large. -/
theorem le_pack_of_large {z : Float} (finite : z.isFinite = true) (some : 0 < m) (large : 971 < e) :
    z ≤ Float.ofModel (.pack (.finite .positive m e some)) := by
  have unpacked : (Float.ofModel (.pack (.finite .positive m e some))).toModel.unpack =
      .infinity .positive := by
    rw [Float.Model.unpack, bits_pack, pack_of_large .positive some large]
    rfl
  have model : z ≤ Float.ofModel (.pack (.finite .positive m e some)) ↔
      (z.toModel.unpack.compare
        (Float.ofModel (.pack (.finite .positive m e some))).toModel.unpack).any (·.isLE) = true :=
    decide_eq_true_iff
  rw [model, unpacked]
  rcases unpack_finite finite with ⟨-, number⟩ | ⟨_, number⟩ <;> rw [number] <;> rfl

end GeoSearch.Binary64
