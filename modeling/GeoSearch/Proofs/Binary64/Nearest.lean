import GeoSearch.Proofs.Binary64.Order
/-!
The number nearest to a rational that is a number's value is that number. So a remainder whose dividend
is the smaller one is the dividend.
-/
namespace GeoSearch.Binary64

open Float.Model (UnpackedFloat)
open Float.Model.UnpackedFloat (Sign)

variable {x y : Float}

/-! ### Signs -/

def resigned (t : Sign) : UnpackedFloat → UnpackedFloat
  | .zero _ => .zero t
  | .finite _ m e positive => .finite t m e positive
  | other => other

/-- The fields of a packed number, its sign apart. -/
theorem pack_resigned (t : Sign) (u : UnpackedFloat) :
    UnpackedFloat.unpackExponent (UnpackedFloat.pack .binary64 (resigned t u)) =
        UnpackedFloat.unpackExponent (UnpackedFloat.pack .binary64 u) ∧
      UnpackedFloat.unpackMantissa (UnpackedFloat.pack .binary64 (resigned t u)) =
        UnpackedFloat.unpackMantissa (UnpackedFloat.pack .binary64 u) := by
  cases u with
  | notANumber => exact ⟨rfl, rfl⟩
  | infinity s => exact ⟨rfl, rfl⟩
  | zero s => simp [resigned, UnpackedFloat.pack, UnpackedFloat.packedZero]
  | finite s m e positive =>
    simp only [resigned, UnpackedFloat.pack, UnpackedFloat.packedInfinity]
    split
    · simp
    · split <;> simp

theorem unpackSign_resigned (t : Sign) {u : UnpackedFloat} (finite : u.isFinite = true) :
    UnpackedFloat.unpackSign (UnpackedFloat.pack .binary64 (resigned t u)) = t.toBitVec := by
  cases u with
  | notANumber => cases finite
  | infinity s => cases finite
  | zero s => simp [resigned, UnpackedFloat.pack, UnpackedFloat.packedZero]
  | finite s m e positive =>
    simp only [resigned, UnpackedFloat.pack, UnpackedFloat.packedInfinity]
    split
    · simp
    · split <;> simp

def withSign (t : Sign) (x : Float) : Float := .ofModel (.pack (resigned t x.toModel.unpack))

theorem pack_unpack (x : Float) :
    UnpackedFloat.pack .binary64 x.toModel.unpack = x.toModel.toBits.toBitVec :=
  UnpackedFloat.pack_unpack_of_valid x.toModel.valid

theorem exponentField_withSign (t : Sign) (x : Float) :
    exponentField (withSign t x) = exponentField x := by
  rw [← unpackExponent_eq, ← unpackExponent_eq]
  refine congrArg BitVec.toNat ?_
  rw [← pack_unpack x]
  exact (pack_resigned t x.toModel.unpack).1

theorem fractionField_withSign (t : Sign) (x : Float) :
    fractionField (withSign t x) = fractionField x := by
  rw [← unpackMantissa_eq, ← unpackMantissa_eq]
  refine congrArg BitVec.toNat ?_
  rw [← pack_unpack x]
  exact (pack_resigned t x.toModel.unpack).2

theorem sign_withSign (t : Sign) (finite : x.isFinite = true) : sign (withSign t x) = t := by
  rw [← unpackSign_eq]
  have bit := unpackSign_resigned t (u := x.toModel.unpack) finite
  refine (congrArg Sign.ofBitVec bit).trans ?_
  cases t <;> rfl

theorem neg_eq (finite : x.isFinite = true) : -x = withSign (-sign x) x := by
  have model : -x = .ofModel (.pack x.toModel.unpack.neg) := rfl
  rw [model, withSign]
  rcases unpack_finite finite with ⟨-, unpacked⟩ | ⟨_, unpacked⟩ <;> rw [unpacked] <;> rfl

theorem abs_eq (finite : x.isFinite = true) : x.abs = withSign .positive x := by
  have model : x.abs = .ofModel (.pack x.toModel.unpack.abs) := rfl
  rw [model, withSign]
  rcases unpack_finite finite with ⟨-, unpacked⟩ | ⟨_, unpacked⟩ <;> rw [unpacked] <;> rfl

theorem finite_iff (x : Float) : x.isFinite = true ↔ exponentField x < 2047 := by
  have model : x.isFinite = x.toModel.unpack.isFinite := rfl
  have small : exponentField x < 2 ^ 11 := by
    rw [exponentField_eq]
    exact Nat.mod_lt _ (by decide)
  rw [model]
  unfold Float.Model.unpack UnpackedFloat.unpack
  dsimp only
  split
  · next greatest =>
    have exponent : exponentField x = 2047 := by
      rw [← unpackExponent_eq, greatest]
      rfl
    constructor
    · intro finite
      split at finite <;> cases finite
    · omega
  · next inner =>
    constructor
    · intro _
      by_contra large
      refine inner (BitVec.eq_of_toNat_eq ?_)
      rw [unpackExponent_eq]
      change exponentField x = 2047
      omega
    · intro _
      split
      · split <;> rfl
      · rfl

theorem finite_withSign (t : Sign) (finite : x.isFinite = true) : (withSign t x).isFinite = true := by
  rw [finite_iff] at finite ⊢
  rwa [exponentField_withSign]

theorem negative_withSign (t : Sign) (finite : x.isFinite = true) :
    negative (withSign t x) = (t == .negative) := by
  have signed := sign_withSign t finite
  unfold sign at signed
  cases t with
  | negative =>
    split at signed
    · next negative => exact negative
    · cases signed
  | positive =>
    split at signed
    · cases signed
    · next plain => exact Bool.eq_false_of_not_eq_true plain

theorem withSign_withSign (s t : Sign) (finite : x.isFinite = true) :
    withSign s (withSign t x) = withSign s x := by
  apply eq_of_fields
  · rw [negative_withSign s (finite_withSign t finite), negative_withSign s finite]
  · rw [exponentField_withSign, exponentField_withSign, exponentField_withSign]
  · rw [fractionField_withSign, fractionField_withSign, fractionField_withSign]

theorem withSign_sign (finite : x.isFinite = true) : withSign (sign x) x = x := by
  apply eq_of_fields
  · rw [negative_withSign _ finite, sign]
    split
    · next negative => exact negative.symm
    · next plain => exact (Bool.eq_false_of_not_eq_true plain).symm
  · exact exponentField_withSign _ x
  · exact fractionField_withSign _ x

/-- A magnitude with the sign of the number is the number. -/
theorem copySign_abs (finite : x.isFinite = true) : copySign x.abs x = x := by
  have signed := withSign_sign finite
  have bare := finite_withSign .positive finite
  unfold sign at signed
  rw [copySign, abs_eq finite, abs_eq bare, withSign_withSign _ _ finite]
  split at signed
  · next negative =>
    rw [if_pos negative, neg_eq bare, sign_withSign _ finite, withSign_withSign _ _ finite]
    exact signed
  · next plain =>
    rw [if_neg plain]
    exact signed

/-! ### The nearest number -/

theorem toBits_abs (finite : x.isFinite = true) :
    x.abs.toBits = UInt64.ofNat (exponentField x * 2 ^ 52 + fractionField x) := by
  have positive : negative x.abs = false := by
    rw [abs_eq finite, negative_withSign _ finite]
    rfl
  have exponent := exponentField_withSign .positive x
  have fraction := fractionField_withSign .positive x
  rw [← abs_eq finite, exponentField_eq] at exponent
  rw [← abs_eq finite, fractionField_eq] at fraction
  rw [negative_eq, beq_eq_false_iff_ne] at positive
  have bits := x.abs.toBits.toNat_lt
  rw [← UInt64.toNat_inj, UInt64.toNat_ofNat']
  omega

/-- A positive rational lies between the power of two of its order and the next one. -/
theorem binaryOrder_spec {r : Rat} (positive : 0 < r) :
    (2 : Rat) ^ binaryOrder r ≤ r ∧ r < 2 ^ (binaryOrder r + 1) := by
  have num : 0 < r.num.natAbs := Int.natAbs_pos.mpr (Rat.num_ne_zero.mpr positive.ne')
  have den : (0 : Rat) < r.den := Nat.cast_pos.mpr r.den_pos
  have parts : r = r.num.natAbs / r.den := by
    rw [Nat.cast_natAbs, abs_of_pos (Rat.num_pos.mpr positive)]
    exact (Rat.num_div_den r).symm
  have numLow : (2 : Rat) ^ (r.num.natAbs.log2 : Int) ≤ r.num.natAbs := by
    exact_mod_cast Nat.log2_self_le num.ne'
  have numHigh : (r.num.natAbs : Rat) < 2 ^ ((r.num.natAbs.log2 : Int) + 1) := by
    exact_mod_cast Nat.lt_log2_self
  have denLow : (2 : Rat) ^ (r.den.log2 : Int) ≤ r.den := by
    exact_mod_cast Nat.log2_self_le r.den_pos.ne'
  have denHigh : (r.den : Rat) < 2 ^ ((r.den.log2 : Int) + 1) := by
    exact_mod_cast Nat.lt_log2_self
  generalize guessed : (r.num.natAbs.log2 : Int) - r.den.log2 = guess
  have above : r < 2 ^ (guess + 1) := by
    rw [parts, div_lt_iff₀ den]
    calc (r.num.natAbs : Rat) < 2 ^ ((r.num.natAbs.log2 : Int) + 1) := numHigh
      _ = 2 ^ (guess + 1) * 2 ^ (r.den.log2 : Int) := by
        rw [← zpow_add₀ (by norm_num)]
        congr 1
        omega
      _ ≤ 2 ^ (guess + 1) * r.den := by gcongr
  have below : (2 : Rat) ^ (guess - 1) ≤ r := by
    rw [parts, le_div_iff₀ den]
    calc (2 : Rat) ^ (guess - 1) * r.den ≤ 2 ^ (guess - 1) * 2 ^ ((r.den.log2 : Int) + 1) := by gcongr
      _ = 2 ^ (r.num.natAbs.log2 : Int) := by
        rw [← zpow_add₀ (by norm_num)]
        congr 1
        omega
      _ ≤ r.num.natAbs := numLow
  rw [binaryOrder, guessed]
  split
  · next reached =>
    rw [twoPow_eq] at reached
    exact ⟨reached, above⟩
  · next missed =>
    rw [twoPow_eq, not_le] at missed
    rw [sub_add_cancel]
    exact ⟨below, missed⟩

theorem binaryOrder_eq {r : Rat} {e : Int} (below : (2 : Rat) ^ e ≤ r) (above : r < 2 ^ (e + 1)) :
    binaryOrder r = e := by
  obtain ⟨low, high⟩ := binaryOrder_spec (lt_of_lt_of_le (zpow_pos (by norm_num) _) below)
  have first := (zpow_lt_zpow_iff_right₀ (a := (2 : Rat)) (by norm_num)).mp (lt_of_le_of_lt low above)
  have second := (zpow_lt_zpow_iff_right₀ (a := (2 : Rat)) (by norm_num)).mp (lt_of_le_of_lt below high)
  omega

theorem roundHalfEven_natCast (n : Nat) : roundHalfEven n = n := by
  have half : (0 : Rat) < mkRat 1 2 := by decide +kernel
  have floor : (n : Rat).floor = n := by rw [← Int.cast_natCast, Rat.floor_intCast]
  rw [roundHalfEven, floor, Int.cast_natCast, sub_self, if_pos half]

/-- The bits of a magnitude are its exponent and its fraction. -/
theorem magnitudeBits_magnitude (finite : x.isFinite = true) (nonzero : 0 < significand x) :
    magnitudeBits (magnitude x) = exponentField x * 2 ^ 52 + fractionField x := by
  have unit : (0 : Rat) < 2 ^ scale x := zpow_pos (by norm_num) _
  have order : binaryOrder (magnitude x) = (significand x).log2 + scale x := by
    have low : (2 : Rat) ^ ((significand x).log2 : Int) ≤ significand x := by
      exact_mod_cast Nat.log2_self_le nonzero.ne'
    have high : (significand x : Rat) < 2 ^ ((significand x).log2 + 1 : Int) := by
      exact_mod_cast Nat.lt_log2_self
    apply binaryOrder_eq
    · rw [magnitude_eq, zpow_add₀ (by norm_num)]
      gcongr
    · rw [magnitude_eq, add_right_comm, zpow_add₀ (by norm_num)]
      gcongr
  have exact : magnitude x / twoPow (scale x) = significand x := by
    rw [twoPow_eq, magnitude_eq, mul_div_cancel_right₀ _ unit.ne']
  -- the unit that rounding chooses is the number's own, so that nothing is left to round
  have chosen : max (binaryOrder (magnitude x) - 52) (-1074) = scale x := by
    rw [order]
    by_cases zero : exponentField x = 0
    · have short : (significand x).log2 < 52 := by
        rw [Nat.log2_lt nonzero.ne', significand, if_pos zero]
        exact fractionField_lt x
      rw [scale, if_pos zero]
      omega
    · have full : (significand x).log2 = 52 := by
        have fraction := fractionField_lt x
        rw [Nat.log2_eq_iff nonzero.ne', significand, if_neg zero]
        omega
      rw [full, scale, if_neg zero]
      omega
  have small := (finite_iff x).mp finite
  have fraction := fractionField_lt x
  rw [magnitudeBits, chosen, exact, roundHalfEven_natCast, Int.toNat_natCast]
  unfold scale significand
  split <;> omega

/-- The number nearest to a magnitude has that magnitude. -/
theorem nearest_magnitude (finite : x.isFinite = true) : nearest (magnitude x) = x.abs := by
  rcases Nat.eq_zero_or_pos (significand x) with zero | nonzero
  · have fields : exponentField x = 0 ∧ fractionField x = 0 := by
      unfold significand at zero
      split at zero <;> omega
    have bits := toBits_abs finite
    rw [fields.1, fields.2] at bits
    rw [magnitude_zero zero, ← Float.ofBits_toBits x.abs, bits]
    rfl
  · have positive := magnitude_pos nonzero
    rw [nearest, if_neg positive.ne', if_neg (not_lt.mpr positive.le),
      magnitudeBits_magnitude finite nonzero, ← toBits_abs finite, Float.ofBits_toBits]

theorem bne_zero (positive : 0 < magnitude x) : (x != 0.0) = true := by
  refine Bool.not_eq_eq_eq_not.mpr (Bool.eq_false_of_not_eq_true fun zero => ?_)
  obtain ⟨exponent, fraction⟩ := (beq_zero_iff x).mp zero
  rw [magnitude_zero (by rw [significand, if_pos exponent, fraction])] at positive
  exact lt_irrefl 0 positive

/-- A number that is divided by a larger one is its own remainder. -/
theorem remainder_of_lt (left : x.isFinite = true) (right : y.isFinite = true)
    (less : magnitude x < magnitude y) : remainder x y = x := by
  have positive : 0 < magnitude y := (magnitude_nonneg x).trans_lt less
  have quotient : (magnitude x / magnitude y).floor = 0 := by
    apply le_antisymm
    · rw [← Int.lt_add_one_iff, Rat.floor_lt_iff, div_lt_iff₀ positive]
      simpa using less
    · rw [Rat.le_floor_iff]
      exact div_nonneg (magnitude_nonneg x) positive.le
  rw [remainder, left, right, bne_zero positive]
  simp only [Bool.and_self, if_true, quotient, Int.cast_zero, mul_zero, sub_zero]
  rw [nearest_magnitude left, copySign_abs left]

end GeoSearch.Binary64
