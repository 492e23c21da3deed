import Mathlib.Tactic.Ring
import ScriptBridge.Number.Double

/-!
# Singles among the doubles

Every magnitude of a single is the magnitude of a double, for a double has more
significant bits and a wider range of exponents.  So widening a single is exact,
and rounding back gives the same single, bit for bit.  What is not a number
keeps the bits of its fraction on both ways.
-/

namespace ScriptBridge

theorem nearestQuotient_mul (n : Nat) {d : Nat} (hd : 0 < d) :
    nearestQuotient (n * d) d = n := by
  unfold nearestQuotient
  dsimp only
  rw [Nat.mul_mod_left, Nat.mul_zero, if_pos hd, Nat.mul_div_cancel n hd]

namespace BinaryFormat

variable {format : BinaryFormat}

/-!
## The magnitudes of a format
-/

theorem leading_eq (format : BinaryFormat) :
    format.leading = 2 ^ (format.precision - 1) :=
  Nat.one_shiftLeft (format.precision - 1)

theorem leading_pos (format : BinaryFormat) : 0 < format.leading := by
  rw [leading_eq]
  exact Nat.two_pow_pos _

theorem units_of_lt {code : Nat} (h : code < format.leading) :
    format.units code = code := by
  unfold units
  dsimp only
  rw [if_pos (Nat.div_eq_of_lt h), Nat.mod_eq_of_lt h]

theorem units_of_significand (place : Nat) {significand : Nat}
    (hlow : format.leading ≤ significand)
    (hhigh : significand < 2 * format.leading) :
    format.units (place * format.leading + significand) =
      significand * 2 ^ place := by
  have hpos := format.leading_pos
  obtain ⟨fraction, rfl⟩ := Nat.exists_eq_add_of_le hlow
  have hfraction : fraction < format.leading := by omega
  have hcode : place * format.leading + (format.leading + fraction) =
      fraction + (place + 1) * format.leading := by
    ring
  have hdiv : (fraction + (place + 1) * format.leading) / format.leading =
      place + 1 := by
    rw [Nat.add_mul_div_right _ _ hpos, Nat.div_eq_of_lt hfraction,
      Nat.zero_add]
  have hmod : (fraction + (place + 1) * format.leading) % format.leading =
      fraction := by
    rw [Nat.add_mul_mod_self_right, Nat.mod_eq_of_lt hfraction]
  unfold units BinaryFormat.place
  dsimp only
  rw [hcode, hdiv, hmod, if_neg (Nat.succ_ne_zero place),
    Nat.add_sub_cancel, Nat.shiftLeft_eq]

theorem code_cases (format : BinaryFormat) (code : Nat) :
    code < format.leading ∨
    exists place significand, format.leading ≤ significand ∧
      significand < 2 * format.leading ∧
      code = place * format.leading + significand := by
  have hpos := format.leading_pos
  rcases Nat.lt_or_ge code format.leading with hsmall | hlarge
  · exact Or.inl hsmall
  · have hmod := Nat.mod_lt code hpos
    have hdiv : 0 < code / format.leading := Nat.div_pos hlarge hpos
    obtain ⟨place, hplace⟩ : exists place,
        code / format.leading = place + 1 :=
      ⟨_, (Nat.sub_add_cancel hdiv).symm⟩
    refine Or.inr ⟨place, format.leading + code % format.leading,
      Nat.le_add_right _ _, by omega, ?_⟩
    calc
      code = code / format.leading * format.leading +
          code % format.leading := (Nat.div_add_mod' _ _).symm
      _ = place * format.leading +
          (format.leading + code % format.leading) := by
        rw [hplace]
        ring

/-- A number of few significant bits is the magnitude of a code, if it is not too large. -/
theorem exists_units_eq {significand place : Nat}
    (hsignificand : significand < 2 * format.leading)
    (hplace : place + 2 ≤ 1 <<< format.exponentWidth - 1) :
    exists code, code < format.infinity ∧
      format.units code = significand * 2 ^ place := by
  have hpos := format.leading_pos
  induction place generalizing significand with
  | zero =>
      have hinfinity : 2 * format.leading ≤ format.infinity :=
        Nat.mul_le_mul_right _ hplace
      refine ⟨significand, by omega, ?_⟩
      rcases Nat.lt_or_ge significand format.leading with hsmall | hlarge
      · rw [units_of_lt hsmall, Nat.pow_zero, Nat.mul_one]
      · have h := units_of_significand 0 hlarge hsignificand
        rwa [Nat.zero_mul, Nat.zero_add] at h
  | succ place ih =>
      rcases Nat.lt_or_ge significand format.leading with hsmall | hlarge
      · have hdoubled : 2 * significand < 2 * format.leading := by omega
        rcases ih hdoubled (by omega) with ⟨code, hcode, hunits⟩
        refine ⟨code, hcode, ?_⟩
        rw [hunits, Nat.pow_succ]
        ring
      · refine ⟨(place + 1) * format.leading + significand, ?_,
          units_of_significand (place + 1) hlarge hsignificand⟩
        calc
          (place + 1) * format.leading + significand <
              (place + 1) * format.leading + 2 * format.leading :=
            Nat.add_lt_add_left hsignificand _
          _ = (place + 1 + 2) * format.leading := by ring
          _ ≤ format.infinity := Nat.mul_le_mul_right _ hplace

/-!
## Exact rounding
-/

theorem place_of_lt {code : Nat} (hprecision : 0 < format.precision)
    (h : code < format.leading) :
    code.log2 + 1 - format.precision = 0 := by
  rcases Nat.eq_zero_or_pos code with rfl | hpos
  · rw [Nat.log2_zero]
    omega
  · rw [leading_eq] at h
    have hlog := (Nat.log2_lt (Nat.ne_of_gt hpos)).mpr h
    omega

theorem place_of_significand {significand : Nat} (place : Nat)
    (hprecision : 0 < format.precision)
    (hlow : format.leading ≤ significand)
    (hhigh : significand < 2 * format.leading) :
    (significand * 2 ^ place).log2 + 1 - format.precision = place := by
  rw [leading_eq] at hlow hhigh
  have hpow : 0 < 2 ^ place := Nat.two_pow_pos place
  have hfirst : 0 < 2 ^ (format.precision - 1) := Nat.two_pow_pos _
  have hlog : (significand * 2 ^ place).log2 =
      format.precision - 1 + place := by
    apply (Nat.log2_eq_iff (Nat.ne_of_gt (Nat.mul_pos (by omega) hpow))).mpr
    constructor
    · rw [Nat.pow_add]
      exact Nat.mul_le_mul_right _ hlow
    · rw [Nat.add_right_comm, Nat.pow_add, Nat.pow_succ, Nat.mul_comm _ 2]
      exact Nat.mul_lt_mul_of_pos_right hhigh hpow
  omega

theorem round_of_units {num den code : Nat}
    (hprecision : 0 < format.precision) (hden : 0 < den)
    (hfinite : code < format.infinity)
    (h : num <<< format.scale = format.units code * den) :
    format.round num den = code := by
  have hmin : min code format.infinity = code :=
    Nat.min_eq_left (Nat.le_of_lt hfinite)
  unfold round
  dsimp only
  rw [h, Nat.mul_div_cancel _ hden]
  rcases format.code_cases code with hsmall |
    ⟨place, significand, hlow, hhigh, rfl⟩
  · rw [units_of_lt hsmall, place_of_lt hprecision hsmall, Nat.shiftLeft_zero,
      nearestQuotient_mul code hden, Nat.zero_mul, Nat.zero_add, hmin]
  · have hexact : significand * 2 ^ place * den =
        significand * (den <<< place) := by
      rw [Nat.shiftLeft_eq]
      ring
    have hstep : 0 < den <<< place := by
      rw [Nat.shiftLeft_eq]
      exact Nat.mul_pos hden (Nat.two_pow_pos place)
    rw [units_of_significand place hlow hhigh,
      place_of_significand place hprecision hlow hhigh, hexact,
      nearestQuotient_mul significand hstep, hmin]

theorem exists_double_units {code : Nat} (h : code < single.infinity) :
    exists wide, wide < double.infinity ∧
      double.units wide * 2 ^ single.scale =
        single.units code * 2 ^ double.scale := by
  have hscale : double.scale = 925 + single.scale := rfl
  have hrange : exists significand place,
      significand < 2 * double.leading ∧
      place + 2 ≤ 1 <<< double.exponentWidth - 1 ∧
      single.units code * 2 ^ 925 = significand * 2 ^ place := by
    have hsingle : single.leading = 2 ^ 23 := rfl
    have hdouble : double.leading = 2 ^ 52 := rfl
    rcases single.code_cases code with hsmall |
      ⟨place, significand, hlow, hhigh, rfl⟩
    · refine ⟨code, 925, by omega, by decide, ?_⟩
      rw [units_of_lt hsmall]
    · have hplace : place < 254 := by
        have hless : (place + 1) * single.leading < 255 * single.leading := by
          rw [Nat.add_mul, Nat.one_mul]
          exact Nat.lt_of_le_of_lt (Nat.add_le_add_left hlow _) h
        have hcount := Nat.lt_of_mul_lt_mul_right hless
        omega
      refine ⟨significand, place + 925, by omega, ?_, ?_⟩
      · change place + 925 + 2 ≤ 2047
        omega
      · rw [units_of_significand place hlow hhigh, Nat.mul_assoc,
          ← Nat.pow_add]
  rcases hrange with ⟨significand, place, hsignificand, hplace, hunits⟩
  rcases exists_units_eq hsignificand hplace with ⟨wide, hwide, hwideUnits⟩
  refine ⟨wide, hwide, ?_⟩
  rw [hwideUnits, ← hunits, hscale, Nat.pow_add, Nat.mul_assoc]

end BinaryFormat

/-!
## Signs and codes
-/

namespace Double

theorem toNat_bits_ofCode (negative : Bool) {code : Nat}
    (h : code < signBit) :
    (ofCode negative code).bits.toNat =
      (if negative then signBit else 0) + code := by
  apply UInt64.toNat_ofNat_of_lt'
  have hsize : UInt64.size = 2 * signBit := rfl
  split <;> omega

theorem isNegative_ofCode (negative : Bool) {code : Nat}
    (h : code < signBit) : (ofCode negative code).isNegative = negative := by
  rw [isNegative, toNat_bits_ofCode negative h]
  cases negative with
  | false => simp [h]
  | true => simp

theorem code_ofCode (negative : Bool) {code : Nat} (h : code < signBit) :
    (ofCode negative code).code = code := by
  rw [Double.code, toNat_bits_ofCode negative h]
  cases negative with
  | false => simp [Nat.mod_eq_of_lt h]
  | true => simp [Nat.mod_eq_of_lt h]

end Double

namespace Single

theorem ofCode_code (x : Single) : ofCode x.isNegative x.code = x := by
  have hlt : x.bits.toNat < 2 * signBit := x.bits.toNat_lt
  have hbits : (if x.isNegative then signBit else 0) + x.code =
      x.bits.toNat := by
    unfold isNegative Single.code
    by_cases h : signBit ≤ x.bits.toNat
    · have hmod : x.bits.toNat % signBit = x.bits.toNat - signBit := by
        rw [Nat.mod_eq_sub_mod h, Nat.mod_eq_of_lt (by omega)]
      simp only [h, decide_true, if_true]
      omega
    · have hmod := Nat.mod_eq_of_lt (Nat.lt_of_not_le h)
      simp [h, hmod]
  rw [ofCode, hbits, UInt32.ofNat_toNat]

theorem widened_lt_signBit {x : Single} {fraction : Nat}
    (hfraction : x.code = BinaryFormat.single.infinity + fraction) :
    BinaryFormat.double.infinity + fraction <<< narrowing <
      Double.signBit := by
  have hsingle : BinaryFormat.single.infinity = 255 * 2 ^ 23 := rfl
  have hdouble : BinaryFormat.double.infinity = 2047 * 2 ^ 52 := rfl
  have hsign : signBit = 2 ^ 31 := rfl
  have hwideSign : Double.signBit = 2 ^ 63 := rfl
  have hcode : x.code < signBit := Nat.mod_lt _ (by decide)
  change _ + fraction <<< 29 < _
  rw [Nat.shiftLeft_eq]
  omega

theorem toSingle_toDouble_of_not_finite {x : Single}
    (h : BinaryFormat.single.infinity ≤ x.code) : x.toDouble.toSingle = x := by
  obtain ⟨fraction, hfraction⟩ := Nat.exists_eq_add_of_le h
  have hwide := widened_lt_signBit hfraction
  have hback : (fraction <<< narrowing) >>> narrowing = fraction :=
    Nat.shiftLeft_shiftRight fraction narrowing
  unfold toDouble
  dsimp only
  rw [if_pos h, hfraction, Nat.add_sub_cancel_left]
  unfold Double.toSingle Double.isNaN Double.isInfinite
  dsimp only
  rw [Double.code_ofCode _ hwide, Double.isNegative_ofCode _ hwide,
    Nat.add_sub_cancel_left, hback]
  rcases Nat.eq_zero_or_pos fraction with rfl | hpos
  · have hinfinite : x.code = BinaryFormat.single.infinity := hfraction
    rw [Nat.zero_shiftLeft, Nat.add_zero, if_neg (by simp),
      if_pos (by simp), ← hinfinite, ofCode_code]
  · have hshifted : 0 < fraction <<< narrowing := by
      rw [Nat.shiftLeft_eq]
      exact Nat.mul_pos hpos (Nat.two_pow_pos _)
    have hmax : max fraction 1 = fraction := Nat.max_eq_left hpos
    rw [if_pos (by simpa using hshifted), hmax, ← hfraction, ofCode_code]

theorem toSingle_toDouble_of_finite {x : Single}
    (h : x.code < BinaryFormat.single.infinity) :
    x.toDouble.toSingle = x := by
  have hsign : BinaryFormat.double.infinity < Double.signBit := by decide
  rcases BinaryFormat.exists_double_units h with ⟨wide, hwide, hunits⟩
  have hcode : wide < Double.signBit := Nat.lt_trans hwide hsign
  have hwiden : BinaryFormat.double.round
      (BinaryFormat.single.units x.code)
      (1 <<< BinaryFormat.single.scale) = wide := by
    apply BinaryFormat.round_of_units (by decide) _ hwide
    · rw [Nat.shiftLeft_eq, Nat.one_shiftLeft, hunits]
    · rw [Nat.one_shiftLeft]
      exact Nat.two_pow_pos _
  have hnarrow : BinaryFormat.single.round
      (BinaryFormat.double.units wide)
      (1 <<< BinaryFormat.double.scale) = x.code := by
    apply BinaryFormat.round_of_units (by decide) _ h
    · rw [Nat.shiftLeft_eq, Nat.one_shiftLeft, hunits]
    · rw [Nat.one_shiftLeft]
      exact Nat.two_pow_pos _
  unfold toDouble
  dsimp only
  rw [if_neg (Nat.not_le_of_lt h), hwiden]
  unfold Double.toSingle Double.isNaN Double.isInfinite Double.units
  dsimp only
  rw [Double.code_ofCode _ hcode, Double.isNegative_ofCode _ hcode, hnarrow,
    ofCode_code]
  simp [Nat.not_lt_of_lt hwide, Nat.ne_of_lt hwide]

/-- A single is what its double is rounded to. -/
theorem toSingle_toDouble (x : Single) : x.toDouble.toSingle = x := by
  rcases Nat.lt_or_ge x.code BinaryFormat.single.infinity with
    hfinite | hlarge
  · exact toSingle_toDouble_of_finite hfinite
  · exact toSingle_toDouble_of_not_finite hlarge

end Single

end ScriptBridge
