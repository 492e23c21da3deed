import ScriptBridge.Proofs.Numerals

/-!
# The shortest decimal is found

A grid that is finer than the upper half of the interval of a double has a point
in it.  Twenty-three grids below the first one tried, a grid is always that fine,
so the search never runs out, and what it finds is not zero.  So every finite
double has a well written form.
-/

namespace ScriptBridge

namespace Double

namespace Interval

/-!
## Points of one grid
-/

theorem contains_zero {i : Interval} (hlow : 0 < i.low)
    (hhigh : 0 < i.high) : i.contains 0 = false := by
  unfold contains
  simp [Nat.ne_of_lt hlow, Nat.ne_of_lt hhigh]

theorem gridPoint_pos {tie : Tie} {i : Interval} {step digits : Nat}
    (hlow : 0 < i.low) (hhigh : 0 < i.high)
    (h : i.gridPoint tie step = some digits) : 0 < digits := by
  have hbelow (hcontains : i.contains (i.value / step * step) = true) :
      0 < i.value / step := by
    rcases Nat.eq_zero_or_pos (i.value / step) with hzero | hpos
    · rw [hzero, Nat.zero_mul, contains_zero hlow hhigh] at hcontains
      cases hcontains
    · exact hpos
  unfold gridPoint at h
  dsimp only at h
  split at h
  · cases h
  · next hcontains _ =>
      cases h
      exact hbelow hcontains
  · cases h
    exact Nat.succ_pos _
  · next hcontains _ =>
      have hpos := hbelow hcontains
      split at h
      · cases h
        exact hpos
      · split at h
        · cases h
          exact Nat.succ_pos _
        · cases tie with
          | up =>
              cases h
              exact Nat.succ_pos _
          | even =>
              cases h
              exact Nat.add_pos_left hpos _

theorem isSome_gridPoint {i : Interval} {step : Nat} (tie : Tie)
    (hstep : 0 < step) (hlow : i.low < i.value)
    (hhigh : i.value + step < i.high) :
    (i.gridPoint tie step).isSome = true := by
  have habove : i.contains ((i.value / step + 1) * step) = true := by
    have hdiv := Nat.div_add_mod i.value step
    have hmod := Nat.mod_lt i.value hstep
    have hmul : (i.value / step + 1) * step =
        step * (i.value / step) + step := by
      rw [Nat.add_mul, Nat.one_mul, Nat.mul_comm]
    unfold contains
    rw [hmul]
    have hleft : i.low < step * (i.value / step) + step := by omega
    have hright : step * (i.value / step) + step < i.high := by omega
    simp [hleft, hright]
  unfold gridPoint
  dsimp only
  rw [habove]
  split
  · contradiction
  · contradiction
  · rfl
  · split
    · rfl
    · split
      · rfl
      · cases tie <;> rfl

/-!
## The search
-/

def pointAt? (tie : Tie) (i : Interval) (exponent : Int) : Option Nat :=
  let quarter := 1 <<< (BinaryFormat.double.scale + 2)
  if 0 ≤ exponent then
    i.gridPoint tie (quarter * Nat.pow 10 exponent.toNat)
  else (i.refine (Nat.pow 10 (-exponent).toNat)).gridPoint tie quarter

theorem search_succ (tie : Tie) (i : Interval) (fuel : Nat)
    (exponent : Int) :
    search tie i (fuel + 1) exponent =
      match i.pointAt? tie exponent with
      | some digits => ⟨digits, exponent⟩
      | none => search tie i fuel (exponent - 1) :=
  rfl

theorem pointAt?_pos {tie : Tie} {i : Interval} {exponent : Int}
    {digits : Nat} (hlow : 0 < i.low) (hhigh : 0 < i.high)
    (h : i.pointAt? tie exponent = some digits) : 0 < digits := by
  unfold pointAt? at h
  dsimp only at h
  split at h
  · exact gridPoint_pos hlow hhigh h
  · have hfactor : 0 < Nat.pow 10 (-exponent).toNat :=
      Nat.pow_pos (by decide)
    exact gridPoint_pos (Nat.mul_pos hlow hfactor)
      (Nat.mul_pos hhigh hfactor) h

theorem search_pos {tie : Tie} {i : Interval} (hlow : 0 < i.low)
    (hhigh : 0 < i.high) {fuel deeper : Nat} {exponent : Int}
    (hfuel : deeper < fuel)
    (h : (i.pointAt? tie (exponent - deeper)).isSome = true) :
    0 < (search tie i fuel exponent).digits := by
  induction fuel generalizing deeper exponent with
  | zero => exact absurd hfuel (Nat.not_lt_zero deeper)
  | succ fuel ih =>
      rw [search_succ]
      cases hpoint : i.pointAt? tie exponent with
      | some digits => exact pointAt?_pos hlow hhigh hpoint
      | none =>
          cases deeper with
          | zero =>
              rw [Int.natCast_zero, Int.sub_zero, hpoint] at h
              cases h
          | succ deeper =>
              apply ih (Nat.lt_of_succ_lt_succ hfuel)
              have hsame : exponent - ((deeper + 1 : Nat) : Int) =
                  exponent - 1 - deeper := by
                omega
              rw [← hsame]
              exact h

end Interval

/-!
## The interval of a double
-/

structure Spread (x : Double) : Prop where
  log2_lt : x.units.log2 < 2098
  place_eq : BinaryFormat.double.place x.code = x.units.log2 - 52
  gap_le : 1 <<< (x.units.log2 - 52) ≤ x.units

theorem spread_of_isFinite {x : Double} (hfinite : x.isFinite = true)
    (hcode : x.code ≠ 0) : x.Spread := by
  have hinfinity : x.code < 2047 * 2 ^ 52 := of_decide_eq_true hfinite
  have hleading : BinaryFormat.double.leading = 2 ^ 52 := by decide +kernel
  rcases Nat.eq_zero_or_pos (x.code / 2 ^ 52) with hzero | hpos
  · have hsmall : x.code < 2 ^ 52 := by omega
    have hunits : x.units = x.code := by
      unfold units BinaryFormat.units
      rw [hleading, if_pos hzero, Nat.mod_eq_of_lt hsmall]
    have hlog : x.code.log2 < 52 := (Nat.log2_lt hcode).mpr hsmall
    have hgap : x.code.log2 - 52 = 0 := by omega
    constructor
    · rw [hunits]
      omega
    · rw [hunits, hgap, BinaryFormat.place, hleading, hzero]
    · rw [hunits, hgap]
      exact Nat.pos_of_ne_zero hcode
  · have hplace : BinaryFormat.double.place x.code =
        x.code / 2 ^ 52 - 1 := by
      rw [BinaryFormat.place, hleading]
    have hunits : x.units =
        (2 ^ 52 + x.code % 2 ^ 52) * 2 ^ (x.code / 2 ^ 52 - 1) := by
      unfold units BinaryFormat.units
      rw [hleading, if_neg (Nat.ne_of_gt hpos), hplace, Nat.shiftLeft_eq]
    have hfraction : x.code % 2 ^ 52 < 2 ^ 52 :=
      Nat.mod_lt _ (by decide)
    have hgap : 0 < 2 ^ (x.code / 2 ^ 52 - 1) := Nat.pow_pos (by decide)
    have hlow : 2 ^ (52 + (x.code / 2 ^ 52 - 1)) ≤ x.units := by
      rw [hunits, Nat.pow_add]
      exact Nat.mul_le_mul_right _ (Nat.le_add_right _ _)
    have hhigh : x.units < 2 ^ (52 + (x.code / 2 ^ 52 - 1) + 1) := by
      rw [hunits, Nat.add_right_comm, Nat.pow_add]
      exact Nat.mul_lt_mul_of_pos_right (by omega) hgap
    have hnonzero : x.units ≠ 0 := by
      have hpow : 0 < 2 ^ (52 + (x.code / 2 ^ 52 - 1)) :=
        Nat.pow_pos (by decide)
      omega
    have hlog : x.units.log2 = 52 + (x.code / 2 ^ 52 - 1) :=
      (Nat.log2_eq_iff hnonzero).mpr ⟨hlow, hhigh⟩
    constructor
    · rw [hlog]
      omega
    · rw [hplace, hlog, Nat.add_sub_cancel_left]
    · rw [hlog, Nat.add_sub_cancel_left, hunits, Nat.shiftLeft_eq,
        Nat.one_mul]
      exact Nat.le_mul_of_pos_left _ (by omega)

namespace Spread

variable {x : Double}

theorem low_pos (h : x.Spread) : 0 < x.interval.low := by
  have hgap := Nat.two_pow_pos (x.units.log2 - 52)
  have hle := h.gap_le
  rw [← Nat.one_shiftLeft] at hgap
  unfold interval
  dsimp only
  rw [h.place_eq]
  split <;> omega

theorem low_lt_value (h : x.Spread) : x.interval.low < x.interval.value := by
  have hgap := Nat.two_pow_pos (x.units.log2 - 52)
  have hle := h.gap_le
  rw [← Nat.one_shiftLeft] at hgap
  unfold interval
  dsimp only
  rw [h.place_eq]
  split <;> omega

theorem high_eq (h : x.Spread) :
    x.interval.high =
      x.interval.value + 2 * 1 <<< (x.units.log2 - 52) := by
  unfold interval
  dsimp only
  rw [h.place_eq]

end Spread

/-- The power of ten of the last grid that a search tries, for a double of a given magnitude. -/
def lastExponent (log2 : Nat) : Int :=
  ((log2 : Int) - BinaryFormat.double.scale) * 30103 / 100000 + 2 - (23 : Nat)

/-- On the last grid a step is shorter than the upper half of the interval. -/
def StepsWithin (log2 : Nat) (exponent : Int) : Prop :=
  if 0 ≤ exponent then
    (1 <<< (BinaryFormat.double.scale + 2)) * Nat.pow 10 exponent.toNat <
      2 * 1 <<< (log2 - 52)
  else
    1 <<< (BinaryFormat.double.scale + 2) <
      2 * 1 <<< (log2 - 52) * Nat.pow 10 (-exponent).toNat

instance (log2 : Nat) (exponent : Int) :
    Decidable (StepsWithin log2 exponent) := by
  unfold StepsWithin
  infer_instance

theorem stepsWithin_lastExponent :
    forall log2 : Nat, log2 < 2098 ->
      StepsWithin log2 (lastExponent log2) := by
  decide +kernel

theorem Spread.isSome_pointAt? {x : Double} (h : x.Spread) (tie : Tie) :
    (x.interval.pointAt? tie (lastExponent x.units.log2)).isSome = true := by
  have hsteps := stepsWithin_lastExponent x.units.log2 h.log2_lt
  have hquarter := Nat.two_pow_pos (BinaryFormat.double.scale + 2)
  rw [← Nat.one_shiftLeft] at hquarter
  unfold StepsWithin at hsteps
  unfold Interval.pointAt?
  dsimp only
  split
  · next hexponent =>
      rw [if_pos hexponent] at hsteps
      apply Interval.isSome_gridPoint tie
      · exact Nat.mul_pos hquarter (Nat.pow_pos (by decide))
      · exact h.low_lt_value
      · rw [h.high_eq]
        exact Nat.add_lt_add_left hsteps _
  · next hexponent =>
      rw [if_neg hexponent] at hsteps
      have hfactor : 0 < Nat.pow 10 (-lastExponent x.units.log2).toNat :=
        Nat.pow_pos (by decide)
      apply Interval.isSome_gridPoint tie hquarter
      · exact Nat.mul_lt_mul_of_pos_right h.low_lt_value hfactor
      · unfold Interval.refine
        dsimp only
        rw [h.high_eq, Nat.add_mul]
        exact Nat.add_lt_add_left hsteps _

/-- The written form of a finite double is zero only if the double is. -/
theorem shortest_pos {x : Double} (hfinite : x.isFinite = true)
    (hcode : x.code ≠ 0) (tie : Tie) : 0 < (x.shortest tie).digits := by
  have h := spread_of_isFinite hfinite hcode
  have hhigh : 0 < x.interval.high := by
    rw [h.high_eq]
    exact Nat.add_pos_left (Nat.zero_lt_of_lt h.low_lt_value) _
  unfold shortest
  rw [if_neg hcode]
  exact Interval.search_pos h.low_pos hhigh (by decide)
    (h.isSome_pointAt? tie)

theorem shortest_of_zero {x : Double} (hcode : x.code = 0) (tie : Tie) :
    x.shortest tie = ⟨0, 0⟩ := by
  unfold shortest
  rw [if_pos hcode]

end Double

/-!
## The written form
-/

namespace Decimal

theorem allDigits_characters (d : Decimal) : AllDigits d.characters :=
  AllDigits.toDigits d.digits

theorem allDigits_fractionPart (d : Decimal) : AllDigits d.fractionPart := by
  unfold fractionPart
  split
  · exact AllDigits.nil
  · exact (AllDigits.replicate_zero _).append
      (d.allDigits_characters.drop _)

theorem wholePart_of_pos {d : Decimal} (h : 0 < d.digits) :
    d.wholePart = ['0'] ∨ Leading d.wholePart := by
  have hleading : Leading d.characters := Leading.toDigits h
  unfold wholePart
  dsimp only
  split
  · exact Or.inr (hleading.append (AllDigits.replicate_zero _))
  · split
    · exact Or.inl rfl
    · next hshown =>
        rcases Nat.eq_zero_or_pos (d.magnitude + 1).toNat with hzero | hpos
        · rw [hzero, List.take_zero] at hshown
          exact absurd rfl hshown
        · exact Or.inr (hleading.take hpos)

end Decimal

theorem JsonNumber.written_ofDouble {x : Double}
    (hfinite : x.isFinite = true) : (ofDouble x).Written := by
  have hwhole : (x.shortest .even).wholePart = ['0'] ∨
      Leading (x.shortest .even).wholePart := by
    by_cases hcode : x.code = 0
    · rw [Double.shortest_of_zero hcode]
      exact Or.inl rfl
    · exact Decimal.wholePart_of_pos (Double.shortest_pos hfinite hcode .even)
  have hfirst : (x.shortest .even).characters.take 1 = ['0'] ∨
      Leading ((x.shortest .even).characters.take 1) := by
    rcases zero_or_leading_toDigits (x.shortest .even).digits with
      hzero | hleading
    · unfold Decimal.characters
      rw [hzero]
      exact Or.inl rfl
    · exact Or.inr (hleading.take Nat.zero_lt_one)
  unfold ofDouble
  dsimp only
  split
  · constructor
    · exact hwhole
    · dsimp only
      split
      · exact AllDigits.replicate_zero 1
      · exact Decimal.allDigits_fractionPart _
    · intro sign digits h
      cases h
  · constructor
    · exact hfirst
    · exact (Decimal.allDigits_characters _).drop 1
    · intro sign digits h
      cases h
      exact ⟨Nat.toDigits_ne_nil, AllDigits.toDigits _⟩

end ScriptBridge
