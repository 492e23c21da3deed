import ScriptBridge.Json.Number
import ScriptBridge.Json.Scanner

/-!
# Written numbers

A number is written well if it has the form that the scanner accepts: no zero
stands before other digits of the whole part, and where there is an exponent it
has digits.  Whole numbers are written in this form, and they are read back
exactly if they fit into 64 bits.
-/

namespace ScriptBridge

def AllDigits (digits : List Char) : Prop :=
  forall c, c ∈ digits -> Scanning.isDigit c = true

structure Leading (digits : List Char) : Prop where
  all : AllDigits digits
  head : exists c rest, digits = c :: rest ∧ c ≠ '0'

namespace JsonNumber

structure Written (n : JsonNumber) : Prop where
  whole : n.whole = ['0'] ∨ Leading n.whole
  fraction : AllDigits n.fraction
  exponent {sign : ExponentSign} {digits : List Char} :
    n.exponent = some (sign, digits) -> digits ≠ [] ∧ AllDigits digits

end JsonNumber

/-!
## The digits of natural numbers
-/

namespace AllDigits

theorem nil : AllDigits [] := by
  intro c hmem
  cases hmem

theorem append {digits more : List Char} (h : AllDigits digits)
    (hmore : AllDigits more) : AllDigits (digits ++ more) := by
  intro c hmem
  rcases List.mem_append.mp hmem with hleft | hright
  · exact h c hleft
  · exact hmore c hright

theorem replicate_zero (count : Nat) : AllDigits (List.replicate count '0') := by
  intro c hmem
  rw [List.eq_of_mem_replicate hmem]
  rfl

theorem take {digits : List Char} (h : AllDigits digits) (count : Nat) :
    AllDigits (digits.take count) := by
  intro c hmem
  exact h c (List.mem_of_mem_take hmem)

theorem drop {digits : List Char} (h : AllDigits digits) (count : Nat) :
    AllDigits (digits.drop count) := by
  intro c hmem
  exact h c (List.mem_of_mem_drop hmem)

theorem toDigits (n : Nat) : AllDigits (Nat.toDigits 10 n) := by
  intro c hmem
  have hdigit := Nat.isDigit_of_mem_toDigits (by decide) (by decide) hmem
  unfold Char.isDigit at hdigit
  unfold Scanning.isDigit
  exact hdigit

end AllDigits

namespace Leading

theorem toDigits {n : Nat} (hn : 0 < n) : Leading (Nat.toDigits 10 n) := by
  refine ⟨AllDigits.toDigits n, ?_⟩
  induction n using Nat.strongRecOn with
  | ind n ih =>
      rcases Nat.lt_or_ge n 10 with hsmall | hgreat
      · refine ⟨n.digitChar, [], Nat.toDigits_of_lt_base hsmall, ?_⟩
        intro hzero
        rw [Nat.digitChar_eq_zero.mp hzero] at hn
        exact absurd hn (Nat.lt_irrefl 0)
      · have hless : n / 10 < n :=
          Nat.div_lt_self hn (by decide)
        have hpos : 0 < n / 10 :=
          Nat.div_pos hgreat (by decide)
        rcases ih (n / 10) hless hpos with ⟨c, rest, hdigits, hc⟩
        refine ⟨c, rest ++ [(n % 10).digitChar], ?_, hc⟩
        rw [Nat.toDigits_of_base_le (by decide) hgreat, hdigits,
          List.cons_append]

theorem append {digits more : List Char} (h : Leading digits)
    (hmore : AllDigits more) : Leading (digits ++ more) := by
  refine ⟨h.all.append hmore, ?_⟩
  rcases h.head with ⟨c, rest, rfl, hc⟩
  exact ⟨c, rest ++ more, List.cons_append, hc⟩

theorem take {digits : List Char} (h : Leading digits) {count : Nat}
    (hcount : 0 < count) : Leading (digits.take count) := by
  refine ⟨h.all.take count, ?_⟩
  rcases h.head with ⟨c, rest, rfl, hc⟩
  exact ⟨c, rest.take (count - 1), List.take_cons hcount, hc⟩

end Leading

theorem zero_or_leading_toDigits (n : Nat) :
    Nat.toDigits 10 n = ['0'] ∨ Leading (Nat.toDigits 10 n) := by
  rcases Nat.eq_zero_or_pos n with rfl | hn
  · exact Or.inl (Nat.toDigits_zero 10)
  · exact Or.inr (Leading.toDigits hn)

namespace JsonNumber

theorem digitsValue_toDigits (n : Nat) :
    digitsValue (Nat.toDigits 10 n) = n := by
  have hstep : (fun (n : Nat) (c : Char) => n * 10 + digitValue c) =
      (fun (n : Nat) (c : Char) => 10 * n + (c.toNat - '0'.toNat)) := by
    funext n c
    rw [Nat.mul_comm]
    rfl
  unfold digitsValue
  rw [hstep]
  exact Nat.ofDigitChars_toDigits (by decide) (by decide)

/-!
## Whole numbers
-/

theorem written_ofNat (n : Nat) : (ofNat n).Written := by
  constructor
  · exact zero_or_leading_toDigits n
  · exact AllDigits.nil
  · intro sign digits h
    cases h

theorem written_ofInt (n : Int) : (ofInt n).Written := by
  constructor
  · exact zero_or_leading_toDigits n.natAbs
  · exact AllDigits.nil
  · intro sign digits h
    cases h

theorem numeral?_ofNat {n : Nat} (hn : n < UInt64.size) :
    (ofNat n).numeral? = some (.natural n) := by
  unfold numeral? ofNat
  dsimp only
  rw [digitsValue_toDigits]
  simp [isWhole, hn]

theorem numeral?_ofInt_of_nonneg {n : Int} (hn : 0 ≤ n)
    (hfits : n.natAbs < UInt64.size) :
    (ofInt n).numeral? = some (.natural n.natAbs) := by
  have hsign : ofInt n = ofNat n.natAbs := by
    unfold ofInt ofNat
    rw [decide_eq_false (Int.not_lt.mpr hn)]
  rw [hsign]
  exact numeral?_ofNat hfits

theorem numeral?_ofInt_of_neg {n : Int} (hn : n < 0)
    (hfits : n.natAbs ≤ 0x8000000000000000) :
    (ofInt n).numeral? = some (.negative n.natAbs) := by
  have hpos : 0 < n.natAbs := Int.natAbs_pos.mpr (Int.ne_of_lt hn)
  unfold numeral? ofInt
  dsimp only
  rw [digitsValue_toDigits, decide_eq_true hn]
  simp [isWhole, hfits]
  exact Int.ne_of_lt hn

end JsonNumber

end ScriptBridge
