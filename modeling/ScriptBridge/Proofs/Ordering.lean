import Mathlib.Data.Nat.Digits.Lemmas
import ScriptBridge.Handle

/-!
# The order of handles

Handles are equal by what they address, but they are ordered by a digest of it.
An order by digests fits equality only if no two keys share a digest.  The keys
of handles have eight bytes, and on those the digest loses nothing: it reads them
as one word and then takes steps that can each be undone, which are additions
and exclusive ors of a constant, products with an odd constant, rotations, and
exclusive ors of a word with its own shift.
-/

namespace ScriptBridge

namespace Digest

/-!
## Steps that can be undone
-/

theorem mul_injective {factor inverse : UInt64} (h : factor * inverse = 1) :
    Function.Injective (fun word : UInt64 => word * factor) := by
  intro x y heq
  have hundone : x * factor * inverse = y * factor * inverse :=
    congrArg (fun word => word * inverse) heq
  rw [UInt64.mul_assoc, UInt64.mul_assoc, h, UInt64.mul_one,
    UInt64.mul_one] at hundone
  exact hundone

/-- A rotation moves the bit at a position so many places on, around the end. -/
theorem getLsbD_rotateLeft_add_mod {width count i : Nat} (x : BitVec width)
    (hcount : count < width) (hi : i < width) :
    (x.rotateLeft count).getLsbD ((i + count) % width) = x.getLsbD i := by
  rw [BitVec.getLsbD_rotateLeft, Nat.mod_eq_of_lt hcount]
  by_cases hend : i + count < width
  · have hfar : ¬ i + count < count := by omega
    rw [Nat.mod_eq_of_lt hend, decide_eq_false hfar, decide_eq_true hend,
      Nat.add_sub_cancel]
    rfl
  · have hplace : (i + count) % width = i + count - width := by
      rw [Nat.mod_eq_sub_mod (by omega), Nat.mod_eq_of_lt (by omega)]
    have hnear : i + count - width < count := by omega
    have hback : width - count + (i + count - width) = i := by omega
    rw [hplace, decide_eq_true hnear, hback]
    rfl

theorem toBitVec_rotate {count : UInt64} (word : UInt64)
    (hpos : 0 < count.toNat) (hcount : count.toNat < 64) :
    (rotate word count).toBitVec = word.toBitVec.rotateLeft count.toNat := by
  have hrest : (64 - count).toNat = 64 - count.toNat := by
    rw [UInt64.toNat_sub_of_le]
    · rfl
    · exact UInt64.le_iff_toNat_le.mpr (Nat.le_of_lt hcount)
  have hleft : (count.toBitVec % 64).toNat = count.toNat := by
    rw [BitVec.toNat_umod]
    exact Nat.mod_eq_of_lt hcount
  have hright : ((64 - count).toBitVec % 64).toNat = 64 - count.toNat := by
    rw [BitVec.toNat_umod, UInt64.toNat_toBitVec, hrest]
    exact Nat.mod_eq_of_lt (by show 64 - count.toNat < 64; omega)
  rw [rotate, UInt64.toBitVec_or, UInt64.toBitVec_shiftLeft,
    UInt64.toBitVec_shiftRight, BitVec.shiftLeft_eq', BitVec.ushiftRight_eq',
    hleft, hright, BitVec.rotateLeft_def, Nat.mod_eq_of_lt hcount]

theorem rotate_injective {count : UInt64} (hpos : 0 < count.toNat)
    (hcount : count.toNat < 64) :
    Function.Injective (fun word => rotate word count) := by
  intro x y heq
  have hrotated : x.toBitVec.rotateLeft count.toNat =
      y.toBitVec.rotateLeft count.toNat := by
    rw [← toBitVec_rotate x hpos hcount, ← toBitVec_rotate y hpos hcount]
    exact congrArg UInt64.toBitVec heq
  apply UInt64.eq_of_toBitVec_eq
  apply BitVec.eq_of_getLsbD_eq
  intro i hi
  rw [← getLsbD_rotateLeft_add_mod x.toBitVec hcount hi, hrotated,
    getLsbD_rotateLeft_add_mod y.toBitVec hcount hi]

theorem eq_zero_of_shiftRight_eq {word count : UInt64}
    (hcount : count.toNat % 64 ≠ 0) (h : word >>> count = word) :
    word = 0 := by
  have hquotient : word.toNat / 2 ^ (count.toNat % 64) = word.toNat := by
    rw [← Nat.shiftRight_eq_div_pow, ← UInt64.toNat_shiftRight, h]
  rcases Nat.div_eq_self.mp hquotient with hzero | hone
  · exact UInt64.toNat_inj.mp hzero
  · exact absurd hone (Nat.one_lt_two_pow hcount).ne'

/-- What two words differ in would be its own shift if they came to the same. -/
theorem xor_shiftRight_injective {count : UInt64}
    (hcount : count.toNat % 64 ≠ 0) :
    Function.Injective (fun word : UInt64 => word ^^^ word >>> count) := by
  intro x y heq
  dsimp only at heq
  have hshift : (x ^^^ y) >>> count = x ^^^ y := by
    calc (x ^^^ y) >>> count
        = x >>> count ^^^ y >>> count := UInt64.shiftRight_xor
      _ = x ^^^ (x ^^^ x >>> count) ^^^ y >>> count := by
          rw [← UInt64.xor_assoc x x, UInt64.xor_self, UInt64.zero_xor]
      _ = x ^^^ (y ^^^ (y >>> count ^^^ y >>> count)) := by
          rw [heq, UInt64.xor_assoc, UInt64.xor_assoc]
      _ = x ^^^ y := by rw [UInt64.xor_self, UInt64.xor_zero]
  exact UInt64.xor_eq_zero_iff.mp (eq_zero_of_shiftRight_eq hcount hshift)

/-!
## The digest of one word
-/

theorem mul_prime1_injective :
    Function.Injective (fun word : UInt64 => word * prime1) :=
  mul_injective (show prime1 * 0x887493432badb37 = 1 by decide)

theorem mul_prime2_injective :
    Function.Injective (fun word : UInt64 => word * prime2) :=
  mul_injective (show prime2 * 0xba79078168d4baf = 1 by decide)

theorem mul_prime3_injective :
    Function.Injective (fun word : UInt64 => word * prime3) :=
  mul_injective (show prime3 * 0xe9e9f4c41d6df849 = 1 by decide)

theorem mix_injective (accumulator : UInt64) :
    Function.Injective (mix accumulator) := by
  intro x y heq
  have hrotated := mul_prime1_injective heq
  have hadded := rotate_injective (by decide) (by decide) hrotated
  exact mul_prime2_injective ((UInt64.add_right_inj accumulator).mp hadded)

theorem takeWord_injective (digest : UInt64) :
    Function.Injective (takeWord digest) := by
  intro x y heq
  have hproduct := (UInt64.add_left_inj prime4).mp heq
  have hrotated := mul_prime1_injective hproduct
  have hxor := rotate_injective (by decide) (by decide) hrotated
  exact mix_injective 0 ((UInt64.xor_right_inj digest).mp hxor)

theorem scramble_injective : Function.Injective scramble := by
  intro x y heq
  have hsecond := xor_shiftRight_injective (by decide) heq
  have hthird := mul_prime3_injective hsecond
  have hfirst := xor_shiftRight_injective (by decide) hthird
  exact xor_shiftRight_injective (by decide) (mul_prime2_injective hfirst)

theorem toNat_word {bytes : List UInt8} (h : bytes.length ≤ 8) :
    (word bytes).toNat = Nat.ofDigits 256 (bytes.map UInt8.toNat) := by
  induction bytes with
  | nil => rfl
  | cons byte rest ih =>
      have hrest : rest.length ≤ 7 := Nat.le_of_succ_le_succ h
      have hbound : Nat.ofDigits 256 (rest.map UInt8.toNat) < 256 ^ 7 := by
        apply Nat.lt_of_lt_of_le
          (Nat.ofDigits_lt_base_pow_length (by decide) _)
        · rw [List.length_map]
          exact Nat.pow_le_pow_right (by decide) hrest
        · intro digit hdigit
          rcases List.mem_map.mp hdigit with ⟨b, _hb, rfl⟩
          exact b.toNat_lt
      have hbyte : byte.toNat < 256 := byte.toNat_lt
      have hword : (word rest).toNat =
          Nat.ofDigits 256 (rest.map UInt8.toNat) :=
        ih (Nat.le_of_succ_le h)
      rw [List.map_cons, Nat.ofDigits_cons, ← hword]
      rw [← hword] at hbound
      change (byte.toUInt64 + word rest * 256).toNat = _
      rw [UInt64.toNat_add, UInt64.toNat_mul, UInt8.toNat_toUInt64]
      change (byte.toNat + (word rest).toNat * 256 % 2 ^ 64) % 2 ^ 64 =
        byte.toNat + 256 * (word rest).toNat
      omega

theorem ofBytes_of_length {bytes : List UInt8} (h : bytes.length = 8)
    (seed : UInt64) :
    ofBytes seed bytes =
      scramble (takeWord (seed + prime5 + 8) (word bytes)) := by
  match bytes, h with
  | [_, _, _, _, _, _, _, _], _ => rfl

/-- No two keys of eight bytes share a digest. -/
theorem eq_of_ofBytes_eq {seed : UInt64} {bytes others : List UInt8}
    (hbytes : bytes.length = 8) (hothers : others.length = 8)
    (h : ofBytes seed bytes = ofBytes seed others) : bytes = others := by
  rw [ofBytes_of_length hbytes, ofBytes_of_length hothers] at h
  have hword : word bytes = word others :=
    takeWord_injective _ (scramble_injective h)
  have hdigits : Nat.ofDigits 256 (bytes.map UInt8.toNat) =
      Nat.ofDigits 256 (others.map UInt8.toNat) := by
    rw [← toNat_word (Nat.le_of_eq hbytes),
      ← toNat_word (Nat.le_of_eq hothers), hword]
  have hsmall (list : List UInt8) :
      forall digit, digit ∈ list.map UInt8.toNat -> digit < 256 := by
    intro digit hdigit
    rcases List.mem_map.mp hdigit with ⟨b, _hb, rfl⟩
    exact b.toNat_lt
  apply (List.map_inj_right (f := UInt8.toNat) (fun _ _ => UInt8.toNat_inj.mp)).mp
  apply Nat.ofDigits_inj_of_len_eq (by decide) _ (hsmall bytes)
    (hsmall others) hdigits
  rw [List.length_map, List.length_map, hbytes, hothers]

end Digest

namespace Handle

/-!
## The keys of handles
-/

@[simp] theorem length_littleEndian (count n : Nat) :
    (littleEndian count n).length = count := by
  induction count generalizing n with
  | zero => rfl
  | succ count ih => exact congrArg Nat.succ (ih (n / 256))

theorem eq_of_littleEndian_eq {count m n : Nat} (hm : m < 256 ^ count)
    (hn : n < 256 ^ count)
    (h : littleEndian count m = littleEndian count n) : m = n := by
  induction count generalizing m n with
  | zero =>
      rw [Nat.pow_zero] at hm hn
      omega
  | succ count ih =>
      injection h with hlow hhigh
      have hmod : m % 256 = n % 256 := by
        have hnat := congrArg UInt8.toNat hlow
        rw [UInt8.toNat_ofNat', UInt8.toNat_ofNat'] at hnat
        exact hnat
      have hdiv : m / 256 = n / 256 := by
        rw [Nat.pow_succ] at hm hn
        exact ih (Nat.div_lt_of_lt_mul (by omega))
          (Nat.div_lt_of_lt_mul (by omega)) hhigh
      omega

def keyBytes : Handle -> List UInt8
  | .object h =>
      littleEndian 4 h.path.target.index.toNat ++
        littleEndian 4 h.path.target.generation.toNat
  | .cls h => littleEndian 8 h.cls.word.toNat

theorem length_keyBytes (a : Handle) : a.keyBytes.length = 8 := by
  cases a with
  | object h =>
      rw [keyBytes, List.length_append, length_littleEndian,
        length_littleEndian]
  | cls h => exact length_littleEndian 8 h.cls.word.toNat

theorem target_eq_of_keyBytes_eq {h h' : InstanceHandle}
    (heq : keyBytes (.object h) = keyBytes (.object h')) :
    h.path.target = h'.path.target := by
  have hlength : (littleEndian 4 h.path.target.index.toNat).length =
      (littleEndian 4 h'.path.target.index.toNat).length := by
    rw [length_littleEndian, length_littleEndian]
  rcases List.append_inj heq hlength with ⟨hindex, hgeneration⟩
  have hslot : h.path.target.index = h'.path.target.index :=
    UInt32.toNat_inj.mp
      (eq_of_littleEndian_eq (UInt32.toNat_lt _) (UInt32.toNat_lt _) hindex)
  have hturn : h.path.target.generation = h'.path.target.generation :=
    UInt32.toNat_inj.mp
      (eq_of_littleEndian_eq (UInt32.toNat_lt _) (UInt32.toNat_lt _)
        hgeneration)
  exact (ObjectRef.mk.injEq _ _ _ _).mpr ⟨hslot, hturn⟩

theorem cls_eq_of_keyBytes_eq {h h' : ClassHandle}
    (heq : keyBytes (.cls h) = keyBytes (.cls h')) : h.cls = h'.cls := by
  have hword : h.cls.word = h'.cls.word :=
    UInt64.toNat_inj.mp
      (eq_of_littleEndian_eq (UInt64.toNat_lt _) (UInt64.toNat_lt _) heq)
  exact (ClassId.mk.injEq _ _).mpr hword

inductive Same : Handle -> Handle -> Prop where
  | object {h h' : InstanceHandle} :
      h.path.target = h'.path.target -> Same (.object h) (.object h')
  | cls {h h' : ClassHandle} : h.cls = h'.cls -> Same (.cls h) (.cls h')

theorem orderingKey_eq_iff_same {a b : Handle} (hkind : a.sameKind b = true) :
    a.orderingKey = b.orderingKey ↔ a.Same b := by
  constructor
  · intro hkey
    have hbytes {seed : UInt64}
        (hdigest : Digest.ofBytes seed a.keyBytes =
          Digest.ofBytes seed b.keyBytes) : a.keyBytes = b.keyBytes :=
      Digest.eq_of_ofBytes_eq a.length_keyBytes b.length_keyBytes hdigest
    cases a with
    | object h =>
        cases b with
        | cls h' => cases hkind
        | object h' => exact Same.object (target_eq_of_keyBytes_eq (hbytes hkey))
    | cls h =>
        cases b with
        | object h' => cases hkind
        | cls h' => exact Same.cls (cls_eq_of_keyBytes_eq (hbytes hkey))
  · intro hsame
    cases hsame with
    | object htarget => rw [orderingKey, orderingKey, htarget]
    | cls hcls => rw [orderingKey, orderingKey, hcls]

/-!
## The law
-/

theorem equals_iff_same (a b : Handle) : a.equals b = true ↔ a.Same b := by
  constructor
  · intro heq
    cases a with
    | object h =>
        cases b with
        | cls h' => cases heq
        | object h' => exact Same.object (of_decide_eq_true heq)
    | cls h =>
        cases b with
        | object h' => cases heq
        | cls h' => exact Same.cls (of_decide_eq_true heq)
  · intro hsame
    cases hsame with
    | object htarget => exact decide_eq_true htarget
    | cls hcls => exact decide_eq_true hcls

theorem Same.sameKind {a b : Handle} (h : a.Same b) :
    a.sameKind b = true := by
  cases h <;> rfl

theorem Same.symm {a b : Handle} (h : a.Same b) : b.Same a := by
  cases h with
  | object htarget => exact Same.object htarget.symm
  | cls hcls => exact Same.cls hcls.symm

theorem sameKind_comm (a b : Handle) : a.sameKind b = b.sameKind a := by
  cases a <;> cases b <;> rfl

theorem sameKind_trans {a b c : Handle} (hab : a.sameKind b = true)
    (hbc : b.sameKind c = true) : a.sameKind c = true := by
  cases a <;> cases b <;> cases c <;> first | rfl | exact hab | exact hbc

theorem lessThan_iff (a b : Handle) :
    a.lessThan b = true ↔
      a.sameKind b = true ∧ a.orderingKey < b.orderingKey := by
  rw [lessThan, Bool.and_eq_true, decide_eq_true_iff]

theorem lessEqual_iff (a b : Handle) :
    a.lessEqual b = true ↔ a.lessThan b = true ∨ a.Same b := by
  rw [lessEqual, Bool.and_eq_true, decide_eq_true_iff, lessThan_iff,
    UInt64.le_iff_lt_or_eq]
  constructor
  · rintro ⟨hkind, hless | hkey⟩
    · exact Or.inl ⟨hkind, hless⟩
    · exact Or.inr ((orderingKey_eq_iff_same hkind).mp hkey)
  · rintro (⟨hkind, hless⟩ | hsame)
    · exact ⟨hkind, Or.inl hless⟩
    · exact ⟨hsame.sameKind,
        Or.inr ((orderingKey_eq_iff_same hsame.sameKind).mpr hsame)⟩

theorem lessThan_trans {a b c : Handle} (hab : a.lessThan b = true)
    (hbc : b.lessThan c = true) : a.lessThan c = true := by
  rw [lessThan_iff] at hab hbc ⊢
  exact ⟨sameKind_trans hab.1 hbc.1, UInt64.lt_trans hab.2 hbc.2⟩

theorem not_lessThan_of_lessThan {a b : Handle} (h : a.lessThan b = true) :
    ¬ b.lessThan a = true := by
  intro hback
  rw [lessThan_iff] at h hback
  exact UInt64.lt_asymm h.2 hback.2

theorem not_same_of_lessThan {a b : Handle} (h : a.lessThan b = true) :
    ¬ a.Same b := by
  intro hsame
  rw [lessThan_iff, (orderingKey_eq_iff_same hsame.sameKind).mpr hsame] at h
  exact UInt64.lt_irrefl _ h.2

theorem lessThan_or_same {a b : Handle} (hkind : a.sameKind b = true) :
    a.lessThan b = true ∨ b.lessThan a = true ∨ a.Same b := by
  by_cases hkey : a.orderingKey = b.orderingKey
  · exact Or.inr (Or.inr ((orderingKey_eq_iff_same hkind).mp hkey))
  · rcases UInt64.lt_or_lt_of_ne hkey with hless | hless
    · exact Or.inl ((lessThan_iff a b).mpr ⟨hkind, hless⟩)
    · rw [sameKind_comm] at hkind
      exact Or.inr (Or.inl ((lessThan_iff b a).mpr ⟨hkind, hless⟩))

/--
Handles of one kind are strictly and totally ordered, and the order fits their
equality, which is that of what they address.  Handles of different kinds are
neither ordered nor equal.
-/
theorem ordered_by_identity (a b c : Handle) :
    (a.equals b = true ↔ a.Same b) ∧
    (a.sameKind b = true ->
      (a.lessThan b = true ∧ ¬ b.lessThan a = true ∧ ¬ a.equals b = true) ∨
      (¬ a.lessThan b = true ∧ b.lessThan a = true ∧ ¬ a.equals b = true) ∨
      (¬ a.lessThan b = true ∧ ¬ b.lessThan a = true ∧ a.equals b = true)) ∧
    (a.lessThan b = true -> b.lessThan c = true -> a.lessThan c = true) ∧
    (a.lessEqual b = true ↔ a.lessThan b = true ∨ a.equals b = true) ∧
    (a.sameKind b = false ->
      a.lessThan b = false ∧ a.lessEqual b = false ∧ a.equals b = false) := by
  rw [equals_iff_same]
  refine ⟨Iff.rfl, ?_, lessThan_trans, lessEqual_iff a b, ?_⟩
  · intro hkind
    rcases lessThan_or_same hkind with hless | hless | hsame
    · exact Or.inl
        ⟨hless, not_lessThan_of_lessThan hless, not_same_of_lessThan hless⟩
    · exact Or.inr (Or.inl
        ⟨not_lessThan_of_lessThan hless, hless,
          fun hsame => not_same_of_lessThan hless hsame.symm⟩)
    · exact Or.inr (Or.inr
        ⟨fun hless => not_same_of_lessThan hless hsame,
          fun hless => not_same_of_lessThan hless hsame.symm, hsame⟩)
  · intro hkind
    have hdiffer : a.equals b = false := by
      rw [Bool.eq_false_iff, ne_eq, equals_iff_same]
      intro hsame
      rw [hsame.sameKind] at hkind
      cases hkind
    rw [lessThan, lessEqual, hkind]
    exact ⟨rfl, rfl, hdiffer⟩

end Handle

end ScriptBridge
