import ScriptBridge.World.Operation

/-!
# Generations of slots

The generation of a slot counts the destructions of its occupants, modulo the
width of the counter, and nothing else touches it: a slot that is placed again
keeps its generation, and no slot ever goes away.  So a reference to a destroyed
object reaches nothing until its slot has been through all the generations.
-/

namespace ScriptBridge

namespace WorldOp

/-- Whether an operation destroys the occupant of a slot. -/
def vacates (op : WorldOp) (w : World) (index : UInt32) : Bool :=
  match op with
  | .destroy r => r.index = index && w.contains r
  | _ => false

end WorldOp

namespace World

def performAll (w : World) : List WorldOp -> World
  | [] => w
  | op :: rest => performAll (op.perform w).2 rest

/-- How often some operations destroy the occupant of a slot. -/
def destructions (w : World) (index : UInt32) : List WorldOp -> Nat
  | [] => 0
  | op :: rest =>
      (op.vacates w index).toNat + destructions (op.perform w).2 index rest

theorem performAll_append (w : World) (ops more : List WorldOp) :
    w.performAll (ops ++ more) = (w.performAll ops).performAll more := by
  induction ops generalizing w with
  | nil => rfl
  | cons op rest ih => exact ih (op.perform w).2

/-!
## The generation of a slot
-/

def generation? (w : World) (index : UInt32) : Option UInt32 :=
  w.slots[index.toNat]?.map WorldSlot.generation

theorem generation?_of_contains {w : World} {r : ObjectRef}
    (h : w.contains r = true) :
    w.generation? r.index = some r.generation := by
  unfold contains at h
  unfold generation?
  cases hslot : w.slots[r.index.toNat]? with
  | none =>
      rw [hslot] at h
      cases h
  | some slot =>
      rw [hslot] at h
      have hgeneration : slot.generation = r.generation := by
        simpa using And.left (Bool.and_eq_true_iff.mp h)
      rw [Option.map_some, hgeneration]

theorem occupant?_of_generation_ne {w : World} {r : ObjectRef}
    {generation : UInt32} (h : w.generation? r.index = some generation)
    (hne : generation ≠ r.generation) : w.occupant? r = none := by
  rcases Option.map_eq_some_iff.mp h with ⟨slot, hslot, rfl⟩
  rw [occupant?, hslot]
  exact if_neg hne

theorem generation?_set {w : World} {index : UInt32} {slot : WorldSlot}
    (hslot : w.slots[index.toNat]? = some slot) (occupant : Option ObjectId)
    (vacant : List UInt32) (i : UInt32) :
    ({ w with
        slots := w.slots.set index.toNat ⟨slot.generation, occupant⟩
        vacant := vacant } : World).generation? i = w.generation? i := by
  unfold generation?
  dsimp only
  rw [List.getElem?_set]
  split
  · next heq =>
      rw [← heq, hslot, if_pos (List.getElem?_eq_some_iff.mp hslot).1]
      rfl
  · rfl

theorem generation?_share {w : World} {i generation : UInt32}
    (h : w.generation? i = some generation) (id : ObjectId) :
    (w.share id).2.generation? i = some generation := by
  unfold share
  cases hvacant : w.vacant with
  | cons index rest =>
      dsimp only
      cases hslot : w.slots[index.toNat]? with
      | some slot =>
          rw [generation?_set hslot]
          exact h
      | none =>
          have houtside : w.slots.length ≤ index.toNat :=
            List.getElem?_eq_none_iff.mp hslot
          unfold generation? at h ⊢
          dsimp only
          rw [List.set_eq_of_length_le houtside]
          exact h
  | nil =>
      rcases Option.map_eq_some_iff.mp h with ⟨slot, hslot, rfl⟩
      have hinside := (List.getElem?_eq_some_iff.mp hslot).1
      unfold generation?
      dsimp only
      rw [List.getElem?_append_left hinside, hslot]
      rfl

theorem generation?_destroy {w : World} {i generation : UInt32}
    (h : w.generation? i = some generation) (r : ObjectRef) :
    (w.destroy r).2.generation? i =
      some (generation +
        UInt32.ofNat ((WorldOp.destroy r).vacates w i).toNat) := by
  have hkept : some generation =
      some (generation + UInt32.ofNat false.toNat) := by
    rw [Bool.toNat_false]
    simp
  unfold destroy
  dsimp only [WorldOp.vacates]
  cases hlive : w.contains r with
  | false =>
      rw [Bool.and_false]
      rw [← hkept]
      exact h
  | true =>
      rw [Bool.and_true]
      have hat := generation?_of_contains hlive
      unfold generation? at h hat ⊢
      rw [if_pos rfl]
      dsimp only
      rw [List.getElem?_set]
      rcases Option.map_eq_some_iff.mp hat with ⟨slot, hslot, _⟩
      have hinside := (List.getElem?_eq_some_iff.mp hslot).1
      by_cases hi : r.index = i
      · subst hi
        rw [hat] at h
        cases h
        rw [if_pos rfl, if_pos hinside, decide_eq_true rfl, Bool.toNat_true]
        rfl
      · have hi' : r.index.toNat ≠ i.toNat :=
          fun heq => hi (UInt32.toNat.inj heq)
        rw [if_neg hi', decide_eq_false hi, ← hkept]
        exact h

theorem generation?_perform {w : World} {i generation : UInt32}
    (h : w.generation? i = some generation) (op : WorldOp) :
    (op.perform w).2.generation? i =
      some (generation + UInt32.ofNat (op.vacates w i).toNat) := by
  have hkept : some generation =
      some (generation + UInt32.ofNat false.toNat) := by
    rw [Bool.toNat_false]
    simp
  cases op with
  | destroy r => exact generation?_destroy h r
  | spawn o =>
      exact (generation?_share (w := { w with objects := w.objects ++ [o] }) h
        _).trans hkept
  | share id =>
      refine Eq.trans ?_ hkept
      unfold WorldOp.perform
      dsimp only
      cases w.object? id with
      | none => exact h
      | some o => exact generation?_share h id
  | find r => exact h.trans hkept
  | read id => exact h.trans hkept
  | change id c => exact h.trans hkept
  | population => exact h.trans hkept

/-- Over a run the generation of a slot moves by the number of destructions. -/
theorem generation?_performAll {w : World} {i generation : UInt32}
    (h : w.generation? i = some generation) (ops : List WorldOp) :
    (w.performAll ops).generation? i =
      some (generation + UInt32.ofNat (w.destructions i ops)) := by
  induction ops generalizing w generation with
  | nil =>
      rw [performAll, destructions]
      simpa using h
  | cons op rest ih =>
      rw [performAll, destructions, ih (generation?_perform h op),
        UInt32.ofNat_add, UInt32.add_assoc]

/-!
## Destroyed for good
-/

theorem destructions_destroy_pos {w : World} {r : ObjectRef}
    (hlive : w.contains r = true) (after : List WorldOp) :
    0 < w.destructions r.index (.destroy r :: after) := by
  have hvacates : (WorldOp.destroy r).vacates w r.index = true := by
    unfold WorldOp.vacates
    dsimp only
    rw [hlive, Bool.and_true]
    exact decide_eq_true rfl
  rw [destructions, hvacates, Bool.toNat_true]
  exact Nat.lt_add_right _ Nat.zero_lt_one

/--
Once an object was destroyed, its reference reaches nothing, whatever is done
afterwards, until its slot has been through all the generations.
-/
theorem occupant?_of_destroyed {w : World} {r : ObjectRef}
    (hlive : w.contains r = true) (after : List WorldOp)
    (hcount : w.destructions r.index (.destroy r :: after) < UInt32.size) :
    (w.performAll (.destroy r :: after)).occupant? r = none := by
  have hgeneration :=
    generation?_performAll (generation?_of_contains hlive)
      (.destroy r :: after)
  apply occupant?_of_generation_ne hgeneration
  intro heq
  have hzero : UInt32.ofNat
      (w.destructions r.index (.destroy r :: after)) = 0 := by
    simpa using heq
  have hnat := congrArg UInt32.toNat hzero
  rw [UInt32.toNat_ofNat_of_lt' hcount] at hnat
  exact absurd hnat
    (Nat.pos_iff_ne_zero.mp (destructions_destroy_pos hlive after))

/-!
## Known objects
-/

/-- Whatever stands in a slot is an object of the world. -/
def Sound (w : World) : Prop :=
  forall slot id, slot ∈ w.slots -> slot.occupant = some id ->
    (w.object? id).isSome = true

theorem sound_empty : empty.Sound := by
  intro slot id hmem
  cases hmem

theorem Sound.object?_of_occupant? {w : World} (h : w.Sound) {r : ObjectRef}
    {id : ObjectId} (hoccupant : w.occupant? r = some id) :
    exists o, w.object? id = some o := by
  unfold occupant? at hoccupant
  cases hslot : w.slots[r.index.toNat]? with
  | none =>
      rw [hslot] at hoccupant
      cases hoccupant
  | some slot =>
      rw [hslot] at hoccupant
      dsimp only at hoccupant
      split at hoccupant
      · exact Option.isSome_iff_exists.mp
          (h slot id (List.mem_of_getElem? hslot) hoccupant)
      · cases hoccupant

theorem Sound.share {w : World} (h : w.Sound) {id : ObjectId}
    (hid : (w.object? id).isSome = true) : (w.share id).2.Sound := by
  intro slot other hmem hoccupant
  have hobjects : (w.share id).2.objects = w.objects := by
    unfold World.share
    cases w.vacant <;> rfl
  have hcases : slot ∈ w.slots ∨ slot.occupant = some id := by
    unfold World.share at hmem
    cases hvacant : w.vacant with
    | nil =>
        rw [hvacant] at hmem
        rcases List.mem_append.mp hmem with hold | hnew
        · exact Or.inl hold
        · rw [List.mem_singleton.mp hnew]
          exact Or.inr rfl
    | cons index rest =>
        rw [hvacant] at hmem
        rcases List.mem_or_eq_of_mem_set hmem with hold | rfl
        · exact Or.inl hold
        · exact Or.inr rfl
  unfold object?
  rw [hobjects]
  rcases hcases with hold | hnew
  · exact h slot other hold hoccupant
  · rw [hnew] at hoccupant
    cases hoccupant
    exact hid

theorem Sound.perform {w : World} (h : w.Sound) (op : WorldOp) :
    (op.perform w).2.Sound := by
  cases op with
  | find r => exact h
  | read id => exact h
  | population => exact h
  | change id c =>
      intro slot other hmem hoccupant
      have hold := h slot other hmem hoccupant
      unfold object? at hold ⊢
      unfold WorldOp.perform World.change
      dsimp only
      rw [List.getElem?_modify, Option.map_eq_map, Option.isSome_map]
      exact hold
  | spawn o =>
      unfold WorldOp.perform World.spawn
      apply Sound.share
      · intro slot other hmem hoccupant
        have hold := h slot other hmem hoccupant
        unfold object? at hold ⊢
        rcases Option.isSome_iff_exists.mp hold with ⟨known, hknown⟩
        have hinside := (List.getElem?_eq_some_iff.mp hknown).1
        dsimp only
        rw [List.getElem?_append_left hinside]
        exact hold
      · unfold object?
        simp
  | share id =>
      unfold WorldOp.perform
      dsimp only
      cases hobject : w.object? id with
      | none => exact h
      | some o =>
          apply h.share
          rw [hobject]
          rfl
  | destroy r =>
      unfold WorldOp.perform World.destroy
      dsimp only
      split
      · intro slot other hmem hoccupant
        rcases List.mem_or_eq_of_mem_set hmem with hold | rfl
        · exact h slot other hold hoccupant
        · cases hoccupant
      · exact h

theorem Sound.performAll {w : World} (h : w.Sound) (ops : List WorldOp) :
    (w.performAll ops).Sound := by
  induction ops generalizing w with
  | nil => exact h
  | cons op rest ih => exact ih (h.perform op)

end World

end ScriptBridge
