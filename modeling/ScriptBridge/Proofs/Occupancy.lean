import ScriptBridge.Proofs.Generations

/-!
# What stands in the slots

The vacant slots are listed beside the slots, and both are written by hand
whenever an object is placed or destroyed.  They agree after any operations: the
list names every vacant slot once and no other.  So an object is never placed
where another one still stands, and a reference reaches the object that it was
made for until that object is destroyed.

From then on it reaches nothing, until its slot was vacated as often as there
are generations.  After that many times, and any multiple of it, the reference
reaches whatever stands in the slot.
-/

namespace ScriptBridge

namespace World

/-!
## Live references
-/

theorem occupant?_eq_some_iff (w : World) (r : ObjectRef) (id : ObjectId) :
    w.occupant? r = some id ↔
      w.slots[r.index.toNat]? = some ⟨r.generation, some id⟩ := by
  unfold occupant?
  cases w.slots[r.index.toNat]? with
  | none => simp
  | some slot =>
      obtain ⟨generation, occupant⟩ := slot
      by_cases hgeneration : generation = r.generation
      · simp [hgeneration]
      · simp [hgeneration]

theorem contains_eq_isSome_occupant? (w : World) (r : ObjectRef) :
    w.contains r = (w.occupant? r).isSome := by
  unfold contains occupant?
  cases w.slots[r.index.toNat]? with
  | none => rfl
  | some slot =>
      dsimp only
      by_cases hgeneration : slot.generation = r.generation
      · simp [hgeneration]
      · simp [hgeneration]

theorem contains_of_occupant? {w : World} {r : ObjectRef} {id : ObjectId}
    (h : w.occupant? r = some id) : w.contains r = true := by
  rw [contains_eq_isSome_occupant?, h]
  rfl

theorem exists_occupant?_of_contains {w : World} {r : ObjectRef}
    (h : w.contains r = true) : exists id, w.occupant? r = some id := by
  rw [contains_eq_isSome_occupant?] at h
  exact Option.isSome_iff_exists.mp h

theorem Sound.contains_iff {w : World} (h : w.Sound) (r : ObjectRef) :
    w.contains r = true ↔ exists o, w.get? r = some o := by
  constructor
  · intro hlive
    rcases exists_occupant?_of_contains hlive with ⟨id, hoccupant⟩
    rcases h.object?_of_occupant? hoccupant with ⟨o, ho⟩
    exact ⟨o, by rw [get?, hoccupant, Option.bind_some, ho]⟩
  · intro hfound
    rcases hfound with ⟨o, ho⟩
    rcases Option.bind_eq_some_iff.mp ho with ⟨id, hoccupant, _⟩
    exact contains_of_occupant? hoccupant

theorem eq_of_contains {w : World} {r r' : ObjectRef}
    (h : w.contains r = true) (h' : w.contains r' = true)
    (hindex : r.index = r'.index) : r = r' := by
  have hgeneration := generation?_of_contains h
  rw [hindex, generation?_of_contains h'] at hgeneration
  obtain ⟨index, generation⟩ := r
  obtain ⟨index', generation'⟩ := r'
  cases hindex
  cases hgeneration
  rfl

/-!
## Vacant slots
-/

def VacantAt (w : World) (i : Nat) : Prop :=
  exists generation, w.slots[i]? = some ⟨generation, none⟩

/-- The list of vacant slots names every vacant slot once, and no other. -/
structure Tidy (w : World) : Prop where
  nodup : w.vacant.Nodup
  vacant_iff (i : Nat) : i ∈ w.vacant.map UInt32.toNat ↔ w.VacantAt i

theorem tidy_empty : empty.Tidy := by
  constructor
  · exact List.nodup_nil
  · intro i
    simp [empty, VacantAt]

theorem Tidy.mem_vacant_iff {w : World} (h : w.Tidy) (index : UInt32) :
    index ∈ w.vacant ↔ w.VacantAt index.toNat := by
  rw [← h.vacant_iff, List.mem_map]
  constructor
  · intro hmem
    exact ⟨index, hmem, rfl⟩
  · intro hmem
    rcases hmem with ⟨other, hother, heq⟩
    rw [← UInt32.toNat_inj.mp heq]
    exact hother

/-!
## What an operation can come to
-/

theorem objects_share (w : World) (id : ObjectId) :
    (w.share id).2.objects = w.objects := by
  unfold share
  cases w.vacant <;> rfl

inductive Placed (w : World) (id : ObjectId) : ObjectRef × World -> Prop where
  | again {index generation : UInt32} {rest : List UInt32} :
      w.vacant = index :: rest ->
      w.slots[index.toNat]? = some ⟨generation, none⟩ ->
      Placed w id
        (⟨index, generation⟩,
          { w with
            slots := w.slots.set index.toNat ⟨generation, some id⟩
            vacant := rest })
  | added :
      w.vacant = [] ->
      Placed w id
        (⟨UInt32.ofNat w.slots.length, 0⟩,
          { w with slots := w.slots ++ [⟨0, some id⟩] })

/-- What an operation does to the slots: nothing, or it places an object, or it destroys one. -/
inductive Moved (w : World) (op : WorldOp) : World -> Prop where
  | still (objects : List NativeObject) :
      (forall r, op = .destroy r -> w.contains r = false) ->
      Moved w op { w with objects := objects }
  | placed {objects : List NativeObject} {id : ObjectId} {r : ObjectRef}
      {w' : World} :
      (forall r, op ≠ .destroy r) ->
      Placed { w with objects := objects } id (r, w') ->
      Moved w op w'
  | vacated {r : ObjectRef} :
      op = .destroy r ->
      w.contains r = true ->
      Moved w op
        { w with
          slots := w.slots.set r.index.toNat ⟨r.generation + 1, none⟩
          vacant := r.index :: w.vacant }

theorem Tidy.placed_share {w : World} (h : w.Tidy) (id : ObjectId) :
    Placed w id (w.share id) := by
  obtain ⟨slots, vacant, objects⟩ := w
  cases vacant with
  | nil => exact Placed.added rfl
  | cons index rest =>
      rcases (h.mem_vacant_iff index).mp List.mem_cons_self with
        ⟨generation, hslot⟩
      unfold World.share
      dsimp only at hslot ⊢
      rw [hslot]
      exact Placed.again rfl hslot

theorem Tidy.moved_perform {w : World} (h : w.Tidy) (op : WorldOp) :
    w.Moved op (op.perform w).2 := by
  have hobjects (objects : List NativeObject) :
      ({ w with objects := objects } : World).Tidy :=
    ⟨h.nodup, h.vacant_iff⟩
  cases op with
  | find r => exact Moved.still w.objects (fun _ heq => nomatch heq)
  | read id => exact Moved.still w.objects (fun _ heq => nomatch heq)
  | population => exact Moved.still w.objects (fun _ heq => nomatch heq)
  | change id c => exact Moved.still _ (fun _ heq => nomatch heq)
  | spawn o =>
      exact Moved.placed (fun _ heq => nomatch heq)
        ((hobjects (w.objects ++ [o])).placed_share _)
  | share id =>
      unfold WorldOp.perform
      dsimp only
      cases w.object? id with
      | none => exact Moved.still w.objects (fun _ heq => nomatch heq)
      | some o =>
          exact Moved.placed (fun _ heq => nomatch heq) (h.placed_share id)
  | destroy r =>
      unfold WorldOp.perform World.destroy
      dsimp only
      cases hlive : w.contains r with
      | true => exact Moved.vacated rfl hlive
      | false =>
          apply Moved.still w.objects
          intro r' heq
          cases heq
          exact hlive

/-!
## The list of vacant slots
-/

theorem vacantAt_set {w : World} {k : Nat} (hk : k < w.slots.length)
    (slot : WorldSlot) (vacant : List UInt32) (objects : List NativeObject)
    (i : Nat) :
    (⟨w.slots.set k slot, vacant, objects⟩ : World).VacantAt i ↔
      if i = k then slot.occupant = none else w.VacantAt i := by
  unfold VacantAt
  dsimp only
  rw [List.getElem?_set]
  by_cases hi : i = k
  · rw [if_pos hi.symm, if_pos hk, if_pos hi]
    obtain ⟨generation, occupant⟩ := slot
    simp
  · rw [if_neg (Ne.symm hi), if_neg hi]

theorem vacantAt_concat (w : World) (generation : UInt32) (id : ObjectId)
    (objects : List NativeObject) (i : Nat) :
    (⟨w.slots ++ [⟨generation, some id⟩], w.vacant, objects⟩ :
        World).VacantAt i ↔ w.VacantAt i := by
  unfold VacantAt
  dsimp only
  rw [List.getElem?_append]
  split
  · rfl
  · next houtside =>
      have hnone : w.slots[i]? = none :=
        List.getElem?_eq_none_iff.mpr (Nat.le_of_not_lt houtside)
      cases i - w.slots.length with
      | zero => simp [hnone]
      | succ more => simp [hnone]

theorem Tidy.of_placed {w w' : World} (h : w.Tidy)
    {objects : List NativeObject} {id : ObjectId} {r : ObjectRef}
    (hplaced : Placed { w with objects := objects } id (r, w')) :
    w'.Tidy := by
  cases hplaced with
  | added hvacant =>
      constructor
      · exact h.nodup
      · intro i
        rw [vacantAt_concat]
        exact h.vacant_iff i
  | @again index generation rest hvacant hslot =>
      dsimp only at hvacant hslot
      have hinside := (List.getElem?_eq_some_iff.mp hslot).1
      have hnodup := h.nodup
      rw [hvacant, List.nodup_cons] at hnodup
      constructor
      · exact hnodup.2
      -- The slot is occupied now, and the rest of the list does not name it again.
      · intro i
        have hiff := h.vacant_iff i
        rw [hvacant, List.map_cons, List.mem_cons] at hiff
        dsimp only
        rw [vacantAt_set hinside]
        by_cases hi : i = index.toNat
        · have hrest : i ∉ rest.map UInt32.toNat := by
            intro hmem
            rcases List.mem_map.mp hmem with ⟨other, hother, heq⟩
            rw [hi, UInt32.toNat_inj] at heq
            rw [heq] at hother
            exact hnodup.1 hother
          rw [if_pos hi]
          exact iff_of_false hrest (fun heq => nomatch heq)
        · rw [if_neg hi, ← hiff]
          exact (or_iff_right hi).symm

theorem Tidy.of_vacated {w : World} (h : w.Tidy) {r : ObjectRef}
    (hlive : w.contains r = true) :
    ({ w with
      slots := w.slots.set r.index.toNat ⟨r.generation + 1, none⟩
      vacant := r.index :: w.vacant } : World).Tidy := by
  rcases exists_occupant?_of_contains hlive with ⟨id, hoccupant⟩
  have hslot := (occupant?_eq_some_iff w r id).mp hoccupant
  constructor
  · apply List.nodup_cons.mpr
    refine ⟨?_, h.nodup⟩
    intro hmem
    rcases (h.mem_vacant_iff r.index).mp hmem with ⟨generation, hvacant⟩
    rw [hslot] at hvacant
    cases hvacant
  · intro i
    rw [vacantAt_set (List.getElem?_eq_some_iff.mp hslot).1, List.map_cons,
      List.mem_cons, h.vacant_iff]
    by_cases hi : i = r.index.toNat
    · rw [if_pos hi]
      exact iff_of_true (Or.inl hi) rfl
    · rw [if_neg hi]
      exact or_iff_right hi

theorem Tidy.of_moved {w w' : World} (h : w.Tidy) {op : WorldOp}
    (hmoved : w.Moved op w') : w'.Tidy := by
  cases hmoved with
  | still objects hdead => exact ⟨h.nodup, h.vacant_iff⟩
  | placed hnot hplaced => exact h.of_placed hplaced
  | vacated hop hlive => exact h.of_vacated hlive

theorem Tidy.perform {w : World} (h : w.Tidy) (op : WorldOp) :
    (op.perform w).2.Tidy :=
  h.of_moved (h.moved_perform op)

theorem Tidy.performAll {w : World} (h : w.Tidy) (ops : List WorldOp) :
    (w.performAll ops).Tidy := by
  induction ops generalizing w with
  | nil => exact h
  | cons op rest ih => exact ih (h.perform op)

/-!
## Counting objects
-/

def liveRefs (w : World) : List ObjectRef :=
  w.slots.zipIdx.filterMap (fun (slot, i) =>
    slot.occupant.map (fun _ => ⟨UInt32.ofNat i, slot.generation⟩))

def vacantPlaces (w : World) : List Nat :=
  (w.slots.zipIdx.filter (fun (slot, _) => slot.occupant.isNone)).map
    Prod.snd

theorem nodup_places (slots : List WorldSlot) :
    (slots.zipIdx.map Prod.snd).Nodup := by
  rw [List.zipIdx_map_snd]
  exact List.nodup_range'

theorem mem_liveRefs_of_contains {w : World} {r : ObjectRef}
    (h : w.contains r = true) : r ∈ w.liveRefs := by
  rcases exists_occupant?_of_contains h with ⟨id, hoccupant⟩
  have hslot := (occupant?_eq_some_iff w r id).mp hoccupant
  apply List.mem_filterMap.mpr
  refine ⟨(⟨r.generation, some id⟩, r.index.toNat), ?_, ?_⟩
  · exact List.mem_zipIdx_iff_getElem?.mpr hslot
  · simp

/-- If every slot has an index of its own, then the references are those of live objects. -/
theorem mem_liveRefs_iff {w : World} (hroom : w.slots.length ≤ UInt32.size)
    (r : ObjectRef) : r ∈ w.liveRefs ↔ w.contains r = true := by
  constructor
  · intro hmem
    rcases List.mem_filterMap.mp hmem with ⟨⟨slot, i⟩, hentry, hr⟩
    rcases Option.map_eq_some_iff.mp hr with ⟨id, hid, rfl⟩
    have hslot := List.mem_zipIdx_iff_getElem?.mp hentry
    have hinside := (List.getElem?_eq_some_iff.mp hslot).1
    obtain ⟨generation, occupant⟩ := slot
    cases hid
    refine contains_of_occupant? (?_ : w.occupant? _ = some id)
    rw [occupant?_eq_some_iff]
    dsimp only at hslot hinside ⊢
    rw [UInt32.toNat_ofNat_of_lt' (Nat.lt_of_lt_of_le hinside hroom)]
    exact hslot
  · exact mem_liveRefs_of_contains

theorem nodup_liveRefs {w : World} (hroom : w.slots.length ≤ UInt32.size) :
    w.liveRefs.Nodup := by
  have hlt {entry : WorldSlot × Nat} (hmem : entry ∈ w.slots.zipIdx) :
      entry.2 < UInt32.size :=
    Nat.lt_of_lt_of_le (List.getElem?_eq_some_iff.mp
      (List.mem_zipIdx_iff_getElem?.mp hmem)).1 hroom
  apply List.pairwise_filterMap.mpr
  apply (List.pairwise_map.mp (nodup_places w.slots)).imp_of_mem
  intro entry other hentry hother hne r hr r' hr' heq
  rcases Option.map_eq_some_iff.mp hr with ⟨_, _, rfl⟩
  rcases Option.map_eq_some_iff.mp hr' with ⟨_, _, rfl⟩
  have hindex := congrArg (fun r => r.index.toNat) heq
  dsimp only at hindex
  rw [UInt32.toNat_ofNat_of_lt' (hlt hentry),
    UInt32.toNat_ofNat_of_lt' (hlt hother)] at hindex
  exact hne hindex

theorem mem_vacantPlaces_iff (w : World) (i : Nat) :
    i ∈ w.vacantPlaces ↔ w.VacantAt i := by
  rw [vacantPlaces, List.mem_map]
  constructor
  · intro hmem
    rcases hmem with ⟨⟨⟨generation, occupant⟩, j⟩, hfilter, rfl⟩
    rcases List.mem_filter.mp hfilter with ⟨hentry, hnone⟩
    cases occupant with
    | some id => cases hnone
    | none => exact ⟨generation, List.mem_zipIdx_iff_getElem?.mp hentry⟩
  · intro hvacant
    rcases hvacant with ⟨generation, hslot⟩
    refine ⟨(⟨generation, none⟩, i), ?_, rfl⟩
    exact List.mem_filter.mpr ⟨List.mem_zipIdx_iff_getElem?.mpr hslot, rfl⟩

theorem length_slots_eq (w : World) :
    w.slots.length = w.liveRefs.length + w.vacantPlaces.length := by
  have hcount := List.length_eq_countP_add_countP
    (fun entry => entry.1.occupant.isSome) (l := w.slots.zipIdx)
  have hvacant : (fun entry : WorldSlot × Nat =>
      decide ¬entry.1.occupant.isSome = true) =
        (fun entry => entry.1.occupant.isNone) := by
    funext entry
    cases entry.1.occupant <;> rfl
  rw [List.length_zipIdx, hvacant] at hcount
  rw [hcount, liveRefs, List.length_filterMap_eq_countP, vacantPlaces,
    List.length_map, ← List.countP_eq_length_filter]
  simp only [Option.isSome_map]

theorem Tidy.length_vacant {w : World} (h : w.Tidy) :
    w.vacant.length = w.vacantPlaces.length := by
  have hlisted : (w.vacant.map UInt32.toNat).Nodup := by
    apply List.pairwise_map.mpr
    apply h.nodup.imp
    intro index other hne heq
    exact hne (UInt32.toNat_inj.mp heq)
  have hplaces : w.vacantPlaces.Nodup :=
    (nodup_places w.slots).sublist (List.filter_sublist.map Prod.snd)
  have hle : (w.vacant.map UInt32.toNat).length ≤ w.vacantPlaces.length := by
    apply hlisted.length_le_of_subset
    intro i hi
    exact (w.mem_vacantPlaces_iff i).mpr ((h.vacant_iff i).mp hi)
  have hge : w.vacantPlaces.length ≤ (w.vacant.map UInt32.toNat).length := by
    apply hplaces.length_le_of_subset
    intro i hi
    exact (h.vacant_iff i).mpr ((w.mem_vacantPlaces_iff i).mp hi)
  rw [List.length_map] at hle hge
  exact Nat.le_antisymm hle hge

theorem Tidy.population_eq {w : World} (h : w.Tidy) :
    w.population = w.liveRefs.length := by
  rw [population, length_slots_eq, h.length_vacant, Nat.add_sub_cancel]

/-!
## Reaching what was placed
-/

theorem Tidy.occupant?_share {w : World} (h : w.Tidy) (id : ObjectId)
    (hroom : (w.share id).2.slots.length ≤ UInt32.size) :
    (w.share id).2.occupant? (w.share id).1 = some id := by
  have hplaced := h.placed_share id
  generalize w.share id = placed at hplaced hroom
  rw [occupant?_eq_some_iff]
  cases hplaced with
  | added hvacant =>
      dsimp only at hroom ⊢
      rw [List.length_append, List.length_singleton] at hroom
      rw [UInt32.toNat_ofNat_of_lt' hroom, List.getElem?_concat_length]
  | again hvacant hslot =>
      dsimp only
      rw [List.getElem?_set_self (List.getElem?_eq_some_iff.mp hslot).1]

/-- Only destroying an object takes it from its reference. -/
theorem Moved.occupant? {w w' : World} {op : WorldOp}
    (hmoved : w.Moved op w') {r : ObjectRef} {id : ObjectId}
    (hoccupant : w.occupant? r = some id) (hop : op ≠ .destroy r) :
    w'.occupant? r = some id := by
  rw [occupant?_eq_some_iff] at hoccupant ⊢
  cases hmoved with
  | still objects hdead => exact hoccupant
  | placed hnot hplaced =>
      cases hplaced with
      | added hvacant =>
          dsimp only
          rw [List.getElem?_append_left
            (List.getElem?_eq_some_iff.mp hoccupant).1]
          exact hoccupant
      | again hvacant hslot =>
          dsimp only
          rw [List.getElem?_set_ne]
          · exact hoccupant
          · intro heq
            rw [← heq] at hoccupant
            dsimp only at hslot
            rw [hoccupant] at hslot
            cases hslot
  | @vacated r' heq hlive =>
      dsimp only
      rw [List.getElem?_set_ne]
      · exact hoccupant
      · intro hindex
        apply hop
        rw [heq]
        apply congrArg WorldOp.destroy
        -- Both references are live and of one slot.
        apply eq_of_contains hlive
        · exact contains_of_occupant?
            ((occupant?_eq_some_iff w r id).mpr hoccupant)
        · exact UInt32.toNat_inj.mp hindex

theorem Tidy.occupant?_performAll {w : World} (h : w.Tidy) {r : ObjectRef}
    {id : ObjectId} (hoccupant : w.occupant? r = some id)
    {ops : List WorldOp} (hops : WorldOp.destroy r ∉ ops) :
    (w.performAll ops).occupant? r = some id := by
  induction ops generalizing w with
  | nil => exact hoccupant
  | cons op rest ih =>
      rw [List.mem_cons, not_or] at hops
      exact ih (h.perform op)
        ((h.moved_perform op).occupant? hoccupant (Ne.symm hops.1)) hops.2

theorem Tidy.contains_performAll {w : World} (h : w.Tidy) {r : ObjectRef}
    (hlive : w.contains r = true) {ops : List WorldOp}
    (hops : WorldOp.destroy r ∉ ops) :
    (w.performAll ops).contains r = true := by
  rcases exists_occupant?_of_contains hlive with ⟨id, hoccupant⟩
  exact contains_of_occupant? (h.occupant?_performAll hoccupant hops)

theorem Moved.length_slots {w w' : World} {op : WorldOp}
    (hmoved : w.Moved op w') : w.slots.length ≤ w'.slots.length := by
  cases hmoved with
  | still objects hdead => exact Nat.le_refl _
  | placed hnot hplaced =>
      cases hplaced with
      | added hvacant => simp
      | again hvacant hslot => simp
  | vacated hop hlive => simp

theorem Tidy.length_slots_performAll {w : World} (h : w.Tidy)
    (ops : List WorldOp) :
    w.slots.length ≤ (w.performAll ops).slots.length := by
  induction ops generalizing w with
  | nil => exact Nat.le_refl _
  | cons op rest ih =>
      exact Nat.le_trans (h.moved_perform op).length_slots (ih (h.perform op))

/-- What was placed is reached until its reference is destroyed. -/
theorem Tidy.reaches_of_share {w : World} (h : w.Tidy) (id : ObjectId)
    {after : List WorldOp}
    (hroom : ((w.share id).2.performAll after).slots.length ≤ UInt32.size)
    (hkept : WorldOp.destroy (w.share id).1 ∉ after) :
    ((w.share id).2.performAll after).occupant? (w.share id).1 = some id := by
  have hafter : (w.share id).2.Tidy := h.of_placed (h.placed_share id)
  have hlength := Nat.le_trans (hafter.length_slots_performAll after) hroom
  exact hafter.occupant?_performAll (h.occupant?_share id hlength) hkept

end World

end ScriptBridge
