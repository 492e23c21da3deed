import ScriptBridge.Proofs.Occupancy

/-!
# References are exact

A world that began empty can be read off the history of its operations.  The
generation of a slot is the number of destructions in the slot, as far as the
counter goes.  A reference reaches what was placed for it until that is
destroyed, then nothing, and after as many destructions as there are generations
whatever stands in the slot by then.
-/

namespace ScriptBridge

namespace World

/-!
## The generation of a slot from the beginning
-/

/-- The generation of a slot; that with which a slot begins, if there is none yet. -/
def turn (w : World) (index : UInt32) : UInt32 :=
  (w.generation? index).getD 0

theorem vacates_of_none {w : World} {index : UInt32}
    (hnone : w.generation? index = none) (op : WorldOp) :
    op.vacates w index = false := by
  cases hvacates : op.vacates w index with
  | false => rfl
  | true =>
      cases op with
      | destroy r =>
          rcases Bool.and_eq_true_iff.mp hvacates with ⟨hindex, hlive⟩
          rw [← of_decide_eq_true hindex, generation?_of_contains hlive] at hnone
          cases hnone
      | find _ => cases hvacates
      | read _ => cases hvacates
      | change _ _ => cases hvacates
      | spawn _ => cases hvacates
      | share _ => cases hvacates
      | population => cases hvacates

theorem Moved.turn_of_none {w w' : World} {op : WorldOp}
    (hmoved : w.Moved op w') {index : UInt32}
    (hnone : w.generation? index = none) : w'.turn index = 0 := by
  have houtside : w.slots.length ≤ index.toNat :=
    List.getElem?_eq_none_iff.mp (Option.map_eq_none_iff.mp hnone)
  have hset (k : Nat) (slot : WorldSlot) :
      (w.slots.set k slot)[index.toNat]? = none := by
    rw [List.getElem?_eq_none_iff, List.length_set]
    exact houtside
  unfold turn
  cases hmoved with
  | still objects hdead =>
      unfold generation? at hnone ⊢
      rw [hnone]
      rfl
  | placed hnot hplaced =>
      unfold generation?
      cases hplaced with
      | again hvacant hslot =>
          dsimp only
          rw [hset]
          rfl
      | added hvacant =>
          dsimp only
          rw [List.getElem?_append_right houtside]
          cases index.toNat - w.slots.length <;> rfl
  | vacated hop hlive =>
      unfold generation?
      dsimp only
      rw [hset]
      rfl

theorem Tidy.turn_perform {w : World} (h : w.Tidy) (op : WorldOp)
    (index : UInt32) :
    (op.perform w).2.turn index =
      w.turn index + UInt32.ofNat (op.vacates w index).toNat := by
  cases hgeneration : w.generation? index with
  | some generation =>
      rw [turn, turn, generation?_perform hgeneration op, hgeneration]
      rfl
  | none =>
      rw [(h.moved_perform op).turn_of_none hgeneration,
        vacates_of_none hgeneration op, turn, hgeneration]
      rfl

theorem Tidy.turn_performAll {w : World} (h : w.Tidy) (ops : List WorldOp)
    (index : UInt32) :
    (w.performAll ops).turn index =
      w.turn index + UInt32.ofNat (w.destructions index ops) := by
  induction ops generalizing w with
  | nil => exact (UInt32.add_zero _).symm
  | cons op rest ih =>
      rw [World.performAll, destructions, ih (h.perform op), h.turn_perform op,
        UInt32.ofNat_add, UInt32.add_assoc]

/-- From the beginning, the generation of a slot counts the destructions there. -/
theorem generation_eq_of_performAll {ops : List WorldOp}
    {index generation : UInt32}
    (h : (empty.performAll ops).generation? index = some generation) :
    generation = UInt32.ofNat (empty.destructions index ops) := by
  have hturn := tidy_empty.turn_performAll ops index
  rw [turn, h] at hturn
  have hzero : empty.turn index = 0 := rfl
  rw [hzero, UInt32.zero_add] at hturn
  exact hturn

/-!
## When the generations have run out
-/

theorem ofNat_eq_zero_iff (n : Nat) : UInt32.ofNat n = 0 ↔ UInt32.size ∣ n := by
  rw [← UInt32.toNat_inj, UInt32.toNat_ofNat', Nat.dvd_iff_mod_eq_zero]
  rfl

/--
The reference of a destroyed object is live again exactly if something stands in
the slot and the slot has been through all the generations, perhaps several
times.
-/
theorem contains_of_destroyed_iff {w : World} {r : ObjectRef}
    (hlive : w.contains r = true) (after : List WorldOp) :
    (w.performAll (.destroy r :: after)).contains r = true ↔
      (exists generation,
        (w.performAll (.destroy r :: after)).contains
          ⟨r.index, generation⟩ = true) ∧
      UInt32.size ∣ w.destructions r.index (.destroy r :: after) := by
  have hgeneration :=
    generation?_performAll (generation?_of_contains hlive)
      (.destroy r :: after)
  rw [← ofNat_eq_zero_iff]
  constructor
  · intro hagain
    refine ⟨⟨r.generation, hagain⟩, ?_⟩
    rw [generation?_of_contains hagain, Option.some_inj] at hgeneration
    simpa using hgeneration.symm
  · intro hreturned
    rcases hreturned with ⟨⟨generation, hoccupied⟩, hzero⟩
    rw [generation?_of_contains hoccupied, hzero, UInt32.add_zero,
      Option.some_inj] at hgeneration
    dsimp only at hgeneration
    rw [hgeneration] at hoccupied
    exact hoccupied

/-!
## References of a history
-/

/-- What the references of a world say about the operations that made it, and conversely. -/
structure Exact (ops : List WorldOp) : Prop where
  /-- The generation of a slot counts the destructions in it. -/
  generation {index generation : UInt32} :
    (empty.performAll ops).generation? index = some generation ->
    generation.toNat = empty.destructions index ops % UInt32.size
  /-- The list of vacant slots names each of them once. -/
  tidy : (empty.performAll ops).Tidy
  /-- The population is the number of live references. -/
  population : (empty.performAll ops).population =
    (empty.performAll ops).liveRefs.length
  nodup_live : (empty.performAll ops).liveRefs.Nodup
  mem_live_iff (r : ObjectRef) :
    r ∈ (empty.performAll ops).liveRefs ↔
      (empty.performAll ops).contains r = true
  /-- Live references are those that reach an object. -/
  contains_iff (r : ObjectRef) :
    (empty.performAll ops).contains r = true ↔
      exists o, (empty.performAll ops).get? r = some o
  /-- Live references of one slot are the same. -/
  distinct {r r' : ObjectRef} :
    (empty.performAll ops).contains r = true ->
    (empty.performAll ops).contains r' = true ->
    r.index = r'.index -> r = r'
  /-- A new object is reached until it is destroyed. -/
  spawned {before after : List WorldOp} {o : NativeObject} :
    ops = before ++ .spawn o :: after ->
    WorldOp.destroy ((empty.performAll before).spawn o).1 ∉ after ->
    exists id,
      ((empty.performAll before).spawn o).2.object? id = some o ∧
      (empty.performAll ops).occupant?
        ((empty.performAll before).spawn o).1 = some id
  /-- An object that is put into one more slot is reached there until it is destroyed there. -/
  shared {before after : List WorldOp} {id : ObjectId} {o : NativeObject} :
    ops = before ++ .share id :: after ->
    (empty.performAll before).object? id = some o ->
    WorldOp.destroy ((empty.performAll before).share id).1 ∉ after ->
    (empty.performAll ops).occupant?
      ((empty.performAll before).share id).1 = some id
  /-- A destroyed object is out of reach until the generations of its slot have run out. -/
  stale {before after : List WorldOp} {r : ObjectRef} :
    ops = before ++ .destroy r :: after ->
    (empty.performAll before).contains r = true ->
    (empty.performAll before).destructions r.index (.destroy r :: after) <
      UInt32.size ->
    (empty.performAll ops).get? r = none ∧
      (empty.performAll ops).contains r = false ∧
      (empty.performAll ops).destroy r = (false, empty.performAll ops)
  /-- Then its reference is live whenever something stands in the slot. -/
  again {before after : List WorldOp} {r : ObjectRef} :
    ops = before ++ .destroy r :: after ->
    (empty.performAll before).contains r = true ->
    ((empty.performAll ops).contains r = true ↔
      (exists generation,
        (empty.performAll ops).contains ⟨r.index, generation⟩ = true) ∧
      UInt32.size ∣ (empty.performAll before).destructions r.index
        (.destroy r :: after))

theorem object?_spawn (w : World) (o : NativeObject) :
    (w.spawn o).2.object? ⟨w.objects.length⟩ = some o := by
  unfold spawn object?
  rw [objects_share, List.getElem?_concat_length]

/-- While every slot has an index of its own, references are exact. -/
theorem references_exact (ops : List WorldOp)
    (hroom : (empty.performAll ops).slots.length ≤ UInt32.size) :
    Exact ops := by
  have hsound := sound_empty.performAll ops
  have htidy := tidy_empty.performAll ops
  have hsplit {before after : List WorldOp} {op : WorldOp}
      (hops : ops = before ++ op :: after) :
      empty.performAll ops =
        (empty.performAll before).performAll (op :: after) := by
    rw [hops, performAll_append]
  constructor
  case generation =>
    intro index generation hgeneration
    rw [generation_eq_of_performAll hgeneration, UInt32.toNat_ofNat']
  case tidy => exact htidy
  case population => exact htidy.population_eq
  case nodup_live => exact nodup_liveRefs hroom
  case mem_live_iff => exact mem_liveRefs_iff hroom
  case contains_iff => exact hsound.contains_iff
  case distinct =>
    intro r r' hlive hlive' hindex
    exact eq_of_contains hlive hlive' hindex
  case spawned =>
    intro before after o hops hkept
    have hbefore := tidy_empty.performAll before
    have hgrown : ({ empty.performAll before with
        objects := (empty.performAll before).objects ++ [o] } :
          World).Tidy :=
      ⟨hbefore.nodup, hbefore.vacant_iff⟩
    rw [hsplit hops] at hroom ⊢
    exact ⟨_, object?_spawn _ o, hgrown.reaches_of_share _ hroom hkept⟩
  case shared =>
    intro before after id o hops ho hkept
    have hbefore := tidy_empty.performAll before
    have hperform : ((WorldOp.share id).perform (empty.performAll before)).2 =
        ((empty.performAll before).share id).2 := by
      unfold WorldOp.perform
      dsimp only
      rw [ho]
    rw [hsplit hops, World.performAll, hperform] at hroom ⊢
    exact hbefore.reaches_of_share id hroom hkept
  case stale =>
    intro before after r hops hlive hcount
    have hvacant : (empty.performAll ops).occupant? r = none := by
      rw [hsplit hops]
      exact occupant?_of_destroyed hlive after hcount
    have hgone : (empty.performAll ops).contains r = false := by
      rw [contains_eq_isSome_occupant?, hvacant]
      rfl
    refine ⟨?_, hgone, ?_⟩
    · rw [get?, hvacant, Option.bind_none]
    · rw [destroy, hgone, if_neg Bool.false_ne_true]
  case again =>
    intro before after r hops hlive
    rw [hsplit hops]
    exact contains_of_destroyed_iff hlive after

/-- Two objects are placed, the first is destroyed, and the second is put into its slot too. -/
def secondInFirstSlot : List WorldOp :=
  [.spawn ⟨.empty, none, .empty, 0⟩, .spawn ⟨.empty, none, .empty, 0⟩,
    .destroy ⟨0, 0⟩, .share ⟨1⟩]

theorem references_exact_secondInFirstSlot :
    (empty.performAll secondInFirstSlot).slots.length ≤ UInt32.size ∧
      Exact secondInFirstSlot ∧
      (empty.performAll secondInFirstSlot).contains ⟨0, 0⟩ = false ∧
      (empty.performAll secondInFirstSlot).occupant? ⟨0, 1⟩ = some ⟨1⟩ := by
  have hroom : (empty.performAll secondInFirstSlot).slots.length ≤
      UInt32.size := by
    decide +kernel
  have hexact := references_exact secondInFirstSlot hroom
  refine ⟨hroom, hexact, ?_, ?_⟩
  · have hdestroyed : secondInFirstSlot =
        secondInFirstSlot.take 2 ++ .destroy ⟨0, 0⟩ :: [.share ⟨1⟩] := rfl
    have hstale :=
      hexact.stale hdestroyed (by decide +kernel) (by decide +kernel)
    exact hstale.2.1
  · have hshared : secondInFirstSlot =
        secondInFirstSlot.take 3 ++ .share ⟨1⟩ :: [] := rfl
    exact hexact.shared hshared rfl List.not_mem_nil

end World

end ScriptBridge
