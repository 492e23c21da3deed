import ScriptBridge.Proofs.Listing
import ScriptBridge.Proofs.References
import ScriptBridge.Proofs.Restoration

/-!
# Handles that stay right

A handle says under which exposed type its object is known.  It is right when it
is made; that it is still right later has two reasons.  While its object lives,
the reference reaches the same object, whose class never changes.  Once the
object is destroyed, the generation of the slot has passed the one of the
reference, and never comes back to it before all the generations were spent.

So there are two ways in which a handle is settled, and no operation of the
world unsettles it.
-/

namespace ScriptBridge

/-!
## The handles in values and objects
-/

namespace Value

mutual

/-- The handles in a value, also inside arrays, from left to right. -/
def handles : Value -> List Handle
  | .nil => []
  | .bool _ => []
  | .int _ => []
  | .float _ => []
  | .string _ => []
  | .array items => handlesAll items
  | .handle h => [h]
  | .member _ => []

def handlesAll : List Value -> List Handle
  | [] => []
  | v :: rest => handles v ++ handlesAll rest

end

theorem mem_handlesAll_iff {items : List Value} {h : Handle} :
    h ∈ handlesAll items ↔ exists v, v ∈ items ∧ h ∈ v.handles := by
  induction items with
  | nil => simp [handlesAll]
  | cons v rest ih => simp [handlesAll, ih]

theorem handlesAll_append (items more : List Value) :
    handlesAll (items ++ more) = handlesAll items ++ handlesAll more := by
  induction items with
  | nil => rfl
  | cons v rest ih =>
      rw [List.cons_append, handlesAll, ih, handlesAll, List.append_assoc]

theorem mem_handlesAll_of_getD {items : List Value} {i : Nat} {h : Handle}
    (hmem : h ∈ (items[i]?.getD .nil).handles) : h ∈ handlesAll items := by
  cases hitem : items[i]? with
  | none =>
      rw [hitem] at hmem
      cases hmem
  | some v =>
      rw [hitem] at hmem
      exact mem_handlesAll_iff.mpr ⟨v, List.mem_of_getElem? hitem, hmem⟩

theorem handles_ofHandle? (h : Option Handle) :
    (ofHandle? h).handles = h.toList := by
  cases h <;> rfl

end Value

namespace NativeObject

def handles (o : NativeObject) : List Handle :=
  o.fields.entries.flatMap (fun entry => entry.2.handles)

theorem mem_handles_iff (o : NativeObject) (h : Handle) :
    h ∈ o.handles ↔
      exists name v, o.fields.get? name = some v ∧ h ∈ v.handles := by
  rw [handles, List.mem_flatMap]
  constructor
  · intro hmem
    rcases hmem with ⟨⟨name, v⟩, hentry, hv⟩
    exact ⟨name, v, (Table.get?_eq_some_iff _ _ _).mpr hentry, hv⟩
  · intro hmem
    rcases hmem with ⟨name, v, hget, hv⟩
    exact ⟨(name, v), (Table.get?_eq_some_iff _ _ _).mp hget, hv⟩

theorem mem_handles_of_field {o : NativeObject} {name : String} {h : Handle}
    (hmem : h ∈ (o.field name).handles) : h ∈ o.handles := by
  unfold field Table.getD at hmem
  cases hget : o.fields.get? name with
  | none =>
      rw [hget] at hmem
      cases hmem
  | some v =>
      rw [hget] at hmem
      exact (o.mem_handles_iff h).mpr ⟨name, v, hget, hmem⟩

end NativeObject

def ObjectChange.handles : ObjectChange -> List Handle
  | .setField _ v => v.handles
  | _ => []

theorem NativeObject.mem_handles_change {o : NativeObject} {c : ObjectChange}
    {h : Handle} (hmem : h ∈ (o.change c).handles) :
    h ∈ o.handles ∨ h ∈ c.handles := by
  cases c with
  | setField name v =>
      rcases (mem_handles_iff _ h).mp hmem with ⟨other, found, hget, hfound⟩
      rcases Table.get?_put_cases hget with ⟨_, rfl⟩ | hold
      · exact Or.inr hfound
      · exact Or.inl ((o.mem_handles_iff h).mpr ⟨other, found, hold, hfound⟩)
  | setNick nick => exact Or.inl hmem
  | setMerged merged => exact Or.inl hmem
  | countCall => exact Or.inl hmem

namespace WorldOp

def handles : WorldOp -> List Handle
  | .change _ c => c.handles
  | .spawn o => o.handles
  | _ => []

def learned : (op : WorldOp) -> op.Answer -> List Handle
  | .read _, answer => (answer.map NativeObject.handles).getD []
  | _, _ => []

end WorldOp

namespace World

/-- The handles in the fields of all objects that were ever placed. -/
def handles (w : World) : List Handle :=
  w.objects.flatMap NativeObject.handles

theorem mem_handles_of_object? {w : World} {id : ObjectId} {o : NativeObject}
    {h : Handle} (ho : w.object? id = some o) (hmem : h ∈ o.handles) :
    h ∈ w.handles :=
  List.mem_flatMap.mpr ⟨o, List.mem_of_getElem? ho, hmem⟩

theorem mem_handles_withChange {w : World} {id : ObjectId} {c : ObjectChange}
    {h : Handle} (hmem : h ∈ (w.change id c).handles) :
    h ∈ w.handles ∨ h ∈ c.handles := by
  rcases List.mem_flatMap.mp hmem with ⟨o, ho, hin⟩
  rcases List.mem_iff_getElem?.mp ho with ⟨i, hi⟩
  unfold World.change at hi
  dsimp only at hi
  rw [List.getElem?_modify] at hi
  rcases Option.map_eq_some_iff.mp hi with ⟨old, hold, heq⟩
  have hkept (hin : h ∈ old.handles) : h ∈ w.handles :=
    List.mem_flatMap.mpr ⟨old, List.mem_of_getElem? hold, hin⟩
  split at heq
  · rw [← heq] at hin
    rcases NativeObject.mem_handles_change hin with hin | hin
    · exact Or.inl (hkept hin)
    · exact Or.inr hin
  · cases heq
    exact Or.inl (hkept hin)

theorem mem_handles_perform {w : World} {op : WorldOp} {h : Handle}
    (hmem : h ∈ (op.perform w).2.handles) : h ∈ w.handles ∨ h ∈ op.handles := by
  cases op with
  | find r => exact Or.inl hmem
  | read id => exact Or.inl hmem
  | population => exact Or.inl hmem
  | change id c => exact mem_handles_withChange hmem
  | spawn o =>
      unfold WorldOp.perform World.spawn World.handles at hmem
      dsimp only at hmem
      rw [objects_share, List.flatMap_append] at hmem
      rcases List.mem_append.mp hmem with hin | hin
      · exact Or.inl hin
      · exact Or.inr (by simpa [WorldOp.handles] using hin)
  | share id =>
      refine Or.inl ?_
      unfold WorldOp.perform at hmem
      dsimp only at hmem
      cases hobject : w.object? id with
      | none =>
          rw [hobject] at hmem
          exact hmem
      | some o =>
          rw [hobject] at hmem
          unfold World.handles at hmem
          dsimp only at hmem
          rw [objects_share] at hmem
          exact hmem
  | destroy r =>
      refine Or.inl ?_
      unfold WorldOp.perform World.destroy at hmem
      dsimp only at hmem
      split at hmem <;> exact hmem

theorem object?_perform {w : World} {id : ObjectId} {o : NativeObject}
    (ho : w.object? id = some o) (op : WorldOp) :
    exists o', (op.perform w).2.object? id = some o' ∧ o'.cls = o.cls := by
  cases op with
  | find r => exact ⟨o, ho, rfl⟩
  | read id => exact ⟨o, ho, rfl⟩
  | population => exact ⟨o, ho, rfl⟩
  | change other c =>
      unfold object? at ho ⊢
      unfold WorldOp.perform World.change
      dsimp only
      rw [List.getElem?_modify, ho]
      refine ⟨_, rfl, ?_⟩
      split
      · exact o.cls_change c
      · rfl
  | spawn new =>
      refine ⟨o, ?_, rfl⟩
      unfold WorldOp.perform World.spawn object?
      dsimp only
      rw [objects_share, List.getElem?_append_left
        (List.getElem?_eq_some_iff.mp ho).1]
      exact ho
  | share other =>
      refine ⟨o, ?_, rfl⟩
      unfold WorldOp.perform
      dsimp only
      cases w.object? other with
      | none => exact ho
      | some shared =>
          unfold object?
          dsimp only
          rw [objects_share]
          exact ho
  | destroy r =>
      refine ⟨o, ?_, rfl⟩
      unfold WorldOp.perform World.destroy
      dsimp only
      split <;> exact ho

/-!
## While the generations last
-/

/-- Some operations leave every slot a generation that it has not had. -/
def Unspent (w : World) (ops : List WorldOp) : Prop :=
  forall index,
    (w.turn index).toNat + w.destructions index ops < UInt32.size

theorem unspent_empty {ops : List WorldOp}
    (h : forall index, empty.destructions index ops < UInt32.size) :
    empty.Unspent ops := by
  intro index
  have hturn : (empty.turn index).toNat = 0 := rfl
  rw [hturn, Nat.zero_add]
  exact h index

theorem destructions_append (w : World) (index : UInt32)
    (ops more : List WorldOp) :
    w.destructions index (ops ++ more) =
      w.destructions index ops +
        (w.performAll ops).destructions index more := by
  induction ops generalizing w with
  | nil => exact (Nat.zero_add _).symm
  | cons op rest ih =>
      rw [List.cons_append, destructions, ih, destructions, performAll,
        Nat.add_assoc]

section Unspent

variable {w : World} {ops more : List WorldOp}

theorem Unspent.left (h : w.Unspent (ops ++ more)) : w.Unspent ops := by
  intro index
  have hboth := h index
  rw [destructions_append] at hboth
  omega

theorem Tidy.toNat_turn_performAll (hw : w.Tidy) (h : w.Unspent ops)
    (index : UInt32) :
    ((w.performAll ops).turn index).toNat =
      (w.turn index).toNat + w.destructions index ops := by
  have hlast := h index
  rw [hw.turn_performAll, UInt32.toNat_add, UInt32.toNat_ofNat']
  unfold UInt32.size at hlast
  omega

theorem Unspent.right (hw : w.Tidy) (h : w.Unspent (ops ++ more)) :
    (w.performAll ops).Unspent more := by
  intro index
  have hboth := h index
  rw [destructions_append] at hboth
  rw [hw.toNat_turn_performAll h.left]
  omega

theorem Unspent.first {op : WorldOp} (h : w.Unspent (op :: more)) :
    w.Unspent [op] := by
  have hsplit : w.Unspent ([op] ++ more) := h
  exact hsplit.left

theorem Unspent.rest {op : WorldOp} (hw : w.Tidy)
    (h : w.Unspent (op :: more)) : (op.perform w).2.Unspent more := by
  have hsplit : w.Unspent ([op] ++ more) := h
  exact hsplit.right hw

end Unspent

/-- The slot of a reference is past its generation. -/
def Passed (w : World) (r : ObjectRef) : Prop :=
  exists generation,
    w.generation? r.index = some generation ∧ r.generation < generation

theorem Passed.get? {w : World} {r : ObjectRef} (h : w.Passed r) :
    w.get? r = none := by
  rcases h with ⟨generation, hgeneration, hlt⟩
  rw [World.get?, occupant?_of_generation_ne hgeneration
    (Ne.symm (UInt32.ne_of_lt hlt)), Option.bind_none]

/-- A slot that is past a generation stays past it. -/
theorem Passed.perform {w : World} {r : ObjectRef} (h : w.Passed r)
    {op : WorldOp} (hspent : w.Unspent [op]) : (op.perform w).2.Passed r := by
  rcases h with ⟨generation, hgeneration, hlt⟩
  refine ⟨_, generation?_perform hgeneration op, ?_⟩
  have hlast := hspent r.index
  rw [turn, hgeneration, Option.getD_some, destructions] at hlast
  rw [UInt32.lt_iff_toNat_lt] at hlt ⊢
  rw [UInt32.toNat_add, UInt32.toNat_ofNat']
  unfold UInt32.size at hlast
  omega

theorem passed_destroy {w : World} {r : ObjectRef}
    (hlive : w.contains r = true) (hspent : w.Unspent [.destroy r]) :
    (w.destroy r).2.Passed r := by
  have hgeneration := generation?_of_contains hlive
  have hlast := hspent r.index
  have hvacates : (WorldOp.destroy r).vacates w r.index = true := by
    unfold WorldOp.vacates
    dsimp only
    rw [hlive, Bool.and_true]
    exact decide_eq_true rfl
  refine ⟨_, generation?_destroy hgeneration r, ?_⟩
  rw [turn, hgeneration, Option.getD_some, destructions, hvacates] at hlast
  rw [hvacates, UInt32.lt_iff_toNat_lt, UInt32.toNat_add,
    UInt32.toNat_ofNat']
  unfold UInt32.size at hlast
  rw [Bool.toNat_true] at hlast ⊢
  omega

end World

/-!
## Right and settled handles
-/

namespace TypeTable

/-- A handle to a live object, or to a class, has the exposed type that is bound nearest. -/
def Right (t : TypeTable) (w : World) : Handle -> Prop
  | .object h =>
      forall o, w.get? h.path.target = some o ->
        t.exposed? o.cls = some h.exposed
  | .cls h => (t.classBinding? h.cls).map TypeBinding.exposed = some h.exposed

/-- A handle is right, and will be as long as the generations last. -/
inductive Settled (t : TypeTable) (w : World) : Handle -> Prop where
  | live {h : InstanceHandle} :
      t.objectHandle? w h.path = some h -> Settled t w (.object h)
  | passed {h : InstanceHandle} {id : ClassId} :
      t.exposed? id = some h.exposed -> w.Passed h.path.target ->
      Settled t w (.object h)
  | cls {h : ClassHandle} :
      t.classHandle? h.cls = some h -> Settled t w (.cls h)

section Settled

variable {t : TypeTable} {w : World} {h : Handle}

theorem Settled.right (hsettled : t.Settled w h) : t.Right w h := by
  cases hsettled with
  | @live h hhandle =>
      intro o ho
      rcases (t.objectHandle?_eq_some_iff w h).mp hhandle with
        ⟨o', ho', hexposed⟩
      rw [ho] at ho'
      cases ho'
      exact hexposed
  | passed hexposed hpassed =>
      intro o ho
      rw [hpassed.get?] at ho
      cases ho
  | cls hhandle =>
      rcases Option.map_eq_some_iff.mp hhandle with ⟨binding, hbinding, heq⟩
      unfold Right
      dsimp only
      rw [hbinding, Option.map_some, ← heq]

/-- The exposed name of a settled handle leads back to its exposed type. -/
theorem Settled.binds (ht : t.Coherent) (hsettled : t.Settled w h) :
    SaveTables.Binds t h.exposed := by
  have hexposed {id : ClassId} {e : Exposed} (he : t.exposed? id = some e) :
      SaveTables.Binds t e := by
    rcases Option.map_eq_some_iff.mp he with ⟨binding, hbinding, rfl⟩
    rw [binding?_eq] at hbinding
    unfold SaveTables.Binds
    rw [(ht.named?_of_bindingAt? hbinding).2, Option.map_some]
  cases hsettled with
  | @live h hhandle =>
      rcases (t.objectHandle?_eq_some_iff w h).mp hhandle with ⟨o, _, ho⟩
      exact hexposed ho
  | passed he hpassed => exact hexposed he
  | cls hhandle =>
      rcases Option.map_eq_some_iff.mp hhandle with ⟨binding, hbinding, heq⟩
      rw [classBinding?_eq] at hbinding
      rw [← heq]
      unfold SaveTables.Binds
      dsimp only [Handle.exposed]
      rw [(ht.named?_of_bindingAt? hbinding).2, Option.map_some]

theorem settled_of_objectHandle? {p : Path} {h : InstanceHandle}
    (hhandle : t.objectHandle? w p = some h) : t.Settled w (.object h) := by
  have hpath : h.path = p := by
    unfold objectHandle? at hhandle
    cases ho : w.get? p.target with
    | none =>
        rw [ho] at hhandle
        cases hhandle
    | some o =>
        rw [ho] at hhandle
        rcases Option.map_eq_some_iff.mp hhandle with ⟨e, _, rfl⟩
        rfl
  apply Settled.live
  rw [hpath]
  exact hhandle

theorem settled_of_classHandle? {id : ClassId} {h : ClassHandle}
    (hhandle : t.classHandle? id = some h) : t.Settled w (.cls h) := by
  have hcls : h.cls = id := by
    rcases Option.map_eq_some_iff.mp hhandle with ⟨binding, _, rfl⟩
    rfl
  apply Settled.cls
  rw [hcls]
  exact hhandle

theorem settled_of_mem_objectValue {p : Path}
    (hmem : h ∈ (t.objectValue w p).handles) : t.Settled w h := by
  rw [objectValue, Value.handles_ofHandle?, Option.mem_toList,
    Option.map_eq_some_iff] at hmem
  rcases hmem with ⟨found, hfound, rfl⟩
  exact settled_of_objectHandle? hfound

theorem settled_of_mem_classValue {id : ClassId}
    (hmem : h ∈ (t.classValue id).handles) : t.Settled w h := by
  rw [classValue, Value.handles_ofHandle?, Option.mem_toList,
    Option.map_eq_some_iff] at hmem
  rcases hmem with ⟨found, hfound, rfl⟩
  exact settled_of_classHandle? hfound

mutual

theorem settled_of_mem_toScript {p : Path} :
    (v : NativeValue) -> h ∈ (t.toScript w p v).handles -> t.Settled w h
  | .bool _, hmem => nomatch hmem
  | .int _, hmem => nomatch hmem
  | .float _, hmem => nomatch hmem
  | .string _, hmem => nomatch hmem
  | .object none, hmem => nomatch hmem
  | .object (some _), hmem => settled_of_mem_objectValue hmem
  | .cls none, hmem => nomatch hmem
  | .cls (some _), hmem => settled_of_mem_classValue hmem
  | .array items, hmem => settled_of_mem_toScriptAll items hmem

theorem settled_of_mem_toScriptAll {p : Path} :
    (items : List NativeValue) ->
    h ∈ Value.handlesAll (t.toScriptAll w p items) -> t.Settled w h
  | [], hmem => nomatch hmem
  | v :: rest, hmem => by
      rcases List.mem_append.mp hmem with hmem | hmem
      · exact settled_of_mem_toScript v hmem
      · exact settled_of_mem_toScriptAll rest hmem

end

/-- No operation unsettles a handle. -/
theorem Settled.perform (hw : w.Tidy) {op : WorldOp}
    (hspent : w.Unspent [op]) (hsettled : t.Settled w h) :
    t.Settled (op.perform w).2 h := by
  cases hsettled with
  | cls hhandle => exact Settled.cls hhandle
  | passed hexposed hpassed =>
      exact Settled.passed hexposed (hpassed.perform hspent)
  | @live h hhandle =>
      rcases (t.objectHandle?_eq_some_iff w h).mp hhandle with
        ⟨o, ho, hexposed⟩
      rcases Option.bind_eq_some_iff.mp ho with ⟨id, hoccupant, hobject⟩
      -- Its own destruction turns a live handle into one that is past its object.
      by_cases hop : op = .destroy h.path.target
      · subst hop
        exact Settled.passed hexposed
          (World.passed_destroy (World.contains_of_occupant? hoccupant) hspent)
      · have hkept := (hw.moved_perform op).occupant? hoccupant hop
        rcases World.object?_perform hobject op with ⟨o', hobject', hcls⟩
        apply Settled.live
        apply (t.objectHandle?_eq_some_iff _ h).mpr
        refine ⟨o', ?_, ?_⟩
        · rw [World.get?, hkept, Option.bind_some, hobject']
        · rw [hcls]
          exact hexposed

theorem Settled.performAll (hw : w.Tidy) {ops : List WorldOp}
    (hspent : w.Unspent ops) (hsettled : t.Settled w h) :
    t.Settled (w.performAll ops) h := by
  induction ops generalizing w with
  | nil => exact hsettled
  | cons op rest ih =>
      have hfirst := hspent.first
      have hrest := hspent.rest hw
      exact ih (hw.perform op) hrest (hsettled.perform hw hfirst)

end Settled

def AllSettled (t : TypeTable) (w : World) : Prop :=
  forall h, h ∈ w.handles -> t.Settled w h

theorem AllSettled.performAll {t : TypeTable} {w : World} (hw : w.Tidy)
    {ops : List WorldOp} (hspent : w.Unspent ops) (hall : t.AllSettled w)
    (hops : forall op, op ∈ ops -> forall h, h ∈ op.handles ->
      t.Settled w h) : t.AllSettled (w.performAll ops) := by
  induction ops generalizing w with
  | nil => exact hall
  | cons op rest ih =>
      have hfirst := hspent.first
      have hrest := hspent.rest hw
      apply ih (hw.perform op) hrest
      · intro h hmem
        apply Settled.perform hw hfirst
        rcases World.mem_handles_perform hmem with hmem | hmem
        · exact hall h hmem
        · exact hops op List.mem_cons_self h hmem
      · intro later hlater h hmem
        exact (hops later (List.mem_cons_of_mem _ hlater) h hmem).perform hw
          hfirst

end TypeTable

end ScriptBridge
