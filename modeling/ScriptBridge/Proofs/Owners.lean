import ScriptBridge.Proofs.Listing

/-!
# Who owns a member

A property or a registered function of an object may belong to an object that is
merged with it.  Reading a property, writing it and calling a function each
search for the owner.  They all find the same one: the object itself if there is
something under the name for its exposed type, or else the first live merged
object with something under the name.  The body runs for the owner: the path it
is given leads to the owner, and is the path of the handle with at most one hop
more.
-/

namespace ScriptBridge

/-!
## One hop further
-/

structure Path.LeadsTo (p q : Path) : Prop where
  root : q.root = p.root
  hops : q.hops = p.hops ++ if q.target = p.target then [] else [q.target]

namespace Path

theorem leadsTo_self (p : Path) : p.LeadsTo p := by
  refine ⟨rfl, ?_⟩
  rw [if_pos rfl, List.append_nil]

theorem leadsTo_through (p : Path) (r : ObjectRef) :
    p.LeadsTo (p.through r) := by
  refine ⟨root_through p r, ?_⟩
  rw [target_through]
  by_cases h : p.target = r
  · rw [through, if_pos h, if_pos h.symm, List.append_nil]
  · rw [through, if_neg h, if_neg (Ne.symm h)]

end Path

namespace Bridge

/-!
## Owners
-/

/--
Where a member of a handle is first registered: for the type of the handle, or
else for the class of a live object of the merged list, and for none before it.
-/
inductive FirstOwner {Answer : Type} (b : Bridge) (h : InstanceHandle)
    (o : NativeObject) (pick : MemberTable -> Option Answer) :
    Path -> NativeObject -> Answer -> Prop where
  | own {ancestor : ClassId} {a : Answer} :
      b.registry.Nearest h.exposed.cls pick ancestor a ->
      FirstOwner b h o pick h.path o a
  | merged {before after : List ObjectRef} {r : ObjectRef}
      {object : NativeObject} {ancestor : ClassId} {a : Answer} :
      b.registry.Lacks h.exposed.cls pick ->
      o.mergedRefs = before ++ r :: after ->
      (forall passed other, passed ∈ before ->
        b.world.get? passed = some other ->
        b.registry.Lacks other.cls pick) ->
      b.world.get? r = some object ->
      b.registry.Nearest object.cls pick ancestor a ->
      FirstOwner b h o pick (h.path.through r) object a

structure Owner {Answer : Type} (b : Bridge) (h : InstanceHandle)
    (o : NativeObject) (pick : MemberTable -> Option Answer) (path : Path)
    (object : NativeObject) (a : Answer) : Prop where
  first : b.FirstOwner h o pick path object a
  /-- The member is registered for the class of the owner or its nearest ancestor with one. -/
  nearest : exists ancestor, b.registry.Nearest object.cls pick ancestor a
  live : b.world.get? path.target = some object
  leads : h.path.LeadsTo path

/-- Neither the type of a handle nor the class of any live merged object has the member. -/
structure Unowned {Answer : Type} (b : Bridge) (h : InstanceHandle)
    (o : NativeObject) (pick : MemberTable -> Option Answer) : Prop where
  own : b.registry.Lacks h.exposed.cls pick
  merged (r : ObjectRef) (other : NativeObject) :
    r ∈ o.mergedRefs -> b.world.get? r = some other ->
      b.registry.Lacks other.cls pick

section Search

variable {Answer : Type} {b : Bridge} {h : InstanceHandle} {o : NativeObject}
  {pick : MemberTable -> Option Answer}

theorem firstOwner_of_answered {path : Path} {object : NativeObject}
    {a : Answer}
    (hanswered : Answered b.world h.path o
      (b.registry.nearest? h.exposed.cls pick)
      (fun id => b.registry.nearest? id pick) path object a) :
    b.FirstOwner h o pick path object a := by
  cases hanswered with
  | own hown =>
      rcases (b.registry.nearest?_eq_some_iff _ pick a).mp hown with
        ⟨ancestor, hnearest⟩
      exact FirstOwner.own hnearest
  | merged hown hsplit hbefore hanswer =>
      rcases World.mergedRefs_split_of_mergedWith hsplit with
        ⟨passed, rest, hrefs, hlive, hpassed⟩
      rcases (b.registry.nearest?_eq_some_iff _ pick a).mp hanswer with
        ⟨ancestor, hnearest⟩
      apply FirstOwner.merged _ hrefs _ hlive hnearest
      · exact (b.registry.nearest?_eq_none_iff _ pick).mp hown
      · intro s other hmem hother
        apply (b.registry.nearest?_eq_none_iff _ pick).mp
        exact hbefore (s, other) (hpassed s other hmem hother)

theorem owner_of_firstAlong (hr : b.registry.Coherent)
    (hpick : Registry.Concerns .object pick)
    (hlive : b.world.get? h.path.target = some o)
    (he : b.types.exposed? o.cls = some h.exposed) {path : Path} {a : Answer}
    (hfound : b.firstAlong h o (fun id => b.registry.nearest? id pick) =
      some (path, a)) : exists object, b.Owner h o pick path object a := by
  rcases (firstAlong_eq_some_iff b h o _ path a).mp hfound with
    ⟨object, hanswered⟩
  refine ⟨object, firstOwner_of_answered hanswered, ?_,
    hanswered.live hlive, ?_⟩
  · cases hanswered with
    | own hown =>
        rcases Option.map_eq_some_iff.mp he with ⟨binding, hbinding, heq⟩
        have hbound : b.registry.types.bindingAt? .object o.cls =
            some binding := hbinding
        apply (b.registry.nearest?_eq_some_iff o.cls pick a).mp
        rw [Registry.nearest?_of_bindingAt? hr hbound hpick, heq, hown]
    | merged _ _ _ hanswer =>
        exact (b.registry.nearest?_eq_some_iff object.cls pick a).mp hanswer
  · cases hanswered with
    | own _ => exact h.path.leadsTo_self
    | merged _ _ _ _ => exact h.path.leadsTo_through _

theorem unowned_of_firstAlong
    (hnone : b.firstAlong h o (fun id => b.registry.nearest? id pick) =
      none) : b.Unowned h o pick := by
  rcases (firstAlong_eq_none_iff b h o _).mp hnone with ⟨hown, hmerged⟩
  refine ⟨(b.registry.nearest?_eq_none_iff _ pick).mp hown, ?_⟩
  intro r other hmem hlive
  apply (b.registry.nearest?_eq_none_iff _ pick).mp
  apply hmerged r other
  exact (b.world.mem_mergedWith_iff o r other).mpr ⟨hmem, hlive⟩

end Search

/-!
## Reading, writing and calling
-/

/-- Reading and writing a name on an object go to one property of one owner, or find none. -/
inductive PropertyAddressed (b : Bridge) (h : InstanceHandle)
    (o : NativeObject) (name : String) : Prop where
  | found {path : Path} {object : NativeObject} {property : Property} :
      b.Owner h o (fun t => t.properties.get? name) path object property ->
      (forall d : Dispatcher, d.index b (.object h) name =
        ((b.runBody (property.get ⟨b.types, path⟩)).1.map some,
          (b.runBody (property.get ⟨b.types, path⟩)).2, d)) ->
      (forall set, property.set = some set ->
        forall v, b.assign (.object h) name v =
          b.runBody (set ⟨b.types, path⟩ v)) ->
      (property.set = none ->
        forall v, b.assign (.object h) name v = (.error (.readOnly name), b)) ->
      PropertyAddressed b h o name
  /-- Reading may still find a function, which leaves the bridge alone. -/
  | missing :
      b.Unowned h o (fun t => t.properties.get? name) ->
      (forall d : Dispatcher, exists (m : Option Member) (d' : Dispatcher),
        d.index b (.object h) name = (.ok (m.map .member), b, d')) ->
      (forall v, b.assign (.object h) name v =
        (.error (.memberNotFound h.exposed.name name), b)) ->
      PropertyAddressed b h o name

inductive FunctionAddressed (b : Bridge) (h : InstanceHandle)
    (o : NativeObject) (m : Member) : Prop where
  | found {path : Path} {object : NativeObject} {body : FunctionBody} :
      b.Owner h o (fun t => t.functions.get? m.name) path object body ->
      (forall args, b.call m (.handle (.object h)) args =
        b.runBody (body ⟨b.types, path⟩ args)) ->
      FunctionAddressed b h o m
  | missing :
      b.Unowned h o (fun t => t.functions.get? m.name) ->
      (forall args, b.call m (.handle (.object h)) args =
        (.error (.unableToCall m.name), b)) ->
      FunctionAddressed b h o m

section Addressed

variable {b : Bridge} {h : InstanceHandle} {o : NativeObject}

theorem index_of_property {name : String} {path : Path} {property : Property}
    (ho : b.object h = .ok o) (hid : name ≠ "id") (hnick : name ≠ "nick")
    (hproperty : b.findProperty? h o name = some (path, property))
    (d : Dispatcher) :
    d.index b (.object h) name =
      ((b.runBody (property.get ⟨b.types, path⟩)).1.map some,
        (b.runBody (property.get ⟨b.types, path⟩)).2, d) := by
  rw [Dispatcher.index, Dispatcher.indexObject, meaning, ho]
  simp only [if_neg hid, if_neg hnick, hproperty]

theorem index_of_no_property {name : String} (ho : b.object h = .ok o)
    (hid : name ≠ "id") (hnick : name ≠ "nick")
    (hnone : b.findProperty? h o name = none) (d : Dispatcher) :
    exists (m : Option Member) (d' : Dispatcher),
      d.index b (.object h) name = (.ok (m.map .member), b, d') := by
  rw [Dispatcher.index, Dispatcher.indexObject, meaning, ho]
  simp only [if_neg hid, if_neg hnick, hnone]
  by_cases hlisting : name = "getMembers"
  · rw [if_pos hlisting]
    exact ⟨some ⟨name, h.exposed, .introspection⟩, d, rfl⟩
  · rw [if_neg hlisting]
    exact ⟨_, _, rfl⟩

theorem assign_eq {name : String} (ho : b.object h = .ok o)
    (hnick : name ≠ "nick") (v : Value) :
    b.assign (.object h) name v =
      match b.findProperty? h o name with
      | none => (.error (.memberNotFound h.exposed.name name), b)
      | some (path, property) =>
          match property.set with
          | none => (.error (.readOnly name), b)
          | some set => b.runBody (set ⟨b.types, path⟩ v) := by
  cases hproperty : b.findProperty? h o name with
  | none => simp only [assign, assignObject, ho, if_neg hnick, hproperty]
  | some found =>
      obtain ⟨path, property⟩ := found
      cases hset : property.set with
      | none =>
          simp only [assign, assignObject, ho, if_neg hnick, hproperty, hset]
      | some set =>
          simp only [assign, assignObject, ho, if_neg hnick, hproperty, hset]

theorem call_library_eq {m : Member} (hkind : m.kind = .library)
    (ho : b.object h = .ok o)
    (haccepted : b.types.isChildOf h.exposed.cls m.owner.cls = true)
    (args : List Value) :
    b.call m (.handle (.object h)) args =
      match b.findFunction? h o m.name with
      | none => (.error (.unableToCall m.name), b)
      | some (path, body) => b.runBody (body ⟨b.types, path⟩ args) := by
  unfold call prepare
  simp only [hkind, prepareFunction, ho, haccepted, if_true]
  cases b.findFunction? h o m.name with
  | none => rfl
  | some found => rfl

theorem propertyAddressed (hr : b.registry.Coherent) (ho : b.object h = .ok o)
    (he : b.types.exposed? o.cls = some h.exposed) {name : String}
    (hid : name ≠ "id") (hnick : name ≠ "nick") :
    b.PropertyAddressed h o name := by
  have hassign := assign_eq (b := b) ho hnick
  cases hproperty : b.findProperty? h o name with
  | none =>
      apply PropertyAddressed.missing (unowned_of_firstAlong hproperty)
      · exact index_of_no_property ho hid hnick hproperty
      · intro v
        rw [hassign v, hproperty]
  | some found =>
      obtain ⟨path, property⟩ := found
      rcases owner_of_firstAlong hr (Registry.concerns_properties name)
          ((object_eq_ok_iff b h o).mp ho) he hproperty with
        ⟨object, howner⟩
      apply PropertyAddressed.found howner
      · exact index_of_property ho hid hnick hproperty
      · intro set hset v
        rw [hassign v, hproperty]
        simp only [hset]
      · intro hset v
        rw [hassign v, hproperty]
        simp only [hset]

theorem functionAddressed (hr : b.registry.Coherent) (ho : b.object h = .ok o)
    (he : b.types.exposed? o.cls = some h.exposed) {m : Member}
    (hkind : m.kind = .library)
    (haccepted : b.types.isChildOf h.exposed.cls m.owner.cls = true) :
    b.FunctionAddressed h o m := by
  have hcall := call_library_eq hkind ho haccepted
  cases hfunction : b.findFunction? h o m.name with
  | none =>
      apply FunctionAddressed.missing (unowned_of_firstAlong hfunction)
      intro args
      rw [hcall args, hfunction]
  | some found =>
      obtain ⟨path, body⟩ := found
      rcases owner_of_firstAlong hr (Registry.concerns_functions m.name)
          ((object_eq_ok_iff b h o).mp ho) he hfunction with
        ⟨object, howner⟩
      apply FunctionAddressed.found howner
      intro args
      rw [hcall args, hfunction]

end Addressed

/--
On an object reading and writing go to the same property of the same owner, and
calling goes to the function of an owner found by the same rule; what has no
owner is missing for both.  A property without a setter is not passed over for
one that could be written.
-/
theorem members_address_owner {mark : String}
    {registrations : List Registration} {b : Bridge} {h : InstanceHandle}
    (hsealed : b.registry =
      ((Draft.empty mark).registerAll registrations).sealed)
    (hh : b.types.objectHandle? b.world h.path = some h) :
    exists o, b.object h = .ok o ∧
      (forall name, name ≠ "id" -> name ≠ "nick" ->
        b.PropertyAddressed h o name) ∧
      forall m, m.kind = .library ->
        b.types.isChildOf h.exposed.cls m.owner.cls = true ->
        b.FunctionAddressed h o m := by
  have hr : b.registry.Coherent := Registry.coherent_of_sealed hsealed
  rcases (TypeTable.objectHandle?_eq_some_iff _ _ h).mp hh with
    ⟨o, hlive, he⟩
  have ho : b.object h = .ok o := (object_eq_ok_iff b h o).mpr hlive
  refine ⟨o, ho, ?_, ?_⟩
  · intro name hid hnick
    exact propertyAddressed hr ho he hid hnick
  · intro m hkind haccepted
    exact functionAddressed hr ho he hkind haccepted

end Bridge

/-!
## Glowing things

A hub is merged with an object that is gone, with a dimmer, and with a heater.
Lamps have a glow that cannot be set, and heaters have one that can.
-/

namespace Lamps

def heater : NativeClass :=
  ⟨"Heater", none, []⟩

def glowRegistrations : List Registration :=
  registrations ++
    [.cls heater, .type heater.id "Heater" .object,
      .property lamp.id "glow" (MemberStep.property [.trace] none),
      .property heater.id "glow" (MemberStep.property [] (some [])),
      .function heater.id "warm" (MemberStep.function [.trace])]

def heaterObject : NativeObject :=
  ⟨heater.id, none, .empty, 0⟩

def mergedHub : NativeObject :=
  ⟨hub.id, some ⟨"", "", [⟨9, 0⟩, ⟨1, 0⟩, ⟨3, 0⟩]⟩, .empty, 0⟩

def glowing : Bridge :=
  { Bridge.start ((Draft.empty "netFunc_").registerAll
      glowRegistrations).sealed .default with
    world := [lampObject, dimmerObject, mergedHub, heaterObject].foldl
      (fun w o => (w.spawn o).2) .empty }

def warm : Member :=
  ⟨"warm", hubHandle.exposed, .library⟩

theorem owner_glowing {Answer : Type} {pick : MemberTable -> Option Answer}
    (hpick : Registry.Concerns .object pick) {path : Path}
    {object : NativeObject} {a : Answer}
    (hfound : glowing.firstAlong hubHandle mergedHub
      (fun id => glowing.registry.nearest? id pick) = some (path, a))
    (hlive : glowing.world.get? path.target = some object) :
    glowing.Owner hubHandle mergedHub pick path object a := by
  have hexposed : glowing.types.exposed? mergedHub.cls =
      some hubHandle.exposed := by
    decide +kernel
  rcases Bridge.owner_of_firstAlong (Registry.coherent_of_sealed rfl) hpick
      rfl hexposed hfound with
    ⟨found, howner⟩
  cases hlive.symm.trans howner.live
  exact howner

theorem owner_glow :
    exists glow, glow.set = none ∧
      glowing.Owner hubHandle mergedHub (fun t => t.properties.get? "glow")
        (hubHandle.path.through ⟨1, 0⟩) dimmerObject glow := by
  have hfirst : (glowing.findProperty? hubHandle mergedHub "glow").map
      (fun found => (found.1, found.2.set.isSome)) =
        some (hubHandle.path.through ⟨1, 0⟩, false) := by
    decide +kernel
  rcases Option.map_eq_some_iff.mp hfirst with ⟨⟨path, glow⟩, hfound, heq⟩
  rcases Prod.mk.inj heq with ⟨hpath, hset⟩
  cases hpath
  have hreadonly : glow.set = none := by
    simpa using hset
  exact ⟨glow, hreadonly,
    owner_glowing (Registry.concerns_properties "glow") hfound rfl⟩

theorem owner_warm :
    exists body,
      glowing.Owner hubHandle mergedHub (fun t => t.functions.get? "warm")
        (hubHandle.path.through ⟨3, 0⟩) heaterObject body := by
  have hfirst : (glowing.findFunction? hubHandle mergedHub "warm").map
      Prod.fst = some (hubHandle.path.through ⟨3, 0⟩) := by
    decide +kernel
  rcases Option.map_eq_some_iff.mp hfirst with ⟨⟨path, body⟩, hfound, heq⟩
  cases heq
  exact ⟨body, owner_glowing (Registry.concerns_functions "warm") hfound rfl⟩

/--
Reading and writing the glow go to the dimmer, although only the heater's could
be set, and the warming goes to the heater; the object that is gone is passed over.
-/
theorem members_address_owner_glowing :
    glowing.registry =
      ((Draft.empty "netFunc_").registerAll glowRegistrations).sealed ∧
    glowing.types.objectHandle? glowing.world hubHandle.path =
      some hubHandle ∧
    glowing.types.isChildOf hubHandle.exposed.cls warm.owner.cls = true ∧
    exists o, glowing.object hubHandle = .ok o ∧
      glowing.PropertyAddressed hubHandle o "glow" ∧
      (exists glow, glow.set = none ∧
        glowing.Owner hubHandle o (fun t => t.properties.get? "glow")
          (hubHandle.path.through ⟨1, 0⟩) dimmerObject glow) ∧
      glowing.FunctionAddressed hubHandle o warm ∧
      exists body,
        glowing.Owner hubHandle o (fun t => t.functions.get? warm.name)
          (hubHandle.path.through ⟨3, 0⟩) heaterObject body := by
  have hhub : glowing.types.objectHandle? glowing.world hubHandle.path =
      some hubHandle := by
    decide +kernel
  have haccepted :
      glowing.types.isChildOf hubHandle.exposed.cls warm.owner.cls = true :=
    TypeTable.isChildOf_self _ _
  rcases Bridge.members_address_owner (b := glowing) rfl hhub with
    ⟨o, ho, hproperties, hfunctions⟩
  have hlive : glowing.world.get? hubHandle.path.target = some mergedHub := rfl
  cases hlive.symm.trans ((Bridge.object_eq_ok_iff _ _ _).mp ho)
  exact ⟨rfl, hhub, haccepted, mergedHub, ho,
    hproperties "glow" (by decide) (by decide), owner_glow,
    hfunctions warm rfl haccepted, owner_warm⟩

end Lamps

end ScriptBridge
