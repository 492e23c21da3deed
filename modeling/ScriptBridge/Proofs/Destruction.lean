import ScriptBridge.Proofs.Resolution
import ScriptBridge.Proofs.Traces

/-!
# Handles of destroyed objects

Every operation on a handle of an object looks the object up before it does
anything else, before the members that were found before, the properties, the
merged objects and the arguments.  So a handle whose reference reaches nothing
is gone: whatever is tried with it fails in one way and does nothing.  A
reference to a destroyed object reaches nothing for as long as its slot has not
been through all the generations, so its handles are gone for that long,
whether they were there before or are made up afterwards.
-/

namespace ScriptBridge

namespace Bridge

/-- Whatever is tried with a handle fails because its object is gone, and does nothing. -/
structure Gone (b : Bridge) (h : InstanceHandle) : Prop where
  index (d : Dispatcher) (name : String) :
    d.index b (.object h) name = (.error .instanceInvalid, b, d) ∧
      Operation.journalIndex d b (.object h) name =
        .silent (.error .instanceInvalid) b
  assign (name : String) (v : Value) :
    b.assign (.object h) name v = (.error .instanceInvalid, b) ∧
      Operation.journalAssign b (.object h) name v =
        .silent (.error .instanceInvalid) b
  callMethod (d : Dispatcher) (name : String) (args : List Value) :
    d.callMethod b (.object h) name args = (.error .instanceInvalid, b, d) ∧
      d.journalMethod b (.object h) name args =
        .silent (.error .instanceInvalid) b
  members : b.memberNames (.object h) = .error .instanceInvalid
  display :
    b.display (.object h) = (.error .instanceInvalid, b) ∧
      b.displayEvents (.object h) = []
  /-- A class function is refused for another reason: it is not for objects. -/
  call {m : Member} (hkind : m.kind ≠ .classLibrary) (args : List Value) :
    b.call m (.handle (.object h)) args = (.error .instanceInvalid, b) ∧
      Operation.journalCall b m (.handle (.object h)) args =
        .silent (.error .instanceInvalid) b

theorem prepare_of_object_error {b : Bridge} {h : InstanceHandle}
    {cause : BridgeError} (hobject : b.object h = .error cause) {m : Member}
    (hkind : m.kind ≠ .classLibrary) (args : List Value) :
    b.prepare m (.handle (.object h)) args = .error cause := by
  obtain ⟨name, owner, kind⟩ := m
  cases kind with
  | classLibrary => exact absurd rfl hkind
  | library =>
      have hrefused : b.prepareFunction ⟨name, owner, .library⟩ h args =
          .error cause := by
        rw [prepareFunction, hobject]
      exact hrefused
  | reflected declaring =>
      have hrefused :
          b.prepareNative ⟨name, owner, .reflected declaring⟩ declaring h
            args = .error cause := by
        rw [prepareNative, hobject]
      exact hrefused
  | introspection =>
      have hrefused : b.memberNames (.object h) = .error cause := by
        rw [memberNames]
        dsimp only
        rw [hobject]
      unfold prepare
      dsimp only
      rw [hrefused]
      rfl

theorem gone_of_vacant {b : Bridge} {h : InstanceHandle}
    (hvacant : b.world.occupant? h.path.target = none) : b.Gone h := by
  have hobject : b.object h = .error .instanceInvalid := by
    rw [object, World.get?, hvacant, Option.bind_none]
  have hmeaning (name : String) :
      b.meaning h name = .error .instanceInvalid := by
    rw [meaning, hobject]
  have hindex (d : Dispatcher) (name : String) :
      d.index b (.object h) name = (.error .instanceInvalid, b, d) := by
    rw [Dispatcher.index, Dispatcher.indexObject, hmeaning]
  have hjournal (d : Dispatcher) (name : String) :
      Operation.journalIndex d b (.object h) name =
        .silent (.error .instanceInvalid) b := by
    rw [Operation.journalIndex, hmeaning]
  constructor
  · intro d name
    exact ⟨hindex d name, hjournal d name⟩
  · intro name v
    constructor
    · rw [assign, assignObject, hobject]
    · rw [Operation.journalAssign, hobject]
  · intro d name args
    constructor
    · rw [Dispatcher.callMethod, hindex]
    · rw [Dispatcher.journalMethod, hjournal]
      rfl
  · rw [memberNames]
    dsimp only
    rw [hobject]
  · constructor
    · rw [display, displayObject, hobject]
    · rfl
  · intro m hkind args
    have hprepare := prepare_of_object_error hobject hkind args
    constructor
    · rw [call, hprepare]
    · rw [Operation.journalCall, hprepare]

end Bridge

namespace Simulation

/--
Once an object was destroyed in a run, by the simulation or by a host body, all
handles of its reference are gone, until its slot was vacated as often as there
are generations.
-/
theorem gone_of_destroyed (registry : Registry) (settings : Settings)
    (cs : List Command) :
    ((start registry settings).run cs).bridge.world =
      World.empty.performAll ((start registry settings).worldOps cs) ∧
    forall {before after : List WorldOp} {r : ObjectRef},
      (start registry settings).worldOps cs =
        before ++ .destroy r :: after ->
      (World.empty.performAll before).contains r = true ->
      (World.empty.performAll before).destructions r.index
        (.destroy r :: after) < UInt32.size ->
      forall h : InstanceHandle, h.path.target = r ->
        ((start registry settings).run cs).bridge.Gone h := by
  have hworld :=
    world_run (s := start registry settings) World.sound_empty cs
  refine ⟨hworld, ?_⟩
  intro before after r hops hlive hcount h htarget
  apply Bridge.gone_of_vacant
  rw [hworld, hops, World.performAll_append, htarget]
  exact World.occupant?_of_destroyed hlive after hcount

end Simulation

namespace Lamps

/-- The lamps again, with a function that destroys what stands in the first slot. -/
def yardRegistrations : List Registration :=
  registrations ++
    [.function lamp.id "scrap" (MemberStep.function [.destroy ⟨0, 0⟩])]

def yard : Simulation :=
  .start ((Draft.empty "netFunc_").registerAll yardRegistrations).sealed
    .default

/-- A lamp is described, scraps itself, and a dimmer takes its slot. -/
def scrapping : List Command :=
  [.spawn lampObject,
    .callMethod 0 (.object lampHandle) "describe" [],
    .callMethod 0 (.object lampHandle) "scrap" [],
    .spawn dimmerObject]

def destroyed? : WorldOp -> Option ObjectRef
  | .destroy r => some r
  | _ => none

theorem eq_destroy_of_destroyed? {op : WorldOp} {r : ObjectRef}
    (h : destroyed? op = some r) : op = .destroy r := by
  cases op with
  | destroy r' =>
      cases h
      rfl
  | find _ => cases h
  | read _ => cases h
  | change _ _ => cases h
  | spawn _ => cases h
  | share _ => cases h
  | population => cases h

theorem gone_of_destroyed_scrapping :
    (yard.run scrapping).bridge.world.contains ⟨0, 1⟩ = true ∧
      (((yard.run scrapping).computer 0).dispatcher.known?
        lampHandle.exposed "describe").isSome = true ∧
      (yard.run scrapping).bridge.Gone lampHandle := by
  have hsecond :
      (yard.worldOps scrapping)[1]?.bind destroyed? = some ⟨0, 0⟩ := by
    decide +kernel
  have hlive : (World.empty.performAll
      ((yard.worldOps scrapping).take 1)).contains ⟨0, 0⟩ = true := by
    decide +kernel
  have hcount : (World.empty.performAll
      ((yard.worldOps scrapping).take 1)).destructions 0
        ((yard.worldOps scrapping).drop 1) < UInt32.size := by
    decide +kernel
  rcases Option.bind_eq_some_iff.mp hsecond with ⟨op, hget, hdestroyed⟩
  have hop : op = .destroy ⟨0, 0⟩ := eq_destroy_of_destroyed? hdestroyed
  subst hop
  rcases List.getElem?_eq_some_iff.mp hget with ⟨hinside, hget⟩
  have hdrop : (yard.worldOps scrapping).drop 1 =
      .destroy ⟨0, 0⟩ :: (yard.worldOps scrapping).drop 2 := by
    rw [List.drop_eq_getElem_cons hinside, hget]
  have hsplit : yard.worldOps scrapping =
      (yard.worldOps scrapping).take 1 ++
        .destroy ⟨0, 0⟩ :: (yard.worldOps scrapping).drop 2 := by
    rw [← hdrop, List.take_append_drop]
  rw [hdrop] at hcount
  refine ⟨by decide +kernel, by decide +kernel, ?_⟩
  exact (Simulation.gone_of_destroyed _ _ scrapping).2 hsplit hlive hcount
    lampHandle rfl

end Lamps

end ScriptBridge
