import Mathlib.Data.List.Forall2
import ScriptBridge.Proofs.Owners
import ScriptBridge.Proofs.Placement

/-!
# What native functions hand back

The body of a native function may write its slots in any order and as often as
it likes, and may go on after a write that was refused.  What the script gets is
one value for every output in order of declaration, made of the last value that
was accepted for its slot, or of the blank value of its type if there was none.
Objects in it are addressed along the path of the call, as the world is when the
body has ended.
-/

namespace ScriptBridge

def Parameter.outputs (parameters : List Parameter) :
    List (Parameter × Nat) :=
  parameters.zipIdx.filter (fun entry => entry.1.role.isOutput)

/-!
## The dialogue of a run
-/

structure Exchange (Op : Type) (Answer : Op -> Type) where
  op : Op
  answer : Answer op

def Interaction.dialogue {Op : Type} {Answer : Op -> Type}
    {Result State : Type}
    (perform : (op : Op) -> State -> Answer op × State) :
    Interaction Op Answer Result -> State -> List (Exchange Op Answer)
  | .finish _, _ => []
  | .ask op next, s =>
      ⟨op, (perform op s).1⟩ ::
        dialogue perform (next (perform op s).1) (perform op s).2

namespace Parameter

/-- The value that an exchange wrote to a slot, if the write was accepted. -/
def written? (parameters : List Parameter) (i : Nat) :
    Exchange NativeOp NativeOp.Answer -> Option NativeValue
  | ⟨.set index v, .ok ()⟩ => if index = i then some v else none
  | ⟨.setReturn v, .ok ()⟩ =>
      if parameters.findIdx? (fun p => p.role.result) = some i then some v
      else none
  | _ => none

/-- The value of an output after some exchanges: the last one written to it, or the blank one. -/
def valueAfter (parameters : List Parameter)
    (exchanges : List (Exchange NativeOp NativeOp.Answer)) (p : Parameter)
    (i : Nat) : NativeValue :=
  (exchanges.filterMap (written? parameters i)).getLastD p.type.blank

end Parameter

namespace Frame

/-!
## Slots during a run
-/

def Carries (f : Frame) (parameters : List Parameter) : Prop :=
  f.slots.map FrameSlot.role = parameters.map Parameter.role

theorem Carries.setReturn_eq {f : Frame} {parameters : List Parameter}
    (h : f.Carries parameters) (v : NativeValue) :
    f.setReturn v =
      match parameters.findIdx? (fun p => p.role.result) with
      | some index => f.set index v
      | none => (.error .noReturn, f) := by
  have hplace : f.slots.findIdx? (fun slot => slot.role.result) =
      parameters.findIdx? (fun p => p.role.result) := by
    calc f.slots.findIdx? (fun slot => slot.role.result)
        = (f.slots.map FrameSlot.role).findIdx? Role.result :=
          List.findIdx?_map.symm
      _ = (parameters.map Parameter.role).findIdx? Role.result := by rw [h]
      _ = parameters.findIdx? (fun p => p.role.result) := List.findIdx?_map
  cases hindex : parameters.findIdx? (fun p => p.role.result) with
  | none => simp only [setReturn, hplace, hindex]
  | some index => simp only [setReturn, hplace, hindex]

theorem slot_set (f : Frame) (parameters : List Parameter) (index : Nat)
    (v : NativeValue) (k : Nat) :
    (f.set index v).2.slots[k]? =
      f.slots[k]?.map (fun slot =>
        { slot with
          value := (Parameter.written? parameters k
            ⟨.set index v, (f.set index v).1⟩).getD slot.value }) := by
  cases hanswer : (f.set index v).1 with
  | error cause =>
      rw [set_of_error hanswer]
      simp only [Parameter.written?, Option.getD_none, Option.map_id_fun',
        id_eq]
  | ok done =>
      rw [slots_set_of_ok hanswer]
      congr 1
      funext slot
      by_cases hk : index = k
      · simp only [Parameter.written?, if_pos hk, Option.getD_some]
      · simp only [Parameter.written?, if_neg hk, Option.getD_none]

theorem Carries.slot_perform {f : Frame} {parameters : List Parameter}
    (h : f.Carries parameters) (w : World) (op : NativeOp) (k : Nat) :
    (op.perform (w, f)).2.2.slots[k]? =
      f.slots[k]?.map (fun slot =>
        { slot with
          value := (Parameter.written? parameters k
            ⟨op, (op.perform (w, f)).1⟩).getD slot.value }) := by
  cases op with
  | set index v => exact f.slot_set parameters index v k
  | setReturn v =>
      simp only [NativeOp.perform, h.setReturn_eq v]
      cases hplace : parameters.findIdx? (fun p => p.role.result) with
      | none =>
          simp only [Parameter.written?, Option.getD_none, Option.map_id_fun',
            id_eq]
      | some index =>
          dsimp only
          rw [f.slot_set parameters index v k]
          cases (f.set index v).1 with
          | error cause => rfl
          | ok done =>
              simp only [Parameter.written?, hplace, Option.some.injEq]
  | world _ | width | get _ | getAs _ _ =>
      simp only [NativeOp.perform, Parameter.written?, Option.getD_none,
        Option.map_id_fun', id_eq]

theorem Carries.of_slots {f f' : Frame} {parameters : List Parameter}
    (h : f.Carries parameters) {value : Nat -> FrameSlot -> NativeValue}
    (hslots : forall (k : Nat), f'.slots[k]? =
      f.slots[k]?.map (fun slot => { slot with value := value k slot })) :
    f'.Carries parameters := by
  rw [Carries, ← h]
  apply List.ext_getElem?
  intro k
  rw [List.getElem?_map, List.getElem?_map, hslots, Option.map_map]
  rfl

theorem Carries.perform {f : Frame} {parameters : List Parameter}
    (h : f.Carries parameters) (w : World) (op : NativeOp) :
    (op.perform (w, f)).2.2.Carries parameters :=
  h.of_slots (h.slot_perform w op)

/-- After a run every slot holds the last value that was accepted for it, or what it held before. -/
theorem Carries.slot_run {Result : Type} {f : Frame}
    {parameters : List Parameter} (h : f.Carries parameters) (w : World)
    (i : NativeAction Result) (k : Nat) :
    (i.run NativeOp.perform (w, f)).2.2.slots[k]? =
      f.slots[k]?.map (fun slot =>
        { slot with
          value := ((i.dialogue NativeOp.perform (w, f)).filterMap
            (Parameter.written? parameters k)).getLastD slot.value }) := by
  induction i generalizing w f with
  | finish result =>
      simp only [Interaction.run, Interaction.dialogue, List.filterMap_nil,
        List.getLastD_nil, Option.map_id_fun', id_eq]
  | ask op next ih =>
      have hrest := ih (op.perform (w, f)).1 (h.perform w op)
        (op.perform (w, f)).2.1
      rw [Interaction.run, Interaction.dialogue]
      dsimp only
      rw [hrest, h.slot_perform, Option.map_map, List.filterMap_cons]
      -- What the first answer left is what the rest falls back on.
      congr 1
      funext slot
      dsimp only [Function.comp]
      cases Parameter.written? parameters k ⟨op, (op.perform (w, f)).1⟩ with
      | none => rfl
      | some v => rw [Option.getD_some, List.getLastD_cons]

theorem Carries.run {Result : Type} {f : Frame} {parameters : List Parameter}
    (h : f.Carries parameters) (w : World) (i : NativeAction Result) :
    (i.run NativeOp.perform (w, f)).2.2.Carries parameters :=
  h.of_slots (h.slot_run w i)

/-!
## Outputs of a frame
-/

theorem outputs_zipIdx {slots : List FrameSlot} {parameters : List Parameter}
    (hroles : slots.map FrameSlot.role = parameters.map Parameter.role)
    {value : Parameter -> Nat -> NativeValue} {start : Nat}
    (hvalue : forall (i : Nat) (p : Parameter), parameters[i]? = some p ->
      p.role.isOutput = true ->
      slots[i]? = some ⟨p.role, value p (start + i)⟩) :
    ((slots.zipIdx start).filter (fun entry => entry.1.role.isOutput)).map
        (fun entry => (entry.2, entry.1.value)) =
      ((parameters.zipIdx start).filter
        (fun entry => entry.1.role.isOutput)).map
          (fun entry => (entry.2, value entry.1 entry.2)) := by
  induction parameters generalizing slots start with
  | nil =>
      rw [List.map_nil, List.map_eq_nil_iff] at hroles
      rw [hroles]
      rfl
  | cons p rest ih =>
      cases slots with
      | nil => cases hroles
      | cons slot slots =>
          rw [List.map_cons, List.map_cons, List.cons.injEq] at hroles
          have hlater : forall (i : Nat) (q : Parameter),
              rest[i]? = some q -> q.role.isOutput = true ->
              slots[i]? = some ⟨q.role, value q (start + 1 + i)⟩ := by
            intro i q hq hrole
            rw [Nat.add_assoc, Nat.add_comm 1 i]
            exact hvalue (i + 1) q hq hrole
          have hrest := ih hroles.2 hlater
          rw [List.zipIdx_cons, List.zipIdx_cons, List.filter_cons,
            List.filter_cons]
          dsimp only
          rw [hroles.1]
          cases hrole : p.role.isOutput with
          | false =>
              simp only [Bool.false_eq_true, if_false]
              exact hrest
          | true =>
              have hslot := hvalue 0 p rfl hrole
              rw [List.getElem?_cons_zero, Option.some.injEq] at hslot
              simp only [if_true, List.map_cons, hrest, hslot, Nat.add_zero]

theorem Carries.outputs_eq {f : Frame} {parameters : List Parameter}
    (h : f.Carries parameters) {value : Parameter -> Nat -> NativeValue}
    (hvalue : forall (i : Nat) (p : Parameter), parameters[i]? = some p ->
      p.role.isOutput = true -> f.slots[i]? = some ⟨p.role, value p i⟩) :
    f.outputs =
      (Parameter.outputs parameters).map
        (fun entry => (entry.2, value entry.1 entry.2)) := by
  apply outputs_zipIdx h
  intro i p hp hrole
  rw [Nat.zero_add]
  exact hvalue i p hp hrole

end Frame

namespace TypeTable

theorem carries_of_frame {t : TypeTable} {w : World}
    {parameters : List Parameter} {args : List Value} {f : Frame}
    (h : t.frame w parameters args = .ok f) : f.Carries parameters := by
  have hfits := fitsFrame_of_frame h
  rw [Frame.Carries]
  apply List.ext_getElem?
  intro i
  rw [List.getElem?_map, List.getElem?_map]
  cases hp : parameters[i]? with
  | none =>
      have hshort : f.slots.length ≤ i := by
        rw [← Frame.width, hfits.width]
        exact List.getElem?_eq_none_iff.mp hp
      rw [List.getElem?_eq_none_iff.mpr hshort]
      rfl
  | some p =>
      rcases hfits.slot hp with ⟨native, hslot, _hnative⟩
      rw [hslot]
      rfl

/-- A run of a body leaves in every output the last value that was accepted for it. -/
theorem outputs_of_run {t : TypeTable} {w : World}
    {parameters : List Parameter} {args : List Value} {f : Frame}
    (h : t.frame w parameters args = .ok f) {Result : Type}
    (i : NativeAction Result) :
    (i.run NativeOp.perform (w, f)).2.2.outputs =
      (Parameter.outputs parameters).map (fun entry =>
        (entry.2, Parameter.valueAfter parameters
          (i.dialogue NativeOp.perform (w, f)) entry.1 entry.2)) := by
  have hcarries := carries_of_frame h
  apply Frame.Carries.outputs_eq (hcarries.run w i)
  intro k p hp hrole
  have hinput : p.role.isInput = false := by
    rw [Role.isOutput, Bool.and_eq_true] at hrole
    rw [Role.isInput, hrole.2, Bool.not_true, Bool.and_false]
  rw [hcarries.slot_run, (filledFrom_of_frame h).other hp hinput]
  rfl

/-!
## Values as scripts get them
-/

inductive Shown (t : TypeTable) (w : World) (p : Path) :
    NativeValue -> Value -> Prop where
  | bool (b : Bool) : Shown t w p (.bool b) (.bool b)
  | int (n : Int64) : Shown t w p (.int n) (.int n)
  | float (x : Double) : Shown t w p (.float x) (.float x)
  | string (text : String) : Shown t w p (.string text) (.string text)
  | noObject : Shown t w p (.object none) .nil
  /-- An object that lives and is exposed is at the end of the path, or one hop further. -/
  | object {r : ObjectRef} {o : NativeObject} {e : Exposed} {q : Path} :
      w.get? r = some o -> t.exposed? o.cls = some e ->
      p.LeadsTo q -> q.target = r ->
      Shown t w p (.object (some r)) (.handle (.object ⟨q, e⟩))
  | gone {r : ObjectRef} :
      w.get? r = none -> Shown t w p (.object (some r)) .nil
  | unexposed {r : ObjectRef} {o : NativeObject} :
      w.get? r = some o -> t.exposed? o.cls = none ->
      Shown t w p (.object (some r)) .nil
  | noClass : Shown t w p (.cls none) .nil
  | cls {id : ClassId} {binding : TypeBinding} :
      t.classBinding? id = some binding ->
      Shown t w p (.cls (some id)) (.handle (.cls ⟨id, binding.exposed⟩))
  | unboundClass {id : ClassId} :
      t.classBinding? id = none -> Shown t w p (.cls (some id)) .nil
  | array {items : List NativeValue} {values : List Value} :
      List.Forall₂ (Shown t w p) items values ->
      Shown t w p (.array items) (.array values)

section Shown

variable (t : TypeTable) (w : World) (p : Path)

theorem shown_objectValue (r : ObjectRef) :
    t.Shown w p (.object (some r)) (t.objectValue w (p.through r)) := by
  rw [objectValue, objectHandle?, Path.target_through]
  cases hlive : w.get? r with
  | none => exact Shown.gone hlive
  | some o =>
      dsimp only
      cases he : t.exposed? o.cls with
      | none => exact Shown.unexposed hlive he
      | some e =>
          exact Shown.object hlive he (p.leadsTo_through r)
            (p.target_through r)

theorem shown_classValue (id : ClassId) :
    t.Shown w p (.cls (some id)) (t.classValue id) := by
  rw [classValue, classHandle?]
  cases hbinding : t.classBinding? id with
  | none => exact Shown.unboundClass hbinding
  | some binding => exact Shown.cls hbinding

mutual

theorem shown_toScript : (v : NativeValue) ->
    t.Shown w p v (t.toScript w p v)
  | .bool b => Shown.bool b
  | .int n => Shown.int n
  | .float x => Shown.float x
  | .string text => Shown.string text
  | .object none => Shown.noObject
  | .object (some r) => t.shown_objectValue w p r
  | .cls none => Shown.noClass
  | .cls (some id) => t.shown_classValue w p id
  | .array items => Shown.array (shown_toScriptAll items)

theorem shown_toScriptAll : (items : List NativeValue) ->
    List.Forall₂ (t.Shown w p) items (t.toScriptAll w p items)
  | [] => List.Forall₂.nil
  | v :: rest =>
      List.Forall₂.cons (shown_toScript v) (shown_toScriptAll rest)

end

end Shown

end TypeTable

namespace Bridge

/-!
## The law
-/

/-- A body that ran to its end for a call: which one, where, and on what frame. -/
structure RanFor (b : Bridge) (m : Member) (declaring : ClassId)
    (h : InstanceHandle) (args : List Value) (f : DeclaredFunction)
    (path : Path) (id : ObjectId) (frame : Frame) : Prop where
  function : b.types.nativeFunction? declaring m.name = some f
  /-- The object of the handle, or the first merged one that fits. -/
  target : exists o object,
    b.world.get? h.path.target = some o ∧
    b.NearestOf h o declaring path object ∧
    b.world.occupant? path.target = some id ∧
    b.world.object? id = some object
  leads : h.path.LeadsTo path
  filled : b.types.frame b.world f.function.parameters args = .ok frame
  ended : ((f.function.body id).run NativeOp.perform (b.world, frame)).1 =
    .ok ()

theorem NearestOf.leadsTo {b : Bridge} {h : InstanceHandle}
    {o object : NativeObject} {declaring : ClassId} {path : Path}
    (hnearest : b.NearestOf h o declaring path object) :
    h.path.LeadsTo path := by
  cases hnearest with
  | own _ => exact h.path.leadsTo_self
  | merged _ _ _ _ _ => exact h.path.leadsTo_through _

theorem prepareNative_of_reflected {b : Bridge} {m : Member}
    {declaring : ClassId} {receiver : Value} {args : List Value}
    {prepared : Call} (hkind : m.kind = .reflected declaring)
    (hprepare : b.prepare m receiver args = .ok prepared) :
    exists h, receiver = .handle (.object h) ∧
      b.prepareNative m declaring h args = .ok prepared := by
  obtain ⟨name, owner, kind⟩ := m
  cases hkind
  cases receiver with
  | handle h =>
      cases h with
      | object h => exact ⟨h, rfl, hprepare⟩
      | cls h => cases hprepare
  | _ => cases hprepare

theorem ranFor_of_call {b b' : Bridge} {m : Member} {declaring : ClassId}
    {receiver : Value} {args results : List Value}
    (hkind : m.kind = .reflected declaring)
    (hcall : b.call m receiver args = (.ok results, b')) :
    exists h f path id frame, receiver = .handle (.object h) ∧
      b.RanFor m declaring h args f path id frame ∧
      HostRun.outcome b (.native f path id frame) = (.ok results, b') := by
  cases hprepare : b.prepare m receiver args with
  | error cause =>
      rw [call_of_refused hprepare] at hcall
      cases hcall
  | ok prepared =>
      rw [call_of_prepare hprepare] at hcall
      rcases prepareNative_of_reflected hkind hprepare with
        ⟨h, hreceiver, hnative⟩
      rcases prepareNative_eq_ok hnative with
        ⟨o, f, path, frame, rfl, ho, hf, hpath, hframe⟩
      rcases nearestOf_of_nativeTarget? hpath with ⟨object, hnearest⟩
      rcases (World.get?_eq_some_iff b.world path.target object).mp
          (hnearest.live ho) with
        ⟨id, hoccupant, hobject⟩
      rw [carryOut, runNative_of_occupant? frame hoccupant] at hcall
      have hended : ((f.function.body id).run NativeOp.perform
          (b.world, frame)).1 = .ok () := by
        cases hresult : ((f.function.body id).run NativeOp.perform
            (b.world, frame)).1 with
        | error cause =>
            simp only [HostRun.outcome, hresult] at hcall
            cases hcall
        | ok done => rfl
      refine ⟨h, f, path, id, frame, hreceiver, ?_, hcall⟩
      exact {
        function := hf
        target := ⟨o, object, ho, hnearest, hoccupant, hobject⟩
        leads := hnearest.leadsTo
        filled := hframe
        ended := hended }

/-- The bridge after a run of a native body, and the results in the form that scripts get. -/
structure HandsBack (b b' : Bridge) (f : DeclaredFunction) (path : Path)
    (id : ObjectId) (frame : Frame) (results : List Value) : Prop where
  types : b'.types = b.types
  world : b'.world =
    ((f.function.body id).run NativeOp.perform (b.world, frame)).2.1
  /-- One value for every output: the last one that was accepted for it, or the blank one. -/
  results : List.Forall₂
    (fun output v => b'.types.Shown b'.world path
      (Parameter.valueAfter f.function.parameters
        ((f.function.body id).dialogue NativeOp.perform (b.world, frame))
        output.1 output.2) v)
    (Parameter.outputs f.function.parameters) results

/--
A native call that succeeds is the run of one body, and hands back one value for
every output in order of declaration.  It is the last one that the body wrote to
the output with success, or the blank one, in the form in which the world after
the run shows it along the path of the run.
-/
theorem results_exact {b b' : Bridge} {m : Member} {declaring : ClassId}
    {receiver : Value} {args results : List Value}
    (hkind : m.kind = .reflected declaring)
    (hcall : b.call m receiver args = (.ok results, b')) :
    exists h f path id frame, receiver = .handle (.object h) ∧
      b.RanFor m declaring h args f path id frame ∧
      b.HandsBack b' f path id frame results := by
  rcases ranFor_of_call hkind hcall with
    ⟨h, f, path, id, frame, hreceiver, hran, houtcome⟩
  simp only [HostRun.outcome, hran.ended] at houtcome
  cases houtcome
  refine ⟨h, f, path, id, frame, hreceiver, hran, rfl, rfl, ?_⟩
  rw [TypeTable.outputs_of_run hran.filled, List.map_map,
    List.forall₂_map_right_iff, List.forall₂_same]
  intro output _hmem
  exact TypeTable.shown_toScript _ _ path _

end Bridge

/-!
## A careless survey

A dimmer surveys what is around it.  The body writes some values of the wrong
kind, writes the result twice, and destroys a lamp that it hands back.
-/

namespace Lamps

/-- A body that goes on whatever the answers are. -/
def careless (ops : List NativeOp) : NativeBody :=
  fun _ => ops.foldr (fun op rest => .ask op (fun _ => rest)) (.finish (.ok ()))

def survey : NativeFunction :=
  ⟨"netFunc_survey",
    [.output "around" (.array (.object none)), .input "deep" .bool,
      .returns .string, .output "best" (.object none),
      ⟨"kept", .int, ⟨false, true, false⟩⟩],
    careless
      [.set 0 (.array [.object (some ⟨2, 0⟩), .object (some ⟨1, 0⟩),
          .object (some ⟨0, 0⟩)]),
        .set 0 (.bool true), .setReturn (.string "none"), .set 4 (.int 1),
        .setReturn (.string "some"), .setReturn (.int 3), .set 5 (.int 3),
        .world (.destroy ⟨0, 0⟩)]⟩

def surveyed : Bridge :=
  { bridge with
    registry := ((Draft.empty "netFunc_").registerAll
      [.cls lamp, .cls { dimmer with functions := [survey] }, .cls hub,
        .type lamp.id "Lamp" .object, .type hub.id "Hub" .object]).sealed }

def surveying : Member :=
  ⟨"survey", hubHandle.exposed, .reflected dimmer.id⟩

/-- The lamp is gone, and the body named no best one. -/
def surveyResults : List Value :=
  [.array
      [.handle (.object ⟨⟨⟨2, 0⟩, [⟨1, 0⟩, ⟨2, 0⟩]⟩, hubHandle.exposed⟩),
        .handle (.object ⟨⟨⟨2, 0⟩, [⟨1, 0⟩]⟩, lampHandle.exposed⟩), .nil],
    .string "some", .nil]

theorem results_exact_survey :
    surveying.kind = .reflected dimmer.id ∧
    exists results b',
      surveyed.call surveying (.handle (.object hubHandle)) [.bool true] =
        (.ok results, b') ∧
      Value.allEqual results surveyResults = true ∧
      exists h f path id frame,
        Value.handle (.object hubHandle) = .handle (.object h) ∧
        surveyed.RanFor surveying dimmer.id h [.bool true] f path id frame ∧
        surveyed.HandsBack b' f path id frame results := by
  have hequal : ((surveyed.call surveying (.handle (.object hubHandle))
      [.bool true]).1.toOption.any
        (fun results => Value.allEqual results surveyResults)) = true := by
    decide +kernel
  rcases hcall : surveyed.call surveying (.handle (.object hubHandle))
    [.bool true] with ⟨outcome, b'⟩
  rw [hcall] at hequal
  cases outcome with
  | error cause => cases hequal
  | ok results =>
      exact ⟨rfl, results, b', rfl, hequal,
        Bridge.results_exact (m := surveying) rfl hcall⟩

end Lamps

end ScriptBridge
