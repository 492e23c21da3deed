import ScriptBridge.Dispatch.Dispatcher

/-!
# Runs of host bodies

The bridge hands control to the host only by running one of its bodies: a getter
or a setter of a property, a registered function of objects or of a class, or
the body of a native function.  A run is a body together with all that it is
given, and its outcome is what the bridge makes of it.
-/

namespace ScriptBridge

/-- A host body with what it is given. -/
inductive HostRun where
  | getter (p : Property) (c : MemberContext)
  | setter (set : MemberContext -> Value -> HostAttempt Unit)
      (c : MemberContext) (v : Value)
  | function (body : FunctionBody) (c : MemberContext) (args : List Value)
  | classFunction (body : ClassFunctionBody) (c : ClassContext)
      (args : List Value)
  /-- A native body on an object that was reached along a path. -/
  | native (f : DeclaredFunction) (path : Path) (id : ObjectId)
      (frame : Frame)

namespace HostRun

/-- The results of a run, or the error that its body returned, and the bridge that it leaves. -/
def outcome (b : Bridge) :
    HostRun -> Except BridgeError (List Value) × Bridge
  | .getter p c =>
      let (result, w) := runHost b.types (p.get c) b.world
      (result.map (fun v => [v]), { b with world := w })
  | .setter set c v =>
      let (result, w) := runHost b.types (set c v) b.world
      (result.map (fun _ => []), { b with world := w })
  | .function body c args =>
      let (result, w) := runHost b.types (body c args) b.world
      (result, { b with world := w })
  | .classFunction body c args =>
      let (result, w) := runHost b.types (body c args) b.world
      (result, { b with world := w })
  | .native f path id frame =>
      let (result, w, frame') :=
        (f.function.body id).run NativeOp.perform (b.world, frame)
      let b' := { b with world := w, locks := b.locks.claim path.target }
      match result with
      | .error cause => (.error (.native cause), b')
      | .ok () =>
          (.ok (frame'.outputs.map (fun entry =>
            b'.types.toScript b'.world path entry.2)), b')

end HostRun

namespace Bridge

theorem runNative_of_occupant? {b : Bridge} {f : DeclaredFunction}
    {path : Path} {id : ObjectId} (frame : Frame)
    (h : b.world.occupant? path.target = some id) :
    b.runNative f path frame =
      HostRun.outcome b (.native f path id frame) := by
  rw [runNative, underLock, h, HostRun.outcome]
  dsimp only
  cases hresult :
      ((f.function.body id).run NativeOp.perform (b.world, frame)).1 with
  | error cause => rfl
  | ok done => rfl

theorem runNative_of_vacant {b : Bridge} {f : DeclaredFunction}
    {path : Path} (frame : Frame)
    (h : b.world.occupant? path.target = none) :
    b.runNative f path frame = (.error .instanceInvalid, b) := by
  rw [runNative, underLock, h]

end Bridge

end ScriptBridge
