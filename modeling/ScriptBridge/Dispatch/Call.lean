import ScriptBridge.Dispatch.Search
import ScriptBridge.Native.Marshal

/-!
# Calling members

A call is prepared and then carried out.  Preparing checks the receiver, finds
the body and its object, and converts the arguments; it changes nothing, and it
may refuse the call.  Carrying out runs the one body that was found.
-/

namespace ScriptBridge

inductive Call where
  /-- Answered by the bridge itself with the names of the members. -/
  | listing (names : List String)
  | function (body : FunctionBody) (context : MemberContext)
      (args : List Value)
  | classFunction (body : ClassFunctionBody) (context : ClassContext)
      (args : List Value)
  /-- A native function on the object at the end of a path. -/
  | native (f : DeclaredFunction) (path : Path) (frame : Frame)

namespace Bridge

/-!
## Preparing
-/

def invalidReceiver {Result : Type} (expected : String) (receiver : Value) :
    Except BridgeError Result :=
  .error (.invalidReceiver expected receiver.typeName)

/-- A registered function, for a receiver whose exposed type derives from the owner's. -/
def prepareFunction (b : Bridge) (m : Member) (h : InstanceHandle)
    (args : List Value) : Except BridgeError Call :=
  match b.object h with
  | .error cause => .error cause
  | .ok o =>
      if b.types.isChildOf h.exposed.cls m.owner.cls then
        match b.findFunction? h o m.name with
        | some (path, body) => .ok (.function body ⟨b.types, path⟩ args)
        | none => .error (.unableToCall m.name)
      else .error (.notAllowed m.name)

/-- The native function that the declaring class of the member knows by its name. -/
def prepareNative (b : Bridge) (m : Member) (declaring : ClassId)
    (h : InstanceHandle) (args : List Value) : Except BridgeError Call :=
  match b.object h with
  | .error cause => .error cause
  | .ok o =>
      match b.types.nativeFunction? declaring m.name with
      | none => .error (.unableToCall m.name)
      | some f =>
          match b.nativeTarget? h o declaring with
          | none => .error (.notAllowed m.name)
          | some path =>
              match b.types.frame b.world f.function.parameters args with
              | .error cause => .error cause
              | .ok frame => .ok (.native f path frame)

/-- A registered function of a class that derives from the owner's. -/
def prepareClassFunction (b : Bridge) (m : Member) (h : ClassHandle)
    (args : List Value) : Except BridgeError Call :=
  if b.types.isChildOf h.cls m.owner.cls then
    match b.registry.classFunction? h.cls m.name with
    | some body => .ok (.classFunction body ⟨b.types, h.cls⟩ args)
    | none => .error (.unableToCall m.name)
  else .error (.notAllowed m.name)

def prepare (b : Bridge) (m : Member) (receiver : Value)
    (args : List Value) : Except BridgeError Call :=
  match m.kind, receiver with
  | .library, .handle (.object h) => b.prepareFunction m h args
  | .library, other => invalidReceiver "instance" other
  | .reflected declaring, .handle (.object h) =>
      b.prepareNative m declaring h args
  | .reflected _, other => invalidReceiver "instance" other
  | .classLibrary, .handle (.cls h) => b.prepareClassFunction m h args
  | .classLibrary, other => invalidReceiver "class" other
  | .introspection, .handle h => (b.memberNames h).map .listing
  | .introspection, other => invalidReceiver "handle" other

/-!
## Carrying out
-/

/-- Run a native body on its frame, and hand back the outputs. -/
def runNative (b : Bridge) (f : DeclaredFunction) (path : Path)
    (frame : Frame) : Except BridgeError (List Value) × Bridge :=
  let (outcome, b') :=
    b.underLock path.target (fun id w =>
      let (result, w', frame') :=
        (f.function.body id).run NativeOp.perform (w, frame)
      ((result, frame'), w'))
  match outcome with
  | .error cause => (.error cause, b')
  | .ok (.error cause, _) => (.error (.native cause), b')
  | .ok (.ok (), frame') =>
      (.ok (frame'.outputs.map (fun entry =>
        b'.types.toScript b'.world path entry.2)), b')

def carryOut (b : Bridge) : Call -> Except BridgeError (List Value) × Bridge
  | .listing names => (.ok [.array (names.map .string)], b)
  | .function body context args => b.runBody (body context args)
  | .classFunction body context args => b.runBody (body context args)
  | .native f path frame => b.runNative f path frame

def call (b : Bridge) (m : Member) (receiver : Value) (args : List Value) :
    Except BridgeError (List Value) × Bridge :=
  match b.prepare m receiver args with
  | .error cause => (.error cause, b)
  | .ok prepared => b.carryOut prepared

end Bridge
end ScriptBridge
