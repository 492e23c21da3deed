import ScriptBridge.Registry.Types

/-!
# Registered bodies

Functions and properties that are registered for a class run on a receiver.  For
an object the receiver is a path; its object is looked up only when the body asks
for it, and asking fails once the object is gone.  A body may read and change the
world and may ask for handles to objects; it never sees the call locks or the
members that a script has looked up.
-/

namespace ScriptBridge

inductive HostOp where
  | world (op : WorldOp)
  /-- Which handle addresses the object at the end of a path? -/
  | handle (p : Path)

namespace HostOp

@[reducible] def Answer : HostOp -> Type
  | .world op => op.Answer
  | .handle _ => Option InstanceHandle

def perform (types : TypeTable) : (op : HostOp) -> World -> op.Answer × World
  | .world op, w => op.perform w
  | .handle p, w => (types.objectHandle? w p, w)

end HostOp

abbrev HostAction (Result : Type) : Type :=
  Interaction HostOp HostOp.Answer Result

/-- Doings that may end in an error. -/
abbrev HostAttempt (Result : Type) : Type :=
  ExceptT BridgeError (Interaction HostOp HostOp.Answer) Result

def askWorld (op : WorldOp) : HostAttempt op.Answer :=
  ExceptT.lift (.request (HostOp.world op) : HostAction op.Answer)

def runHost {Result : Type} (types : TypeTable) (body : HostAttempt Result)
    (w : World) : Except BridgeError Result × World :=
  Interaction.run (HostOp.perform types) body.run w

/-!
## Receivers
-/

/-- What a body that runs on an object is given besides its arguments. -/
structure MemberContext where
  types : TypeTable
  path : Path

namespace MemberContext

/-- The identity and the state of the receiver. -/
def target (c : MemberContext) : HostAttempt (ObjectId × NativeObject) := do
  match ← askWorld (.find c.path.target) with
  | none => throw .instanceInvalid
  | some id =>
      match ← askWorld (.read id) with
      | none => throw .instanceInvalid
      | some object => pure (id, object)

/--
The receiver, if it is of the wanted sort.  The error names the sort that was
wanted, and what the receiver is exposed as.
-/
def targetThat (c : MemberContext) (sort : String)
    (suits : NativeObject -> Bool) : HostAttempt (ObjectId × NativeObject) := do
  let (id, object) ← c.target
  if suits object then pure (id, object)
  else
    let actual :=
      match c.types.exposed? object.cls with
      | some exposed => exposed.name
      | none => object.cls.inspect
    throw (.invalidReceiver sort actual)

/--
The value for an object that was reached from the receiver.  It is addressed
through the path of the receiver, and is nil if there is no handle for it.
-/
def reached (c : MemberContext) (r : ObjectRef) : HostAttempt Value := do
  let answer ←
    ExceptT.lift
      (.request (HostOp.handle (c.path.through r)) :
        HostAction (Option InstanceHandle))
  pure (.ofHandle? (answer.map .object))

end MemberContext

/-- What a body that runs on a class is given besides its arguments. -/
structure ClassContext where
  types : TypeTable
  cls : ClassId

/-!
## The kinds of bodies
-/

abbrev FunctionBody : Type :=
  MemberContext -> List Value -> HostAttempt (List Value)

abbrev ClassFunctionBody : Type :=
  ClassContext -> List Value -> HostAttempt (List Value)

/-- A property of objects; without a setter it is read only. -/
structure Property where
  get : MemberContext -> HostAttempt Value
  set : Option (MemberContext -> Value -> HostAttempt Unit)

def Property.isReadOnly (p : Property) : Bool :=
  p.set.isNone

end ScriptBridge
