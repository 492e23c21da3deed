import ScriptBridge.Native.Frame
import ScriptBridge.World.Operation

/-!
# Native functions and classes

A native class declares functions that scripts may reach without any further
registration.  The body of a native function runs on one object.  It sees its
arguments, and leaves its results, in the frame of the call.
-/

namespace ScriptBridge

inductive NativeOp where
  | world (op : WorldOp)
  /-- How many slots has the frame? -/
  | width
  | get (index : Nat)
  | getAs (kind : NativeKind) (index : Nat)
  | set (index : Nat) (value : NativeValue)
  | setReturn (value : NativeValue)

namespace NativeOp

@[reducible] def Answer : NativeOp -> Type
  | .world op => op.Answer
  | .width => Nat
  | .get _ => Except NativeError NativeValue
  | .getAs _ _ => Except NativeError NativeValue
  | .set _ _ => Except NativeError Unit
  | .setReturn _ => Except NativeError Unit

def perform : (op : NativeOp) -> World × Frame -> op.Answer × World × Frame
  | .world op, (w, f) =>
      let (answer, w') := op.perform w
      (answer, w', f)
  | .width, (w, f) => (f.width, w, f)
  | .get index, (w, f) => (f.get index, w, f)
  | .getAs kind index, (w, f) => (f.getAs kind index, w, f)
  | .set index value, (w, f) =>
      let (answer, f') := f.set index value
      (answer, w, f')
  | .setReturn value, (w, f) =>
      let (answer, f') := f.setReturn value
      (answer, w, f')

end NativeOp

abbrev NativeAction (Result : Type) : Type :=
  Interaction NativeOp NativeOp.Answer Result

/-- A native body: what it does to the object it is called on. -/
abbrev NativeBody : Type :=
  ObjectId -> NativeAction (Except NativeError Unit)

structure NativeFunction where
  /-- The declared name, the scripting mark included. -/
  name : String
  parameters : List Parameter
  body : NativeBody

structure NativeClass where
  name : String
  parent : Option ClassId
  functions : List NativeFunction

namespace NativeClass

def id (c : NativeClass) : ClassId :=
  .ofName c.name

/-- The first function declared under a name. -/
def function? (c : NativeClass) (name : String) : Option NativeFunction :=
  c.functions.find? (fun f => f.name = name)

end NativeClass

/-- A native function together with the class that declares it. -/
structure DeclaredFunction where
  declaring : ClassId
  function : NativeFunction

namespace DeclaredFunction

def inspect (f : DeclaredFunction) : String :=
  Inspection.partialRecord "ReflectedFunction"
    [("name", Inspection.quoted f.function.name),
      ("declaring", f.declaring.inspect),
      ("params",
        Inspection.list (f.function.parameters.map Parameter.inspect))]

end DeclaredFunction

end ScriptBridge
