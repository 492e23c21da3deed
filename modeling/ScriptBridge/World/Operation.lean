import ScriptBridge.Host.Interaction
import ScriptBridge.World.Basic

/-!
# What the host may do to the world

The host reads objects, changes their state, places objects and destroys them.
It never touches slots or generations otherwise, and it never changes the class
of an object.
-/

namespace ScriptBridge

inductive WorldOp where
  | find (r : ObjectRef)
  | read (id : ObjectId)
  | change (id : ObjectId) (c : ObjectChange)
  | spawn (o : NativeObject)
  /-- Put a known object into one more slot. -/
  | share (id : ObjectId)
  | destroy (r : ObjectRef)
  | population

namespace WorldOp

@[reducible] def Answer : WorldOp -> Type
  | .find _ => Option ObjectId
  | .read _ => Option NativeObject
  | .change _ _ => Unit
  | .spawn _ => ObjectRef
  | .share _ => Option ObjectRef
  | .destroy _ => Bool
  | .population => Nat

/-- Perform an operation.  An object that was never placed cannot be shared. -/
def perform : (op : WorldOp) -> World -> op.Answer × World
  | .find r, w => (w.occupant? r, w)
  | .read id, w => (w.object? id, w)
  | .change id c, w => ((), w.change id c)
  | .spawn o, w => w.spawn o
  | .share id, w =>
      match w.object? id with
      | some _ =>
          let (r, w') := w.share id
          (some r, w')
      | none => (none, w)
  | .destroy r, w => w.destroy r
  | .population, w => (w.population, w)

end WorldOp

end ScriptBridge
