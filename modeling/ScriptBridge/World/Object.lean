import ScriptBridge.Table
import ScriptBridge.Value

/-!
# Native objects

An object of the simulation has a class that never changes, named fields that
host functions read and write, and a count of the calls that asked to be
counted.  An object that takes part in a network has also an identifier, a
nickname, and a list of the objects merged with it behind one handle.
-/

namespace ScriptBridge

/-- What makes an object addressable on a network. -/
structure NetworkNode where
  id : String
  /-- Empty if the user gave none. -/
  nick : String
  merged : List ObjectRef

structure NativeObject where
  cls : ClassId
  network : Option NetworkNode
  fields : Table String Value
  calls : Nat

inductive ObjectChange where
  | setField (name : String) (value : Value)
  | setNick (nick : String)
  | setMerged (merged : List ObjectRef)
  | countCall

namespace NativeObject

/-- A field; one that was never written is nil. -/
def field (o : NativeObject) (name : String) : Value :=
  o.fields.getD name .nil

/-- An object after a change.  Objects outside every network keep no nickname and no merged list. -/
def change (o : NativeObject) : ObjectChange -> NativeObject
  | .setField name value => { o with fields := o.fields.put name value }
  | .setNick nick =>
      { o with network := o.network.map (fun n => { n with nick := nick }) }
  | .setMerged merged =>
      { o with network := o.network.map (fun n => { n with merged := merged }) }
  | .countCall => { o with calls := o.calls + 1 }

theorem cls_change (o : NativeObject) (c : ObjectChange) :
    (o.change c).cls = o.cls := by
  cases c <;> rfl

def mergedRefs (o : NativeObject) : List ObjectRef :=
  match o.network with
  | some node => node.merged
  | none => []

end NativeObject

end ScriptBridge
