import ScriptBridge.World.Object

/-!
# The world

The world holds the objects of the simulation in numbered slots.  A slot has a
generation, which counts how often its occupant was destroyed, and a reference
reaches an object only while its generation is that of the slot.  A vacant slot
is used again before a new one is made, the one vacated last first.

Objects have an identity of their own, apart from the slots: one object may
stand in several slots, and an object that was taken out of its slot is still
there for a function that is running on it.
-/

namespace ScriptBridge

/-- The identity of an object, whatever slots it stands in. -/
structure ObjectId where
  index : Nat
  deriving DecidableEq, Inhabited

structure WorldSlot where
  generation : UInt32
  occupant : Option ObjectId
  deriving DecidableEq

structure World where
  slots : List WorldSlot
  /-- The vacant slots, the one vacated last at the head. -/
  vacant : List UInt32
  /-- Every object that was ever placed, by identity. -/
  objects : List NativeObject

namespace World

def empty : World :=
  ⟨[], [], []⟩

instance : Inhabited World :=
  ⟨empty⟩

/-!
## Reading
-/

/-- The identity of the object that a reference reaches. -/
def occupant? (w : World) (r : ObjectRef) : Option ObjectId :=
  match w.slots[r.index.toNat]? with
  | some slot => if slot.generation = r.generation then slot.occupant else none
  | none => none

def object? (w : World) (id : ObjectId) : Option NativeObject :=
  w.objects[id.index]?

def get? (w : World) (r : ObjectRef) : Option NativeObject :=
  (w.occupant? r).bind w.object?

def contains (w : World) (r : ObjectRef) : Bool :=
  match w.slots[r.index.toNat]? with
  | some slot => slot.generation = r.generation && slot.occupant.isSome
  | none => false

def population (w : World) : Nat :=
  w.slots.length - w.vacant.length

/-- The live objects merged with an object, with their references, in order. -/
def mergedWith (w : World) (o : NativeObject) :
    List (ObjectRef × NativeObject) :=
  o.mergedRefs.filterMap (fun r => (w.get? r).map (fun other => (r, other)))

/-!
## Placing and destroying
-/

def share (w : World) (id : ObjectId) : ObjectRef × World :=
  match w.vacant with
  | index :: rest =>
      let generation :=
        match w.slots[index.toNat]? with
        | some slot => slot.generation
        | none => 0
      (⟨index, generation⟩,
        { w with
          slots := w.slots.set index.toNat ⟨generation, some id⟩
          vacant := rest })
  | [] =>
      (⟨UInt32.ofNat w.slots.length, 0⟩,
        { w with slots := w.slots ++ [⟨0, some id⟩] })

def spawn (w : World) (o : NativeObject) : ObjectRef × World :=
  share { w with objects := w.objects ++ [o] } ⟨w.objects.length⟩

/-- Take the object that a reference reaches out of its slot; tells if there was one. -/
def destroy (w : World) (r : ObjectRef) : Bool × World :=
  if w.contains r then
    (true,
      { w with
        slots := w.slots.set r.index.toNat ⟨r.generation + 1, none⟩
        vacant := r.index :: w.vacant })
  else (false, w)

/-- Change an object, in whatever slots it stands. -/
def change (w : World) (id : ObjectId) (c : ObjectChange) : World :=
  { w with objects := w.objects.modify id.index (fun o => o.change c) }

/-!
## Inspection
-/

def inspect (w : World) : String :=
  Inspection.record "ObjectWorld"
    [("slot_count", toString w.slots.length),
      ("free_count", toString w.vacant.length)]

end World

end ScriptBridge
