import ScriptBridge.Error
import ScriptBridge.Native.Parameter

/-!
# Call frames

A frame holds one slot for every declared parameter of a native function for the
length of one call.  Inputs are filled in before the body runs, the body writes
outputs, and the outputs are read back when it has ended.  A slot accepts only
values of the kind it already holds.
-/

namespace ScriptBridge

structure FrameSlot where
  role : Role
  value : NativeValue

structure Frame where
  slots : List FrameSlot

namespace Frame

/-- A frame for declared parameters, every slot blank. -/
def ofParameters (parameters : List Parameter) : Frame :=
  ⟨parameters.map (fun p => ⟨p.role, p.type.blank⟩)⟩

def width (f : Frame) : Nat :=
  f.slots.length

/-!
## Reading
-/

def get (f : Frame) (index : Nat) : Except NativeError NativeValue :=
  match f.slots[index]? with
  | some slot => .ok slot.value
  | none => .error (.indexOutOfBounds index f.width)

/-- Read a slot that must hold a value of a given kind. -/
def getAs (f : Frame) (kind : NativeKind) (index : Nat) :
    Except NativeError NativeValue :=
  match f.get index with
  | .ok value =>
      if value.kind = kind then .ok value
      else .error (.wrongType index kind.name value.kind.name)
  | .error cause => .error cause

/-- The positions and values of the outputs, in order of declaration. -/
def outputs (f : Frame) : List (Nat × NativeValue) :=
  (f.slots.zipIdx.filter (fun entry => entry.1.role.isOutput)).map
    (fun entry => (entry.2, entry.1.value))

/-!
## Writing
-/

/-- Write a slot.  A value of another kind than the slot holds is refused. -/
def set (f : Frame) (index : Nat) (value : NativeValue) :
    Except NativeError Unit × Frame :=
  match f.slots[index]? with
  | none => (.error (.indexOutOfBounds index f.width), f)
  | some slot =>
      if slot.value.kind = value.kind then
        (.ok (), ⟨f.slots.set index { slot with value := value }⟩)
      else
        (.error (.wrongType index slot.value.kind.name value.kind.name), f)

/-- Write the first slot that carries the result. -/
def setReturn (f : Frame) (value : NativeValue) :
    Except NativeError Unit × Frame :=
  match f.slots.findIdx? (fun slot => slot.role.result) with
  | some index => f.set index value
  | none => (.error .noReturn, f)

end Frame

end ScriptBridge
