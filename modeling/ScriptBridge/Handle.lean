import ScriptBridge.ClassId
import ScriptBridge.Path

/-!
# Handles

A handle is what a script holds of a native object or a native class, together
with the name under which scripts know its type.  Handles are plain values, made
on demand: two handles are equal when they address the same object or the same
class, however they were obtained.

Handles of one kind are ordered by a digest of what they address.  The order has
no meaning, but it is total and fits equality; handles of different kinds are
not ordered at all.
-/

namespace ScriptBridge

/-- A native class and the name that scripts know it by. -/
structure Exposed where
  cls : ClassId
  name : String
  deriving DecidableEq, Inhabited

structure InstanceHandle where
  path : Path
  exposed : Exposed
  deriving DecidableEq, Inhabited

structure ClassHandle where
  cls : ClassId
  exposed : Exposed
  deriving DecidableEq, Inhabited

inductive Handle where
  | object (h : InstanceHandle)
  | cls (h : ClassHandle)
  deriving DecidableEq

namespace Handle

def exposed : Handle -> Exposed
  | .object h => h.exposed
  | .cls h => h.exposed

def kindName : Handle -> String
  | .object _ => "instance"
  | .cls _ => "class"

/-!
## Equality and order
-/

/-- Handles are equal when they address the same object or the same class. -/
def equals : Handle -> Handle -> Bool
  | .object a, .object b => a.path.sameTarget b.path
  | .cls a, .cls b => a.cls = b.cls
  | _, _ => false

def sameKind : Handle -> Handle -> Bool
  | .object _, .object _ => true
  | .cls _, .cls _ => true
  | _, _ => false

def littleEndian : Nat -> Nat -> List UInt8
  | 0, _ => []
  | count + 1, n => UInt8.ofNat n :: littleEndian count (n / 256)

def objectSeed : UInt64 := 0x5ea77ffbcdf5f302

def classSeed : UInt64 := 0x7d3c8b4a92e15f6d

/-- The key by which handles of one kind are ordered. -/
def orderingKey : Handle -> UInt64
  | .object h =>
      let target := h.path.target
      Digest.ofBytes objectSeed
        (littleEndian 4 target.index.toNat ++
          littleEndian 4 target.generation.toNat)
  | .cls h => Digest.ofBytes classSeed (littleEndian 8 h.cls.word.toNat)

def lessThan (a b : Handle) : Bool :=
  a.sameKind b && a.orderingKey < b.orderingKey

def lessEqual (a b : Handle) : Bool :=
  a.sameKind b && a.orderingKey ≤ b.orderingKey

end Handle

/-!
## Inspection
-/

def Exposed.inspect (e : Exposed) : String :=
  Inspection.record "ExposedType"
    [("class", e.cls.inspect), ("name", Inspection.quoted e.name)]

def InstanceHandle.inspect (h : InstanceHandle) : String :=
  Inspection.record "InstanceHandle"
    [("trace", h.path.inspect), ("exposed", h.exposed.inspect)]

def ClassHandle.inspect (h : ClassHandle) : String :=
  Inspection.record "ClassHandle"
    [("class", h.cls.inspect), ("exposed", h.exposed.inspect)]

def Handle.inspect : Handle -> String
  | .object h => Inspection.wrapped "Instance" h.inspect
  | .cls h => Inspection.wrapped "Class" h.inspect

end ScriptBridge
