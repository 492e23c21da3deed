import ScriptBridge.Conversion
import ScriptBridge.Registry.Basic
import ScriptBridge.Settings

/-!
# The bridge

Everything that the scripts of one simulation share: the registry and the
settings, which never change, the world, and the table of call locks.

A native body runs under the lock of its target.  The table has an entry for
every object that was ever locked; destroying an object through the bridge drops
its entry.  An object that is gone cannot be locked, so nothing runs on it and
no entry is made.
-/

namespace ScriptBridge

structure LockTable where
  entries : Table ObjectRef Unit

namespace LockTable

def empty : LockTable :=
  ⟨.empty⟩

def size (t : LockTable) : Nat :=
  t.entries.size

def contains (t : LockTable) (r : ObjectRef) : Bool :=
  t.entries.contains r

/-- Make an entry, unless there is one. -/
def claim (t : LockTable) (r : ObjectRef) : LockTable :=
  ⟨t.entries.put r ()⟩

/-- Drop an entry; tells if there was one. -/
def evict (t : LockTable) (r : ObjectRef) : Bool × LockTable :=
  (t.contains r, ⟨t.entries.erase r⟩)

def inspect (t : LockTable) : String :=
  Inspection.record "CallLocks" [("entries", toString t.size)]

end LockTable

structure Bridge where
  registry : Registry
  settings : Settings
  world : World
  locks : LockTable

namespace Bridge

def start (registry : Registry) (settings : Settings) : Bridge :=
  ⟨registry, settings, .empty, .empty⟩

def types (b : Bridge) : TypeTable :=
  b.registry.types

/-- The value that addresses an object directly. -/
def objectValue (b : Bridge) (r : ObjectRef) : Value :=
  b.types.objectValue b.world (.direct r)

def classValue (b : Bridge) (id : ClassId) : Value :=
  b.types.classValue id

/-- Destroy an object and drop its lock; tells if it was alive. -/
def destroy (b : Bridge) (r : ObjectRef) : Bool × Bridge :=
  let (destroyed, world) := b.world.destroy r
  let locks := if destroyed then (b.locks.evict r).2 else b.locks
  (destroyed, { b with world := world, locks := locks })

def underLock {Result : Type} (b : Bridge) (r : ObjectRef)
    (body : ObjectId -> World -> Result × World) :
    Except BridgeError Result × Bridge :=
  match b.world.occupant? r with
  | none => (.error .instanceInvalid, b)
  | some id =>
      let (result, world) := body id b.world
      (.ok result, { b with world := world, locks := b.locks.claim r })

def runBody {Result : Type} (b : Bridge) (body : HostAttempt Result) :
    Except BridgeError Result × Bridge :=
  let (result, world) := runHost b.types body b.world
  (result, { b with world := world })

def inspect (b : Bridge) : String :=
  Inspection.record "Bridge"
    [("registry", b.registry.inspect), ("world", b.world.inspect),
      ("locks", b.locks.inspect), ("config", b.settings.inspect)]

end Bridge

end ScriptBridge
