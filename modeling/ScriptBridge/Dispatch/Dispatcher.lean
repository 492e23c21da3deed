import ScriptBridge.Dispatch.Call

/-!
# Looking members up

Every computer has a dispatcher, which carries out what a script does with a
handle.  A name on an object is looked up in this order: the network properties
`id` and `nick`, registered properties, `getMembers`, the members the dispatcher
has found before, registered functions, native functions.  On a class only
`getMembers` and class functions can be found.

A function that was found is remembered under the exposed type of the handle and
its name.  Members capture no receiver, so one entry serves every handle of the
type.
-/

namespace ScriptBridge

/-- What a name on an object stands for, before functions are considered. -/
inductive Meaning where
  | text (text : String)
  | property (path : Path) (property : Property)
  | members
  /-- Possibly a function of the object. -/
  | function (o : NativeObject)

/--
The members found so far, and two counts.  The counts have no bound here; counters
of 64 bits hold the same numbers in every run of fewer than `2 ^ 64` look-ups.
-/
structure Dispatcher where
  found : Table (Exposed × String) Member
  /-- Searches for a function that went past the remembered members. -/
  searches : Nat
  /-- Look-ups answered by a remembered member. -/
  hits : Nat

namespace Dispatcher

def fresh : Dispatcher :=
  ⟨.empty, 0, 0⟩

def remembered (d : Dispatcher) (e : Exposed) : Nat :=
  d.found.keys.countP (fun key => key.1 = e)

def known? (d : Dispatcher) (e : Exposed) (name : String) : Option Member :=
  d.found.get? (e, name)

def remember (d : Dispatcher) (m : Member) : Dispatcher :=
  { d with found := d.found.put (m.owner, m.name) m }

def countHit (d : Dispatcher) : Dispatcher :=
  { d with hits := d.hits + 1 }

def countSearch (d : Dispatcher) : Dispatcher :=
  { d with searches := d.searches + 1 }

/-- Look a function up, first among the remembered members, then by a search. -/
def lookUp (d : Dispatcher) (e : Exposed) (name : String)
    (search : Option MemberKind) : Option Member × Dispatcher :=
  match d.known? e name with
  | some m => (some m, d.countHit)
  | none =>
      match search with
      | none => (none, d.countSearch)
      | some kind =>
          let m : Member := ⟨name, e, kind⟩
          (some m, d.countSearch.remember m)

end Dispatcher

/-!
## Reading
-/

namespace Bridge

/-- What a name on an object stands for, before functions are considered. -/
def meaning (b : Bridge) (h : InstanceHandle) (name : String) :
    Except BridgeError Meaning :=
  match b.object h with
  | .error cause => .error cause
  | .ok o =>
      if name = "id" then (networkNode o).map (fun node => .text node.id)
      else if name = "nick" then
        (networkNode o).map (fun node => .text node.nick)
      else
        match b.findProperty? h o name with
        | some (path, property) => .ok (.property path property)
        | none =>
            if name = "getMembers" then .ok .members else .ok (.function o)

end Bridge

namespace Dispatcher

def indexObject (d : Dispatcher) (b : Bridge) (h : InstanceHandle)
    (name : String) :
    Except BridgeError (Option Value) × Bridge × Dispatcher :=
  match b.meaning h name with
  | .error cause => (.error cause, b, d)
  | .ok (.text text) => (.ok (some (.string text)), b, d)
  | .ok (.property path property) =>
      let (result, b') := b.runBody (property.get ⟨b.types, path⟩)
      (result.map some, b', d)
  | .ok .members =>
      (.ok (some (.member ⟨name, h.exposed, .introspection⟩)), b, d)
  | .ok (.function o) =>
      let (m, d') := d.lookUp h.exposed name (b.functionKind? h o name)
      (.ok (m.map .member), b, d')

def indexClass (d : Dispatcher) (b : Bridge) (h : ClassHandle)
    (name : String) : Option Value × Dispatcher :=
  if name = "getMembers" then
    (some (.member ⟨name, h.exposed, .introspection⟩), d)
  else
    let (m, d') :=
      d.lookUp h.exposed name
        ((b.registry.classFunction? h.cls name).map (fun _ => .classLibrary))
    (m.map .member, d')

/-- Read a member of a handle; there may be none of the name. -/
def index (d : Dispatcher) (b : Bridge) (h : Handle) (name : String) :
    Except BridgeError (Option Value) × Bridge × Dispatcher :=
  match h with
  | .object h => d.indexObject b h name
  | .cls h =>
      let (value, d') := d.indexClass b h name
      (.ok value, b, d')

/-- Read a member of a handle and call it with the handle as its receiver. -/
def callMethod (d : Dispatcher) (b : Bridge) (h : Handle) (name : String)
    (args : List Value) :
    Except BridgeError (List Value) × Bridge × Dispatcher :=
  match d.index b h name with
  | (.error cause, b', d') => (.error cause, b', d')
  | (.ok (some (.member m)), b', d') =>
      let (result, b'') := b'.call m (.handle h) args
      (result, b'', d')
  | (.ok _, b', d') =>
      (.error (.memberNotFound h.exposed.name name), b', d')

end Dispatcher

/-!
## Assigning
-/

namespace Bridge

def setNick (b : Bridge) (h : InstanceHandle) (value : Value) :
    Except BridgeError Unit × Bridge :=
  match b.world.occupant? h.path.target with
  | none => (.error .instanceInvalid, b)
  | some id =>
      match HostType.string.readArgument [value] 0 with
      | .error cause => (.error cause, b)
      | .ok nick =>
          (.ok (), { b with world := b.world.change id (.setNick nick) })

/-- Assign to a name on an object: its nickname or a property with a setter. -/
def assignObject (b : Bridge) (h : InstanceHandle) (name : String)
    (value : Value) : Except BridgeError Unit × Bridge :=
  match b.object h with
  | .error cause => (.error cause, b)
  | .ok o =>
      if name = "nick" then
        match networkNode o with
        | .error cause => (.error cause, b)
        | .ok _ => b.setNick h value
      else
        match b.findProperty? h o name with
        | none => (.error (.memberNotFound h.exposed.name name), b)
        | some (path, property) =>
            match property.set with
            | none => (.error (.readOnly name), b)
            | some set => b.runBody (set ⟨b.types, path⟩ value)

/-- Assign to a name on a handle.  Nothing of a class can be assigned to. -/
def assign (b : Bridge) (h : Handle) (name : String) (value : Value) :
    Except BridgeError Unit × Bridge :=
  match h with
  | .object h => b.assignObject h name value
  | .cls _ => (.error (.readOnly name), b)

end Bridge

end ScriptBridge
