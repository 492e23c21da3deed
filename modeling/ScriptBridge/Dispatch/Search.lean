import ScriptBridge.Bridge

/-!
# Searching for members

A name on an object may stand for a network property, a registered property, a
registered function, or a native function.  What is registered for the exposed
type of the handle comes first; after it come the objects merged with the
object, in their order, each with what is registered for its own class.
-/

namespace ScriptBridge
namespace Bridge

def object (b : Bridge) (h : InstanceHandle) :
    Except BridgeError NativeObject :=
  match b.world.get? h.path.target with
  | some object => .ok object
  | none => .error .instanceInvalid

def networkNode (o : NativeObject) : Except BridgeError NetworkNode :=
  match o.network with
  | some node => .ok node
  | none => .error .notNetworked

/-!
## Registered members
-/

/--
The first answer that the exposed type of a handle, or else a merged object,
gives for a class; with it the path to the object that gave it.
-/
def firstAlong {Answer : Type} (b : Bridge) (h : InstanceHandle)
    (o : NativeObject) (answer : ClassId -> Option Answer) :
    Option (Path × Answer) :=
  match answer h.exposed.cls with
  | some a => some (h.path, a)
  | none =>
      (b.world.mergedWith o).findSome? (fun (r, other) =>
        (answer other.cls).map (fun a => (h.path.through r, a)))

/-- The property that a name stands for, and the path to its owner. -/
def findProperty? (b : Bridge) (h : InstanceHandle) (o : NativeObject)
    (name : String) : Option (Path × Property) :=
  b.firstAlong h o (fun id => b.registry.property? id name)

/-- The registered function that a name stands for, and the path to its owner. -/
def findFunction? (b : Bridge) (h : InstanceHandle) (o : NativeObject)
    (name : String) : Option (Path × FunctionBody) :=
  b.firstAlong h o (fun id => b.registry.function? id name)

/-!
## Native functions
-/

/-- The native function that a name stands for, on the object or a merged one. -/
def findNative? (b : Bridge) (o : NativeObject) (name : String) :
    Option DeclaredFunction :=
  (o.cls :: (b.world.mergedWith o).map (fun entry => entry.2.cls)).findSome?
    (fun id => b.types.nativeFunction? id name)

/-- How a function of a given name is carried out, if there is one. -/
def functionKind? (b : Bridge) (h : InstanceHandle) (o : NativeObject)
    (name : String) : Option MemberKind :=
  if (b.findFunction? h o name).isSome then some .library
  else
    (b.findNative? o name).map (fun f => .reflected f.declaring)

/--
The path to the object on which a native function of a class may run: the
object of the handle, or else the first merged one, whose class derives from it.
-/
def nativeTarget? (b : Bridge) (h : InstanceHandle) (o : NativeObject)
    (declaring : ClassId) : Option Path :=
  if b.types.isChildOf o.cls declaring then some h.path
  else
    ((b.world.mergedWith o).find? (fun (_, other) =>
      b.types.isChildOf other.cls declaring)).map
        (fun (r, _) => h.path.through r)

/-!
## Listing
-/

/-- The names of what is registered or native for the objects of a class. -/
def classMembers (b : Bridge) (id : ClassId) : List String :=
  b.registry.memberNames id ++ b.types.nativeNames id

/-- The names that a script can look up on a handle, each once. -/
def memberNames (b : Bridge) : Handle -> Except BridgeError (List String)
  | .cls h => .ok (b.registry.classFunctionNames h.cls)
  | .object h =>
      match b.object h with
      | .error cause => .error cause
      | .ok o =>
          let merged := (b.world.mergedWith o).map (fun entry => entry.2.cls)
          .ok (["id", "nick"] ++
            (o.cls :: merged).flatMap b.classMembers).eraseDups

end Bridge
end ScriptBridge
