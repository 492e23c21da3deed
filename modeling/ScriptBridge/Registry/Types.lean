import ScriptBridge.Native.Catalog

/-!
# Exposed types

A native class may be bound to a name under which scripts know its objects, and
to another name under which they know the class itself.  A class without a
binding of its own is known by that of its nearest bound ancestor.  Each exposed
name leads back to one binding.

A native function is open to scripts if its declared name begins with the
scripting mark; scripts know it by the rest of that name.
-/

namespace ScriptBridge

/-- Whether a binding is for the objects of a class or for the class itself. -/
inductive TypeLevel where
  | object
  | cls
  deriving DecidableEq

namespace TypeLevel

def name : TypeLevel -> String
  | .object => "instance"
  | .cls => "class"

def other : TypeLevel -> TypeLevel
  | .object => .cls
  | .cls => .object

end TypeLevel

structure TypeBinding where
  exposed : Exposed
  level : TypeLevel
  deriving DecidableEq

/-- The classes of the simulation and the names that scripts know them by. -/
structure TypeTable where
  catalog : Catalog
  objectTypes : Table ClassId TypeBinding
  classTypes : Table ClassId TypeBinding
  names : Table String TypeBinding
  /-- Begins the declared name of every native function that is open to scripts. -/
  functionMark : String

namespace TypeTable

def empty (functionMark : String) : TypeTable :=
  ⟨.empty, .empty, .empty, .empty, functionMark⟩

def isChildOf (t : TypeTable) (id parent : ClassId) : Bool :=
  t.catalog.isChildOf id parent

/-!
## Bindings
-/

def bindings (t : TypeTable) : TypeLevel -> Table ClassId TypeBinding
  | .object => t.objectTypes
  | .cls => t.classTypes

/-- The binding for the objects of a class, its own or the nearest ancestor's. -/
def binding? (t : TypeTable) (id : ClassId) : Option TypeBinding :=
  (t.catalog.ancestors id).findSome? t.objectTypes.get?

/-- The binding for a class itself, its own or the nearest ancestor's. -/
def classBinding? (t : TypeTable) (id : ClassId) : Option TypeBinding :=
  (t.catalog.ancestors id).findSome? t.classTypes.get?

def exposed? (t : TypeTable) (id : ClassId) : Option Exposed :=
  (t.binding? id).map TypeBinding.exposed

def named? (t : TypeTable) (name : String) : Option TypeBinding :=
  t.names.get? name

def count (t : TypeTable) : Nat :=
  t.names.size

/-!
## Handles
-/

/-- The handle for the object at the end of a path, if it lives and has an exposed type. -/
def objectHandle? (t : TypeTable) (w : World) (p : Path) :
    Option InstanceHandle :=
  match w.get? p.target with
  | some object => (t.exposed? object.cls).map (fun e => ⟨p, e⟩)
  | none => none

def classHandle? (t : TypeTable) (id : ClassId) : Option ClassHandle :=
  (t.classBinding? id).map (fun binding => ⟨id, binding.exposed⟩)

/-- The value that addresses an object along a path; nil if there is no handle for it. -/
def objectValue (t : TypeTable) (w : World) (p : Path) : Value :=
  .ofHandle? ((t.objectHandle? w p).map .object)

/-- The value that addresses a class; nil if there is no handle for it. -/
def classValue (t : TypeTable) (id : ClassId) : Value :=
  .ofHandle? ((t.classHandle? id).map .cls)

/-!
## Native functions open to scripts
-/

def nativeFunction? (t : TypeTable) (id : ClassId) (name : String) :
    Option DeclaredFunction :=
  t.catalog.findFunction? id (t.functionMark ++ name)

/-- What follows the scripting mark in a declared name, if anything does. -/
def scriptName? (t : TypeTable) (declared : String) : Option String :=
  match t.functionMark.toList.isPrefixOf? declared.toList with
  | some [] => none
  | some rest => some (String.ofList rest)
  | none => none

/-- The names of the native functions of one class that are open to scripts. -/
def ownNativeNames (t : TypeTable) (id : ClassId) : List String :=
  match t.catalog.get? id with
  | some c => c.functions.filterMap (fun f => t.scriptName? f.name)
  | none => []

/-- The names of the native functions open to scripts, those of the class itself first. -/
def nativeNames (t : TypeTable) (id : ClassId) : List String :=
  ((t.catalog.ancestors id).flatMap t.ownNativeNames).eraseDups

end TypeTable

end ScriptBridge
