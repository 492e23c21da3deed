import ScriptBridge.Registry.Basic

/-!
# Drafting a registry

A draft is filled by registrations before any script runs and then sealed.  A
class is registered once.  A type is bound to a registered class; binding the
class again under a new name replaces the old name, while a name that serves
another class, or the other level, is refused.  Members are registered only on a
class that is bound at their level.
-/

namespace ScriptBridge

inductive MemberSort where
  | function
  | property
  | classFunction
  deriving DecidableEq

namespace MemberSort

def name : MemberSort -> String
  | .function => "function"
  | .property => "property"
  | .classFunction => "class function"

def level : MemberSort -> TypeLevel
  | .function => .object
  | .property => .object
  | .classFunction => .cls

end MemberSort

inductive RegistrationError where
  /-- The exposed name belongs to another class or to the other level. -/
  | duplicateType (name : String)
  | duplicateClass (name : String)
  | unknownClass (id : ClassId)
  /-- The class is bound at no level. -/
  | unboundType (id : ClassId) (level : TypeLevel)
  /-- The class is bound at the other level only, which is given. -/
  | wrongBindingKind (name : String) (sort : MemberSort) (level : TypeLevel)
  deriving DecidableEq

def RegistrationError.message : RegistrationError -> String
  | .duplicateType name =>
      "exposed type name '" ++ name ++ "' is already bound to another class"
  | .duplicateClass name =>
      "native class '" ++ name ++ "' is already registered"
  | .unknownClass id => "native class " ++ id.inspect ++ " is not registered"
  | .unboundType id level =>
      "class " ++ id.inspect ++ " has no " ++ level.name ++ " binding"
  | .wrongBindingKind name sort level =>
      "cannot register " ++ sort.name ++ " '" ++ name ++ "' on " ++
        level.name ++ " binding"

inductive Registration where
  | cls (c : NativeClass)
  | type (id : ClassId) (name : String) (level : TypeLevel)
  | function (id : ClassId) (name : String) (body : FunctionBody)
  | property (id : ClassId) (name : String) (property : Property)
  | classFunction (id : ClassId) (name : String) (body : ClassFunctionBody)

structure Draft where
  types : TypeTable
  members : Table ClassId MemberTable

namespace Draft

def empty (functionMark : String) : Draft :=
  ⟨.empty functionMark, .empty⟩

def sealed (d : Draft) : Registry :=
  ⟨d.types, d.members⟩

/-!
## Classes and types
-/

def addClass (d : Draft) (c : NativeClass) :
    Except RegistrationError Unit × Draft :=
  if d.types.catalog.contains c.id then (.error (.duplicateClass c.name), d)
  else
    let catalog := (d.types.catalog.insert c).2
    (.ok (), { d with types := { d.types with catalog := catalog } })

/-- Bind a class under a new name, and free the name it had at that level. -/
def bind (t : TypeTable) (id : ClassId) (name : String) (level : TypeLevel) :
    TypeTable :=
  let binding : TypeBinding := ⟨⟨id, name⟩, level⟩
  let freed :=
    match (t.bindings level).get? id with
    | some previous => t.names.erase previous.exposed.name
    | none => t.names
  match level with
  | .object =>
      { t with
        objectTypes := t.objectTypes.put id binding
        names := freed.put name binding }
  | .cls =>
      { t with
        classTypes := t.classTypes.put id binding
        names := freed.put name binding }

def exposeType (d : Draft) (id : ClassId) (name : String)
    (level : TypeLevel) : Except RegistrationError Unit × Draft :=
  if !d.types.catalog.contains id then (.error (.unknownClass id), d)
  else
    match d.types.named? name with
    | some existing =>
        if existing.exposed.cls = id && existing.level = level then
          (.ok (), d)
        else (.error (.duplicateType name), d)
    | none => (.ok (), { d with types := bind d.types id name level })

/-!
## Members
-/

def checkLevel (d : Draft) (id : ClassId) (name : String)
    (sort : MemberSort) : Except RegistrationError Unit :=
  if (d.types.bindings sort.level).contains id then .ok ()
  else if (d.types.bindings sort.level.other).contains id then
    .error (.wrongBindingKind name sort sort.level.other)
  else .error (.unboundType id sort.level)

/-- Register a member by a change of the member table of its class. -/
def addMember (d : Draft) (id : ClassId) (name : String)
    (sort : MemberSort) (change : MemberTable -> MemberTable) :
    Except RegistrationError Unit × Draft :=
  match d.checkLevel id name sort with
  | .error cause => (.error cause, d)
  | .ok () =>
      let table := change (d.members.getD id .empty)
      (.ok (), { d with members := d.members.put id table })

def register (d : Draft) : Registration -> Except RegistrationError Unit × Draft
  | .cls c => d.addClass c
  | .type id name level => d.exposeType id name level
  | .function id name body =>
      d.addMember id name .function (fun t => t.putFunction name body)
  | .property id name property =>
      d.addMember id name .property (fun t => t.putProperty name property)
  | .classFunction id name body =>
      d.addMember id name .classFunction
        (fun t => t.putClassFunction name body)

/-- Carry out registrations one after the other; failed ones do not stop the others. -/
def registerAll (d : Draft) : List Registration -> Draft
  | [] => d
  | r :: rest => registerAll (d.register r).2 rest

end Draft

end ScriptBridge
