import ScriptBridge.Registry.Body

/-!
# The registry

The registry answers every question about types and members: how a class is
exposed, which functions and properties are registered for it, and which of its
native functions are open to scripts.  Members are looked up on the class and
then on its ancestors, nearest first.
-/

namespace ScriptBridge

structure MemberTable where
  functions : Table String FunctionBody
  properties : Table String Property
  classFunctions : Table String ClassFunctionBody
  /-- The names of functions and properties, in order of registration. -/
  objectOrder : List String
  /-- The names of class functions, in order of registration. -/
  classOrder : List String

namespace MemberTable

def empty : MemberTable :=
  ⟨.empty, .empty, .empty, [], []⟩

/-- Note a name at the end of a list, unless it is already there. -/
def note (name : String) (order : List String) : List String :=
  if order.contains name then order else order ++ [name]

def putFunction (t : MemberTable) (name : String) (body : FunctionBody) :
    MemberTable :=
  { t with
    functions := t.functions.put name body
    objectOrder := note name t.objectOrder }

def putProperty (t : MemberTable) (name : String) (property : Property) :
    MemberTable :=
  { t with
    properties := t.properties.put name property
    objectOrder := note name t.objectOrder }

def putClassFunction (t : MemberTable) (name : String)
    (body : ClassFunctionBody) : MemberTable :=
  { t with
    classFunctions := t.classFunctions.put name body
    classOrder := note name t.classOrder }

end MemberTable

structure Registry where
  types : TypeTable
  members : Table ClassId MemberTable

namespace Registry

/-- The nearest ancestor's answer to a question about its registered members. -/
def nearest? {Answer : Type} (r : Registry) (id : ClassId)
    (answer : MemberTable -> Option Answer) : Option Answer :=
  (r.types.catalog.ancestors id).findSome?
    (fun ancestor => (r.members.get? ancestor).bind answer)

def function? (r : Registry) (id : ClassId) (name : String) :
    Option FunctionBody :=
  r.nearest? id (fun t => t.functions.get? name)

def property? (r : Registry) (id : ClassId) (name : String) :
    Option Property :=
  r.nearest? id (fun t => t.properties.get? name)

def classFunction? (r : Registry) (id : ClassId) (name : String) :
    Option ClassFunctionBody :=
  r.nearest? id (fun t => t.classFunctions.get? name)

/-- Names registered along the ancestors, each once, those of the class itself first. -/
def namesAlong (r : Registry) (id : ClassId)
    (order : MemberTable -> List String) : List String :=
  ((r.types.catalog.ancestors id).flatMap (fun ancestor =>
    match r.members.get? ancestor with
    | some t => order t
    | none => [])).eraseDups

def memberNames (r : Registry) (id : ClassId) : List String :=
  r.namesAlong id MemberTable.objectOrder

def classFunctionNames (r : Registry) (id : ClassId) : List String :=
  r.namesAlong id MemberTable.classOrder

def inspect (r : Registry) : String :=
  Inspection.record "BridgeRegistry"
    [("classes", toString r.types.catalog.size),
      ("instance_types", toString r.types.objectTypes.size),
      ("class_types", toString r.types.classTypes.size),
      ("function_prefix", Inspection.quoted r.types.functionMark)]

end Registry

end ScriptBridge
