import ScriptBridge.Handle

/-!
# Script values

Everything that passes between a script and the bridge is a value: nothing,
truth values, integers, doubles, text, arrays, handles, and members.  A member is
a function that was found by name on an exposed type.  It captures no receiver,
so one member serves every handle of its type.
-/

namespace ScriptBridge

inductive MemberKind where
  /-- By a registered function of an object's type. -/
  | library
  /-- By a native function that a class declares. -/
  | reflected (declaring : ClassId)
  /-- By a registered function of a class itself. -/
  | classLibrary
  /-- By listing the members of the receiver. -/
  | introspection
  deriving DecidableEq

/-- A function found by name on an exposed type. -/
structure Member where
  name : String
  owner : Exposed
  kind : MemberKind
  deriving DecidableEq

inductive Value where
  | nil
  | bool (b : Bool)
  | int (n : Int64)
  | float (x : Double)
  | string (text : String)
  | array (items : List Value)
  | handle (h : Handle)
  | member (m : Member)

namespace Value

instance : Inhabited Value :=
  ⟨.nil⟩

/-- The name of the type of a value.  A handle has the name of its exposed type. -/
def typeName : Value -> String
  | .nil => "nil"
  | .bool _ => "bool"
  | .int _ => "int"
  | .float _ => "float"
  | .string _ => "string"
  | .array _ => "array"
  | .handle h => h.exposed.name
  | .member _ => "function"

def isNil : Value -> Bool
  | .nil => true
  | _ => false

def asHandle : Value -> Option Handle
  | .handle h => some h
  | _ => none

def asMember : Value -> Option Member
  | .member m => some m
  | _ => none

def asString : Value -> Option String
  | .string text => some text
  | _ => none

def ofHandle? : Option Handle -> Value
  | some h => .handle h
  | none => .nil

/-!
## Equality as scripts see it

Doubles are compared as numbers, handles by what they address, members by name,
owner and kind.
-/

mutual

def equals : Value -> Value -> Bool
  | .nil, .nil => true
  | .bool a, .bool b => a = b
  | .int a, .int b => a = b
  | .float a, .float b => a.equals b
  | .string a, .string b => a = b
  | .array a, .array b => allEqual a b
  | .handle a, .handle b => a.equals b
  | .member a, .member b => a = b
  | _, _ => false

def allEqual : List Value -> List Value -> Bool
  | [], [] => true
  | a :: as, b :: bs => equals a b && allEqual as bs
  | _, _ => false

end

/-!
## Inspection
-/

mutual

def inspect : Value -> String
  | .nil => "Nil"
  | .bool b => Inspection.wrapped "Bool" (toString b)
  | .int n => Inspection.wrapped "Int" (toString n.toInt)
  | .float x => Inspection.wrapped "Float" (Inspection.double x)
  | .string text => Inspection.wrapped "String" (Inspection.quoted text)
  | .array items =>
      Inspection.wrapped "Array" (Inspection.list (inspectAll items))
  | .handle h => Inspection.wrapped "Handle" h.inspect
  | .member m => Inspection.wrapped "Member" (m.owner.name ++ "." ++ m.name)

def inspectAll : List Value -> List String
  | [] => []
  | v :: rest => inspect v :: inspectAll rest

end

end Value

end ScriptBridge
