import ScriptBridge.ClassId
import ScriptBridge.Path

/-!
# Parameters of native functions

A native function declares its parameters, each with a name, a type and a role.
The role decides which way a value travels: into the function, out of it, or
neither.
-/

namespace ScriptBridge

/-- The role of a parameter, made of three marks. -/
structure Role where
  parameter : Bool
  out : Bool
  result : Bool
  deriving DecidableEq

namespace Role

def input : Role :=
  ⟨true, false, false⟩

def output : Role :=
  ⟨true, true, false⟩

def returned : Role :=
  ⟨true, false, true⟩

/-- Filled from an argument before the call. -/
def isInput (r : Role) : Bool :=
  r.parameter && !(r.out || r.result)

/-- Handed back after the call. -/
def isOutput (r : Role) : Bool :=
  r.parameter && (r.out || r.result)

/-- The marks as bits, from the lowest. -/
def bits (r : Role) : Nat :=
  r.parameter.toNat + 2 * r.out.toNat + 4 * r.result.toNat

/-- The role with the given bits; there are no others than the three. -/
def ofBits? (bits : Nat) : Option Role :=
  if bits < 8 then
    some ⟨bits.testBit 0, bits.testBit 1, bits.testBit 2⟩
  else none

end Role

inductive NativeKind where
  | bool
  | int
  | float
  | string
  | object
  | cls
  | array
  deriving DecidableEq

def NativeKind.name : NativeKind -> String
  | .bool => "bool"
  | .int => "int"
  | .float => "float"
  | .string => "string"
  | .object => "object"
  | .cls => "class"
  | .array => "array"

inductive NativeType where
  | bool
  | int
  | float
  | string
  /-- An object, if wanted of a class or one derived from it. -/
  | object (required : Option ClassId)
  /-- A class, if wanted a given one or one derived from it. -/
  | cls (required : Option ClassId)
  | array (element : NativeType)
  deriving DecidableEq

inductive NativeValue where
  | bool (b : Bool)
  | int (n : Int64)
  | float (x : Double)
  | string (text : String)
  | object (r : Option ObjectRef)
  | cls (c : Option ClassId)
  | array (items : List NativeValue)

instance : Inhabited NativeValue :=
  ⟨.bool false⟩

def NativeValue.kind : NativeValue -> NativeKind
  | .bool _ => .bool
  | .int _ => .int
  | .float _ => .float
  | .string _ => .string
  | .object _ => .object
  | .cls _ => .cls
  | .array _ => .array

namespace NativeType

def kind : NativeType -> NativeKind
  | .bool => .bool
  | .int => .int
  | .float => .float
  | .string => .string
  | .object _ => .object
  | .cls _ => .cls
  | .array _ => .array

def name (t : NativeType) : String :=
  t.kind.name

/-- What a parameter holds before anything is written to it. -/
def blank : NativeType -> NativeValue
  | .bool => .bool false
  | .int => .int 0
  | .float => .float .zero
  | .string => .string ""
  | .object _ => .object none
  | .cls _ => .cls none
  | .array _ => .array []

end NativeType

structure Parameter where
  name : String
  type : NativeType
  role : Role
  deriving DecidableEq

namespace Parameter

def input (name : String) (type : NativeType) : Parameter :=
  ⟨name, type, .input⟩

def output (name : String) (type : NativeType) : Parameter :=
  ⟨name, type, .output⟩

def returns (type : NativeType) : Parameter :=
  ⟨"ReturnValue", type, .returned⟩

end Parameter

/-!
## Inspection
-/

def Role.inspect (r : Role) : String :=
  let marks :=
    (if r.parameter then ["PARM"] else []) ++ (if r.out then ["OUT"] else []) ++
      (if r.result then ["RETURN"] else [])
  Inspection.wrapped "ParamFlags"
    (if marks.isEmpty then "0x0" else " | ".intercalate marks)

def NativeType.inspect : NativeType -> String
  | .bool => "Bool"
  | .int => "Int"
  | .float => "Float"
  | .string => "Str"
  | .object required =>
      Inspection.wrapped "Object"
        (Inspection.optional (required.map ClassId.inspect))
  | .cls required =>
      Inspection.wrapped "Class"
        (Inspection.optional (required.map ClassId.inspect))
  | .array element => Inspection.wrapped "Array" element.inspect

def Parameter.inspect (p : Parameter) : String :=
  Inspection.record "ParamDecl"
    [("name", Inspection.quoted p.name), ("ty", p.type.inspect),
      ("flags", p.role.inspect)]

end ScriptBridge
