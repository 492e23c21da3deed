import ScriptBridge.Error
import ScriptBridge.Value

/-!
# Values as host data

Host functions read their arguments as data of a host type: an integer of some
width, a number, a truth value, text, a handle, any value at all, or an optional
or repeated one of these.  `HostType.read` turns a script value into such data
and `HostType.toValue` turns the data back.  Integers are accepted where a number
is asked for, never the other way round, and a missing option is nil.
-/

namespace ScriptBridge

inductive IntType where
  | i8
  | i16
  | i32
  | i64
  | u8
  | u16
  | u32
  deriving DecidableEq

namespace IntType

def name : IntType -> String
  | .i8 => "i8"
  | .i16 => "i16"
  | .i32 => "i32"
  | .i64 => "i64"
  | .u8 => "u8"
  | .u16 => "u16"
  | .u32 => "u32"

def least : IntType -> Int
  | .i8 => -128
  | .i16 => -32768
  | .i32 => -2147483648
  | .i64 => -9223372036854775808
  | .u8 => 0
  | .u16 => 0
  | .u32 => 0

def greatest : IntType -> Int
  | .i8 => 127
  | .i16 => 32767
  | .i32 => 2147483647
  | .i64 => 9223372036854775807
  | .u8 => 255
  | .u16 => 65535
  | .u32 => 4294967295

/-- The integers of a type, all of which a script integer can hold. -/
def Holds (t : IntType) (n : Int64) : Prop :=
  t.least ≤ n.toInt ∧ n.toInt ≤ t.greatest

instance (t : IntType) (n : Int64) : Decidable (t.Holds n) :=
  inferInstanceAs (Decidable (_ ∧ _))

end IntType

/-- The types in which host functions read their arguments. -/
inductive HostType where
  | int (t : IntType)
  | single
  | double
  | bool
  | string
  | handle
  | value
  | option (t : HostType)
  | list (t : HostType)
  deriving DecidableEq

namespace HostType

@[reducible] def Data : HostType -> Type
  | .int t => { n : Int64 // t.Holds n }
  | .single => Single
  | .double => Double
  | .bool => Bool
  | .string => String
  | .handle => Handle
  | .value => Value
  | .option t => Option t.Data
  | .list t => List t.Data

end HostType

inductive ConversionError where
  | typeMismatch (expected actual : String)
  | integerOverflow (value : Int64) (target : String)
  deriving DecidableEq

namespace ConversionError

def message : ConversionError -> String
  | .typeMismatch expected actual =>
      s!"type mismatch: expected {expected}, got {actual}"
  | .integerOverflow value target =>
      s!"integer overflow: {value.toInt} does not fit in {target}"

def expected : ConversionError -> String
  | .typeMismatch expected _ => expected
  | .integerOverflow _ target => target

end ConversionError

namespace HostType

/-!
## Reading and writing back
-/

def mismatch {Result : Type} (expected : String) (actual : Value) :
    Except ConversionError Result :=
  .error (.typeMismatch expected actual.typeName)

def read : (t : HostType) -> Value -> Except ConversionError t.Data
  | .int t, .int n =>
      if h : t.Holds n then .ok ⟨n, h⟩ else .error (.integerOverflow n t.name)
  | .int _, v => mismatch "int" v
  | .single, .float x => .ok x.toSingle
  | .single, .int n => .ok (Single.ofInt n.toInt)
  | .single, v => mismatch "float" v
  | .double, .float x => .ok x
  | .double, .int n => .ok (Double.ofInt n.toInt)
  | .double, v => mismatch "float" v
  | .bool, .bool b => .ok b
  | .bool, v => mismatch "bool" v
  | .string, .string text => .ok text
  | .string, v => mismatch "string" v
  | .handle, .handle h => .ok h
  | .handle, v => mismatch "handle" v
  | .value, v => .ok v
  | .option _, .nil => .ok none
  | .option t, v => (t.read v).map some
  | .list t, .array items => items.mapM t.read
  | .list _, v => mismatch "array" v

/-- The value that stands for data of a host type. -/
def toValue : (t : HostType) -> t.Data -> Value
  | .int _, n => .int n.val
  | .single, x => .float x.toDouble
  | .double, x => .float x
  | .bool, b => .bool b
  | .string, text => .string text
  | .handle, h => .handle h
  | .value, v => v
  | .option _, none => .nil
  | .option t, some x => t.toValue x
  | .list t, items => .array (items.map t.toValue)

/--
Read one argument of a call.  A missing argument is nil.  A failure names the
position of the argument, counted from one, and the type of the whole argument.
-/
def readArgument (t : HostType) (args : List Value) (index : Nat) :
    Except BridgeError t.Data :=
  let value := args[index]?.getD .nil
  match t.read value with
  | .ok data => .ok data
  | .error cause =>
      .error (.argumentMismatch (index + 1) cause.expected value.typeName)

end HostType

end ScriptBridge
