import ScriptBridge.Registry.Types

/-!
# Arguments and results of native functions

Script values become native values by the type of the parameter, and only if
they fit it: the one widening is from integers to numbers.  Native values become
script values by themselves; objects are addressed through the path of the call,
and an object or a class without a handle becomes nil.
-/

namespace ScriptBridge
namespace TypeTable

/-!
## Into a native function
-/

/-- A class that must derive from another, if one is required. -/
def satisfies (t : TypeTable) (id : ClassId) : Option ClassId -> Bool
  | none => true
  | some required => t.isChildOf id required

/-- The native value of a type that a script value stands for. -/
def toNative (t : TypeTable) (w : World) :
    NativeType -> Value -> Option NativeValue
  | .bool, .bool b => some (.bool b)
  | .int, .int n => some (.int n)
  | .float, .float x => some (.float x)
  | .float, .int n => some (.float (Double.ofInt n.toInt))
  | .string, .string text => some (.string text)
  | .object _, .nil => some (.object none)
  | .object required, .handle (.object h) =>
      match w.get? h.path.target with
      | some object =>
          if t.satisfies object.cls required then
            some (.object (some h.path.target))
          else none
      | none => none
  | .cls _, .nil => some (.cls none)
  | .cls required, .handle (.cls h) =>
      if t.satisfies h.cls required then some (.cls (some h.cls)) else none
  | .array element, .array items =>
      (items.mapM (t.toNative w element)).map .array
  | _, _ => none

/-- The name of a type as errors give it; a required class goes by its exposed name. -/
def describe (t : TypeTable) : NativeType -> String
  | .object (some required) =>
      match t.exposed? required with
      | some exposed => exposed.name
      | none => NativeKind.object.name
  | .cls (some required) =>
      match t.exposed? required with
      | some exposed => exposed.name
      | none => NativeKind.cls.name
  | .array element => "array of " ++ t.describe element
  | .bool => NativeKind.bool.name
  | .int => NativeKind.int.name
  | .float => NativeKind.float.name
  | .string => NativeKind.string.name
  | .object none => NativeKind.object.name
  | .cls none => NativeKind.cls.name

/--
Fill the slots of numbered parameters from arguments.  Each input takes the next
argument, nil if there is none left; the position of the next argument is kept
for errors.
-/
def fill (t : TypeTable) (w : World) :
    List (Parameter × Nat) -> Nat -> List Value -> Frame ->
      Except BridgeError Frame
  | [], _, _, f => .ok f
  | (p, index) :: rest, position, args, f =>
      if p.role.isInput then
        let value := args.headD .nil
        match t.toNative w p.type value with
        | none =>
            .error
              (.argumentMismatch position (t.describe p.type) value.typeName)
        | some native =>
            match f.set index native with
            | (.error cause, _) => .error (.native cause)
            | (.ok (), f') => t.fill w rest (position + 1) args.tail f'
      else t.fill w rest position args f

/-- The frame of a call: inputs filled from the arguments, all else blank. -/
def frame (t : TypeTable) (w : World) (parameters : List Parameter)
    (args : List Value) : Except BridgeError Frame :=
  t.fill w parameters.zipIdx 1 args (.ofParameters parameters)

/-!
## Back to the script
-/

mutual

/-- The script value for a native value that a call along a path left behind. -/
def toScript (t : TypeTable) (w : World) (p : Path) : NativeValue -> Value
  | .bool b => .bool b
  | .int n => .int n
  | .float x => .float x
  | .string text => .string text
  | .object none => .nil
  | .object (some r) => t.objectValue w (p.through r)
  | .cls none => .nil
  | .cls (some id) => t.classValue id
  | .array items => .array (toScriptAll t w p items)

def toScriptAll (t : TypeTable) (w : World) (p : Path) :
    List NativeValue -> List Value
  | [] => []
  | v :: rest => toScript t w p v :: toScriptAll t w p rest

end

end TypeTable
end ScriptBridge
