import ScriptBridge.Dispatch.Call

/-!
# Handles among other values

A handle equals another value only if that is a handle to the same object or
class, and it is ordered only against handles of its own kind.  The text of an
object is its exposed type, and on a network also its quoted nickname, if it has
one, and its identifier.  A class may have its own function for its text.
-/

namespace ScriptBridge

namespace Handle

def equalsValue (h : Handle) : Value -> Bool
  | .handle other => h.equals other
  | _ => false

def lessThanValue (h : Handle) : Value -> Bool
  | .handle other => h.lessThan other
  | _ => false

def lessEqualValue (h : Handle) : Value -> Bool
  | .handle other => h.lessEqual other
  | _ => false

end Handle

namespace Bridge

/-- The class function that gives the text of a class. -/
def textFunction : String := "__tostring"

def displayObject (b : Bridge) (h : InstanceHandle) :
    Except BridgeError String :=
  match b.object h with
  | .error cause => .error cause
  | .ok o =>
      match o.network with
      | none => .ok h.exposed.name
      | some node =>
          let nick :=
            if node.nick.isEmpty then "" else " \"" ++ node.nick ++ "\""
          .ok (h.exposed.name ++ nick ++ " " ++ node.id)

/-- The text of a class, by its own function if it has one, else its exposed name. -/
def displayClass (b : Bridge) (h : ClassHandle) :
    Except BridgeError String × Bridge :=
  match b.registry.classFunction? h.cls textFunction with
  | none => (.ok h.exposed.name, b)
  | some body =>
      match b.runBody (body ⟨b.types, h.cls⟩ []) with
      | (.error cause, b') => (.error cause, b')
      | (.ok results, b') =>
          match results.headD .nil with
          | .string text => (.ok text, b')
          | other => (.error (.argumentMismatch 1 "string" other.typeName), b')

def display (b : Bridge) : Handle -> Except BridgeError String × Bridge
  | .object h => (b.displayObject h, b)
  | .cls h => b.displayClass h

end Bridge
end ScriptBridge
