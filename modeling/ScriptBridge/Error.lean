/-!
# What can go wrong in a script

A native error is raised by the body of a native function or by the frame of its
call.  A bridge error is what a script sees: every failure to resolve a member,
to convert its arguments, or to carry it out.  Errors are kept as causes; the
wording of each stands in one place.
-/

namespace ScriptBridge

inductive NativeError where
  | indexOutOfBounds (index count : Nat)
  | wrongType (index : Nat) (expected actual : String)
  | noReturn
  | failed (text : String)
  deriving DecidableEq

def NativeError.message : NativeError -> String
  | .indexOutOfBounds index count =>
      s!"parameter index {index} out of bounds (count: {count})"
  | .wrongType index expected actual =>
      s!"parameter {index} is {actual}, not {expected}"
  | .noReturn => "function has no return parameter"
  | .failed text => text

inductive BridgeError where
  /-- An argument cannot become what the parameter asks for; positions count from one. -/
  | argumentMismatch (position : Nat) (expected actual : String)
  | memberNotFound (exposed name : String)
  /-- A network property was asked of an object outside every network. -/
  | notNetworked
  /-- The addressed object is gone. -/
  | instanceInvalid
  | readOnly (name : String)
  | unableToCall (name : String)
  /-- The type of the receiver may not call the member. -/
  | notAllowed (name : String)
  | invalidReceiver (expected actual : String)
  | native (cause : NativeError)
  deriving DecidableEq

def BridgeError.message : BridgeError -> String
  | .argumentMismatch position expected actual =>
      s!"bad argument #{position}: expected {expected}, got {actual}"
  | .memberNotFound exposed name =>
      exposed ++ " doesn't have member '" ++ name ++ "'"
  | .notNetworked => "Instance is not a network component"
  | .instanceInvalid => "Instance is invalid"
  | .readOnly name => "property '" ++ name ++ "' is read only"
  | .unableToCall name => "Unable to call function '" ++ name ++ "'"
  | .notAllowed name =>
      "Instance type is not allowed to call function '" ++ name ++ "'"
  | .invalidReceiver expected actual =>
      s!"expected {expected} as receiver, got {actual}"
  | .native cause => cause.message

end ScriptBridge
