import ScriptBridge.Value

/-!
# Saved values

A saved value is a script value in which every handle is replaced by a token.  A
token names an exposed type and gives a position in one of the two tables that
are saved with the values: the paths to objects, and the classes.  The owner of a
member is saved as a plain reference to its class.
-/

namespace ScriptBridge

/-- What stands for a handle or a class in a saved value. -/
inductive Token where
  /-- A handle to an object, by the position of its path. -/
  | object (id : Nat) (typeName : String)
  /-- A handle to a class, by the position of the class. -/
  | cls (id : Nat) (typeName : String)
  /-- A class, by its position. -/
  | reference (id : Nat)
  deriving DecidableEq

/-- The position that a token gives. -/
def Token.id : Token -> Nat
  | .object id _ => id
  | .cls id _ => id
  | .reference id => id

inductive SavedKind where
  | library
  | reflected (declaring : Token)
  | classLibrary
  | introspection
  deriving DecidableEq

inductive SavedValue where
  | nil
  | bool (b : Bool)
  | int (n : Int64)
  | float (x : Double)
  | string (text : String)
  | array (items : List SavedValue)
  | handle (token : Token)
  | member (name : String) (kind : SavedKind) (owner : Token)
      (ownerTypeName : String)

instance : Inhabited SavedValue :=
  ⟨.nil⟩

end ScriptBridge
