import ScriptBridge.Json.Number
import ScriptBridge.Json.Printer
import ScriptBridge.Json.Reader

/-!
# Reading documents as data

Data is read from a document within a bound on the nesting: every array or object
that is entered uses up one level.  What is ignored is not entered, so a member
that nobody asks for may be anything.

A record is an object with the named members, in any order and among others, but
none of them twice; it may also be an array of the members in order.
-/

namespace ScriptBridge

/-- How many arrays and objects may lie inside each other. -/
def nestingLimit : Nat := 127

namespace Json

/-!
## Scalars
-/

def numeral? : Json -> Option Numeral
  | .number n => n.numeral?
  | _ => none

def natural? (bound : Nat) (j : Json) : Option Nat :=
  match j.numeral? with
  | some (.natural n) => if n < bound then some n else none
  | _ => none

def word? (j : Json) : Option UInt64 :=
  (j.natural? UInt64.size).map UInt64.ofNat

def halfWord? (j : Json) : Option UInt32 :=
  (j.natural? UInt32.size).map UInt32.ofNat

def integer? (j : Json) : Option Int64 :=
  match j.numeral? with
  | some (.natural n) =>
      if n < 0x8000000000000000 then some (Int64.ofNat n) else none
  | some (.negative n) => some (Int64.ofInt (-n))
  | _ => none

/-- A number of any kind, as the nearest double. -/
def double? (j : Json) : Option Double :=
  match j.numeral? with
  | some (.natural n) => some (.ofInt n)
  | some (.negative n) => some (.ofInt (-n))
  | some (.double x) => some x
  | none => none

def text? : Json -> Option String
  | .string text => text
  | _ => none

def isNull : Json -> Bool
  | .null => true
  | _ => false

def bool? : Json -> Option Bool
  | .bool b => some b
  | _ => none

def optional? {Data : Type} (read : Json -> Option Data) :
    Json -> Option (Option Data)
  | .null => some none
  | j => (read j).map some

/-!
## Arrays and objects
-/

/-- The items of an array, and the levels that are left inside it. -/
def items? : Nat -> Json -> Option (Nat × List Json)
  | levels + 1, .array items => some (levels, items)
  | _, _ => none

def list? {Data : Type} (levels : Nat) (read : Nat -> Json -> Option Data)
    (j : Json) : Option (List Data) :=
  match j.items? levels with
  | some (inner, items) => items.mapM (read inner)
  | none => none

def namesReadable (members : List (JsonText × Json)) : Bool :=
  members.all (fun m => m.1.isSome)

/-- The member of a name, if there is one; a repeated name is refused. -/
def member? (members : List (JsonText × Json)) (name : String) :
    Option (Option Json) :=
  match members.filter (fun m => m.1 = some name) with
  | [] => some none
  | [m] => some (some m.2)
  | _ => none

/-- The members of given names, provided that all names can be read. -/
def members? (members : List (JsonText × Json)) (names : List String) :
    Option (List (Option Json)) :=
  if namesReadable members then names.mapM (member? members) else none

/--
The members of a record, and the levels that are left inside it.  An array must
have at least a number of items and not more than there are names.
-/
def record? (names : List String) (least : Nat) :
    Nat -> Json -> Option (Nat × List (Option Json))
  | levels + 1, .object members =>
      (members? members names).map (fun found => (levels, found))
  | levels + 1, .array items =>
      if least ≤ items.length && items.length ≤ names.length then
        let missing := List.replicate (names.length - items.length) none
        some (levels, items.map some ++ missing)
      else none
  | _, _ => none

/-!
## Documents kept for later

Where a member must be known before another can be read, the other is read
without knowing what it is for.  All its numbers and texts must then be readable
and all its levels are counted.
-/

mutual

def readable : Json -> Bool
  | .null => true
  | .bool _ => true
  | .number n => n.numeral?.isSome
  | .string text => text.isSome
  | .array items => itemsReadable items
  | .object members => membersReadable members

def itemsReadable : List Json -> Bool
  | [] => true
  | item :: rest => readable item && itemsReadable rest

def membersReadable : List (JsonText × Json) -> Bool
  | [] => true
  | (name, item) :: rest =>
      name.isSome && readable item && membersReadable rest

end

/-- True if a document can be kept within a number of levels. -/
def keepable (levels : Nat) (j : Json) : Bool :=
  j.readable && j.depth ≤ levels

/-!
## Writing
-/

def ofNat (n : Nat) : Json :=
  .number (.ofNat n)

def ofInteger (n : Int64) : Json :=
  .number (.ofInt n.toInt)

/-- A double; one that is not finite has no written form and becomes null. -/
def ofDouble (x : Double) : Json :=
  if x.isFinite then .number (.ofDouble x) else .null

def ofText (text : String) : Json :=
  .string (some text)

def ofOption {Data : Type} (write : Data -> Json) : Option Data -> Json
  | some data => write data
  | none => .null

def record (members : List (String × Json)) : Json :=
  .object (members.map (fun m => (some m.1, m.2)))

end Json

end ScriptBridge
