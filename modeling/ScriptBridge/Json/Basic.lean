/-!
# JSON documents

A document is kept as it is written, before any question about its meaning: a
number is its digits, an object is the list of its members, repeated names
included, and nothing bounds the nesting.  Whether a number fits, whether a name
may be repeated and how deep a document may go is decided where it is read as
something.

Text is what its escapes spell.  Escapes can spell half of a surrogate pair, for
which there is no character; such text is marked as unreadable.
-/

namespace ScriptBridge

/-- The text of a string, or nothing if half of a surrogate pair stands alone in it. -/
abbrev JsonText : Type :=
  Option String

inductive ExponentSign where
  | none
  | plus
  | minus
  deriving DecidableEq

structure JsonNumber where
  negative : Bool
  whole : List Char
  /-- Empty if there is no point. -/
  fraction : List Char
  exponent : Option (ExponentSign × List Char)
  deriving DecidableEq

inductive Json where
  | null
  | bool (b : Bool)
  | number (n : JsonNumber)
  | string (text : JsonText)
  | array (items : List Json)
  | object (members : List (JsonText × Json))

instance : Inhabited Json :=
  ⟨.null⟩

/-!
## Lexemes
-/

/-- The smallest pieces of a document that mean something. -/
inductive JsonLexeme where
  | openObject
  | closeObject
  | openArray
  | closeArray
  | comma
  | colon
  | null
  | bool (b : Bool)
  | number (n : JsonNumber)
  | string (text : JsonText)

namespace Json

mutual

def lexemes : Json -> List JsonLexeme
  | .null => [.null]
  | .bool b => [.bool b]
  | .number n => [.number n]
  | .string text => [.string text]
  | .array items => .openArray :: itemLexemes items ++ [.closeArray]
  | .object members => .openObject :: memberLexemes members ++ [.closeObject]

def itemLexemes : List Json -> List JsonLexeme
  | [] => []
  | [item] => lexemes item
  | item :: next :: rest =>
      lexemes item ++ .comma :: itemLexemes (next :: rest)

def memberLexemes : List (JsonText × Json) -> List JsonLexeme
  | [] => []
  | [(name, item)] => .string name :: .colon :: lexemes item
  | (name, item) :: next :: rest =>
      .string name :: .colon :: lexemes item ++
        .comma :: memberLexemes (next :: rest)

end

mutual

/-- How many arrays and objects a document nests. -/
def depth : Json -> Nat
  | .array items => itemDepth items + 1
  | .object members => memberDepth members + 1
  | _ => 0

def itemDepth : List Json -> Nat
  | [] => 0
  | item :: rest => max (depth item) (itemDepth rest)

def memberDepth : List (JsonText × Json) -> Nat
  | [] => 0
  | (_, item) :: rest => max (depth item) (memberDepth rest)

end

end Json

end ScriptBridge
