import ScriptBridge.Json.Scanner

/-!
# Reading JSON

Lexemes are put together with a stack of the arrays and objects that are still
open.  A finished value goes to the innermost of them; the one that goes to none
is the document.
-/

namespace ScriptBridge

/-- An array or an object that is still open, its last part first. -/
inductive OpenJson where
  | array (items : List Json)
  | object (members : List (JsonText × Json))
  /-- An object of which a name has been read, but not what it names. -/
  | member (members : List (JsonText × Json)) (name : JsonText)

inductive Assembly where
  | value (outer : List OpenJson)
  /-- The first item of an array, or its end. -/
  | firstItem (outer : List OpenJson)
  /-- The first name of an object, or its end. -/
  | firstName (outer : List OpenJson)
  | nextName (members : List (JsonText × Json)) (outer : List OpenJson)
  | colon (members : List (JsonText × Json)) (name : JsonText)
      (outer : List OpenJson)
  /-- A comma, or the end of the innermost array or object. -/
  | separator (inner : OpenJson) (outer : List OpenJson)
  /-- Nothing: the document is complete. -/
  | complete (document : Json)

namespace Assembly

/-- Give a finished value to the innermost open array or object. -/
def give (v : Json) : List OpenJson -> Option Assembly
  | [] => some (.complete v)
  | .array items :: outer => some (.separator (.array (v :: items)) outer)
  | .member members name :: outer =>
      some (.separator (.object ((name, v) :: members)) outer)
  | .object _ :: _ => none

def beginValue (outer : List OpenJson) : JsonLexeme -> Option Assembly
  | .null => give .null outer
  | .bool b => give (.bool b) outer
  | .number n => give (.number n) outer
  | .string text => give (.string text) outer
  | .openArray => some (.firstItem outer)
  | .openObject => some (.firstName outer)
  | .closeArray | .closeObject | .comma | .colon => none

def step : Assembly -> JsonLexeme -> Option Assembly
  | .value outer, l => beginValue outer l
  | .firstItem outer, .closeArray => give (.array []) outer
  | .firstItem outer, l => beginValue (.array [] :: outer) l
  | .firstName outer, .closeObject => give (.object []) outer
  | .firstName outer, .string name => some (.colon [] name outer)
  | .nextName members outer, .string name => some (.colon members name outer)
  | .colon members name outer, .colon =>
      some (.value (.member members name :: outer))
  | .separator (.array items) outer, .comma =>
      some (.value (.array items :: outer))
  | .separator (.array items) outer, .closeArray =>
      give (.array items.reverse) outer
  | .separator (.object members) outer, .comma => some (.nextName members outer)
  | .separator (.object members) outer, .closeObject =>
      give (.object members.reverse) outer
  | _, _ => none

def run : Assembly -> List JsonLexeme -> Option Assembly
  | a, [] => some a
  | a, l :: rest =>
      match a.step l with
      | none => none
      | some a' => run a' rest

end Assembly

namespace Json

def ofLexemes? (lexemes : List JsonLexeme) : Option Json :=
  match Assembly.run (.value []) lexemes with
  | some (.complete document) => some document
  | _ => none

def parse? (text : String) : Option Json :=
  (scanJson text).bind ofLexemes?

end Json

end ScriptBridge
