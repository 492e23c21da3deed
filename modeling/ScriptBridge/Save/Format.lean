import ScriptBridge.Json.Fields
import ScriptBridge.Save.Snapshot

/-!
# The written form of a save

A snapshot is written as one JSON document.  References, paths, waits and tables
are records; a token is a record whose member `kind` says which token it is; a
value is a pair of its type and its content, except that nil has no content.

Reading is more generous than writing.  Records may be arrays, a token may be an
array that begins with its kind, a value may be an array of its two parts, and
the parts may come in any order.  A content that comes before its type is kept
until the type is known.
-/

namespace ScriptBridge

/-!
## References, paths and waits
-/

def ObjectRef.toJson (r : ObjectRef) : Json :=
  .record
    [("index", .ofNat r.index.toNat),
      ("generation", .ofNat r.generation.toNat)]

def ObjectRef.ofJson? (levels : Nat) (j : Json) : Option ObjectRef :=
  match j.record? ["index", "generation"] 2 levels with
  | some (_, [some index, some generation]) => do
      some ⟨← index.halfWord?, ← generation.halfWord?⟩
  | _ => none

def Path.toJson (p : Path) : Json :=
  .record
    [("root", p.root.toJson), ("hops", .array (p.hops.map ObjectRef.toJson))]

def Path.ofJson? (levels : Nat) (j : Json) : Option Path :=
  match j.record? ["root", "hops"] 2 levels with
  | some (inner, [some root, some hops]) => do
      some ⟨← ObjectRef.ofJson? inner root,
        ← hops.list? inner ObjectRef.ofJson?⟩
  | _ => none

def ClassId.toJson (c : ClassId) : Json :=
  .ofNat c.word.toNat

def ClassId.ofJson? (j : Json) : Option ClassId :=
  j.word?.map ClassId.mk

def Wait.toJson (w : Wait) : Json :=
  .record
    [("pending", .bool w.pending), ("startedAtMs", .ofNat w.startedAt.toNat),
      ("timeoutMs", .ofOption (fun t => .ofNat t.toNat) w.timeout)]

/-- A wait; an object may leave its timeout out. -/
def Wait.ofJson? (levels : Nat) (j : Json) : Option Wait :=
  match j.record? ["pending", "startedAtMs", "timeoutMs"] 3 levels with
  | some (_, [some pending, some startedAt, timeout]) => do
      some ⟨← pending.bool?, ← startedAt.word?,
        ← (timeout.getD .null).optional? Json.word?⟩
  | _ => none

/-!
## Kinds

A kind is given by its name.  In a document that was kept it may also be given by
its position among the kinds.
-/

/-- Whether a document is read as it comes or was kept before it is read. -/
inductive Reading where
  | direct
  | kept
  deriving DecidableEq

def kind? (reading : Reading) (kinds : List String) (j : Json) :
    Option String :=
  match j with
  | .string (some name) => if kinds.contains name then some name else none
  | .number _ =>
      match reading, j.natural? UInt64.size with
      | .kept, some position => kinds[position]?
      | _, _ => none
  | _ => none

/-- The member `kind` of an object, and the other members. -/
def splitKind? (members : List (JsonText × Json)) :
    Option (Json × List (JsonText × Json)) :=
  match members.partition (fun m => m.1 = some "kind") with
  | ([m], others) => some (m.2, others)
  | _ => none

/--
The kind of a document and its fields by name.  The fields are kept until the
kind is known; which names they have depends on it.
-/
def kindAndFields? (reading : Reading) (kinds : List String)
    (fieldNames : String -> List String) (levels : Nat) (j : Json) :
    Option (String × List (Option Json)) :=
  match levels, j with
  | inner + 1, .object members =>
      match splitKind? members with
      | some (kind, others) =>
          if Json.namesReadable others && others.all (fun m => m.2.keepable inner)
          then do
            let name ← kind? reading kinds kind
            some (name, ← Json.members? others (fieldNames name))
          else none
      | none => none
  | inner + 1, .array (kind :: items) =>
      if items.all (Json.keepable inner) then do
        let name ← kind? reading kinds kind
        if items.length = (fieldNames name).length then
          some (name, items.map some)
        else none
      else none
  | _, _ => none

/-!
## Tokens
-/

namespace Token

def toJson : Token -> Json
  | .object id typeName =>
      .record
        [("kind", .ofText "instance"), ("id", .ofNat id),
          ("exposedTypeName", .ofText typeName)]
  | .cls id typeName =>
      .record
        [("kind", .ofText "classInstance"), ("id", .ofNat id),
          ("exposedTypeName", .ofText typeName)]
  | .reference id =>
      .record [("kind", .ofText "reference"), ("id", .ofNat id)]

def kinds : List String :=
  ["instance", "classInstance", "reference"]

def fieldNames (kind : String) : List String :=
  if kind = "reference" then ["id"] else ["id", "exposedTypeName"]

def ofJson? (reading : Reading) (levels : Nat) (j : Json) : Option Token :=
  match kindAndFields? reading kinds fieldNames levels j with
  | some (kind, [some id, some typeName]) => do
      let id ← id.natural? UInt64.size
      let typeName ← typeName.text?
      if kind = "instance" then some (.object id typeName)
      else some (.cls id typeName)
  | some (_, [some id]) => (id.natural? UInt64.size).map .reference
  | _ => none

end Token

namespace SavedKind

def toJson : SavedKind -> Json
  | .library => .record [("kind", .ofText "library")]
  | .reflected declaring =>
      .record [("kind", .ofText "reflected"), ("declaring", declaring.toJson)]
  | .classLibrary => .record [("kind", .ofText "classLibrary")]
  | .introspection => .record [("kind", .ofText "introspection")]

def kinds : List String :=
  ["library", "reflected", "classLibrary", "introspection"]

def fieldNames (kind : String) : List String :=
  if kind = "reflected" then ["declaring"] else []

def ofJson? (reading : Reading) (levels : Nat) (j : Json) :
    Option SavedKind :=
  match kindAndFields? reading kinds fieldNames levels j with
  | some (_, [some declaring]) =>
      (Token.ofJson? .kept (levels - 1) declaring).map .reflected
  | some (kind, []) =>
      if kind = "library" then some .library
      else if kind = "classLibrary" then some .classLibrary
      else some .introspection
  | _ => none

end SavedKind

/-!
## Values
-/

def typed (type : String) (content : Json) : Json :=
  .record [("type", .ofText type), ("value", content)]

namespace SavedValue

mutual

def toJson : SavedValue -> Json
  | .nil => .record [("type", .ofText "nil")]
  | .bool b => typed "bool" (.bool b)
  | .int n => typed "int" (.ofInteger n)
  | .float x => typed "float" (.ofDouble x)
  | .string text => typed "string" (.ofText text)
  | .array items => typed "array" (.array (allToJson items))
  | .handle token => typed "handle" token.toJson
  | .member name kind owner ownerTypeName =>
      typed "member"
        (.record
          [("name", .ofText name), ("kind", kind.toJson),
            ("owner", owner.toJson), ("ownerTypeName", .ofText ownerTypeName)])

def allToJson : List SavedValue -> List Json
  | [] => []
  | v :: rest => toJson v :: allToJson rest

end

def types : List String :=
  ["nil", "bool", "int", "float", "string", "array", "handle", "member"]

/--
The type of a value that is an object: a name, or an object with the name and
null.  In a document that was kept an empty object may take the place of null.
-/
def type? (reading : Reading) (levels : Nat) (j : Json) : Option String :=
  match reading, levels, j with
  | _, _, .string name => name
  | .direct, _ + 1, .object [(name, .null)] => name
  | .kept, _, .object [(name, .null)] => name
  | .kept, _, .object [(name, .object [])] => name
  | _, _, _ => none

/-- The content of a member, which must be an object. -/
def memberContent? (reading : Reading) (levels : Nat) (j : Json) :
    Option SavedValue :=
  match j with
  | .object _ =>
      match j.record? ["name", "kind", "owner", "ownerTypeName"] 4 levels with
      | some (inner, [some name, some kind, some owner, some typeName]) => do
          some (.member (← name.text?) (← SavedKind.ofJson? reading inner kind)
            (← Token.ofJson? reading inner owner) (← typeName.text?))
      | _ => none
  | _ => none

/-- The value of a type with a content; items of arrays are read by the function given. -/
def content? (item : Json -> Option SavedValue) (reading : Reading)
    (levels : Nat) (type : String) (content : Json) : Option SavedValue :=
  if type = "nil" then if content.isNull then some .nil else none
  else if type = "bool" then content.bool?.map .bool
  else if type = "int" then content.integer?.map .int
  else if type = "float" then content.double?.map .float
  else if type = "string" then content.text?.map .string
  else if type = "array" then
    match content.items? levels with
    | some (_, items) => (items.mapM item).map .array
    | none => none
  else if type = "handle" then
    (Token.ofJson? reading levels content).map .handle
  else if type = "member" then memberContent? reading levels content
  else none

/-- The parts of a value among the members of an object: true marks the type. -/
def parts (members : List (JsonText × Json)) : List (Bool × Json) :=
  members.filterMap (fun m =>
    if m.1 = some "type" then some (true, m.2)
    else if m.1 = some "value" then some (false, m.2)
    else none)

/--
Read a value within a number of levels.  In an array of its two parts the type is
given as a kind is.
-/
def ofJson? (reading : Reading) (levels : Nat) (j : Json) :
    Option SavedValue :=
  match levels with
  | 0 => none
  | inner + 1 =>
      let item (reading : Reading) : Json -> Option SavedValue :=
        match inner with
        | 0 => fun _ => none
        | deeper + 1 => ofJson? reading deeper
      match j with
      | .array [type, content] => do
          content? (item reading) reading inner (← kind? reading types type)
            content
      | .object members =>
          if Json.namesReadable members then
            match parts members with
            | [(true, type)] => do
                if (← type? reading inner type) = "nil" then some .nil else none
            | [(true, type), (false, content)] => do
                content? (item reading) reading inner
                  (← type? reading inner type) content
            | [(false, content), (true, type)] =>
                if content.keepable inner then do
                  content? (item .kept) .kept inner
                    (← type? reading inner type) content
                else none
            | _ => none
          else none
      | _ => none

end SavedValue

/-!
## Tables and snapshots
-/

def SaveTables.toJson (t : SaveTables) : Json :=
  .record
    [("traces", .array (t.paths.map Path.toJson)),
      ("references", .array (t.classes.map ClassId.toJson)),
      ("wait", t.wait.toJson)]

def SaveTables.ofJson? (levels : Nat) (j : Json) : Option SaveTables :=
  match j.record? ["traces", "references", "wait"] 3 levels with
  | some (inner, [some paths, some classes, some wait]) => do
      some ⟨← paths.list? inner Path.ofJson?,
        ← classes.list? inner (fun _ => ClassId.ofJson?),
        ← Wait.ofJson? inner wait⟩
  | _ => none

namespace Snapshot

/-- The globals of a document; of two under one name the later one counts. -/
def globals? (levels : Nat) (j : Json) : Option (NameTable SavedValue) :=
  match levels, j with
  | inner + 1, .object members => do
      let entries ← members.mapM (fun m => do
        some (← m.1, ← SavedValue.ofJson? .direct inner m.2))
      some (.ofList entries)
  | _, _ => none

def toJson (s : Snapshot) : Json :=
  .record
    [("globals",
        .object (s.globals.entries.map (fun g => (some g.1, g.2.toJson)))),
      ("storage", s.tables.toJson)]

def ofJson? (levels : Nat) (j : Json) : Option Snapshot :=
  match j.record? ["globals", "storage"] 2 levels with
  | some (inner, [some globals, some tables]) => do
      some ⟨← globals? inner globals, ← SaveTables.ofJson? inner tables⟩
  | _ => none

end Snapshot

/-!
## Texts

The text of a document, and the document that a text holds.
-/

def Snapshot.toText (s : Snapshot) : String :=
  s.toJson.print

def Snapshot.ofText? (text : String) : Option Snapshot :=
  (Json.parse? text).bind (Snapshot.ofJson? nestingLimit)

def SaveTables.toText (t : SaveTables) : String :=
  t.toJson.print

def SaveTables.ofText? (text : String) : Option SaveTables :=
  (Json.parse? text).bind (SaveTables.ofJson? nestingLimit)

def SavedValue.toText (v : SavedValue) : String :=
  v.toJson.print

def SavedValue.ofText? (text : String) : Option SavedValue :=
  (Json.parse? text).bind (SavedValue.ofJson? .direct nestingLimit)

def Token.toText (t : Token) : String :=
  t.toJson.print

def Token.ofText? (text : String) : Option Token :=
  (Json.parse? text).bind (Token.ofJson? .direct nestingLimit)

def Wait.toText (w : Wait) : String :=
  w.toJson.print

def Wait.ofText? (text : String) : Option Wait :=
  (Json.parse? text).bind (Wait.ofJson? nestingLimit)

end ScriptBridge
