import ScriptBridge.Registry.Types
import ScriptBridge.Save.Value
import ScriptBridge.Wait

/-!
# The tables of a save

While values are saved, the paths and classes of their handles are collected in
two tables, each object and each class once.  Of two paths to the same object the
first one is kept.  A position, once given, keeps its entry for the rest of the
save, and positions mean something only together with these tables.

Loading makes fresh handles, bound by the exposed name.  It does not ask whether
an object is still alive; a handle to one that is gone fails when it is used.
-/

namespace ScriptBridge

inductive LoadError where
  | unknownTrace (id : Nat)
  | unknownReference (id : Nat)
  /-- A token of another kind stands where a plain reference is wanted. -/
  | notPlain (id : Nat)
  | unknownType (name : String)
  deriving DecidableEq

def LoadError.message : LoadError -> String
  | .unknownTrace id => s!"unknown trace id {id}"
  | .unknownReference id => s!"unknown reference id {id}"
  | .notPlain id => s!"token {id} is not a plain reference"
  | .unknownType name => "unknown exposed type '" ++ name ++ "'"

structure SaveTables where
  paths : List Path
  classes : List ClassId
  wait : Wait
  deriving DecidableEq

namespace SaveTables

def empty : SaveTables :=
  ⟨[], [], .idle⟩

instance : Inhabited SaveTables :=
  ⟨empty⟩

/-!
## Positions
-/

/-- The position of a path to an object, a new one unless the object has one. -/
def addPath (t : SaveTables) (p : Path) : Nat × SaveTables :=
  match t.paths.findIdx? (fun q => q.sameTarget p) with
  | some id => (id, t)
  | none => (t.paths.length, { t with paths := t.paths ++ [p] })

/-- The position of a class, a new one unless it has one. -/
def addClass (t : SaveTables) (c : ClassId) : Nat × SaveTables :=
  match t.classes.findIdx? (fun d => d = c) with
  | some id => (id, t)
  | none => (t.classes.length, { t with classes := t.classes ++ [c] })

def path (t : SaveTables) (id : Nat) : Except LoadError Path :=
  match t.paths[id]? with
  | some p => .ok p
  | none => .error (.unknownTrace id)

def cls (t : SaveTables) (id : Nat) : Except LoadError ClassId :=
  match t.classes[id]? with
  | some c => .ok c
  | none => .error (.unknownReference id)

/-!
## Saving
-/

def saveHandle (t : SaveTables) : Handle -> Token × SaveTables
  | .object h =>
      let (id, t') := t.addPath h.path
      (.object id h.exposed.name, t')
  | .cls h =>
      let (id, t') := t.addClass h.cls
      (.cls id h.exposed.name, t')

def saveClass (t : SaveTables) (c : ClassId) : Token × SaveTables :=
  let (id, t') := t.addClass c
  (.reference id, t')

def saveKind (t : SaveTables) : MemberKind -> SavedKind × SaveTables
  | .library => (.library, t)
  | .reflected declaring =>
      let (token, t') := t.saveClass declaring
      (.reflected token, t')
  | .classLibrary => (.classLibrary, t)
  | .introspection => (.introspection, t)

def saveMember (t : SaveTables) (m : Member) : SavedValue × SaveTables :=
  let (kind, t') := t.saveKind m.kind
  let (owner, t'') := t'.saveClass m.owner.cls
  (.member m.name kind owner m.owner.name, t'')

mutual

/-- The saved form of a value; its handles go into the tables from left to right. -/
def save (t : SaveTables) : Value -> SavedValue × SaveTables
  | .nil => (.nil, t)
  | .bool b => (.bool b, t)
  | .int n => (.int n, t)
  | .float x => (.float x, t)
  | .string text => (.string text, t)
  | .array items =>
      let (saved, t') := saveAll t items
      (.array saved, t')
  | .handle h =>
      let (token, t') := t.saveHandle h
      (.handle token, t')
  | .member m => t.saveMember m

def saveAll (t : SaveTables) :
    List Value -> List SavedValue × SaveTables
  | [] => ([], t)
  | v :: rest =>
      let (saved, t') := save t v
      let (more, t'') := saveAll t' rest
      (saved :: more, t'')

end

/-!
## Loading
-/

def exposedNamed (types : TypeTable) (name : String) :
    Except LoadError Exposed :=
  match types.named? name with
  | some binding => .ok binding.exposed
  | none => .error (.unknownType name)

/-- A handle for a token.  A plain reference becomes a handle to its class. -/
def loadHandle (t : SaveTables) (types : TypeTable) :
    Token -> Except LoadError Handle
  | .object id typeName => do
      let p ← t.path id
      let exposed ← exposedNamed types typeName
      .ok (.object ⟨p, exposed⟩)
  | .cls id typeName => do
      let c ← t.cls id
      let exposed ← exposedNamed types typeName
      .ok (.cls ⟨c, exposed⟩)
  | .reference id => do
      let c ← t.cls id
      match types.classHandle? c with
      | some h => .ok (.cls h)
      | none => .error (.unknownReference id)

def loadClass (t : SaveTables) : Token -> Except LoadError ClassId
  | .reference id => t.cls id
  | .object id _ => .error (.notPlain id)
  | .cls id _ => .error (.notPlain id)

def loadKind (t : SaveTables) : SavedKind -> Except LoadError MemberKind
  | .library => .ok .library
  | .reflected declaring => (t.loadClass declaring).map .reflected
  | .classLibrary => .ok .classLibrary
  | .introspection => .ok .introspection

/-- A member; its type name must still be bound to the class of its owner. -/
def loadMember (t : SaveTables) (types : TypeTable) (name : String)
    (kind : SavedKind) (owner : Token) (ownerTypeName : String) :
    Except LoadError Member := do
  let c ← t.loadClass owner
  let kind ← t.loadKind kind
  let exposed ← exposedNamed types ownerTypeName
  if exposed.cls = c then .ok ⟨name, exposed, kind⟩
  else .error (.unknownType ownerTypeName)

mutual

/-- The value that a saved value stands for. -/
def load (t : SaveTables) (types : TypeTable) :
    SavedValue -> Except LoadError Value
  | .nil => .ok .nil
  | .bool b => .ok (.bool b)
  | .int n => .ok (.int n)
  | .float x => .ok (.float x)
  | .string text => .ok (.string text)
  | .array items => (loadAll t types items).map .array
  | .handle token => (t.loadHandle types token).map .handle
  | .member name kind owner ownerTypeName =>
      (t.loadMember types name kind owner ownerTypeName).map .member

def loadAll (t : SaveTables) (types : TypeTable) :
    List SavedValue -> Except LoadError (List Value)
  | [] => .ok []
  | saved :: rest => do
      let v ← load t types saved
      let more ← loadAll t types rest
      .ok (v :: more)

end

end SaveTables

end ScriptBridge
