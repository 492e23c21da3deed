import ScriptBridge.Dispatch.Dispatcher
import ScriptBridge.Save.Format

/-!
# Computers

A computer of the simulation runs one script.  Between the steps of the script it
keeps the members the script has looked up, the global variables, and the wait.
A computer can be saved and loaded again; what it had looked up is not saved, and
is found again when it is needed.
-/

namespace ScriptBridge

structure Computer where
  dispatcher : Dispatcher
  globals : NameTable Value
  wait : Wait

inductive RestoreError where
  /-- The text is no snapshot. -/
  | unreadable
  | load (cause : LoadError)
  deriving DecidableEq

namespace Computer

def fresh : Computer :=
  ⟨.fresh, .empty, .idle⟩

instance : Inhabited Computer :=
  ⟨fresh⟩

/-!
## Globals
-/

def global? (c : Computer) (name : String) : Option Value :=
  c.globals.get? name

/-- Set a global; the value that it had before. -/
def setGlobal (c : Computer) (name : String) (v : Value) :
    Option Value × Computer :=
  (c.global? name, { c with globals := c.globals.put name v })

/-- Remove a global; the value that it had. -/
def removeGlobal (c : Computer) (name : String) : Option Value × Computer :=
  (c.global? name, { c with globals := c.globals.erase name })

/-!
## Waiting
-/

/-- Begin a wait; without a timeout of its own it has that of the settings, if there is one. -/
def beginWait (c : Computer) (settings : Settings) (now : UInt64)
    (timeout : Option UInt64) : Computer :=
  { c with wait := .begun now (timeout.or settings.defaultTimeout) }

def pollWait (c : Computer) (now : UInt64) : WaitPoll × Computer :=
  let (found, wait) := c.wait.poll now
  (found, { c with wait := wait })

def resolveWait (c : Computer) : Bool × Computer :=
  let (wasPending, wait) := c.wait.resolve
  (wasPending, { c with wait := wait })

def abandonWait (c : Computer) : Bool × Computer :=
  let (wasPending, wait) := c.wait.abandon
  (wasPending, { c with wait := wait })

/-!
## Saving and loading
-/

def save (c : Computer) : Snapshot :=
  .take c.globals c.wait

def load (types : TypeTable) (s : Snapshot) : Except LoadError Computer :=
  match s.loadGlobals types with
  | .error cause => .error cause
  | .ok globals => .ok ⟨.fresh, globals, s.tables.wait⟩

def loadText (types : TypeTable) (text : String) :
    Except RestoreError Computer :=
  match Snapshot.ofText? text with
  | none => .error .unreadable
  | some s =>
      match load types s with
      | .error cause => .error (.load cause)
      | .ok c => .ok c

end Computer

end ScriptBridge
