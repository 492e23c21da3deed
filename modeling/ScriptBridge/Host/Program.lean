import ScriptBridge.Conversion
import ScriptBridge.Registry.Draft

/-!
# Host programs

A simulation can describe the bodies of its functions as data: lists of
instructions that are run in order until one of them fails.  Each kind of body
has its own instructions.  Programs of registered functions build up a list of
results; programs of native functions read and write the frame of the call.
-/

namespace ScriptBridge

/-- A sort of objects, under the name that errors give it. -/
structure ObjectSort where
  name : String
  /-- Whether the objects of the sort take part in networks. -/
  networked : Bool
  deriving DecidableEq

def ObjectSort.suits (s : ObjectSort) (o : NativeObject) : Bool :=
  o.network.isSome = s.networked

def intValue (n : Nat) : Value :=
  .int (Int64.ofNat n)

/-!
## Functions and properties of objects
-/

inductive MemberStep where
  | push (v : Value)
  /-- An argument, read as data of a host type and written back. -/
  | argument (index : Nat) (type : HostType)
  | arguments
  | argumentCount
  /-- The references along the path of the receiver, as text. -/
  | trace
  /-- The value for an object reached from the receiver. -/
  | reach (r : ObjectRef)
  | className
  | typeCount
  | objectCount
  | getField (name : String) (sort : ObjectSort)
  | setField (name : String) (sort : ObjectSort)
  | destroy (r : ObjectRef)
  | fail (text : String)

namespace MemberStep

def refText (r : ObjectRef) : Value :=
  .string (toString r.index.toNat ++ ":" ++ toString r.generation.toNat)

def run (c : MemberContext) (args : List Value) :
    MemberStep -> HostAttempt (List Value)
  | .push v => pure [v]
  | .argument index type =>
      match type.readArgument args index with
      | .ok data => pure [type.toValue data]
      | .error cause => throw cause
  | .arguments => pure args
  | .argumentCount => pure [intValue args.length]
  | .trace => pure ((c.path.root :: c.path.hops).map refText)
  | .reach r => do
      let v ← c.reached r
      pure [v]
  | .className => do
      let (_, object) ← c.target
      pure [.string object.cls.text]
  | .typeCount => pure [intValue c.types.count]
  | .objectCount => do
      let count ← askWorld .population
      pure [intValue count]
  | .getField name sort => do
      let (_, object) ← c.targetThat sort.name sort.suits
      pure [object.field name]
  | .setField name sort => do
      let (id, _) ← c.targetThat sort.name sort.suits
      askWorld (.change id (.setField name (args.headD .nil)))
      pure []
  | .destroy r => do
      let destroyed ← askWorld (.destroy r)
      pure [.bool destroyed]
  | .fail text => throw (.native (.failed text))

def runAll (c : MemberContext) (args : List Value) :
    List MemberStep -> HostAttempt (List Value)
  | [] => pure []
  | step :: rest => do
      let results ← step.run c args
      let more ← runAll c args rest
      pure (results ++ more)

def function (steps : List MemberStep) : FunctionBody :=
  fun c args => runAll c args steps

def getter (steps : List MemberStep) : MemberContext -> HostAttempt Value :=
  fun c => do
    let results ← runAll c [] steps
    pure (results.headD .nil)

/-- A setter has the assigned value as its argument and hands back nothing. -/
def setter (steps : List MemberStep) :
    MemberContext -> Value -> HostAttempt Unit :=
  fun c v => do
    let _ ← runAll c [v] steps
    pure ()

/-- A property, read only without steps for its setter. -/
def property (get : List MemberStep) (set : Option (List MemberStep)) :
    Property :=
  ⟨getter get, set.map setter⟩

end MemberStep

/-!
## Functions of classes
-/

inductive ClassStep where
  | push (v : Value)
  | argument (index : Nat) (type : HostType)
  | arguments
  | argumentCount
  /-- The class that the function was called on, as text. -/
  | className
  | itself
  | reach (id : ClassId)
  | typeCount
  | fail (text : String)

namespace ClassStep

def run (c : ClassContext) (args : List Value) :
    ClassStep -> HostAttempt (List Value)
  | .push v => pure [v]
  | .argument index type =>
      match type.readArgument args index with
      | .ok data => pure [type.toValue data]
      | .error cause => throw cause
  | .arguments => pure args
  | .argumentCount => pure [intValue args.length]
  | .className => pure [.string c.cls.text]
  | .itself => pure [c.types.classValue c.cls]
  | .reach id => pure [c.types.classValue id]
  | .typeCount => pure [intValue c.types.count]
  | .fail text => throw (.native (.failed text))

def runAll (c : ClassContext) (args : List Value) :
    List ClassStep -> HostAttempt (List Value)
  | [] => pure []
  | step :: rest => do
      let results ← step.run c args
      let more ← runAll c args rest
      pure (results ++ more)

def function (steps : List ClassStep) : ClassFunctionBody :=
  fun c args => runAll c args steps

end ClassStep

/-!
## Native functions
-/

inductive FramePlace where
  | slot (index : Nat)
  /-- The slot that carries the result. -/
  | result

inductive NativeStep where
  | put (place : FramePlace) (v : NativeValue)
  /-- Read a slot, if wanted as a value of a kind, and write the value elsewhere. -/
  | copy (index : Nat) (place : FramePlace) (kind : Option NativeKind)
  /-- Count a call of the object and write the count. -/
  | calls (place : FramePlace)
  | count
  | className (place : FramePlace)
  | width (place : FramePlace)
  | destroy (r : ObjectRef)
  | fail (text : String)

namespace NativeStep

abbrev Attempt (Result : Type) : Type :=
  ExceptT NativeError (Interaction NativeOp NativeOp.Answer) Result

def ask (op : NativeOp) : Attempt op.Answer :=
  ExceptT.lift (.request op : NativeAction op.Answer)

def write (place : FramePlace) (v : NativeValue) : Attempt Unit := do
  let outcome ←
    match place with
    | .slot index => ask (.set index v)
    | .result => ask (.setReturn v)
  match outcome with
  | .ok () => pure ()
  | .error cause => throw cause

def readSlot (index : Nat) (kind : Option NativeKind) :
    Attempt NativeValue := do
  let outcome ←
    match kind with
    | some kind => ask (.getAs kind index)
    | none => ask (.get index)
  match outcome with
  | .ok v => pure v
  | .error cause => throw cause

def object (id : ObjectId) : Attempt NativeObject := do
  match ← ask (.world (.read id)) with
  | some object => pure object
  | none => throw (.failed "")

def run (id : ObjectId) : NativeStep -> Attempt Unit
  | .put place v => write place v
  | .copy index place kind => do
      let v ← readSlot index kind
      write place v
  | .calls place => do
      ask (.world (.change id .countCall))
      let object ← object id
      write place (.int (Int64.ofNat object.calls))
  | .count => do
      ask (.world (.change id .countCall))
  | .className place => do
      let object ← object id
      write place (.string object.cls.text)
  | .width place => do
      let width ← ask .width
      write place (.int (Int64.ofNat width))
  | .destroy r => do
      let _ ← ask (.world (.destroy r))
      pure ()
  | .fail text => throw (.failed text)

def runAll (id : ObjectId) : List NativeStep -> Attempt Unit
  | [] => pure ()
  | step :: rest => do
      step.run id
      runAll id rest

def body (steps : List NativeStep) : NativeBody :=
  fun id => runAll id steps

end NativeStep

end ScriptBridge
