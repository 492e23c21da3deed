import ScriptBridge.Proofs.HostRuns

/-!
# Operations with a journal

An operation of a script on a handle may run host bodies.  The journal of an
operation lists what it made the host do, first to last; it is kept beside the
operation as it is, and leaving it out gives that operation back.

What an operation can come to is said once, by `Accounted`: it is refused or
answered without any doing of the host, it sets a nickname, or it is one run of
one body, whose error is its error.
-/

namespace ScriptBridge

inductive Operation where
  | index (h : Handle) (name : String)
  | assign (h : Handle) (name : String) (v : Value)
  | call (m : Member) (receiver : Value) (args : List Value)

/-- What an operation makes the host do. -/
inductive HostEvent where
  | ran (run : HostRun)
  | renamed (id : ObjectId) (nick : String)

def HostEvent.started? : HostEvent -> Option Path
  | .ran (.native _ path _ _) => some path
  | _ => none

theorem HostEvent.exists_of_started? {e : HostEvent} {path : Path}
    (h : e.started? = some path) :
    exists f id frame, e = .ran (.native f path id frame) := by
  cases e with
  | renamed id nick => cases h
  | ran run =>
      cases run with
      | native f path' id frame =>
          cases h
          exact ⟨f, id, frame, rfl⟩
      | getter _ _ => cases h
      | setter _ _ _ => cases h
      | function _ _ _ => cases h
      | classFunction _ _ _ => cases h

structure Journaled (Reply : Type) where
  events : List HostEvent
  outcome : Except BridgeError Reply × Bridge

namespace Journaled

variable {Reply : Type}

def silent (reply : Except BridgeError Reply) (b : Bridge) :
    Journaled Reply :=
  ⟨[], (reply, b)⟩

/-- The host ran one body, from whose results the reply is read. -/
def ofRun (b : Bridge) (run : HostRun) (read : List Value -> Reply) :
    Journaled Reply :=
  ⟨[.ran run], ((run.outcome b).1.map read, (run.outcome b).2)⟩

end Journaled

namespace Operation

@[reducible] def Reply : Operation -> Type
  | .index _ _ => Option Value
  | .assign _ _ _ => Unit
  | .call _ _ _ => List Value

def perform (d : Dispatcher) (b : Bridge) :
    (op : Operation) -> Except BridgeError op.Reply × Bridge
  | .index h name => ((d.index b h name).1, (d.index b h name).2.1)
  | .assign h name v => b.assign h name v
  | .call m receiver args => b.call m receiver args

/-!
## The journal of each operation
-/

def journalIndex (d : Dispatcher) (b : Bridge) (h : Handle)
    (name : String) : Journaled (Option Value) :=
  match h with
  | .cls h => .silent (.ok (d.indexClass b h name).1) b
  | .object h =>
      match b.meaning h name with
      | .error cause => .silent (.error cause) b
      | .ok (.text text) => .silent (.ok (some (.string text))) b
      | .ok (.property path property) =>
          .ofRun b (.getter property ⟨b.types, path⟩) List.head?
      | .ok .members =>
          .silent (.ok (some (.member ⟨name, h.exposed, .introspection⟩))) b
      | .ok (.function o) =>
          .silent
            (.ok ((d.lookUp h.exposed name
              (b.functionKind? h o name)).1.map .member)) b

def journalAssign (b : Bridge) (h : Handle) (name : String) (v : Value) :
    Journaled Unit :=
  match h with
  | .cls _ => .silent (.error (.readOnly name)) b
  | .object h =>
      match b.object h with
      | .error cause => .silent (.error cause) b
      | .ok o =>
          if name = "nick" then
            match Bridge.networkNode o, b.world.occupant? h.path.target,
              HostType.string.readArgument [v] 0 with
            | .error cause, _, _ => .silent (.error cause) b
            | .ok _, none, _ => .silent (.error .instanceInvalid) b
            | .ok _, some _, .error cause => .silent (.error cause) b
            | .ok _, some id, .ok nick =>
                ⟨[.renamed id nick],
                  (.ok (), { b with
                    world := b.world.change id (.setNick nick) })⟩
          else
            match b.findProperty? h o name with
            | none =>
                .silent (.error (.memberNotFound h.exposed.name name)) b
            | some (path, property) =>
                match property.set with
                | none => .silent (.error (.readOnly name)) b
                | some set =>
                    .ofRun b (.setter set ⟨b.types, path⟩ v) (fun _ => ())

def journalCall (b : Bridge) (m : Member) (receiver : Value)
    (args : List Value) : Journaled (List Value) :=
  match b.prepare m receiver args with
  | .error cause => .silent (.error cause) b
  | .ok (.listing names) => .silent (.ok [.array (names.map .string)]) b
  | .ok (.function body c args) => .ofRun b (.function body c args) id
  | .ok (.classFunction body c args) =>
      .ofRun b (.classFunction body c args) id
  | .ok (.native f path frame) =>
      match b.world.occupant? path.target with
      | none => .silent (.error .instanceInvalid) b
      | some object => .ofRun b (.native f path object frame) id

def journal (d : Dispatcher) (b : Bridge) :
    (op : Operation) -> Journaled op.Reply
  | .index h name => journalIndex d b h name
  | .assign h name v => journalAssign b h name v
  | .call m receiver args => journalCall b m receiver args

/-!
## Leaving the journal out
-/

theorem outcome_journalIndex (d : Dispatcher) (b : Bridge) (h : Handle)
    (name : String) :
    (journalIndex d b h name).outcome =
      ((d.index b h name).1, (d.index b h name).2.1) := by
  cases h with
  | cls h => rfl
  | object h =>
      rw [journalIndex, Dispatcher.index, Dispatcher.indexObject]
      cases b.meaning h name with
      | error cause => rfl
      | ok meaning =>
          cases meaning with
          | text text => rfl
          | members => rfl
          | function o => rfl
          | property path property =>
              dsimp only [Journaled.ofRun, HostRun.outcome, Bridge.runBody]
              cases (runHost b.types (property.get ⟨b.types, path⟩)
                b.world).1 with
              | error cause => rfl
              | ok v => rfl

theorem outcome_journalAssign (b : Bridge) (h : Handle) (name : String)
    (v : Value) :
    (journalAssign b h name v).outcome = b.assign h name v := by
  cases h with
  | cls h => rfl
  | object h =>
      rw [journalAssign, Bridge.assign, Bridge.assignObject]
      cases b.object h with
      | error cause => rfl
      | ok o =>
          dsimp only
          by_cases hnick : name = "nick"
          · rw [if_pos hnick, if_pos hnick, Bridge.setNick]
            cases Bridge.networkNode o with
            | error cause => rfl
            | ok node =>
                cases b.world.occupant? h.path.target with
                | none => rfl
                | some id =>
                    cases HostType.string.readArgument [v] 0 with
                    | error cause => rfl
                    | ok nick => rfl
          · rw [if_neg hnick, if_neg hnick]
            cases b.findProperty? h o name with
            | none => rfl
            | some found =>
                dsimp only
                cases hset : found.2.set with
                | none => rfl
                | some set =>
                    dsimp only [Journaled.ofRun, HostRun.outcome,
                      Bridge.runBody]
                    cases (runHost b.types (set ⟨b.types, found.1⟩ v)
                      b.world).1 with
                    | error cause => rfl
                    | ok done => rfl

theorem outcome_journalCall (b : Bridge) (m : Member) (receiver : Value)
    (args : List Value) :
    (journalCall b m receiver args).outcome = b.call m receiver args := by
  have hmap (result : Except BridgeError (List Value)) :
      result.map id = result := by
    cases result <;> rfl
  rw [journalCall, Bridge.call]
  cases b.prepare m receiver args with
  | error cause => rfl
  | ok prepared =>
      cases prepared with
      | listing names => rfl
      | function body c args =>
          dsimp only [Journaled.ofRun, HostRun.outcome, Bridge.carryOut,
            Bridge.runBody]
          rw [hmap]
      | classFunction body c args =>
          dsimp only [Journaled.ofRun, HostRun.outcome, Bridge.carryOut,
            Bridge.runBody]
          rw [hmap]
      | native f path frame =>
          dsimp only [Bridge.carryOut]
          cases hoccupant : b.world.occupant? path.target with
          | none =>
              rw [Bridge.runNative_of_vacant frame hoccupant]
              rfl
          | some object =>
              rw [Bridge.runNative_of_occupant? frame hoccupant]
              dsimp only [Journaled.ofRun]
              rw [hmap]

theorem outcome_journal (d : Dispatcher) (b : Bridge) (op : Operation) :
    (op.journal d b).outcome = op.perform d b := by
  cases op with
  | index h name => exact outcome_journalIndex d b h name
  | assign h name v => exact outcome_journalAssign b h name v
  | call m receiver args => exact outcome_journalCall b m receiver args

end Operation

/-!
## Method calls

A method call is a look-up, followed by a call of what was found.
-/

namespace Dispatcher

def journalMethod (d : Dispatcher) (b : Bridge) (h : Handle) (name : String)
    (args : List Value) : Journaled (List Value) :=
  let found := Operation.journalIndex d b h name
  match found.outcome with
  | (.error cause, b') => ⟨found.events, (.error cause, b')⟩
  | (.ok (some (.member m)), b') =>
      let called := Operation.journalCall b' m (.handle h) args
      ⟨found.events ++ called.events, called.outcome⟩
  | (.ok _, b') =>
      ⟨found.events, (.error (.memberNotFound h.exposed.name name), b')⟩

/-- A method call does what the look-up does, and then what a call does or nothing. -/
theorem journalMethod_cases (d : Dispatcher) (b : Bridge) (h : Handle)
    (name : String) (args : List Value) :
    (exists m b', (Operation.journalIndex d b h name).outcome =
        (.ok (some (.member m)), b') ∧
      d.journalMethod b h name args =
        ⟨(Operation.journalIndex d b h name).events ++
            (Operation.journalCall b' m (.handle h) args).events,
          (Operation.journalCall b' m (.handle h) args).outcome⟩) ∨
    exists cause, d.journalMethod b h name args =
      ⟨(Operation.journalIndex d b h name).events,
        (.error cause, (Operation.journalIndex d b h name).outcome.2)⟩ := by
  unfold journalMethod
  dsimp only
  cases (Operation.journalIndex d b h name).outcome with
  | mk result b' =>
      cases result with
      | error cause => exact Or.inr ⟨cause, rfl⟩
      | ok found =>
          cases found with
          | none => exact Or.inr ⟨_, rfl⟩
          | some v =>
              cases v with
              | member m => exact Or.inl ⟨m, b', rfl, rfl⟩
              | _ => exact Or.inr ⟨_, rfl⟩

theorem outcome_journalMethod (d : Dispatcher) (b : Bridge) (h : Handle)
    (name : String) (args : List Value) :
    (d.journalMethod b h name args).outcome =
      ((d.callMethod b h name args).1, (d.callMethod b h name args).2.1) := by
  rw [journalMethod, callMethod, Operation.outcome_journalIndex]
  cases d.index b h name with
  | mk result left =>
      obtain ⟨b', d'⟩ := left
      cases result with
      | error cause => rfl
      | ok found =>
          cases found with
          | none => rfl
          | some v =>
              cases v with
              | member m => exact Operation.outcome_journalCall b' m _ args
              | _ => rfl

end Dispatcher

/-!
## What an operation can come to
-/

/-- What an operation on a bridge came to. -/
inductive Accounted {Reply : Type} (b : Bridge) : Journaled Reply -> Prop where
  | refused (cause : BridgeError) : Accounted b (.silent (.error cause) b)
  | answered (reply : Reply) : Accounted b (.silent (.ok reply) b)
  | renamed (id : ObjectId) (nick : String) (reply : Reply) :
      Accounted b
        ⟨[.renamed id nick],
          (.ok reply, { b with world := b.world.change id (.setNick nick) })⟩
  | ran (run : HostRun) (read : List Value -> Reply) :
      Accounted b (.ofRun b run read)

namespace Operation

theorem accounted_journalIndex (d : Dispatcher) (b : Bridge) (h : Handle)
    (name : String) : Accounted b (journalIndex d b h name) := by
  unfold journalIndex
  cases h with
  | cls h => exact Accounted.answered _
  | object h =>
      dsimp only
      cases b.meaning h name with
      | error cause => exact Accounted.refused cause
      | ok meaning =>
          cases meaning with
          | text text => exact Accounted.answered _
          | members => exact Accounted.answered _
          | function o => exact Accounted.answered _
          | property path property => exact Accounted.ran _ _

theorem accounted_journalAssign (b : Bridge) (h : Handle) (name : String)
    (v : Value) : Accounted b (journalAssign b h name v) := by
  unfold journalAssign
  cases h with
  | cls h => exact Accounted.refused _
  | object h =>
      dsimp only
      cases b.object h with
      | error cause => exact Accounted.refused cause
      | ok o =>
          dsimp only
          by_cases hnick : name = "nick"
          · rw [if_pos hnick]
            cases Bridge.networkNode o with
            | error cause => exact Accounted.refused cause
            | ok node =>
                cases b.world.occupant? h.path.target with
                | none => exact Accounted.refused _
                | some id =>
                    cases HostType.string.readArgument [v] 0 with
                    | error cause => exact Accounted.refused cause
                    | ok nick => exact Accounted.renamed id nick ()
          · rw [if_neg hnick]
            cases b.findProperty? h o name with
            | none => exact Accounted.refused _
            | some found =>
                dsimp only
                cases found.2.set with
                | none => exact Accounted.refused _
                | some set => exact Accounted.ran _ _

theorem accounted_journalCall (b : Bridge) (m : Member) (receiver : Value)
    (args : List Value) : Accounted b (journalCall b m receiver args) := by
  unfold journalCall
  cases b.prepare m receiver args with
  | error cause => exact Accounted.refused cause
  | ok prepared =>
      cases prepared with
      | listing names => exact Accounted.answered _
      | function body c args => exact Accounted.ran _ id
      | classFunction body c args => exact Accounted.ran _ id
      | native f path frame =>
          dsimp only
          cases b.world.occupant? path.target with
          | none => exact Accounted.refused _
          | some object => exact Accounted.ran _ id

theorem accounted_journal (d : Dispatcher) (b : Bridge) (op : Operation) :
    Accounted b (op.journal d b) := by
  cases op with
  | index h name => exact accounted_journalIndex d b h name
  | assign h name v => exact accounted_journalAssign b h name v
  | call m receiver args => exact accounted_journalCall b m receiver args

end Operation

end ScriptBridge
