import ScriptBridge.Proofs.Generations
import ScriptBridge.Proofs.Journal
import ScriptBridge.Simulation

/-!
# What a run does to the world

The world is changed by its operations alone: by those that a simulation asks
for itself, and by those that host bodies ask for while they run.  A trace lists
them in the order in which they happen, and performing a trace gives the world
that the run leaves.
-/

namespace ScriptBridge

namespace Interaction

variable {Op : Type} {Answer : Op -> Type} {Result State : Type}

def asked (perform : (op : Op) -> State -> Answer op × State) :
    Interaction Op Answer Result -> State -> List Op
  | .finish _, _ => []
  | .ask op next, s =>
      op :: asked perform (next (perform op s).1) (perform op s).2

/-- If each operation comes to some operations of the world, a run comes to theirs in order. -/
theorem world_run {perform : (op : Op) -> State -> Answer op × State}
    (world : State -> World) {worldOps : Op -> List WorldOp}
    (hstep : forall op s,
      world (perform op s).2 = (world s).performAll (worldOps op))
    (i : Interaction Op Answer Result) (s : State) :
    world (i.run perform s).2 =
      (world s).performAll ((i.asked perform s).flatMap worldOps) := by
  induction i generalizing s with
  | finish result => rfl
  | ask op next ih =>
      rw [asked, List.flatMap_cons, World.performAll_append, ← hstep]
      exact ih (perform op s).1 (perform op s).2

end Interaction

/-!
## Host bodies
-/

def HostOp.worldOps : HostOp -> List WorldOp
  | .world op => [op]
  | .handle _ => []

def NativeOp.worldOps : NativeOp -> List WorldOp
  | .world op => [op]
  | _ => []

theorem HostOp.world_perform (types : TypeTable) (op : HostOp) (w : World) :
    (op.perform types w).2 = w.performAll op.worldOps := by
  cases op <;> rfl

theorem NativeOp.world_perform (op : NativeOp) (s : World × Frame) :
    (op.perform s).2.1 = s.1.performAll op.worldOps := by
  cases op <;> rfl

def TypeTable.worldOps {Result : Type} (types : TypeTable)
    (body : HostAttempt Result) (w : World) : List WorldOp :=
  (Interaction.asked (HostOp.perform types) body.run w).flatMap
    HostOp.worldOps

theorem Bridge.world_runBody {Result : Type} (b : Bridge)
    (body : HostAttempt Result) :
    (b.runBody body).2.world =
      b.world.performAll (b.types.worldOps body b.world) :=
  Interaction.world_run id (HostOp.world_perform b.types)
    body.run b.world

namespace HostRun

def worldOps (b : Bridge) : HostRun -> List WorldOp
  | .getter p c => b.types.worldOps (p.get c) b.world
  | .setter set c v => b.types.worldOps (set c v) b.world
  | .function body c args => b.types.worldOps (body c args) b.world
  | .classFunction body c args => b.types.worldOps (body c args) b.world
  | .native f _ id frame =>
      ((f.function.body id).asked NativeOp.perform (b.world, frame)).flatMap
        NativeOp.worldOps

theorem world_outcome (b : Bridge) (run : HostRun) :
    (run.outcome b).2.world = b.world.performAll (run.worldOps b) := by
  cases run with
  | getter p c => exact b.world_runBody (p.get c)
  | setter set c v => exact b.world_runBody (set c v)
  | function body c args => exact b.world_runBody (body c args)
  | classFunction body c args => exact b.world_runBody (body c args)
  | native f path id frame =>
      have hworld := Interaction.world_run Prod.fst
        NativeOp.world_perform (f.function.body id) (b.world, frame)
      unfold outcome
      dsimp only
      cases ((f.function.body id).run NativeOp.perform
        (b.world, frame)).1 with
      | error cause => exact hworld
      | ok done => exact hworld

end HostRun

/-!
## Operations of scripts

Between the host events that it makes happen, an operation of a script leaves
the bridge alone.
-/

namespace HostEvent

def after (b : Bridge) : HostEvent -> Bridge
  | .ran run => (run.outcome b).2
  | .renamed id nick =>
      { b with world := b.world.change id (.setNick nick) }

def worldOps (b : Bridge) : HostEvent -> List WorldOp
  | .ran run => run.worldOps b
  | .renamed id nick => [.change id (.setNick nick)]

theorem world_after (b : Bridge) (e : HostEvent) :
    (e.after b).world = b.world.performAll (e.worldOps b) := by
  cases e with
  | ran run => exact run.world_outcome b
  | renamed id nick => rfl

end HostEvent

namespace Bridge

def afterAll (b : Bridge) : List HostEvent -> Bridge
  | [] => b
  | e :: rest => afterAll (e.after b) rest

def worldOps (b : Bridge) : List HostEvent -> List WorldOp
  | [] => []
  | e :: rest => e.worldOps b ++ worldOps (e.after b) rest

theorem afterAll_append (b : Bridge) (events more : List HostEvent) :
    b.afterAll (events ++ more) = (b.afterAll events).afterAll more := by
  induction events generalizing b with
  | nil => rfl
  | cons e rest ih => exact ih (e.after b)

theorem world_afterAll (b : Bridge) (events : List HostEvent) :
    (b.afterAll events).world =
      b.world.performAll (b.worldOps events) := by
  induction events generalizing b with
  | nil => rfl
  | cons e rest ih =>
      rw [afterAll, worldOps, ih, World.performAll_append, e.world_after]

end Bridge

/-- What an operation leaves of the bridge is what its journal leaves of it. -/
theorem Accounted.bridge_outcome {Reply : Type} {b : Bridge}
    {j : Journaled Reply} (h : Accounted b j) :
    j.outcome.2 = b.afterAll j.events := by
  cases h <;> rfl

theorem Operation.bridge_perform (d : Dispatcher) (b : Bridge)
    (op : Operation) :
    (op.perform d b).2 = b.afterAll (op.journal d b).events := by
  rw [← op.outcome_journal d b]
  exact (op.accounted_journal d b).bridge_outcome

namespace Dispatcher

theorem bridge_callMethod (d : Dispatcher) (b : Bridge) (h : Handle)
    (name : String) (args : List Value) :
    (d.callMethod b h name args).2.1 =
      b.afterAll (d.journalMethod b h name args).events := by
  have houtcome := congrArg Prod.snd (d.outcome_journalMethod b h name args)
  have hindex :=
    (Operation.accounted_journalIndex d b h name).bridge_outcome
  dsimp only at houtcome
  rw [← houtcome]
  rcases d.journalMethod_cases b h name args with
    ⟨m, b', hfound, heq⟩ | ⟨cause, heq⟩
  · rw [hfound] at hindex
    dsimp only at hindex
    rw [heq, Bridge.afterAll_append, ← hindex]
    exact (Operation.accounted_journalCall b' m _ args).bridge_outcome
  · rw [heq]
    exact hindex

end Dispatcher

namespace Bridge

def displayEvents (b : Bridge) : Handle -> List HostEvent
  | .object _ => []
  | .cls h =>
      match b.registry.classFunction? h.cls textFunction with
      | none => []
      | some body => [.ran (.classFunction body ⟨b.types, h.cls⟩ [])]

theorem bridge_display (b : Bridge) (h : Handle) :
    (b.display h).2 = b.afterAll (b.displayEvents h) := by
  cases h with
  | object h => rfl
  | cls h =>
      unfold display displayClass displayEvents
      dsimp only
      cases b.registry.classFunction? h.cls textFunction with
      | none => rfl
      | some body =>
          dsimp only [afterAll, HostEvent.after, HostRun.outcome, runBody]
          rcases runHost b.types (body ⟨b.types, h.cls⟩ []) b.world with
            ⟨result, w⟩
          cases result with
          | error cause => rfl
          | ok results =>
              dsimp only
              cases results.headD .nil <;> rfl

end Bridge

/-!
## Simulations
-/

namespace Command

/-- What the host does for the scripts in a command. -/
def events (s : Simulation) : Command -> List HostEvent
  | .index n h name =>
      (Operation.journalIndex (s.computer n).dispatcher s.bridge h
        name).events
  | .assign _ h name v =>
      (Operation.journalAssign s.bridge h name v).events
  | .callMethod n h name args =>
      ((s.computer n).dispatcher.journalMethod s.bridge h name
        args).events
  | .call _ m receiver args =>
      (Operation.journalCall s.bridge m receiver args).events
  | .display _ h => s.bridge.displayEvents h
  | _ => []

/-- The operations of the world in a command, those inside host bodies among them. -/
def worldOps (s : Simulation) : Command -> List WorldOp
  | .spawn o => [.spawn o]
  | .respawn r => (s.bridge.world.occupant? r).toList.map .share
  | .change r c =>
      (s.bridge.world.occupant? r).toList.map (fun id => .change id c)
  | .destroy r => [.destroy r]
  | .remove r => [.destroy r]
  | c => s.bridge.worldOps (c.events s)

end Command

namespace Simulation

def worldOps (s : Simulation) : List Command -> List WorldOp
  | [] => []
  | c :: rest => c.worldOps s ++ worldOps (s.perform c).2 rest

theorem world_perform {s : Simulation} (hs : s.bridge.world.Sound)
    (c : Command) :
    (s.perform c).2.bridge.world =
      s.bridge.world.performAll (c.worldOps s) := by
  have hevents {b : Bridge} {c : Command}
      (h : b = s.bridge.afterAll (c.events s)) :
      b.world =
        s.bridge.world.performAll (s.bridge.worldOps (c.events s)) := by
    rw [h, Bridge.world_afterAll]
  cases c with
  | spawn o => rfl
  | respawn r =>
      unfold perform Command.worldOps
      dsimp only
      cases hoccupant : s.bridge.world.occupant? r with
      | none => rfl
      | some id =>
          rcases hs.object?_of_occupant? hoccupant with ⟨o, ho⟩
          dsimp only [Option.toList, List.map, World.performAll,
            WorldOp.perform]
          rw [ho]
          rfl
  | change r c =>
      unfold perform Command.worldOps
      dsimp only
      cases s.bridge.world.occupant? r with
      | none => rfl
      | some id => rfl
  | destroy r => rfl
  | remove r => rfl
  | lock r =>
      unfold perform Bridge.underLock
      dsimp only
      cases s.bridge.world.occupant? r with
      | none => rfl
      | some id => rfl
  | index n h name =>
      exact hevents (c := .index n h name)
        (Operation.bridge_perform _ s.bridge (.index h name))
  | assign n h name v =>
      exact hevents (c := .assign n h name v)
        (Operation.bridge_perform .fresh s.bridge (.assign h name v))
  | callMethod n h name args =>
      exact hevents (c := .callMethod n h name args)
        (Dispatcher.bridge_callMethod _ s.bridge h name args)
  | call n m receiver args =>
      exact hevents (c := .call n m receiver args)
        (Operation.bridge_perform .fresh s.bridge (.call m receiver args))
  | display n h =>
      exact hevents (c := .display n h) (s.bridge.bridge_display h)
  | load n text =>
      unfold perform
      dsimp only
      cases Computer.loadText s.bridge.types text <;> rfl
  | evict r => rfl
  | members n h => rfl
  | attend n => rfl
  | setGlobal n name v => rfl
  | removeGlobal n name => rfl
  | beginWait n now timeout => rfl
  | pollWait n now => rfl
  | resolveWait n => rfl
  | abandonWait n => rfl
  | save n => rfl
  | drop n => rfl

theorem world_run {s : Simulation} (hs : s.bridge.world.Sound)
    (cs : List Command) :
    (s.run cs).bridge.world = s.bridge.world.performAll (s.worldOps cs) := by
  induction cs generalizing s with
  | nil => rfl
  | cons c rest ih =>
      have hstep := world_perform hs c
      have hkept : (s.perform c).2.bridge.world.Sound := by
        rw [hstep]
        exact hs.performAll (c.worldOps s)
      rw [run, worldOps, ih hkept, hstep, World.performAll_append]

end Simulation

end ScriptBridge
