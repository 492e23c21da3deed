import ScriptBridge.Proofs.HonestCalls
import ScriptBridge.Proofs.HonestPrograms
import ScriptBridge.Proofs.Locking
import ScriptBridge.Proofs.SavedHandles

/-!
# Handles in circulation

Handles come into circulation when the bridge makes one for an object or a
class, when host bodies ask for them, when native results are handed back, and
when a saved computer is restored.  From then on scripts pass them around as
arguments, keep them in globals, and have them written into objects.

Scripts cannot make handles up, and honest bodies do not.  So every handle in
circulation is right, as long as no slot has spent its generations.
-/

namespace ScriptBridge

/-!
## The handles of a simulation
-/

namespace Simulation

def globalHandles (s : Simulation) : List Handle :=
  s.computers.entries.flatMap (fun entry => entry.2.globals.handles)

def handles (s : Simulation) : List Handle :=
  s.globalHandles ++ s.bridge.world.handles

theorem mem_globalHandles_iff (s : Simulation) (h : Handle) :
    h ∈ s.globalHandles ↔
      exists n c, s.computers.get? n = some c ∧ h ∈ c.globals.handles := by
  rw [globalHandles, List.mem_flatMap]
  constructor
  · intro hmem
    rcases hmem with ⟨⟨n, c⟩, hentry, hc⟩
    exact ⟨n, c, (Table.get?_eq_some_iff _ _ _).mpr hentry, hc⟩
  · intro hmem
    rcases hmem with ⟨n, c, hget, hc⟩
    exact ⟨(n, c), (Table.get?_eq_some_iff _ _ _).mp hget, hc⟩

theorem mem_globalHandles_of_computer {s : Simulation} {n : Nat} {h : Handle}
    (hmem : h ∈ (s.computer n).globals.handles) : h ∈ s.globalHandles := by
  unfold computer Table.getD at hmem
  cases hget : s.computers.get? n with
  | none =>
      rw [hget] at hmem
      cases hmem
  | some c =>
      rw [hget] at hmem
      exact (s.mem_globalHandles_iff h).mpr ⟨n, c, hget, hmem⟩

theorem mem_globalHandles_withComputer {s : Simulation} {n : Nat}
    {c : Computer} {h : Handle}
    (hmem : h ∈ (s.withComputer n c).globalHandles) :
    h ∈ c.globals.handles ∨ h ∈ s.globalHandles := by
  rcases (mem_globalHandles_iff _ h).mp hmem with ⟨m, found, hget, hfound⟩
  rcases Table.get?_put_cases hget with ⟨_, rfl⟩ | hold
  · exact Or.inl hfound
  · exact Or.inr ((s.mem_globalHandles_iff h).mpr ⟨m, found, hold, hfound⟩)

end Simulation

theorem NameTable.mem_handles_put {t : NameTable Value} {name : String}
    {v : Value} {h : Handle} (hmem : h ∈ (t.put name v).handles) :
    h ∈ v.handles ∨ h ∈ t.handles := by
  rcases List.mem_flatMap.mp hmem with ⟨entry, hentry, hin⟩
  rcases NameTable.mem_write hentry with rfl | hold
  · exact Or.inl hin
  · exact Or.inr (List.mem_flatMap.mpr ⟨entry, hold, hin⟩)

theorem NameTable.mem_handles_erase {t : NameTable Value} {name : String}
    {h : Handle} (hmem : h ∈ (t.erase name).handles) : h ∈ t.handles := by
  rcases List.mem_flatMap.mp hmem with ⟨entry, hentry, hin⟩
  exact List.mem_flatMap.mpr ⟨entry, (List.mem_filter.mp hentry).1, hin⟩

theorem NameTable.mem_handles_of_get? {t : NameTable Value} {name : String}
    {v : Value} (hget : t.get? name = some v) {h : Handle}
    (hmem : h ∈ v.handles) : h ∈ t.handles := by
  have hfind (entries : List (String × Value))
      (hget : NameTable.find name entries = some v) :
      h ∈ entries.flatMap (fun entry => entry.2.handles) := by
    induction entries with
    | nil => cases hget
    | cons entry rest ih =>
        obtain ⟨n, first⟩ := entry
        rw [NameTable.find] at hget
        rw [List.flatMap_cons]
        split at hget
        · cases hget
          exact List.mem_append_left _ hmem
        · exact List.mem_append_right _ (ih hget)
  exact hfind t.entries hget

def handlesIfOk {Cause Result : Type} (handles : Result -> List Handle) :
    Except Cause Result -> List Handle
  | .ok result => handles result
  | .error _ => []

theorem of_mem_handlesIfOk {Cause Result : Type}
    {handles : Result -> List Handle} {outcome : Except Cause Result}
    {Kept : Handle -> Prop}
    (hkept : forall result, outcome = .ok result ->
      forall h, h ∈ handles result -> Kept h) :
    forall h, h ∈ handlesIfOk handles outcome -> Kept h := by
  intro h hmem
  cases outcome with
  | error cause => cases hmem
  | ok result => exact hkept result rfl h hmem

namespace Command

/-- The handles that a command hands in, its receiver among them. -/
def given : Command -> List Handle
  | .spawn o => o.handles
  | .change _ c => c.handles
  | .index _ h _ => [h]
  | .assign _ h _ v => h :: v.handles
  | .callMethod _ h _ args => h :: Value.handlesAll args
  | .call _ _ receiver args => receiver.handles ++ Value.handlesAll args
  | .members _ h => [h]
  | .display _ h => [h]
  | .setGlobal _ _ v => v.handles
  | _ => []

def replyHandles : (c : Command) -> c.Reply -> List Handle
  | .index _ _ _, reply =>
      handlesIfOk (fun v => (v.map Value.handles).getD []) reply
  | .callMethod _ _ _ _, reply => handlesIfOk Value.handlesAll reply
  | .call _ _ _ _, reply => handlesIfOk Value.handlesAll reply
  | .attend _, c => c.globals.handles
  | .setGlobal _ _ _, previous => (previous.map Value.handles).getD []
  | .removeGlobal _ _, previous => (previous.map Value.handles).getD []
  | .load _ _, reply => handlesIfOk (fun c => c.globals.handles) reply
  | _, _ => []

def runsBodies : Command -> Bool
  | .index _ _ _ => true
  | .assign _ _ _ _ => true
  | .callMethod _ _ _ _ => true
  | .call _ _ _ _ => true
  | .display _ _ => true
  | _ => false

theorem mem_given_of_worldOps {s : Simulation} {c : Command}
    (hbodies : c.runsBodies = false) {op : WorldOp} (hop : op ∈ c.worldOps s)
    {h : Handle} (hmem : h ∈ op.handles) : h ∈ c.given := by
  cases c with
  | spawn o =>
      cases List.mem_singleton.mp hop
      exact hmem
  | respawn r =>
      rcases List.mem_map.mp hop with ⟨id, _, rfl⟩
      cases hmem
  | change r c =>
      rcases List.mem_map.mp hop with ⟨id, _, rfl⟩
      exact hmem
  | destroy r =>
      cases List.mem_singleton.mp hop
      cases hmem
  | remove r =>
      cases List.mem_singleton.mp hop
      cases hmem
  | index n h name => cases hbodies
  | assign n h name v => cases hbodies
  | callMethod n h name args => cases hbodies
  | call n m receiver args => cases hbodies
  | display n h => cases hbodies
  | _ => cases hop

def snapshots : (c : Command) -> c.Reply -> List Snapshot
  | .save _, s => [s]
  | _, _ => []

end Command

namespace Simulation

theorem registry_perform (s : Simulation) (c : Command) :
    (s.perform c).2.bridge.registry = s.bridge.registry := by
  by_cases hlocks : c.onLocks = true
  · cases c with
    | lock r =>
        unfold perform Bridge.underLock
        dsimp only
        cases s.bridge.world.occupant? r <;> rfl
    | evict r => rfl
    | _ => cases hlocks
  · by_cases hdestroy : exists r, c = .destroy r
    · rcases hdestroy with ⟨r, rfl⟩
      rfl
    · rcases s.bridge_perform (Bool.eq_false_iff.mpr hlocks)
        (not_exists.mp hdestroy) with ⟨hbridge, _⟩ | ⟨_, w, hbridge⟩
      · rw [hbridge, Bridge.registry_afterAll]
      · rw [hbridge]

theorem mem_globalHandles_of_kept {s : Simulation} {b : Bridge} {n : Nat}
    {c : Computer} {h : Handle}
    (hmem : h ∈ ({ s with bridge := b }.withComputer n c).globalHandles)
    (hglobals : c.globals = (s.computer n).globals) : h ∈ s.globalHandles := by
  rcases mem_globalHandles_withComputer hmem with hmem | hmem
  · rw [hglobals] at hmem
    exact mem_globalHandles_of_computer hmem
  · exact hmem

/-- A handle in a global was there before, or it was handed in, or it is in the reply. -/
theorem mem_globalHandles_perform {s : Simulation} {c : Command} {h : Handle}
    (hmem : h ∈ (s.perform c).2.globalHandles) :
    h ∈ s.globalHandles ∨ h ∈ c.given ∨
      h ∈ c.replyHandles (s.perform c).1 := by
  cases c with
  | spawn o => exact Or.inl hmem
  | respawn r =>
      unfold perform at hmem
      dsimp only at hmem
      split at hmem <;> exact Or.inl hmem
  | change r c =>
      unfold perform at hmem
      dsimp only at hmem
      split at hmem <;> exact Or.inl hmem
  | destroy r => exact Or.inl hmem
  | remove r => exact Or.inl hmem
  | lock r => exact Or.inl hmem
  | evict r => exact Or.inl hmem
  | setGlobal n name v =>
      rcases mem_globalHandles_withComputer hmem with hmem | hmem
      · rcases NameTable.mem_handles_put hmem with hmem | hmem
        · exact Or.inr (Or.inl hmem)
        · exact Or.inl (mem_globalHandles_of_computer hmem)
      · exact Or.inl hmem
  | removeGlobal n name =>
      rcases mem_globalHandles_withComputer hmem with hmem | hmem
      · exact Or.inl
          (mem_globalHandles_of_computer (NameTable.mem_handles_erase hmem))
      · exact Or.inl hmem
  | load n text =>
      unfold perform at hmem ⊢
      dsimp only at hmem ⊢
      cases hload : Computer.loadText s.bridge.types text with
      | error cause =>
          rw [hload] at hmem
          exact Or.inl hmem
      | ok c =>
          rw [hload] at hmem
          rcases mem_globalHandles_withComputer hmem with hmem | hmem
          · exact Or.inr (Or.inr hmem)
          · exact Or.inl hmem
  | drop n =>
      rcases (mem_globalHandles_iff _ h).mp hmem with ⟨m, c, hget, hin⟩
      unfold perform at hget
      dsimp only at hget
      rw [Table.get?_erase] at hget
      split at hget
      · cases hget
      · exact Or.inl ((s.mem_globalHandles_iff h).mpr ⟨m, c, hget, hin⟩)
  | _ => exact Or.inl (mem_globalHandles_of_kept hmem rfl)

end Simulation

/-!
## One command
-/

/-- Whatever a snapshot is loaded to has settled handles only. -/
def Snapshot.Settled (t : TypeTable) (w : World) (s : Snapshot) : Prop :=
  forall globals, s.loadGlobals t = .ok globals ->
    forall h, h ∈ globals.handles -> t.Settled w h

theorem Snapshot.Settled.of_load {t : TypeTable} {w : World} {s : Snapshot}
    (hs : s.Settled t w) {c : Computer}
    (hload : Computer.load t s = .ok c) :
    forall h, h ∈ c.globals.handles -> t.Settled w h := by
  unfold Computer.load at hload
  cases hglobals : s.loadGlobals t with
  | error cause =>
      rw [hglobals] at hload
      cases hload
  | ok globals =>
      rw [hglobals] at hload
      cases hload
      exact hs globals hglobals

theorem Snapshot.exists_of_loadText {t : TypeTable} {text : String}
    {c : Computer} (hload : Computer.loadText t text = .ok c) :
    exists s, Snapshot.ofText? text = some s ∧
      Computer.load t s = .ok c := by
  unfold Computer.loadText at hload
  cases hs : Snapshot.ofText? text with
  | none =>
      rw [hs] at hload
      cases hload
  | some s =>
      rw [hs] at hload
      dsimp only at hload
      cases hc : Computer.load t s with
      | error cause =>
          rw [hc] at hload
          cases hload
      | ok found =>
          rw [hc] at hload
          cases hload
          exact ⟨s, rfl, hc⟩

theorem Computer.settled_save {t : TypeTable} (ht : t.Coherent) {w : World}
    {c : Computer} (hc : forall h, h ∈ c.globals.handles -> t.Settled w h) :
    c.save.Settled t w := by
  intro globals hload h hmem
  have hbinds : forall h, h ∈ c.globals.handles ->
      SaveTables.Binds t h.exposed :=
    fun h hmem => (hc h hmem).binds ht
  rcases c.matches_of_loadGlobals hbinds hload hmem with
    ⟨saved, hsaved, hmatches⟩
  exact (hc saved hsaved).of_matches hmatches

namespace Simulation

structure Upright (s : Simulation) : Prop where
  sound : s.bridge.world.Sound
  bridge : s.bridge.Upright
  globals : forall h, h ∈ s.globalHandles ->
    s.bridge.types.Settled s.bridge.world h

section Perform

variable {s : Simulation} {c : Command}

theorem Upright.reply (hs : s.Upright) (hbodies : c.runsBodies = false)
    (hload : forall n text, c = .load n text ->
      forall snapshot, Snapshot.ofText? text = some snapshot ->
        snapshot.Settled s.bridge.types s.bridge.world) :
    forall h, h ∈ c.replyHandles (s.perform c).1 ->
      s.bridge.types.Settled s.bridge.world h := by
  have hglobal {n : Nat} {h : Handle}
      (hmem : h ∈ (s.computer n).globals.handles) :
      s.bridge.types.Settled s.bridge.world h :=
    hs.globals h (mem_globalHandles_of_computer hmem)
  have hprevious {n : Nat} {name : String} {h : Handle}
      (hmem : h ∈ (((s.computer n).global? name).map
        Value.handles).getD []) :
      s.bridge.types.Settled s.bridge.world h := by
    cases hget : (s.computer n).global? name with
    | none =>
        rw [hget] at hmem
        cases hmem
    | some v =>
        rw [hget] at hmem
        exact hglobal (NameTable.mem_handles_of_get? hget hmem)
  cases c with
  | index n h name => cases hbodies
  | callMethod n h name args => cases hbodies
  | call n m receiver args => cases hbodies
  | attend n => exact fun h hmem => hglobal hmem
  | setGlobal n name v => exact fun h hmem => hprevious hmem
  | removeGlobal n name => exact fun h hmem => hprevious hmem
  | load n text =>
      unfold perform
      dsimp only
      cases hc : Computer.loadText s.bridge.types text with
      | error cause => exact List.forall_mem_nil _
      | ok c =>
          rcases Snapshot.exists_of_loadText hc with ⟨snapshot, htext, hok⟩
          exact (hload n text rfl snapshot htext).of_load hok
  | _ => exact List.forall_mem_nil _

theorem settled_perform_of_runsBodies (hr : s.bridge.registry.Honest)
    (hs : s.Upright) (hbodies : c.runsBodies = true)
    (hgiven : forall h, h ∈ c.given ->
      s.bridge.types.Settled s.bridge.world h)
    (hspent : s.bridge.world.Unspent (c.worldOps s)) :
    s.bridge.types.AllSettled (s.perform c).2.bridge.world ∧
      forall h, h ∈ c.replyHandles (s.perform c).1 ->
        s.bridge.types.Settled (s.perform c).2.bridge.world h := by
  cases c with
  | index n h name =>
      have hdone := Operation.settled_perform hr hs.bridge
        (s.computer n).dispatcher (.index h name)
        (List.forall_mem_nil _) hspent
      exact ⟨hdone.1, of_mem_handlesIfOk hdone.2⟩
  | assign n h name v =>
      have hdone := Operation.settled_perform hr hs.bridge .fresh
        (.assign h name v)
        (fun other hmem => hgiven other (List.mem_cons_of_mem _ hmem)) hspent
      exact ⟨hdone.1, List.forall_mem_nil _⟩
  | callMethod n h name args =>
      have hdone := Dispatcher.settled_callMethod hr hs.bridge
        (s.computer n).dispatcher h name
        (fun other hmem => hgiven other (List.mem_cons_of_mem _ hmem)) hspent
      exact ⟨hdone.1, of_mem_handlesIfOk hdone.2⟩
  | call n m receiver args =>
      have hdone := Operation.settled_perform hr hs.bridge .fresh
        (.call m receiver args)
        (fun other hmem => hgiven other (List.mem_append_right _ hmem)) hspent
      exact ⟨hdone.1, of_mem_handlesIfOk hdone.2⟩
  | display n h =>
      exact ⟨Bridge.settled_display hr hs.bridge h hspent,
        List.forall_mem_nil _⟩
  | _ => cases hbodies

theorem settled_perform (hr : s.bridge.registry.Honest) (hs : s.Upright)
    (hgiven : forall h, h ∈ c.given ->
      s.bridge.types.Settled s.bridge.world h)
    (hload : forall n text, c = .load n text ->
      forall snapshot, Snapshot.ofText? text = some snapshot ->
        snapshot.Settled s.bridge.types s.bridge.world)
    (hspent : s.bridge.world.Unspent (c.worldOps s)) :
    s.bridge.types.AllSettled (s.perform c).2.bridge.world ∧
      forall h, h ∈ c.replyHandles (s.perform c).1 ->
        s.bridge.types.Settled (s.perform c).2.bridge.world h := by
  cases hbodies : c.runsBodies with
  | true => exact settled_perform_of_runsBodies hr hs hbodies hgiven hspent
  | false =>
      rw [world_perform hs.sound]
      constructor
      · apply hs.bridge.settled.performAll hs.bridge.tidy hspent
        intro op hop h hmem
        exact hgiven h (Command.mem_given_of_worldOps hbodies hop hmem)
      · intro h hmem
        exact (hs.reply hbodies hload h hmem).performAll hs.bridge.tidy hspent

end Perform

end Simulation

/-!
## Runs
-/

/-- A simulation, the handles that scripts were ever given, and the snapshots taken. -/
structure Circulation where
  simulation : Simulation
  given : List Handle
  saved : List Snapshot

inductive Move where
  | command (c : Command)
  /-- The bridge is asked for the value of an object. -/
  | object (r : ObjectRef)
  /-- The bridge is asked for the value of a class. -/
  | cls (id : ClassId)
  /-- A computer is replaced by a saved one. -/
  | restore (computer : Nat) (s : Snapshot)

namespace Circulation

def start (registry : Registry) (settings : Settings) : Circulation :=
  ⟨.start registry settings, [], []⟩

def world (c : Circulation) : World :=
  c.simulation.bridge.world

/-- The handles that scripts were given, that are in globals and that are in fields. -/
def handles (c : Circulation) : List Handle :=
  c.given ++ c.simulation.handles

def perform (c : Circulation) : Move -> Circulation
  | .command command =>
      let (reply, s) := c.simulation.perform command
      ⟨s, c.given ++ command.replyHandles reply,
        c.saved ++ command.snapshots reply⟩
  | .object r =>
      { c with given :=
          c.given ++ (c.simulation.bridge.objectValue r).handles }
  | .cls id =>
      { c with given :=
          c.given ++ (c.simulation.bridge.classValue id).handles }
  | .restore n s =>
      match Computer.load c.simulation.bridge.types s with
      | .error _ => c
      | .ok computer =>
          { c with
            simulation := c.simulation.withComputer n computer
            given := c.given ++ computer.globals.handles }

def offers : Move -> List Handle
  | .command command => command.given
  | _ => []

/-- The snapshots from which a move may restore a computer. -/
def Restores : Move -> Snapshot -> Prop
  | .command (.load _ text), s => Snapshot.ofText? text = some s
  | .restore _ restored, s => restored = s
  | _, _ => False

/-- A move hands in handles in circulation, and restores what was saved. -/
structure Fair (c : Circulation) (m : Move) : Prop where
  offers (h : Handle) : h ∈ offers m -> h ∈ c.handles
  restores (s : Snapshot) : Restores m s -> s ∈ c.saved

def run (c : Circulation) : List Move -> Circulation
  | [] => c
  | m :: rest => run (c.perform m) rest

/-- Every move is fair when it is made. -/
def FairRun (c : Circulation) : List Move -> Prop
  | [] => True
  | m :: rest => c.Fair m ∧ FairRun (c.perform m) rest

def moveOps (c : Circulation) : Move -> List WorldOp
  | .command command => command.worldOps c.simulation
  | _ => []

def worldOps (c : Circulation) : List Move -> List WorldOp
  | [] => []
  | m :: rest => c.moveOps m ++ worldOps (c.perform m) rest

/-- All handles that circulate are settled, and those that may come back as well. -/
structure Settled (r : Registry) (c : Circulation) : Prop where
  registry : c.simulation.bridge.registry = r
  sound : c.world.Sound
  tidy : c.world.Tidy
  handles (h : Handle) : h ∈ c.handles -> r.types.Settled c.world h
  saved (s : Snapshot) : s ∈ c.saved -> s.Settled r.types c.world

theorem settled_start (registry : Registry) (settings : Settings) :
    (start registry settings).Settled registry := by
  constructor
  · rfl
  · exact World.sound_empty
  · exact World.tidy_empty
  · intro h hmem
    cases hmem
  · intro s hmem
    cases hmem

section Settled

variable {r : Registry} {c : Circulation}

theorem Settled.upright (hc : c.Settled r) : c.simulation.Upright := by
  have htypes : c.simulation.bridge.types = r.types :=
    congrArg Registry.types hc.registry
  constructor
  · exact hc.sound
  · constructor
    · exact hc.tidy
    · intro h hmem
      rw [htypes]
      exact hc.handles h (List.mem_append_right _
        (List.mem_append_right _ hmem))
  · intro h hmem
    rw [htypes]
    exact hc.handles h (List.mem_append_right _
      (List.mem_append_left _ hmem))

theorem Settled.given (hc : c.Settled r) {more : List Handle}
    (hmore : forall h, h ∈ more -> r.types.Settled c.world h) :
    ({ c with given := c.given ++ more } : Circulation).Settled r := by
  refine ⟨hc.registry, hc.sound, hc.tidy, ?_, hc.saved⟩
  intro h hmem
  rcases List.mem_append.mp hmem with hmem | hmem
  · rcases List.mem_append.mp hmem with hmem | hmem
    · exact hc.handles h (List.mem_append_left _ hmem)
    · exact hmore h hmem
  · exact hc.handles h (List.mem_append_right _ hmem)

theorem Settled.restore (hc : c.Settled r) (n : Nat) {s : Snapshot}
    (hs : s ∈ c.saved) : (c.perform (.restore n s)).Settled r := by
  have htypes : c.simulation.bridge.types = r.types :=
    congrArg Registry.types hc.registry
  unfold perform
  dsimp only
  cases hload : Computer.load c.simulation.bridge.types s with
  | error cause => exact hc
  | ok computer =>
      rw [htypes] at hload
      have hloaded := (hc.saved s hs).of_load hload
      refine ⟨hc.registry, hc.sound, hc.tidy, ?_, hc.saved⟩
      intro h hmem
      rcases List.mem_append.mp hmem with hmem | hmem
      · rcases List.mem_append.mp hmem with hmem | hmem
        · exact hc.handles h (List.mem_append_left _ hmem)
        · exact hloaded h hmem
      · rcases List.mem_append.mp hmem with hmem | hmem
        · rcases Simulation.mem_globalHandles_withComputer hmem with
            hmem | hmem
          · exact hloaded h hmem
          · exact hc.handles h (List.mem_append_right _
              (List.mem_append_left _ hmem))
        · exact hc.handles h (List.mem_append_right _
            (List.mem_append_right _ hmem))

theorem settled_of_mem_snapshots (ht : r.types.Coherent) (hc : c.Settled r)
    {command : Command} {s : Snapshot}
    (hmem : s ∈ command.snapshots (c.simulation.perform command).1) :
    s.Settled r.types c.world := by
  cases command with
  | save n =>
      rw [List.mem_singleton.mp hmem]
      apply Computer.settled_save ht
      intro h hin
      exact hc.handles h (List.mem_append_right _ (List.mem_append_left _
        (Simulation.mem_globalHandles_of_computer hin)))
  | _ => cases hmem

theorem Settled.command (hr : r.Honest) (ht : r.types.Coherent)
    (hc : c.Settled r) {command : Command} (hfair : c.Fair (.command command))
    (hspent : c.world.Unspent (command.worldOps c.simulation)) :
    (c.perform (.command command)).Settled r := by
  have htypes : c.simulation.bridge.types = r.types :=
    congrArg Registry.types hc.registry
  have hworld := Simulation.world_perform hc.sound command
  have hkept {h : Handle} (hsettled : r.types.Settled c.world h) :
      r.types.Settled (c.simulation.perform command).2.bridge.world h := by
    rw [hworld]
    exact hsettled.performAll hc.tidy hspent
  have hgiven : forall h, h ∈ command.given ->
      r.types.Settled c.world h :=
    fun h hmem => hc.handles h (hfair.offers h hmem)
  have hdone := Simulation.settled_perform
    (by rw [hc.registry]; exact hr) hc.upright (c := command)
    (by rw [htypes]; exact hgiven)
    (by
      intro n text heq s hs
      rw [htypes]
      apply hc.saved s
      apply hfair.restores s
      rw [heq]
      exact hs)
    hspent
  rw [htypes] at hdone
  constructor
  · exact (Simulation.registry_perform _ command).trans hc.registry
  · unfold world perform
    dsimp only
    rw [hworld]
    exact hc.sound.performAll _
  · unfold world perform
    dsimp only
    rw [hworld]
    exact hc.tidy.performAll _
  -- A handle was given, now or before, or it is in a global or in a field.
  · intro h hmem
    rcases List.mem_append.mp hmem with hmem | hmem
    · rcases List.mem_append.mp hmem with hmem | hmem
      · exact hkept (hc.handles h (List.mem_append_left _ hmem))
      · exact hdone.2 h hmem
    · rcases List.mem_append.mp hmem with hmem | hmem
      · rcases Simulation.mem_globalHandles_perform hmem with
          hmem | hmem | hmem
        · exact hkept (hc.handles h (List.mem_append_right _
            (List.mem_append_left _ hmem)))
        · exact hkept (hgiven h hmem)
        · exact hdone.2 h hmem
      · exact hdone.1 h hmem
  · intro s hmem globals hload h hin
    apply hkept
    rcases List.mem_append.mp hmem with hmem | hmem
    · exact hc.saved s hmem globals hload h hin
    · exact settled_of_mem_snapshots ht hc hmem globals hload h hin

/-- No fair move brings an unsettled handle into circulation. -/
theorem Settled.perform (hr : r.Honest) (ht : r.types.Coherent)
    (hc : c.Settled r) {m : Move} (hfair : c.Fair m)
    (hspent : c.world.Unspent (c.moveOps m)) : (c.perform m).Settled r := by
  have htypes : c.simulation.bridge.types = r.types :=
    congrArg Registry.types hc.registry
  cases m with
  | command command => exact hc.command hr ht hfair hspent
  | object target =>
      apply hc.given
      intro h hmem
      rw [← htypes]
      exact TypeTable.settled_of_mem_objectValue hmem
  | cls id =>
      apply hc.given
      intro h hmem
      rw [← htypes]
      exact TypeTable.settled_of_mem_classValue hmem
  | restore n s => exact hc.restore n (hfair.restores s rfl)

theorem world_perform (hsound : c.world.Sound) (m : Move) :
    (c.perform m).world = c.world.performAll (c.moveOps m) := by
  cases m with
  | command command => exact Simulation.world_perform hsound command
  | object target => rfl
  | cls id => rfl
  | restore n s =>
      unfold perform world
      dsimp only
      cases Computer.load c.simulation.bridge.types s <;> rfl

theorem Settled.run (hr : r.Honest) (ht : r.types.Coherent)
    (hc : c.Settled r) {moves : List Move} (hfair : c.FairRun moves)
    (hspent : c.world.Unspent (c.worldOps moves)) :
    (c.run moves).Settled r := by
  induction moves generalizing c with
  | nil => exact hc
  | cons m rest ih =>
      rcases hfair with ⟨hfirst, hrest⟩
      have hlater := hspent.right hc.tidy
      rw [← world_perform hc.sound] at hlater
      exact ih (hc.perform hr ht hfirst hspent.left) hrest hlater

end Settled

structure Right (t : TypeTable) (c : Circulation) : Prop where
  circulating (h : Handle) : h ∈ c.handles -> t.Right c.world h
  handedIn {m : Move} : c.Fair m ->
    forall h, h ∈ offers m -> t.Right c.world h

theorem worldOps_append (c : Circulation) (moves more : List Move) :
    c.worldOps (moves ++ more) =
      c.worldOps moves ++ (c.run moves).worldOps more := by
  induction moves generalizing c with
  | nil => rfl
  | cons m rest ih =>
      rw [List.cons_append, worldOps, ih, worldOps, run, List.append_assoc]

theorem fairRun_append_iff (c : Circulation) (moves more : List Move) :
    c.FairRun (moves ++ more) ↔
      c.FairRun moves ∧ (c.run moves).FairRun more := by
  induction moves generalizing c with
  | nil => simp [FairRun, run]
  | cons m rest ih =>
      rw [List.cons_append, FairRun, FairRun, ih, run, and_assoc]

/--
In every run over one registry with honest bodies, in which scripts hand in what
they were given and restore what was saved, and in which no slot is vacated as
often as there are generations, all handles are right at all times.
-/
theorem handles_right (mark : String) (registrations : List Registration)
    (settings : Settings) {registry : Registry}
    (hsealed :
      registry = ((Draft.empty mark).registerAll registrations).sealed)
    (hhonest : forall registration, registration ∈ registrations ->
      registration.Honest registry.types)
    {moves : List Move} (hfair : (start registry settings).FairRun moves)
    (hlasting : forall index,
      World.empty.destructions index
        ((start registry settings).worldOps moves) < UInt32.size)
    {before after : List Move} (hsplit : moves = before ++ after) :
    ((start registry settings).run before).Right registry.types := by
  have hspent := World.unspent_empty hlasting
  rw [hsplit] at hfair hspent
  rw [worldOps_append] at hspent
  have hsettled : ((start registry settings).run before).Settled registry :=
    (settled_start registry settings).run
      (Registry.honest_sealed hsealed hhonest)
      (Registry.coherent_of_sealed hsealed).types
      ((fairRun_append_iff _ before after).mp hfair).1 hspent.left
  constructor
  · intro h hmem
    exact (hsettled.handles h hmem).right
  · intro m hm h hmem
    exact (hsettled.handles h (hm.offers h hmem)).right

def restores : Move -> Bool
  | .command (.load _ _) => true
  | .restore _ _ => true
  | _ => false

def checkFair (c : Circulation) : List Move -> Bool
  | [] => true
  | m :: rest =>
      !restores m && decide (forall h, h ∈ offers m -> h ∈ c.handles) &&
        checkFair (c.perform m) rest

theorem fairRun_of_checkFair {c : Circulation} {moves : List Move}
    (h : c.checkFair moves = true) : c.FairRun moves := by
  induction moves generalizing c with
  | nil => trivial
  | cons m rest ih =>
      rw [checkFair, Bool.and_eq_true, Bool.and_eq_true] at h
      refine ⟨⟨of_decide_eq_true h.1.2, ?_⟩, ih h.2⟩
      intro s hs
      have hrestores : restores m = true := by
        unfold Restores at hs
        split at hs
        · rfl
        · rfl
        · exact hs.elim
      rw [hrestores] at h
      cases h.1.1

theorem destructions_le_length (w : World) (index : UInt32)
    (ops : List WorldOp) : w.destructions index ops ≤ ops.length := by
  induction ops generalizing w with
  | nil => exact Nat.le_refl 0
  | cons op rest ih =>
      have hfirst : (op.vacates w index).toNat ≤ 1 := Bool.toNat_le _
      have hrest := ih (op.perform w).2
      rw [World.destructions, List.length_cons]
      omega

end Circulation

/-!
## Partners

A lamp keeps a handle to its partner in a field.  The partner is destroyed, a
hub takes its slot, and a computer that was saved before comes back.
-/

namespace Lamps

def partnerRegistrations : List Registration :=
  registrations ++
    [.type lamp.id "LampClass" .cls,
      .property lamp.id "partner"
        (MemberStep.property [.getField "partner" ⟨"lamp", false⟩]
          (some [.setField "partner" ⟨"lamp", false⟩]))]

def partnerRegistry : Registry :=
  ((Draft.empty "netFunc_").registerAll partnerRegistrations).sealed

def partners : Circulation :=
  .start partnerRegistry .default

def pairing : List Move :=
  [.command (.spawn lampObject), .command (.spawn dimmerObject),
    .object ⟨0, 0⟩, .object ⟨1, 0⟩, .cls dimmer.id,
    .command (.assign 0 (.object lampHandle) "partner"
      (.handle (.object dimmerHandle))),
    .command (.index 0 (.object lampHandle) "partner"),
    .command (.setGlobal 0 "partners"
      (.array [.handle (.object dimmerHandle)])),
    .command (.destroy ⟨1, 0⟩), .command (.spawn hubObject),
    .object ⟨1, 1⟩]

/-- The computer of the pair is saved, and comes back as another one. -/
def returning : List Move :=
  [.command (.save 0),
    .restore 1 ((partners.run pairing).simulation.computer 0).save]

theorem honest_partnerRegistrations (t : TypeTable) :
    forall r, r ∈ partnerRegistrations -> r.Honest t := by
  have hclass (c : NativeClass) (text : String)
      (hc : c.functions = [describe text]) :
      (Registration.cls c).Honest t := by
    intro f hf
    rw [hc, List.mem_singleton] at hf
    rw [hf]
    exact NativeStep.honest_body t _
  intro r hr
  simp only [partnerRegistrations, registrations, List.mem_append,
    List.mem_cons, List.not_mem_nil, or_false] at hr
  rcases hr with (rfl | rfl | rfl | rfl | rfl) | rfl | rfl
  · exact hclass lamp "lamp" rfl
  · exact hclass dimmer "dimmer" rfl
  · intro f hf
    cases hf
  · trivial
  · trivial
  · trivial
  · apply Registration.honest_property
    · intro step hstep
      rw [List.mem_singleton.mp hstep]
      rfl
    · intro steps hsteps step hstep
      cases hsteps
      rw [List.mem_singleton.mp hstep]
      rfl

theorem fairRun_pairing : partners.FairRun (pairing ++ returning) := by
  rw [Circulation.fairRun_append_iff]
  refine ⟨Circulation.fairRun_of_checkFair (by decide +kernel), ?_, ?_,
    trivial⟩
  · constructor
    · intro h hmem
      cases hmem
    · intro s hs
      cases hs
  · constructor
    · intro h hmem
      cases hmem
    · intro s hs
      cases hs
      exact List.mem_append_right _ List.mem_cons_self

theorem handles_right_pairing :
    (forall r, r ∈ partnerRegistrations ->
        r.Honest partnerRegistry.types) ∧
      partners.FairRun (pairing ++ returning) ∧
      (forall index,
        World.empty.destructions index
          (partners.worldOps (pairing ++ returning)) < UInt32.size) ∧
      Handle.object ⟨.direct ⟨1, 1⟩, ⟨hub.id, "Hub"⟩⟩ ∈
        (partners.run pairing).handles ∧
      (partners.run (pairing ++ returning)).Right partnerRegistry.types := by
  have hhonest := honest_partnerRegistrations partnerRegistry.types
  have hlasting : forall index,
      World.empty.destructions index
        (partners.worldOps (pairing ++ returning)) < UInt32.size := by
    intro index
    apply Nat.lt_of_le_of_lt (Circulation.destructions_le_length _ _ _)
    -- Saving and restoring do nothing to the world.
    have hreturning : (partners.run pairing).worldOps returning = [] := rfl
    rw [Circulation.worldOps_append, hreturning, List.append_nil]
    decide +kernel
  refine ⟨hhonest, fairRun_pairing, hlasting, by decide +kernel, ?_⟩
  exact Circulation.handles_right "netFunc_" partnerRegistrations .default
    rfl hhonest fairRun_pairing hlasting (List.append_nil _).symm

end Lamps

end ScriptBridge
