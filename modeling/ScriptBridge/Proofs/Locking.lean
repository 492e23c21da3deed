import ScriptBridge.Proofs.Destruction
import ScriptBridge.Proofs.Fitting
import ScriptBridge.Proofs.Occupancy

/-!
# The table of call locks

The table of locks is the history of the native bodies and of the destructions:
it has an entry for a reference exactly if a native body was started on the
object and the bridge has not destroyed the object since.  Nothing else that
scripts do adds an entry.

A native body is started on a live object only.  So while objects are destroyed
through the bridge alone, an entry stays no longer than its object, and there
are never more entries than objects.
-/

namespace ScriptBridge

/-!
## The table after a history
-/

inductive LockEvent where
  /-- A native body was started on the object that a reference reaches. -/
  | started (r : ObjectRef)
  /-- The bridge destroyed the object that a reference reached. -/
  | destroyed (r : ObjectRef)

namespace LockTable

def after (t : LockTable) : List LockEvent -> LockTable
  | [] => t
  | .started r :: rest => (t.claim r).after rest
  | .destroyed r :: rest => (t.evict r).2.after rest

theorem after_append (t : LockTable) (events more : List LockEvent) :
    t.after (events ++ more) = (t.after events).after more := by
  induction events generalizing t with
  | nil => rfl
  | cons e rest ih =>
      cases e with
      | started r => exact ih (t.claim r)
      | destroyed r => exact ih (t.evict r).2

theorem contains_claim (t : LockTable) (r other : ObjectRef) :
    (t.claim r).contains other = true ↔
      other = r ∨ t.contains other = true := by
  unfold claim contains Table.contains
  rw [Table.get?_put]
  by_cases h : other = r
  · simp [h]
  · simp [h]

theorem contains_evict (t : LockTable) (r other : ObjectRef) :
    (t.evict r).2.contains other = true ↔
      other ≠ r ∧ t.contains other = true := by
  unfold evict contains Table.contains
  dsimp only
  rw [Table.get?_erase]
  by_cases h : other = r
  · simp [h]
  · simp [h]

/-- A body was started on an object that was not destroyed since. -/
def Held (events : List LockEvent) (r : ObjectRef) : Prop :=
  exists before after,
    events = before ++ .started r :: after ∧ .destroyed r ∉ after

theorem not_held_nil (r : ObjectRef) : ¬ Held [] r := by
  intro h
  rcases h with ⟨before, after, heq, _⟩
  cases before <;> cases heq

theorem held_cons_iff (e : LockEvent) (rest : List LockEvent)
    (r : ObjectRef) :
    Held (e :: rest) r ↔
      Held rest r ∨ e = .started r ∧ .destroyed r ∉ rest := by
  constructor
  · intro h
    rcases h with ⟨before, after, heq, hkept⟩
    cases before with
    | nil =>
        cases heq
        exact Or.inr ⟨rfl, hkept⟩
    | cons first before =>
        cases heq
        exact Or.inl ⟨before, after, rfl, hkept⟩
  · intro h
    rcases h with h | ⟨heq, hkept⟩
    · rcases h with ⟨before, after, heq, hkept⟩
      exact ⟨e :: before, after, by rw [heq, List.cons_append], hkept⟩
    · exact ⟨[], rest, by rw [heq, List.nil_append], hkept⟩

/-- The entries after a history are those that it made, and older ones that it did not drop. -/
theorem contains_after_iff (t : LockTable) (events : List LockEvent)
    (r : ObjectRef) :
    (t.after events).contains r = true ↔
      Held events r ∨
        t.contains r = true ∧ .destroyed r ∉ events := by
  -- The first event acts on the table, so the claim is about every table.
  induction events generalizing t with
  | nil => simp [after, not_held_nil]
  | cons e rest ih =>
      rw [held_cons_iff]
      cases e with
      | started other =>
          rw [after, ih, contains_claim]
          grind
      | destroyed other =>
          rw [after, ih, contains_evict]
          grind

theorem contains_after_empty_iff (events : List LockEvent) (r : ObjectRef) :
    (empty.after events).contains r = true ↔ Held events r := by
  rw [contains_after_iff]
  apply or_iff_left
  intro h
  cases h.1

theorem size_le_population {t : LockTable} {w : World} (hw : w.Tidy)
    (hlive : forall r, t.contains r = true -> w.contains r = true) :
    t.size ≤ w.population := by
  have hsize : t.size = t.entries.keys.length := by
    unfold size Table.size Table.keys
    rw [List.length_map]
  rw [hsize, hw.population_eq]
  apply t.entries.keys_nodup.length_le_of_subset
  intro r hr
  exact World.mem_liveRefs_of_contains
    (hlive r ((Table.contains_iff t.entries r).mpr hr))

end LockTable

/-!
## What scripts make of the table
-/

def HostEvent.lockEvent? (e : HostEvent) : Option LockEvent :=
  e.started?.map (fun path => .started path.target)

theorem HostEvent.locks_after (b : Bridge) (e : HostEvent) :
    (e.after b).locks = b.locks.after e.lockEvent?.toList := by
  cases e with
  | renamed id nick => rfl
  | ran run =>
      cases run with
      | getter p c => rfl
      | setter set c v => rfl
      | function body c args => rfl
      | classFunction body c args => rfl
      | native f path id frame =>
          unfold HostEvent.after HostRun.outcome
          dsimp only
          cases ((f.function.body id).run NativeOp.perform
            (b.world, frame)).1 with
          | error cause => rfl
          | ok done => rfl

namespace Bridge

theorem locks_afterAll (b : Bridge) (events : List HostEvent) :
    (b.afterAll events).locks =
      b.locks.after (events.filterMap HostEvent.lockEvent?) := by
  induction events generalizing b with
  | nil => rfl
  | cons e rest ih =>
      rw [afterAll, ih, e.locks_after, ← LockTable.after_append]
      cases he : e.lockEvent? with
      | none =>
          rw [List.filterMap_cons_none he]
          rfl
      | some event =>
          rw [List.filterMap_cons_some he]
          rfl

theorem locks_afterAll_of_unstarted {b : Bridge} {events : List HostEvent}
    (h : forall e, e ∈ events -> e.started? = none) :
    (b.afterAll events).locks = b.locks := by
  have hnone : events.filterMap HostEvent.lockEvent? = [] := by
    apply List.filterMap_eq_nil_iff.mpr
    intro e he
    rw [HostEvent.lockEvent?, h e he]
    rfl
  rw [locks_afterAll, hnone]
  rfl

end Bridge

namespace Operation

theorem locks_perform_of_unstarted {d : Dispatcher} {b : Bridge}
    (op : Operation)
    (h : forall e, e ∈ (op.journal d b).events -> e.started? = none) :
    (op.perform d b).2.locks = b.locks := by
  rw [op.bridge_perform]
  exact Bridge.locks_afterAll_of_unstarted h

theorem unstarted_journalIndex {d : Dispatcher} {b : Bridge} {h : Handle}
    {name : String} {e : HostEvent}
    (he : e ∈ (journalIndex d b h name).events) : e.started? = none := by
  unfold journalIndex at he
  cases h with
  | cls h => cases he
  | object h =>
      dsimp only at he
      cases hmeaning : b.meaning h name with
      | error cause =>
          rw [hmeaning] at he
          cases he
      | ok meaning =>
          rw [hmeaning] at he
          cases meaning with
          | text text => cases he
          | members => cases he
          | function o => cases he
          | property path property =>
              rw [List.mem_singleton.mp he]
              rfl

theorem unstarted_journalAssign {b : Bridge} {h : Handle} {name : String}
    {v : Value} {e : HostEvent}
    (he : e ∈ (journalAssign b h name v).events) : e.started? = none := by
  unfold journalAssign at he
  cases h with
  | cls h => cases he
  | object h =>
      dsimp only at he
      split at he
      · cases he
      · split at he
        · split at he
          · cases he
          · cases he
          · cases he
          · rw [List.mem_singleton.mp he]
            rfl
        · split at he
          · cases he
          · split at he
            · cases he
            · rw [List.mem_singleton.mp he]
              rfl

theorem unstarted_journalCall {b : Bridge} {m : Member} {receiver : Value}
    {args : List Value} {e : HostEvent}
    (hkind : forall declaring, m.kind ≠ .reflected declaring)
    (he : e ∈ (journalCall b m receiver args).events) :
    e.started? = none := by
  cases hstarted : e.started? with
  | none => rfl
  | some path =>
      rcases HostEvent.exists_of_started? hstarted with ⟨f, id, frame, rfl⟩
      rcases Bridge.prepareNative_of_prepare
        (Bridge.prepared_of_ran he).1 with ⟨declaring, h, hreflected, _⟩
      exact absurd hreflected (hkind declaring)

end Operation

theorem Bridge.unstarted_displayEvents {b : Bridge} {h : Handle}
    {e : HostEvent} (he : e ∈ b.displayEvents h) : e.started? = none := by
  unfold displayEvents at he
  cases h with
  | object h => cases he
  | cls h =>
      dsimp only at he
      split at he
      · cases he
      · rw [List.mem_singleton.mp he]
        rfl

structure Bridge.LocksOnlyForBodies (b : Bridge) : Prop where
  index (d : Dispatcher) (h : Handle) (name : String) :
    (d.index b h name).2.1.locks = b.locks
  assign (h : Handle) (name : String) (v : Value) :
    (b.assign h name v).2.locks = b.locks
  display (h : Handle) : (b.display h).2.locks = b.locks
  /-- Registered functions, and the listing of members. -/
  call {m : Member} (receiver : Value) (args : List Value) :
    (forall declaring, m.kind ≠ .reflected declaring) ->
    (b.call m receiver args).2.locks = b.locks
  /-- A call that is refused, for whatever reason, changes nothing at all. -/
  refused {m : Member} {receiver : Value} {args : List Value}
      {cause : BridgeError} :
    b.prepare m receiver args = .error cause ->
    b.call m receiver args = (.error cause, b)
  /-- Arguments that cannot be converted are such a reason. -/
  marshal {m : Member} {declaring : ClassId} {h : InstanceHandle}
      {args : List Value} {f : DeclaredFunction} {cause : BridgeError} :
    m.kind = .reflected declaring ->
    b.types.nativeFunction? declaring m.name = some f ->
    b.types.frame b.world f.function.parameters args = .error cause ->
    exists refusal,
      b.prepare m (.handle (.object h)) args = .error refusal
  /-- A receiver that is gone is one as well. -/
  stale (m : Member) {h : InstanceHandle} (args : List Value) :
    b.world.get? h.path.target = none ->
    exists refusal,
      b.prepare m (.handle (.object h)) args = .error refusal
  staleMethod (d : Dispatcher) {h : InstanceHandle} (name : String)
      (args : List Value) :
    b.world.get? h.path.target = none ->
    (d.callMethod b (.object h) name args).2.1 = b

theorem Bridge.object_of_stale {b : Bridge} {h : InstanceHandle}
    (hstale : b.world.get? h.path.target = none) :
    b.object h = .error .instanceInvalid := by
  rw [object, hstale]

theorem Bridge.refused_of_marshal {b : Bridge} {m : Member}
    {declaring : ClassId} {h : InstanceHandle} {args : List Value}
    {f : DeclaredFunction} {cause : BridgeError}
    (hkind : m.kind = .reflected declaring)
    (hf : b.types.nativeFunction? declaring m.name = some f)
    (hframe : b.types.frame b.world f.function.parameters args =
      .error cause) :
    exists refusal,
      b.prepare m (.handle (.object h)) args = .error refusal := by
  obtain ⟨name, owner, kind⟩ := m
  cases hkind
  cases hprepare : b.prepare ⟨name, owner, .reflected declaring⟩
      (.handle (.object h)) args with
  | error refusal => exact ⟨refusal, rfl⟩
  | ok prepared =>
      have hnative : b.prepareNative ⟨name, owner, .reflected declaring⟩
          declaring h args = .ok prepared := hprepare
      rcases prepareNative_eq_ok hnative with
        ⟨o, g, path, frame, _, _, hg, _, hfilled⟩
      rw [hf] at hg
      cases hg
      rw [hframe] at hfilled
      cases hfilled

theorem Bridge.refused_of_stale {b : Bridge} (m : Member)
    {h : InstanceHandle} (args : List Value)
    (hstale : b.world.get? h.path.target = none) :
    exists refusal,
      b.prepare m (.handle (.object h)) args = .error refusal := by
  by_cases hkind : m.kind = .classLibrary
  · obtain ⟨name, owner, kind⟩ := m
    cases hkind
    exact ⟨_, rfl⟩
  · exact ⟨_, prepare_of_object_error (object_of_stale hstale) hkind args⟩

theorem Bridge.locksOnlyForBodies (b : Bridge) : b.LocksOnlyForBodies := by
  constructor
  case index =>
    intro d h name
    exact Operation.locks_perform_of_unstarted (d := d) (.index h name)
      (fun e he => Operation.unstarted_journalIndex he)
  case assign =>
    intro h name v
    exact Operation.locks_perform_of_unstarted (d := .fresh)
      (.assign h name v)
      (fun e he => Operation.unstarted_journalAssign he)
  case display =>
    intro h
    rw [bridge_display]
    exact locks_afterAll_of_unstarted
      (fun e he => unstarted_displayEvents he)
  case call =>
    intro m receiver args hkind
    exact Operation.locks_perform_of_unstarted (d := .fresh)
      (.call m receiver args)
      (fun e he => Operation.unstarted_journalCall hkind he)
  case refused =>
    intro m receiver args cause hprepare
    rw [call, hprepare]
  case marshal =>
    intro m declaring h args f cause hkind hf hframe
    exact refused_of_marshal hkind hf hframe
  case stale =>
    intro m h args hstale
    exact refused_of_stale m args hstale
  case staleMethod =>
    intro d h name args hstale
    have hindex : d.index b (.object h) name =
        (.error .instanceInvalid, b, d) := by
      rw [Dispatcher.index, Dispatcher.indexObject, meaning,
        object_of_stale hstale]
    rw [Dispatcher.callMethod, hindex]

/-!
## Bodies start on live objects
-/

/-- Every native body among some events is started on an object that is alive by then. -/
def Bridge.StartsLive (b : Bridge) : List HostEvent -> Prop
  | [] => True
  | e :: rest =>
      (forall path, e.started? = some path ->
        b.world.contains path.target = true) ∧
      (e.after b).StartsLive rest

namespace Bridge

theorem startsLive_append {b : Bridge} {events more : List HostEvent}
    (h : b.StartsLive events) (hmore : (b.afterAll events).StartsLive more) :
    b.StartsLive (events ++ more) := by
  induction events generalizing b with
  | nil => exact hmore
  | cons e rest ih => exact ⟨h.1, ih h.2 hmore⟩

theorem startsLive_of_unstarted {b : Bridge} {events : List HostEvent}
    (h : forall e, e ∈ events -> e.started? = none) :
    b.StartsLive events := by
  induction events generalizing b with
  | nil => trivial
  | cons e rest ih =>
      constructor
      · intro path hstarted
        rw [h e List.mem_cons_self] at hstarted
        cases hstarted
      · exact ih (fun e he => h e (List.mem_cons_of_mem _ he))

/-- A call makes the host do one thing at most. -/
theorem startsLive_journalCall (b : Bridge) (m : Member) (receiver : Value)
    (args : List Value) :
    b.StartsLive (Operation.journalCall b m receiver args).events := by
  have hlive : forall e,
      e ∈ (Operation.journalCall b m receiver args).events ->
      forall path, e.started? = some path ->
        b.world.contains path.target = true := by
    intro e he path hstarted
    rcases HostEvent.exists_of_started? hstarted with ⟨f, id, frame, rfl⟩
    exact World.contains_of_occupant? (prepared_of_ran he).2
  have haccounted := Operation.accounted_journalCall b m receiver args
  generalize Operation.journalCall b m receiver args = j at hlive haccounted
  cases haccounted with
  | refused cause => trivial
  | answered reply => trivial
  | renamed id nick reply => exact ⟨hlive _ List.mem_cons_self, trivial⟩
  | ran run read => exact ⟨hlive _ List.mem_cons_self, trivial⟩

theorem startsLive_journalMethod (d : Dispatcher) (b : Bridge) (h : Handle)
    (name : String) (args : List Value) :
    b.StartsLive (d.journalMethod b h name args).events := by
  have hindex :=
    (Operation.accounted_journalIndex d b h name).bridge_outcome
  have hlookUp : b.StartsLive (Operation.journalIndex d b h name).events :=
    startsLive_of_unstarted (fun e he => Operation.unstarted_journalIndex he)
  rcases d.journalMethod_cases b h name args with
    ⟨m, b', hfound, heq⟩ | ⟨cause, heq⟩
  · rw [hfound] at hindex
    dsimp only at hindex
    rw [heq]
    apply startsLive_append hlookUp
    rw [← hindex]
    exact b'.startsLive_journalCall m (.handle h) args
  · rw [heq]
    exact hlookUp

def LocksLive (b : Bridge) : Prop :=
  forall r, b.locks.contains r = true -> b.world.contains r = true

theorem LocksLive.afterAll {b : Bridge} (h : b.LocksLive)
    (hw : b.world.Tidy) {events : List HostEvent}
    (hstarts : b.StartsLive events)
    (hops : forall r, WorldOp.destroy r ∉ b.worldOps events) :
    (b.afterAll events).LocksLive := by
  induction events generalizing b with
  | nil => exact h
  | cons e rest ih =>
      have hkept (r : ObjectRef) : WorldOp.destroy r ∉ e.worldOps b := by
        intro hmem
        exact hops r (List.mem_append_left _ hmem)
      have hstep : (e.after b).LocksLive := by
        intro r hr
        have hlive : b.world.contains r = true := by
          rw [e.locks_after] at hr
          unfold HostEvent.lockEvent? at hr
          cases hstarted : e.started? with
          | none =>
              rw [hstarted] at hr
              exact h r hr
          | some path =>
              rw [hstarted] at hr
              rcases (LockTable.contains_claim _ _ _).mp hr with heq | hold
              · rw [heq]
                exact hstarts.1 path hstarted
              · exact h r hold
        rw [e.world_after]
        exact hw.contains_performAll hlive (hkept r)
      apply ih hstep
      · rw [e.world_after]
        exact hw.performAll _
      · exact hstarts.2
      · intro r hmem
        exact hops r (List.mem_append_right _ hmem)

end Bridge

/-!
## Commands
-/

def WorldOp.isDestroy : WorldOp -> Bool
  | .destroy _ => true
  | _ => false

namespace Command

def onLocks : Command -> Bool
  | .lock _ => true
  | .evict _ => true
  | _ => false

/-- A command asks the world to destroy something, past the bridge. -/
def destroysPastBridge (s : Simulation) : Command -> Bool
  | .destroy _ => false
  | c => (c.worldOps s).any WorldOp.isDestroy

def lockEvents (s : Simulation) : Command -> List LockEvent
  | .destroy r => if (s.bridge.destroy r).1 then [.destroyed r] else []
  | c => (c.events s).filterMap HostEvent.lockEvent?

theorem startsLive_events (s : Simulation) (c : Command) :
    s.bridge.StartsLive (c.events s) := by
  cases c with
  | index n h name =>
      exact Bridge.startsLive_of_unstarted
        (fun e he => Operation.unstarted_journalIndex he)
  | assign n h name v =>
      exact Bridge.startsLive_of_unstarted
        (fun e he => Operation.unstarted_journalAssign he)
  | callMethod n h name args =>
      exact Bridge.startsLive_journalMethod _ s.bridge h name args
  | call n m receiver args =>
      exact s.bridge.startsLive_journalCall m receiver args
  | display n h =>
      exact Bridge.startsLive_of_unstarted
        (fun e he => Bridge.unstarted_displayEvents he)
  | _ => trivial

theorem lockEvents_eq {c : Command} (hdestroy : forall r, c ≠ .destroy r)
    (s : Simulation) :
    c.lockEvents s = (c.events s).filterMap HostEvent.lockEvent? := by
  cases c with
  | destroy r => exact absurd rfl (hdestroy r)
  | _ => rfl

theorem not_mem_worldOps {s : Simulation} {c : Command}
    (hdestroy : forall r, c ≠ .destroy r)
    (h : c.destroysPastBridge s = false) (r : ObjectRef) :
    WorldOp.destroy r ∉ c.worldOps s := by
  have hnone : (c.worldOps s).any WorldOp.isDestroy = false := by
    cases c with
    | destroy r => exact absurd rfl (hdestroy r)
    | _ => exact h
  intro hmem
  exact List.any_eq_false.mp hnone _ hmem rfl

end Command

namespace Simulation

theorem bridge_perform (s : Simulation) {c : Command}
    (hlocks : c.onLocks = false) (hdestroy : forall r, c ≠ .destroy r) :
    ((s.perform c).2.bridge = s.bridge.afterAll (c.events s) ∧
      c.worldOps s = s.bridge.worldOps (c.events s)) ∨
    (c.events s = [] ∧
      exists w, (s.perform c).2.bridge = { s.bridge with world := w }) := by
  cases c with
  | destroy r => exact absurd rfl (hdestroy r)
  | lock r => cases hlocks
  | evict r => cases hlocks
  | spawn o => exact Or.inr ⟨rfl, _, rfl⟩
  | respawn r =>
      refine Or.inr ⟨rfl, ?_⟩
      unfold perform
      dsimp only
      cases s.bridge.world.occupant? r with
      | none => exact ⟨s.bridge.world, rfl⟩
      | some id => exact ⟨_, rfl⟩
  | change r c =>
      refine Or.inr ⟨rfl, ?_⟩
      unfold perform
      dsimp only
      cases s.bridge.world.occupant? r with
      | none => exact ⟨s.bridge.world, rfl⟩
      | some id => exact ⟨_, rfl⟩
  | remove r => exact Or.inr ⟨rfl, _, rfl⟩
  | index n h name =>
      exact Or.inl
        ⟨Operation.bridge_perform _ s.bridge (.index h name), rfl⟩
  | assign n h name v =>
      exact Or.inl
        ⟨Operation.bridge_perform .fresh s.bridge (.assign h name v), rfl⟩
  | callMethod n h name args =>
      exact Or.inl ⟨Dispatcher.bridge_callMethod _ s.bridge h name args, rfl⟩
  | call n m receiver args =>
      exact Or.inl
        ⟨Operation.bridge_perform .fresh s.bridge (.call m receiver args),
          rfl⟩
  | display n h => exact Or.inl ⟨s.bridge.bridge_display h, rfl⟩
  | load n text =>
      refine Or.inl ⟨?_, rfl⟩
      unfold perform
      dsimp only
      cases Computer.loadText s.bridge.types text <;> rfl
  | _ => exact Or.inl ⟨rfl, rfl⟩

theorem locks_perform (s : Simulation) {c : Command}
    (hc : c.onLocks = false) :
    (s.perform c).2.bridge.locks =
      s.bridge.locks.after (c.lockEvents s) := by
  by_cases hdestroy : exists r, c = .destroy r
  · rcases hdestroy with ⟨r, rfl⟩
    unfold perform Command.lockEvents Bridge.destroy
    dsimp only
    cases (s.bridge.world.destroy r).1 <;> rfl
  · have hother := not_exists.mp hdestroy
    rw [Command.lockEvents_eq hother]
    rcases s.bridge_perform hc hother with
      ⟨hbridge, _⟩ | ⟨hevents, w, hbridge⟩
    · rw [hbridge, Bridge.locks_afterAll]
    · rw [hbridge, hevents]
      rfl

/-- Destroying an object through the bridge drops its entry, and no other reference dies. -/
theorem locksLive_destroy {s : Simulation} (h : s.bridge.LocksLive)
    (hw : s.bridge.world.Tidy) (r : ObjectRef) :
    (s.perform (.destroy r)).2.bridge.LocksLive := by
  intro other hcontains
  have hmoved := hw.moved_perform (.destroy r)
  rw [locks_perform s rfl] at hcontains
  unfold Command.lockEvents Bridge.destroy World.destroy at hcontains
  unfold perform Bridge.destroy
  dsimp only at hcontains ⊢
  unfold WorldOp.perform at hmoved
  dsimp only at hmoved
  by_cases hlive : s.bridge.world.contains r = true
  · rw [if_pos hlive] at hcontains
    rcases (LockTable.contains_evict _ _ _).mp hcontains with ⟨hne, hold⟩
    rcases World.exists_occupant?_of_contains (h other hold) with
      ⟨id, hoccupant⟩
    refine World.contains_of_occupant? (?_ : _ = some id)
    apply hmoved.occupant? hoccupant
    intro heq
    cases heq
    exact hne rfl
  · rw [if_neg hlive] at hcontains
    rw [World.destroy, if_neg hlive]
    exact h other hcontains

theorem locksLive_perform {s : Simulation} (h : s.bridge.LocksLive)
    (hs : s.bridge.world.Sound) (hw : s.bridge.world.Tidy) {c : Command}
    (hc : c.onLocks = false) (hthrough : c.destroysPastBridge s = false) :
    (s.perform c).2.bridge.LocksLive := by
  by_cases hdestroy : exists r, c = .destroy r
  · rcases hdestroy with ⟨r, rfl⟩
    exact locksLive_destroy h hw r
  · have hother := not_exists.mp hdestroy
    have hops := Command.not_mem_worldOps hother hthrough
    rcases s.bridge_perform hc hother with
      ⟨hbridge, hworld⟩ | ⟨_, w, hbridge⟩
    · rw [hbridge]
      apply h.afterAll hw (c.startsLive_events s)
      intro r
      rw [← hworld]
      exact hops r
    · intro r hcontains
      rw [hbridge] at hcontains
      rw [world_perform hs]
      exact hw.contains_performAll (h r hcontains) (hops r)

/-!
## Runs
-/

def lockEvents (s : Simulation) : List Command -> List LockEvent
  | [] => []
  | c :: rest => c.lockEvents s ++ lockEvents (s.perform c).2 rest

def destroysPastBridge (s : Simulation) : List Command -> Bool
  | [] => false
  | c :: rest =>
      c.destroysPastBridge s || destroysPastBridge (s.perform c).2 rest

theorem locks_run (s : Simulation) {cs : List Command}
    (hcs : forall c, c ∈ cs -> c.onLocks = false) :
    (s.run cs).bridge.locks = s.bridge.locks.after (s.lockEvents cs) := by
  induction cs generalizing s with
  | nil => rfl
  | cons c rest ih =>
      rw [run, lockEvents, LockTable.after_append,
        ← s.locks_perform (hcs c List.mem_cons_self)]
      exact ih (s.perform c).2
        (fun c hc => hcs c (List.mem_cons_of_mem _ hc))

theorem locksLive_run {s : Simulation} (h : s.bridge.LocksLive)
    (hs : s.bridge.world.Sound) (hw : s.bridge.world.Tidy)
    {cs : List Command} (hcs : forall c, c ∈ cs -> c.onLocks = false)
    (hthrough : s.destroysPastBridge cs = false) :
    (s.run cs).bridge.LocksLive := by
  induction cs generalizing s with
  | nil => exact h
  | cons c rest ih =>
      rcases Bool.or_eq_false_iff.mp hthrough with ⟨hfirst, hrest⟩
      have hc := hcs c List.mem_cons_self
      have hworld := world_perform hs c
      apply ih (locksLive_perform h hs hw hc hfirst)
      · rw [hworld]
        exact hs.performAll _
      · rw [hworld]
        exact hw.performAll _
      · exact fun c hc => hcs c (List.mem_cons_of_mem _ hc)
      · exact hrest

/-- What the table of locks has come to at the end of a run. -/
structure LocksExact (s : Simulation) (cs : List Command) : Prop where
  /-- There is an entry for a reference if a body was started there that was not dropped since. -/
  contains_iff (r : ObjectRef) :
    (s.run cs).bridge.locks.contains r = true ↔
      LockTable.Held (s.lockEvents cs) r
  /-- If objects were destroyed through the bridge alone, then entries are of live objects. -/
  live : s.destroysPastBridge cs = false ->
    forall r, (s.run cs).bridge.locks.contains r = true ->
      (s.run cs).bridge.world.contains r = true
  /-- Then there are no more entries than objects. -/
  size_le : s.destroysPastBridge cs = false ->
    (s.run cs).bridge.locks.size ≤ (s.run cs).bridge.world.population

/--
After any run of a simulation that leaves the table of locks to the bridge, its
entries are those of the native bodies that were started, less those of the
objects that the bridge destroyed since; and nothing else makes entries, at any
time.
-/
theorem locks_exact (registry : Registry) (settings : Settings)
    (cs : List Command) (hcs : forall c, c ∈ cs -> c.onLocks = false) :
    (start registry settings).LocksExact cs ∧
      forall b : Bridge, b.LocksOnlyForBodies := by
  refine ⟨?_, Bridge.locksOnlyForBodies⟩
  have hempty : (start registry settings).bridge.LocksLive := by
    intro r h
    cases h
  have hlive (hthrough :
      (start registry settings).destroysPastBridge cs = false) :=
    locksLive_run hempty World.sound_empty World.tidy_empty hcs hthrough
  constructor
  · intro r
    rw [locks_run _ hcs]
    exact LockTable.contains_after_empty_iff _ r
  · exact hlive
  · intro hthrough
    apply LockTable.size_le_population
    · rw [world_run World.sound_empty]
      exact World.tidy_empty.performAll _
    · exact hlive hthrough

end Simulation

/-!
## A run with locks
-/

namespace Lamps

def workshop : Simulation :=
  .start registry .default

/-- A lamp and a dimmer are described, the lamp is destroyed, and another one takes its slot. -/
def replacing : List Command :=
  [.spawn lampObject, .spawn dimmerObject,
    .callMethod 0 (.object lampHandle) "describe" [],
    .callMethod 0 (.object dimmerHandle) "describe" [],
    .destroy ⟨0, 0⟩,
    .spawn lampObject]

theorem locks_exact_replacing :
    (forall c, c ∈ replacing -> c.onLocks = false) ∧
      workshop.destroysPastBridge replacing = false ∧
      LockTable.Held (workshop.lockEvents replacing) ⟨1, 0⟩ ∧
      ¬ LockTable.Held (workshop.lockEvents replacing) ⟨0, 0⟩ ∧
      (workshop.run replacing).bridge.world.contains ⟨1, 0⟩ = true ∧
      (workshop.run replacing).bridge.locks.size ≤
        (workshop.run replacing).bridge.world.population := by
  have hcs : forall c, c ∈ replacing -> c.onLocks = false := by
    simp [replacing, Command.onLocks]
  have hthrough : workshop.destroysPastBridge replacing = false := by
    decide +kernel
  have hkept : (workshop.run replacing).bridge.locks.contains ⟨1, 0⟩ =
      true := by
    decide +kernel
  have hdropped : (workshop.run replacing).bridge.locks.contains ⟨0, 0⟩ =
      false := by
    decide +kernel
  have hexact : workshop.LocksExact replacing :=
    (Simulation.locks_exact registry .default replacing hcs).1
  refine ⟨hcs, hthrough, (hexact.contains_iff _).mp hkept, ?_,
    hexact.live hthrough _ hkept, hexact.size_le hthrough⟩
  intro hheld
  rw [(hexact.contains_iff _).mpr hheld] at hdropped
  cases hdropped

end Lamps

end ScriptBridge
