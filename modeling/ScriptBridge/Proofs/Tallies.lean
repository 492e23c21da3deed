import ScriptBridge.Simulation
import ScriptBridge.Proofs.Remembering

/-!
# Tallies of searches

A look-up that comes to the functions of a handle is answered by a remembered
member, which is a hit, or else it searches.  A search that finds something is
the only thing that adds to what a dispatcher remembers, and what it added is
never changed again.  The members that a dispatcher holds are therefore those
that its searches found, in their order, and no search is made twice for what was
found once.

A dispatcher lives in a computer until another one is loaded in its place or it is
dropped.
-/

namespace ScriptBridge

/-!
## New entries
-/

namespace Table

variable {Key Item : Type} [DecidableEq Key]

theorem write_of_not_mem {key : Key} (item : Item)
    {entries : List (Key × Item)}
    (h : key ∉ entries.map Prod.fst) :
    write key item entries = entries ++ [(key, item)] := by
  induction entries with
  | nil => rfl
  | cons entry rest ih =>
      obtain ⟨k, old⟩ := entry
      rw [List.map_cons, List.mem_cons, not_or] at h
      rw [write, if_neg (Ne.symm h.1), ih h.2, List.cons_append]

theorem entries_put_of_get?_eq_none {t : Table Key Item} {key : Key}
    (h : t.get? key = none) (item : Item) :
    (t.put key item).entries = t.entries ++ [(key, item)] := by
  apply write_of_not_mem
  change key ∉ t.keys
  rw [← t.contains_iff, contains, h]
  exact Bool.false_ne_true

end Table

/-!
## What a look-up does
-/

namespace Dispatcher

/-- The ways that a look-up of a name can go, with what it answers and what it leaves. -/
inductive Outcome (d : Dispatcher) (e : Exposed) (name : String) :
    Except BridgeError (Option Value) -> Dispatcher -> Prop where
  /-- Decided before functions are considered. -/
  | passed (reply : Except BridgeError (Option Value)) :
      Outcome d e name reply d
  | hit {m : Member} (hknown : d.known? e name = some m) :
      Outcome d e name (.ok (some (.member m))) d.countHit
  | missed (hunknown : d.known? e name = none) :
      Outcome d e name (.ok none) d.countSearch
  | learned {kind : MemberKind} (hunknown : d.known? e name = none)
      (hkind : kind ≠ .introspection) :
      Outcome d e name (.ok (some (.member ⟨name, e, kind⟩)))
        (d.countSearch.remember ⟨name, e, kind⟩)

theorem outcome_lookUp (d : Dispatcher) (e : Exposed) (name : String)
    {search : Option MemberKind} (hsearch : search ≠ some .introspection) :
    d.Outcome e name (.ok ((d.lookUp e name search).1.map .member))
      (d.lookUp e name search).2 := by
  unfold lookUp
  cases hknown : d.known? e name with
  | some m => exact .hit hknown
  | none =>
      cases search with
      | none => exact .missed hknown
      | some kind =>
          apply Outcome.learned hknown
          intro hkind
          exact hsearch (congrArg some hkind)

theorem outcome_indexObject (d : Dispatcher) (b : Bridge)
    (h : InstanceHandle) (name : String) :
    d.Outcome h.exposed name (d.indexObject b h name).1
      (d.indexObject b h name).2.2 := by
  unfold indexObject
  cases b.meaning h name with
  | error cause => exact .passed _
  | ok meaning =>
      cases meaning with
      | text text => exact .passed _
      | property path property => exact .passed _
      | members => exact .passed _
      | function o =>
          apply outcome_lookUp
          intro hkind
          rcases (b.functionKind?_eq_some_iff h o name _).mp hkind with
            ⟨hlibrary, _⟩ | ⟨_, f, hreflected, _⟩
          · cases hlibrary
          · cases hreflected

theorem outcome_indexClass (d : Dispatcher) (b : Bridge) (h : ClassHandle)
    (name : String) :
    d.Outcome h.exposed name (.ok (d.indexClass b h name).1)
      (d.indexClass b h name).2 := by
  unfold indexClass
  by_cases hlisting : name = "getMembers"
  · rw [if_pos hlisting]
    exact .passed _
  · rw [if_neg hlisting]
    apply outcome_lookUp
    intro hkind
    rcases Option.map_eq_some_iff.mp hkind with ⟨_body, _, hclass⟩
    cases hclass

theorem outcome_index (d : Dispatcher) (b : Bridge) (h : Handle)
    (name : String) :
    d.Outcome h.exposed name (d.index b h name).1 (d.index b h name).2.2 := by
  cases h with
  | object h => exact d.outcome_indexObject b h name
  | cls h => exact d.outcome_indexClass b h name

inductive CountsOn (d d' : Dispatcher) : Prop where
  | neither (hsearches : d'.searches = d.searches) (hhits : d'.hits = d.hits)
  | search (hsearches : d'.searches = d.searches + 1)
      (hhits : d'.hits = d.hits)
  | hit (hsearches : d'.searches = d.searches)
      (hhits : d'.hits = d.hits + 1)

end Dispatcher

/-!
## Commands and look-ups
-/

namespace Command

def lookedUp (n : Nat) : Command -> Option (Handle × String)
  | .index k h name => if k = n then some (h, name) else none
  | .callMethod k h name _ => if k = n then some (h, name) else none
  | _ => none

theorem eq_of_lookedUp {n : Nat} {c : Command} {h : Handle} {name : String}
    (hlooked : c.lookedUp n = some (h, name)) :
    c = .index n h name ∨ exists args, c = .callMethod n h name args := by
  cases c with
  | index k h' name' =>
      rcases Option.ite_none_right_eq_some.mp hlooked with ⟨rfl, heq⟩
      cases heq
      exact Or.inl rfl
  | callMethod k h' name' args =>
      rcases Option.ite_none_right_eq_some.mp hlooked with ⟨rfl, heq⟩
      cases heq
      exact Or.inr ⟨args, rfl⟩
  | _ => cases hlooked

/-- The computer is neither replaced nor taken away. -/
def Keeps (n : Nat) : Command -> Prop
  | .load k _ => k ≠ n
  | .drop k => k ≠ n
  | _ => True

end Command

namespace Simulation

def dispatcher (s : Simulation) (n : Nat) : Dispatcher :=
  (s.computer n).dispatcher

theorem computer_withComputer (s : Simulation) (k n : Nat) (c : Computer) :
    (s.withComputer k c).computer n = if n = k then c else s.computer n := by
  unfold computer withComputer Table.getD
  dsimp only
  rw [Table.get?_put]
  split
  · rfl
  · rfl

theorem computer_onComputer {Result : Type} (s : Simulation) (k n : Nat)
    (act : Computer -> Bridge -> Result × Bridge × Computer) :
    (s.onComputer k act).2.computer n =
      if n = k then (act (s.computer k) s.bridge).2.2 else s.computer n :=
  computer_withComputer
    { s with bridge := (act (s.computer k) s.bridge).2.1 } k n
    (act (s.computer k) s.bridge).2.2

theorem dispatcher_onComputer {Result : Type} {s : Simulation} {k : Nat}
    {act : Computer -> Bridge -> Result × Bridge × Computer} (n : Nat)
    (h : n = k ->
      (act (s.computer k) s.bridge).2.2.dispatcher =
        (s.computer k).dispatcher) :
    (s.onComputer k act).2.dispatcher n = s.dispatcher n := by
  rw [dispatcher, computer_onComputer]
  split
  · rename_i hn
    rw [h hn, dispatcher, hn]
  · rfl

theorem dispatcher_perform_of_idle (s : Simulation) {n : Nat} {c : Command}
    (hkeeps : c.Keeps n) (hidle : c.lookedUp n = none) :
    (s.perform c).2.dispatcher n = s.dispatcher n := by
  cases c with
  | index k h name =>
      have hk : k ≠ n := by simpa [Command.lookedUp] using hidle
      exact dispatcher_onComputer n (fun hn => absurd hn.symm hk)
  | callMethod k h name args =>
      have hk : k ≠ n := by simpa [Command.lookedUp] using hidle
      exact dispatcher_onComputer n (fun hn => absurd hn.symm hk)
  | load k text =>
      unfold perform
      dsimp only
      cases Computer.loadText s.bridge.types text with
      | error cause => rfl
      | ok c =>
          dsimp only
          rw [dispatcher, computer_withComputer, if_neg (Ne.symm hkeeps)]
          rfl
  | drop k =>
      unfold perform dispatcher computer Table.getD
      dsimp only
      rw [Table.get?_erase, if_neg (Ne.symm hkeeps)]
  | respawn r =>
      unfold perform
      dsimp only
      cases s.bridge.world.occupant? r with
      | none => rfl
      | some id => rfl
  | change r c =>
      unfold perform
      dsimp only
      cases s.bridge.world.occupant? r with
      | none => rfl
      | some id => rfl
  | spawn o => rfl
  | destroy r => rfl
  | remove r => rfl
  | lock r => rfl
  | evict r => rfl
  | assign k h name v => exact dispatcher_onComputer n (fun _ => rfl)
  | call k m receiver args => exact dispatcher_onComputer n (fun _ => rfl)
  | members k h => exact dispatcher_onComputer n (fun _ => rfl)
  | display k h => exact dispatcher_onComputer n (fun _ => rfl)
  | attend k => exact dispatcher_onComputer n (fun _ => rfl)
  | setGlobal k name v => exact dispatcher_onComputer n (fun _ => rfl)
  | removeGlobal k name => exact dispatcher_onComputer n (fun _ => rfl)
  | beginWait k now timeout => exact dispatcher_onComputer n (fun _ => rfl)
  | pollWait k now => exact dispatcher_onComputer n (fun _ => rfl)
  | resolveWait k => exact dispatcher_onComputer n (fun _ => rfl)
  | abandonWait k => exact dispatcher_onComputer n (fun _ => rfl)
  | save k => exact dispatcher_onComputer n (fun _ => rfl)

theorem dispatcher_perform_of_lookedUp (s : Simulation) {n : Nat}
    {c : Command} {h : Handle} {name : String}
    (hlooked : c.lookedUp n = some (h, name)) :
    (s.perform c).2.dispatcher n =
      ((s.dispatcher n).index s.bridge h name).2.2 := by
  rcases Command.eq_of_lookedUp hlooked with rfl | ⟨args, rfl⟩
  · change ((s.onComputer n _).2.computer n).dispatcher = _
    rw [computer_onComputer, if_pos rfl]
    rfl
  · change ((s.onComputer n _).2.computer n).dispatcher = _
    rw [computer_onComputer, if_pos rfl]
    exact Dispatcher.dispatcher_callMethod _ s.bridge h name args

theorem run_append (s : Simulation) (earlier later : List Command) :
    s.run (earlier ++ later) = (s.run earlier).run later := by
  induction earlier generalizing s with
  | nil => rfl
  | cons c rest ih => exact ih (s.perform c).2

end Simulation

/-!
## Moments of a run
-/

structure Moment where
  simulation : Simulation
  command : Command

namespace Moment

def before (m : Moment) (n : Nat) : Dispatcher :=
  m.simulation.dispatcher n

def after (m : Moment) (n : Nat) : Dispatcher :=
  (m.simulation.perform m.command).2.dispatcher n

def found? (m : Moment) (n : Nat) : Option Member :=
  match m.command.lookedUp n with
  | none => none
  | some (h, name) =>
      match ((m.before n).index m.simulation.bridge h name).1 with
      | .ok (some (.member found)) => some found
      | _ => none

def Searches (m : Moment) (n : Nat) : Prop :=
  (m.after n).searches = (m.before n).searches + 1

instance (m : Moment) (n : Nat) : Decidable (m.Searches n) :=
  inferInstanceAs (Decidable (_ = _))

def searched? (m : Moment) (n : Nat) : Option Member :=
  if m.Searches n then m.found? n else none

inductive Course (m : Moment) (n : Nat) : Prop where
  | quiet (hafter : m.after n = m.before n)
  | hit {h : Handle} {name : String} {known : Member}
      (hlooked : m.command.lookedUp n = some (h, name))
      (hknown : (m.before n).known? h.exposed name = some known)
      (hafter : m.after n = (m.before n).countHit)
  | missed {h : Handle} {name : String}
      (hlooked : m.command.lookedUp n = some (h, name))
      (hunknown : (m.before n).known? h.exposed name = none)
      (hfound : m.found? n = none)
      (hafter : m.after n = (m.before n).countSearch)
  | learned {h : Handle} {name : String} {kind : MemberKind}
      (hlooked : m.command.lookedUp n = some (h, name))
      (hunknown : (m.before n).known? h.exposed name = none)
      (hkind : kind ≠ .introspection)
      (hfound : m.found? n = some ⟨name, h.exposed, kind⟩)
      (hafter : m.after n =
        (m.before n).countSearch.remember ⟨name, h.exposed, kind⟩)

theorem course {m : Moment} {n : Nat} (hkeeps : m.command.Keeps n) :
    m.Course n := by
  cases hlooked : m.command.lookedUp n with
  | none =>
      exact .quiet
        (m.simulation.dispatcher_perform_of_idle hkeeps hlooked)
  | some looked =>
      obtain ⟨h, name⟩ := looked
      have hafter : m.after n =
          ((m.before n).index m.simulation.bridge h name).2.2 :=
        m.simulation.dispatcher_perform_of_lookedUp hlooked
      have hfound : m.found? n =
          match ((m.before n).index m.simulation.bridge h name).1 with
          | .ok (some (.member found)) => some found
          | _ => none := by
        rw [found?, hlooked]
      have houtcome :=
        (m.before n).outcome_index m.simulation.bridge h name
      generalize hreply :
        ((m.before n).index m.simulation.bridge h name).1 = reply
        at houtcome hfound
      generalize hleft :
        ((m.before n).index m.simulation.bridge h name).2.2 = left
        at houtcome hafter
      cases houtcome with
      | passed => exact .quiet hafter
      | hit hknown => exact .hit hlooked hknown hafter
      | missed hunknown => exact .missed hlooked hunknown hfound hafter
      | learned hunknown hkind =>
          exact .learned hlooked hunknown hkind hfound hafter

theorem not_searches_of_known {m : Moment} {n : Nat} {h : Handle}
    {name : String} {known : Member} (hkeeps : m.command.Keeps n)
    (hlooked : m.command.lookedUp n = some (h, name))
    (hknown : (m.before n).known? h.exposed name = some known) :
    ¬ m.Searches n := by
  have hsame {h' : Handle} {name' : String}
      (hlooked' : m.command.lookedUp n = some (h', name'))
      (hunknown : (m.before n).known? h'.exposed name' = none) : False := by
    rw [hlooked] at hlooked'
    cases hlooked'
    rw [hknown] at hunknown
    cases hunknown
  cases course hkeeps with
  | quiet hafter => simp [Searches, hafter]
  | hit _ _ hafter => simp [Searches, hafter, Dispatcher.countHit]
  | missed hlooked' hunknown _ _ => exact (hsame hlooked' hunknown).elim
  | learned hlooked' hunknown _ _ _ => exact (hsame hlooked' hunknown).elim

theorem known?_after {m : Moment} {n : Nat} {e : Exposed} {name : String}
    {known : Member} (hkeeps : m.command.Keeps n)
    (hknown : (m.before n).known? e name = some known) :
    (m.after n).known? e name = some known := by
  cases course hkeeps with
  | quiet hafter => rw [hafter, hknown]
  | hit _ _ hafter =>
      rw [hafter]
      exact hknown
  | missed _ _ _ hafter =>
      rw [hafter]
      exact hknown
  | @learned h name' kind _ hunknown _ _ hafter =>
      have hother : (e, name) ≠ (h.exposed, name') := by
        intro heq
        cases heq
        rw [hknown] at hunknown
        cases hunknown
      rw [hafter]
      change ((m.before n).found.put (h.exposed, name') _).get? (e, name) = _
      rw [Table.get?_put, if_neg hother]
      exact hknown

def entry (found : Member) : (Exposed × String) × Member :=
  ((found.owner, found.name), found)

/-- What a command adds is what it found by a search. -/
theorem entries_after {m : Moment} {n : Nat} (hkeeps : m.command.Keeps n) :
    (m.after n).found.entries =
      (m.before n).found.entries ++ (m.searched? n).toList.map entry := by
  cases course hkeeps with
  | quiet hafter => simp [searched?, Searches, hafter]
  | hit _ _ hafter =>
      simp [searched?, Searches, hafter, Dispatcher.countHit]
  | missed _ _ hfound hafter =>
      simp [searched?, hfound, hafter, Dispatcher.countSearch]
  | learned _ hunknown _ hfound hafter =>
      have hsearches : m.Searches n := by
        rw [Searches, hafter]
        rfl
      rw [searched?, if_pos hsearches, hfound, hafter]
      exact Table.entries_put_of_get?_eq_none hunknown _

structure Learns (m : Moment) (n : Nat) (found : Member) : Prop where
  looked : exists h, m.command.lookedUp n = some (h, found.name) ∧
    h.exposed = found.owner
  kind : found.kind ≠ .introspection
  unknown : (m.before n).known? found.owner found.name = none
  after : m.after n = (m.before n).countSearch.remember found

theorem learns_of_searched? {m : Moment} {n : Nat} {found : Member}
    (hkeeps : m.command.Keeps n) (hsearched : m.searched? n = some found) :
    m.Learns n found := by
  rcases Option.ite_none_right_eq_some.mp hsearched with ⟨hsearches, hwhat⟩
  rw [Searches] at hsearches
  cases course hkeeps with
  | quiet hafter =>
      rw [hafter] at hsearches
      omega
  | hit _ _ hafter =>
      rw [hafter, Dispatcher.countHit] at hsearches
      dsimp only at hsearches
      omega
  | missed _ _ hfound _ =>
      rw [hfound] at hwhat
      cases hwhat
  | learned hlooked hunknown hkind hfound hafter =>
      rw [hfound] at hwhat
      cases hwhat
      exact ⟨⟨_, hlooked, rfl⟩, hkind, hunknown, hafter⟩

theorem countsOn_after {m : Moment} {n : Nat}
    (hkeeps : m.command.Keeps n) :
    (m.before n).CountsOn (m.after n) := by
  cases course hkeeps with
  | quiet hafter =>
      rw [hafter]
      exact .neither rfl rfl
  | hit _ _ hafter =>
      rw [hafter]
      exact .hit rfl rfl
  | missed _ _ _ hafter =>
      rw [hafter]
      exact .search rfl rfl
  | learned _ _ _ _ hafter =>
      rw [hafter]
      exact .search rfl rfl

structure Counts (m : Moment) (n : Nat) : Prop where
  /-- Only look-ups do anything to it. -/
  idle : m.command.lookedUp n = none -> m.after n = m.before n
  counters : (m.before n).CountsOn (m.after n)
  learns (found : Member) : m.searched? n = some found -> m.Learns n found
  /-- What a search found becomes the last entry; nothing else changes the entries. -/
  entries : (m.after n).found.entries =
    (m.before n).found.entries ++ (m.searched? n).toList.map entry

theorem counts {m : Moment} {n : Nat} (hkeeps : m.command.Keeps n) :
    m.Counts n where
  idle := m.simulation.dispatcher_perform_of_idle hkeeps
  counters := m.countsOn_after hkeeps
  learns := fun _found hsearched => m.learns_of_searched? hkeeps hsearched
  entries := m.entries_after hkeeps

end Moment

/-!
## Runs
-/

namespace Simulation

def moments (s : Simulation) : List Command -> List Moment
  | [] => []
  | c :: rest => ⟨s, c⟩ :: (s.perform c).2.moments rest

theorem command_mem_of_mem_moments {s : Simulation}
    {commands : List Command} {m : Moment}
    (hmem : m ∈ s.moments commands) : m.command ∈ commands := by
  induction commands generalizing s with
  | nil => cases hmem
  | cons c rest ih =>
      rcases List.mem_cons.mp hmem with rfl | hmem
      · exact List.mem_cons_self
      · exact List.mem_cons_of_mem c (ih hmem)

section Keeping

variable {s : Simulation} {n : Nat} {commands : List Command}

theorem known?_run {e : Exposed} {name : String} {known : Member}
    (hkeeps : forall c, c ∈ commands -> c.Keeps n)
    (hknown : (s.dispatcher n).known? e name = some known) :
    ((s.run commands).dispatcher n).known? e name = some known := by
  induction commands generalizing s with
  | nil => exact hknown
  | cons c rest ih =>
      rw [List.forall_mem_cons] at hkeeps
      exact ih hkeeps.2 (Moment.known?_after (m := ⟨s, c⟩) hkeeps.1 hknown)

theorem known?_before_of_mem_moments {e : Exposed} {name : String}
    {known : Member} {m : Moment}
    (hkeeps : forall c, c ∈ commands -> c.Keeps n)
    (hknown : (s.dispatcher n).known? e name = some known)
    (hmem : m ∈ s.moments commands) :
    (m.before n).known? e name = some known := by
  induction commands generalizing s with
  | nil => cases hmem
  | cons c rest ih =>
      rw [List.forall_mem_cons] at hkeeps
      rcases List.mem_cons.mp hmem with rfl | hmem
      · exact hknown
      · exact ih hkeeps.2
          (Moment.known?_after (m := ⟨s, c⟩) hkeeps.1 hknown) hmem

theorem entries_run (hkeeps : forall c, c ∈ commands -> c.Keeps n) :
    ((s.run commands).dispatcher n).found.entries =
      (s.dispatcher n).found.entries ++
        ((s.moments commands).filterMap (fun m => m.searched? n)).map
          Moment.entry := by
  induction commands generalizing s with
  | nil => exact (List.append_nil _).symm
  | cons c rest ih =>
      rw [List.forall_mem_cons] at hkeeps
      have hstep : ((s.perform c).2.dispatcher n).found.entries =
          (s.dispatcher n).found.entries ++
            ((⟨s, c⟩ : Moment).searched? n).toList.map Moment.entry :=
        Moment.entries_after (m := ⟨s, c⟩) hkeeps.1
      rw [run, ih hkeeps.2, hstep, List.append_assoc, ← List.map_append,
        moments, List.filterMap_cons]
      cases (⟨s, c⟩ : Moment).searched? n with
      | none => rfl
      | some found => rfl

theorem not_searches_again (hkeeps : forall c, c ∈ commands -> c.Keeps n) :
    (s.moments commands).Pairwise (fun earlier later =>
      forall found h, earlier.searched? n = some found ->
        later.command.lookedUp n = some (h, found.name) ->
        h.exposed = found.owner -> ¬ later.Searches n) := by
  induction commands generalizing s with
  | nil => exact List.Pairwise.nil
  | cons c rest ih =>
      rw [List.forall_mem_cons] at hkeeps
      rw [moments, List.pairwise_cons]
      refine ⟨?_, ih hkeeps.2⟩
      intro later hmem found h hsearched hlooked howner
      have hlearns : (⟨s, c⟩ : Moment).Learns n found :=
        Moment.learns_of_searched? hkeeps.1 hsearched
      have hknown : ((s.perform c).2.dispatcher n).known? found.owner
          found.name = some found := by
        change ((⟨s, c⟩ : Moment).after n).known? _ _ = _
        rw [hlearns.after]
        exact Table.get?_put_self _ _ _
      apply Moment.not_searches_of_known
        (hkeeps.2 _ (command_mem_of_mem_moments hmem)) hlooked
      rw [howner]
      exact known?_before_of_mem_moments hkeeps.2 hknown hmem

end Keeping

/-- The dispatcher of a computer after a run, and the searches that were made for it. -/
structure Tallied (s : Simulation) (n : Nat)
    (commands : List Command) : Prop where
  /-- What was known at some moment of the run is known at its end, unchanged. -/
  kept {earlier later : List Command} {e : Exposed} {name : String}
    {known : Member} : commands = earlier ++ later ->
    ((s.run earlier).dispatcher n).known? e name = some known ->
    ((s.run commands).dispatcher n).known? e name = some known
  owned {e : Exposed} {name : String} {known : Member} :
    ((s.run commands).dispatcher n).known? e name = some known ->
    known.owner = e ∧ known.name = name ∧ known.kind ≠ .introspection
  counts {m : Moment} : m ∈ s.moments commands -> m.Counts n
  /-- There are as many entries as searches that found something. -/
  size : ((s.run commands).dispatcher n).found.size =
    (s.moments commands).countP (fun m => (m.searched? n).isSome)
  remembered (e : Exposed) :
    ((s.run commands).dispatcher n).remembered e =
      (s.moments commands).countP (fun m =>
        (m.searched? n).any (fun found => found.owner = e))
  /-- After a search that found something, no look-up of the same searches. -/
  once : (s.moments commands).Pairwise (fun earlier later =>
    forall found h, earlier.searched? n = some found ->
      later.command.lookedUp n = some (h, found.name) ->
      h.exposed = found.owner -> ¬ later.Searches n)

/--
While a computer is kept, the dispatcher that it began with holds the members that
its searches found, one entry for each, and searches for none of them again.
-/
theorem tallied_run {s : Simulation} {n : Nat} {commands : List Command}
    (hfresh : s.dispatcher n = .fresh)
    (hkeeps : forall c, c ∈ commands -> c.Keeps n) :
    s.Tallied n commands := by
  have hcounts {m : Moment} (hmem : m ∈ s.moments commands) :
      m.Counts n :=
    Moment.counts (hkeeps _ (command_mem_of_mem_moments hmem))
  have hentries : ((s.run commands).dispatcher n).found.entries =
      ((s.moments commands).filterMap (fun m => m.searched? n)).map
        Moment.entry := by
    rw [entries_run hkeeps, hfresh]
    exact List.nil_append _
  refine ⟨?_, ?_, hcounts, ?_, ?_, not_searches_again hkeeps⟩
  · intro earlier later e name known hsplit hknown
    subst hsplit
    rw [run_append]
    exact known?_run
      (fun c hmem => hkeeps c (List.mem_append_right earlier hmem)) hknown
  · intro e name known hknown
    have hmem := (Table.get?_eq_some_iff _ _ _).mp hknown
    rw [hentries] at hmem
    rcases List.mem_map.mp hmem with ⟨found, hfound, hentry⟩
    cases hentry
    rcases List.mem_filterMap.mp hfound with ⟨m, hmoment, hsearched⟩
    exact ⟨rfl, rfl, ((hcounts hmoment).learns known hsearched).kind⟩
  · rw [Table.size, hentries, List.length_map,
      List.length_filterMap_eq_countP]
  · intro e
    rw [Dispatcher.remembered, Table.keys, hentries, List.map_map,
      List.countP_map, List.countP_filterMap]
    apply List.countP_congr
    intro m _
    cases m.searched? n with
    | none => rfl
    | some found => rfl

end Simulation

namespace Lamps

def lampRoom : Simulation :=
  ⟨bridge, Table.empty.put 0 .fresh⟩

/-- A lamp is asked for its description, then for nothing it has; then the dimmer is. -/
def describing : List Command :=
  [.index 0 (.object lampHandle) "describe",
    .index 0 (.object lampHandle) "dance",
    .callMethod 0 (.object dimmerHandle) "describe" []]

theorem tallied_run_describing :
    lampRoom.dispatcher 0 = .fresh ∧
    (forall c, c ∈ describing -> c.Keeps 0) ∧
    (lampRoom.moments describing).map
        (fun m => (decide (m.Searches 0), (m.searched? 0).isSome)) =
      [(true, true), (true, false), (false, false)] ∧
    ((lampRoom.run describing).dispatcher 0).hits = 1 ∧
    lampRoom.Tallied 0 describing := by
  have hfresh : lampRoom.dispatcher 0 = .fresh := rfl
  have hkeeps : forall c, c ∈ describing -> c.Keeps 0 := by
    simp [describing, Command.Keeps]
  refine ⟨hfresh, hkeeps, ?_, ?_, Simulation.tallied_run hfresh hkeeps⟩
  · decide +kernel
  · decide +kernel

end Lamps

end ScriptBridge
