import ScriptBridge.Proofs.Restoration

/-!
# Waits that end once

A wait is begun, looked at, and ended by its signal, by its script or by its
deadline.  Until it has ended every look at it tells the same: that it is pending,
or, from the deadline on, that it has timed out just now.  Afterwards every look
tells that there is no wait, whatever the clock says, until another one is begun.

A computer may be saved and loaded again between any two of these.  The wait is
saved as it is, with the time at which it was begun, so nothing can be told from
the answers.
-/

namespace ScriptBridge

/-!
## Deadlines
-/

/-- A wait has a timeout, and so much time has passed since it was begun, or time is at its end. -/
def Wait.Expired (start : UInt64) (span : Option UInt64) (now : UInt64) :
    Prop :=
  exists time, span = some time ∧
    min (start.toNat + time.toNat) (UInt64.size - 1) ≤ now.toNat

namespace Wait

theorem later_le_iff (start span now : UInt64) :
    later start span ≤ now ↔
      min (start.toNat + span.toNat) (UInt64.size - 1) ≤ now.toNat := by
  have hsmall : min (start.toNat + span.toNat) (UInt64.size - 1) <
      UInt64.size := by
    have hsize : 0 < UInt64.size := by decide
    omega
  have hlater : (later start span).toNat =
      min (start.toNat + span.toNat) (UInt64.size - 1) :=
    UInt64.toNat_ofNat_of_lt' hsmall
  rw [UInt64.le_iff_toNat_le, hlater]

theorem poll_begun (start time now : UInt64) :
    (begun start (some time)).poll now =
      if later start time ≤ now then
        (.timedOut, (begun start (some time)).ended)
      else (.pending, begun start (some time)) :=
  rfl

theorem poll_begun_of_expired {start now : UInt64} {span : Option UInt64}
    (h : Expired start span now) :
    (begun start span).poll now = (.timedOut, (begun start span).ended) := by
  rcases h with ⟨time, rfl, htime⟩
  rw [poll_begun, if_pos ((later_le_iff start time now).mpr htime)]

theorem poll_begun_of_not_expired {start now : UInt64} {span : Option UInt64}
    (h : ¬ Expired start span now) :
    (begun start span).poll now = (.pending, begun start span) := by
  cases span with
  | none => rfl
  | some time =>
      rw [poll_begun, if_neg]
      intro hle
      exact h ⟨time, rfl, (later_le_iff start time now).mp hle⟩

end Wait

/-!
## Commands and answers
-/

inductive WaitCommand where
  | begin (now : UInt64) (timeout : Option UInt64)
  | poll (now : UInt64)
  | resolve
  | abandon

inductive WaitEvent where
  | began (now : UInt64) (timeout : Option UInt64)
  | polled (now : UInt64) (found : WaitPoll)
  | resolved (wasPending : Bool)
  | abandoned (wasPending : Bool)
  deriving DecidableEq

namespace WaitEvent

def begins : WaitEvent -> Bool
  | began _ _ => true
  | _ => false

def ends : WaitEvent -> Bool
  | polled _ .timedOut => true
  | resolved true => true
  | abandoned true => true
  | _ => false

inductive WhileOpen (start : UInt64) (span : Option UInt64) :
    WaitEvent -> Prop where
  | timedOut {now : UInt64} :
      Wait.Expired start span now -> WhileOpen start span (.polled now .timedOut)
  | pending {now : UInt64} :
      ¬ Wait.Expired start span now -> WhileOpen start span (.polled now .pending)
  | resolved : WhileOpen start span (.resolved true)
  | abandoned : WhileOpen start span (.abandoned true)

inductive WhenOver : WaitEvent -> Prop where
  | polled (now : UInt64) : WhenOver (.polled now .idle)
  | resolved : WhenOver (.resolved false)
  | abandoned : WhenOver (.abandoned false)

theorem WhenOver.ends_eq {e : WaitEvent} (h : e.WhenOver) : e.ends = false := by
  cases h <;> rfl

end WaitEvent

namespace Computer

def tend (c : Computer) (settings : Settings) :
    WaitCommand -> WaitEvent × Computer
  | .begin now timeout =>
      (.began now timeout, c.beginWait settings now timeout)
  | .poll now =>
      let (found, c') := c.pollWait now
      (.polled now found, c')
  | .resolve =>
      let (wasPending, c') := c.resolveWait
      (.resolved wasPending, c')
  | .abandon =>
      let (wasPending, c') := c.abandonWait
      (.abandoned wasPending, c')

def tendAll (c : Computer) (settings : Settings) :
    List WaitCommand -> List WaitEvent
  | [] => []
  | command :: rest =>
      (c.tend settings command).1 ::
        tendAll (c.tend settings command).2 settings rest

theorem tend_poll (c : Computer) (settings : Settings) (now : UInt64) :
    c.tend settings (.poll now) =
      (.polled now (c.wait.poll now).1,
        { c with wait := (c.wait.poll now).2 }) :=
  rfl

theorem tend_resolve (c : Computer) (settings : Settings) :
    c.tend settings .resolve =
      (.resolved c.wait.pending, { c with wait := c.wait.ended }) :=
  rfl

theorem tend_abandon (c : Computer) (settings : Settings) :
    c.tend settings .abandon =
      (.abandoned c.wait.pending, { c with wait := c.wait.ended }) :=
  rfl

theorem tend_congr {c c' : Computer} (settings : Settings)
    (command : WaitCommand) (h : c.wait = c'.wait) :
    (c.tend settings command).1 = (c'.tend settings command).1 ∧
      (c.tend settings command).2.wait = (c'.tend settings command).2.wait := by
  cases command with
  | begin now timeout => exact ⟨rfl, rfl⟩
  | poll now => simp only [tend_poll, h, and_self]
  | resolve => simp only [tend_resolve, h, and_self]
  | abandon => simp only [tend_abandon, h, and_self]

theorem tendAll_congr {c c' : Computer} (settings : Settings)
    (commands : List WaitCommand) (h : c.wait = c'.wait) :
    c.tendAll settings commands = c'.tendAll settings commands := by
  induction commands generalizing c c' with
  | nil => rfl
  | cons command rest ih =>
      rcases tend_congr settings command h with ⟨hevent, hwait⟩
      rw [tendAll, tendAll, hevent, ih hwait]

theorem wait_of_load_save {types : TypeTable} {c c' : Computer}
    (h : load types c.save = .ok c') : c'.wait = c.wait := by
  rw [load] at h
  split at h
  · cases h
  · cases h
    rfl

/-!
## One command
-/

section Tend

variable {c : Computer} (settings : Settings)

theorem tend_of_open {start : UInt64} {span : Option UInt64}
    (hwait : c.wait = .begun start span) {command : WaitCommand}
    (hbegins : (c.tend settings command).1.begins = false) :
    (c.tend settings command).1.WhileOpen start span ∧
      ((c.tend settings command).1.ends = true ->
        (c.tend settings command).2.wait.pending = false) ∧
      ((c.tend settings command).1.ends = false ->
        (c.tend settings command).2.wait = .begun start span) := by
  cases command with
  | begin now timeout => cases hbegins
  | poll now =>
      by_cases hexpired : Wait.Expired start span now
      · rw [tend_poll, hwait, Wait.poll_begun_of_expired hexpired]
        exact ⟨.timedOut hexpired, fun _ => rfl, fun hends => nomatch hends⟩
      · rw [tend_poll, hwait, Wait.poll_begun_of_not_expired hexpired]
        refine ⟨.pending hexpired, ?_, fun _ => rfl⟩
        intro hends
        cases hends
  | resolve =>
      rw [tend_resolve, hwait]
      exact ⟨.resolved, fun _ => rfl, fun hends => nomatch hends⟩
  | abandon =>
      rw [tend_abandon, hwait]
      exact ⟨.abandoned, fun _ => rfl, fun hends => nomatch hends⟩

theorem tend_of_over (hover : c.wait.pending = false) {command : WaitCommand}
    (hbegins : (c.tend settings command).1.begins = false) :
    (c.tend settings command).1.WhenOver ∧
      (c.tend settings command).2.wait.pending = false := by
  cases command with
  | begin now timeout => cases hbegins
  | poll now =>
      have hpoll : c.wait.poll now = (.idle, c.wait) := by
        rw [Wait.poll, hover]
        rfl
      rw [tend_poll, hpoll]
      exact ⟨.polled now, hover⟩
  | resolve =>
      rw [tend_resolve, hover]
      exact ⟨.resolved, rfl⟩
  | abandon =>
      rw [tend_abandon, hover]
      exact ⟨.abandoned, rfl⟩

end Tend

end Computer

/-!
## Runs
-/

/-- What happens to one wait, from when it was begun until another one is. -/
structure WaitEvent.EndsOnce (start : UInt64) (span : Option UInt64)
    (events : List WaitEvent) : Prop where
  once : events.countP WaitEvent.ends ≤ 1
  whileOpen : forall earlier e later, events = earlier ++ e :: later ->
    (forall passed, passed ∈ earlier -> passed.ends = false) ->
    e.WhileOpen start span
  afterwards : forall earlier e later, events = earlier ++ e :: later ->
    (exists passed, passed ∈ earlier ∧ passed.ends = true) -> e.WhenOver

namespace WaitEvent

theorem endsOnce_nil (start : UInt64) (span : Option UInt64) :
    EndsOnce start span [] where
  once := Nat.zero_le 1
  whileOpen earlier e later h := by cases earlier <;> cases h
  afterwards earlier e later h := by cases earlier <;> cases h

theorem endsOnce_cons_of_ends {start : UInt64} {span : Option UInt64}
    {e : WaitEvent} {rest : List WaitEvent} (he : e.WhileOpen start span)
    (hends : e.ends = true)
    (hrest : forall later, later ∈ rest -> later.WhenOver) :
    EndsOnce start span (e :: rest) where
  once := by
    have hzero : rest.countP WaitEvent.ends = 0 := by
      rw [List.countP_eq_zero]
      intro later hmem
      rw [(hrest later hmem).ends_eq]
      exact Bool.false_ne_true
    have hone : (e :: rest).countP WaitEvent.ends = 1 := by
      rw [List.countP_cons_of_pos hends, hzero]
    exact Nat.le_of_eq hone
  whileOpen earlier other later h hearlier := by
    cases earlier with
    | nil =>
        cases h
        exact he
    | cons first passed =>
        cases h
        have hfirst := hearlier e List.mem_cons_self
        rw [hends] at hfirst
        cases hfirst
  afterwards earlier other later h hpassed := by
    cases earlier with
    | nil =>
        rcases hpassed with ⟨passed, hmem, _⟩
        cases hmem
    | cons first passed =>
        cases h
        exact hrest other (List.mem_append_right passed List.mem_cons_self)

theorem EndsOnce.cons {start : UInt64} {span : Option UInt64}
    {e : WaitEvent} {rest : List WaitEvent} (h : EndsOnce start span rest)
    (he : e.WhileOpen start span) (hends : e.ends = false) :
    EndsOnce start span (e :: rest) where
  once := by
    rw [List.countP_cons_of_neg (by rw [hends]; exact Bool.false_ne_true)]
    exact h.once
  whileOpen earlier other later hsplit hearlier := by
    cases earlier with
    | nil =>
        cases hsplit
        exact he
    | cons first passed =>
        cases hsplit
        exact h.whileOpen passed other later rfl
          (fun p hmem => hearlier p (List.mem_cons_of_mem _ hmem))
  afterwards earlier other later hsplit hpassed := by
    cases earlier with
    | nil =>
        rcases hpassed with ⟨passed, hmem, _⟩
        cases hmem
    | cons first passed =>
        cases hsplit
        rcases hpassed with ⟨p, hmem, hp⟩
        rcases List.mem_cons.mp hmem with rfl | hmem
        · rw [hends] at hp
          cases hp
        · exact h.afterwards passed other later rfl ⟨p, hmem, hp⟩

end WaitEvent

namespace Computer

section Runs

variable {settings : Settings}

theorem exists_of_tendAll_eq_cons {c : Computer}
    {commands : List WaitCommand} {e : WaitEvent} {events : List WaitEvent}
    (h : c.tendAll settings commands = e :: events) :
    exists command rest, commands = command :: rest ∧
      e = (c.tend settings command).1 ∧
      events = (c.tend settings command).2.tendAll settings rest := by
  cases commands with
  | nil => cases h
  | cons command rest =>
      cases h
      exact ⟨command, rest, rfl, rfl, rfl⟩

theorem whenOver_of_tendAll {c : Computer} (hover : c.wait.pending = false)
    {commands : List WaitCommand} {during after : List WaitEvent}
    (h : c.tendAll settings commands = during ++ after)
    (hbegins : forall e, e ∈ during -> e.begins = false) :
    forall e, e ∈ during -> e.WhenOver := by
  induction during generalizing c commands with
  | nil =>
      intro e hmem
      cases hmem
  | cons first more ih =>
      rcases exists_of_tendAll_eq_cons h with
        ⟨command, rest, rfl, rfl, hrest⟩
      rcases List.forall_mem_cons.mp hbegins with ⟨hfirst, hmore⟩
      rcases tend_of_over settings hover hfirst with ⟨hevent, hover'⟩
      exact List.forall_mem_cons.mpr ⟨hevent, ih hover' hrest.symm hmore⟩

theorem endsOnce_of_tendAll {c : Computer} {start : UInt64}
    {span : Option UInt64} (hwait : c.wait = .begun start span)
    {commands : List WaitCommand} {during after : List WaitEvent}
    (h : c.tendAll settings commands = during ++ after)
    (hbegins : forall e, e ∈ during -> e.begins = false) :
    WaitEvent.EndsOnce start span during := by
  induction during generalizing c commands with
  | nil => exact WaitEvent.endsOnce_nil start span
  | cons first more ih =>
      rcases exists_of_tendAll_eq_cons h with
        ⟨command, rest, rfl, rfl, hrest⟩
      rcases List.forall_mem_cons.mp hbegins with ⟨hfirst, hmore⟩
      rcases tend_of_open settings hwait hfirst with
        ⟨hevent, hended, hgoesOn⟩
      cases hends : (c.tend settings command).1.ends with
      | true =>
          exact WaitEvent.endsOnce_cons_of_ends hevent hends
            (whenOver_of_tendAll (hended hends) hrest.symm hmore)
      | false => exact (ih (hgoesOn hends) hrest.symm hmore).cons hevent hends

/-- What comes after a wait was begun comes from a computer with that wait. -/
theorem exists_of_tendAll_eq_append {c : Computer}
    {commands : List WaitCommand} {before events : List WaitEvent}
    {start : UInt64} {timeout : Option UInt64}
    (h : c.tendAll settings commands =
      before ++ .began start timeout :: events) :
    exists (c' : Computer) (rest : List WaitCommand),
      c'.wait = .begun start (timeout.or settings.defaultTimeout) ∧
        c'.tendAll settings rest = events := by
  induction before generalizing c commands with
  | nil =>
      rcases exists_of_tendAll_eq_cons h with
        ⟨command, rest, rfl, hevent, hrest⟩
      refine ⟨(c.tend settings command).2, rest, ?_, hrest.symm⟩
      cases command with
      | begin now timeout =>
          cases hevent
          rfl
      | _ => cases hevent
  | cons first more ih =>
      rcases exists_of_tendAll_eq_cons h with
        ⟨command, rest, rfl, _hevent, hrest⟩
      exact ih hrest.symm

end Runs

end Computer

namespace Bridge

/--
Commands are carried out one after the other on a computer of a bridge, which may
be saved and loaded at any time.  A run is over if a save cannot be loaded.
-/
inductive Waits (b : Bridge) :
    Computer -> List WaitCommand -> List WaitEvent -> Prop where
  | done (c : Computer) : Waits b c [] []
  | command {c : Computer} {command : WaitCommand}
      {rest : List WaitCommand} {events : List WaitEvent} :
      Waits b (c.tend b.settings command).2 rest events ->
      Waits b c (command :: rest)
        ((c.tend b.settings command).1 :: events)
  | reload {c c' : Computer} {commands : List WaitCommand}
      {events : List WaitEvent} :
      Computer.load b.types c.save = .ok c' -> Waits b c' commands events ->
      Waits b c commands events

/-- Nothing can be told from saving and loading. -/
theorem Waits.events_eq {b : Bridge} {c : Computer}
    {commands : List WaitCommand} {events : List WaitEvent}
    (h : b.Waits c commands events) :
    events = c.tendAll b.settings commands := by
  induction h with
  | done c => rfl
  | command _ ih => rw [ih, Computer.tendAll]
  | reload hload _ ih =>
      rw [ih, Computer.tendAll_congr b.settings _
        (Computer.wait_of_load_save hload)]

theorem waits_tendAll (b : Bridge) (c : Computer)
    (commands : List WaitCommand) :
    b.Waits c commands (c.tendAll b.settings commands) := by
  induction commands generalizing c with
  | nil => exact .done c
  | cons command rest ih => exact .command (ih _)

/--
However often a computer is saved and loaded between the commands, the answers
are those without it.  And a wait that was begun ends once at most, by its signal,
by its script or from its deadline on: before that it is pending, and after that
there is none.
-/
theorem wait_ends_once {b : Bridge} {c : Computer}
    {commands : List WaitCommand} {events : List WaitEvent}
    (h : b.Waits c commands events) :
    events = c.tendAll b.settings commands ∧
      forall before start timeout during after,
        events = before ++ .began start timeout :: (during ++ after) ->
        (forall e, e ∈ during -> e.begins = false) ->
        WaitEvent.EndsOnce start
          (timeout.or b.settings.defaultTimeout) during := by
  refine ⟨h.events_eq, ?_⟩
  intro before start timeout during after hsplit hbegins
  rw [h.events_eq] at hsplit
  rcases Computer.exists_of_tendAll_eq_append hsplit with
    ⟨c', rest, hwait, hrest⟩
  exact Computer.endsOnce_of_tendAll hwait hrest hbegins

end Bridge

/-!
## A long wait

A computer waits until the end of time.  The clock goes backwards, the computer is
saved and loaded, and the signal arrives first.
-/

namespace Lamps

def longWait : List WaitCommand :=
  [.begin 20 (some 18446744073709551610), .poll 3]

def longWaiting : Computer :=
  longWait.foldl (fun c command => (c.tend bridge.settings command).2) computer

def longWaitEnd : List WaitCommand :=
  [.poll 18446744073709551614, .resolve, .poll 18446744073709551615, .abandon]

def longWaitAnswers : List WaitEvent :=
  [.polled 3 .pending, .polled 18446744073709551614 .pending, .resolved true,
    .polled 18446744073709551615 .idle, .abandoned false]

theorem wait_ends_once_long :
    (exists c, Computer.load bridge.types longWaiting.save = .ok c) ∧
      exists events, bridge.Waits computer (longWait ++ longWaitEnd) events ∧
        events =
          computer.tendAll bridge.settings (longWait ++ longWaitEnd) ∧
        events = .began 20 (some 18446744073709551610) ::
          (longWaitAnswers ++ []) ∧
        WaitEvent.EndsOnce 20 (some 18446744073709551610) longWaitAnswers := by
  have hok : (Computer.load bridge.types longWaiting.save).isOk = true := by
    decide +kernel
  cases hload : Computer.load bridge.types longWaiting.save with
  | error cause =>
      rw [hload] at hok
      cases hok
  | ok c =>
      have hrest : bridge.Waits longWaiting longWaitEnd
          (c.tendAll bridge.settings longWaitEnd) :=
        .reload hload (bridge.waits_tendAll c longWaitEnd)
      have hrun : bridge.Waits computer (longWait ++ longWaitEnd) _ :=
        .command (.command hrest)
      have hanswers :
          computer.tendAll bridge.settings (longWait ++ longWaitEnd) =
            .began 20 (some 18446744073709551610) ::
              (longWaitAnswers ++ []) := by
        decide +kernel
      have hevents := (Bridge.wait_ends_once hrun).1
      have hsplit := hevents.trans hanswers
      exact ⟨⟨c, rfl⟩, _, hrun, hevents, hsplit,
        (Bridge.wait_ends_once hrun).2 [] 20 _ longWaitAnswers [] hsplit
          (by decide)⟩

end Lamps

end ScriptBridge
