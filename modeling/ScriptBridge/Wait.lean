/-!
# Waiting

A script may suspend itself until a signal arrives or a timeout passes.  Time is
the clock of the simulation in milliseconds and is always handed in, so a wait
that is saved and loaded keeps its deadline.  A deadline that would lie beyond
the last representable time is that time.
-/

namespace ScriptBridge

inductive WaitPoll where
  | idle
  | pending
  /-- The deadline has passed and the wait is over. -/
  | timedOut
  deriving DecidableEq

structure Wait where
  pending : Bool
  startedAt : UInt64
  timeout : Option UInt64
  deriving DecidableEq

namespace Wait

def idle : Wait :=
  ⟨false, 0, none⟩

instance : Inhabited Wait :=
  ⟨idle⟩

def begun (now : UInt64) (timeout : Option UInt64) : Wait :=
  ⟨true, now, timeout⟩

/-- The sum of two times, at most the last representable one. -/
def later (time span : UInt64) : UInt64 :=
  UInt64.ofNat (min (time.toNat + span.toNat) (UInt64.size - 1))

/-- The time at which a pending wait ends by itself. -/
def deadline (w : Wait) : Option UInt64 :=
  if w.pending then w.timeout.map (later w.startedAt) else none

def ended (w : Wait) : Wait :=
  { w with pending := false }

/-- Look at a wait.  A timeout ends it. -/
def poll (w : Wait) (now : UInt64) : WaitPoll × Wait :=
  if w.pending then
    match w.deadline with
    | some time =>
        if time ≤ now then (.timedOut, w.ended) else (.pending, w)
    | none => (.pending, w)
  else (.idle, w)

/-- End a wait, because its signal arrived; tells if it was pending. -/
def resolve (w : Wait) : Bool × Wait :=
  (w.pending, w.ended)

/-- End a wait without a result; tells if it was pending. -/
def abandon (w : Wait) : Bool × Wait :=
  (w.pending, w.ended)

end Wait

end ScriptBridge
