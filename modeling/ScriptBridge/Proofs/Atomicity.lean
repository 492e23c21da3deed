import ScriptBridge.Proofs.Arguments
import ScriptBridge.Proofs.Journal
import ScriptBridge.Proofs.Search

/-!
# Failed operations

A failed operation leaves no traces of its own.  Either its error is that of the
one host body that it ran, and the body had the last word, or the host did
nothing and the bridge is as it was.  The calls of native functions are told
apart further: their error is native exactly if the body ran and returned it.
-/

namespace ScriptBridge

namespace Journaled

variable {Reply : Type}

/-- A failure is that of the one body that ran, or nothing was done at all. -/
def Atomic (b : Bridge) (j : Journaled Reply) : Prop :=
  forall cause, j.outcome.1 = .error cause ->
    (exists run, j.events = [.ran run] ∧
      run.outcome b = (.error cause, j.outcome.2)) ∨
    (j.events = [] ∧ j.outcome.2 = b)

theorem atomic_of_accounted {b : Bridge} {j : Journaled Reply}
    (h : Accounted b j) : j.Atomic b := by
  intro cause hcause
  cases h with
  | refused refusal => exact Or.inr ⟨rfl, rfl⟩
  | answered reply => cases hcause
  | renamed id nick reply => cases hcause
  | ran run read =>
      apply Or.inl
      refine ⟨run, rfl, ?_⟩
      dsimp only [ofRun] at hcause ⊢
      cases houtcome : run.outcome b with
      | mk result b' =>
          rw [houtcome] at hcause
          cases result with
          | error failure =>
              cases hcause
              rfl
          | ok results => cases hcause

end Journaled

/-!
## Calls of native functions
-/

def DeclaredFunction.returned (f : DeclaredFunction) (b : Bridge)
    (id : ObjectId) (frame : Frame) : Except NativeError Unit :=
  ((f.function.body id).run NativeOp.perform (b.world, frame)).1

theorem HostRun.outcome_native_of_error {b : Bridge} {f : DeclaredFunction}
    {path : Path} {id : ObjectId} {frame : Frame} {cause : NativeError}
    (h : f.returned b id frame = .error cause) :
    (HostRun.outcome b (.native f path id frame)).1 =
      .error (.native cause) := by
  unfold DeclaredFunction.returned at h
  unfold HostRun.outcome
  dsimp only
  rw [h]

theorem HostRun.outcome_native_of_ok {b : Bridge} {f : DeclaredFunction}
    {path : Path} {id : ObjectId} {frame : Frame}
    (h : f.returned b id frame = .ok ()) :
    exists results,
      (HostRun.outcome b (.native f path id frame)).1 = .ok results := by
  unfold DeclaredFunction.returned at h
  unfold HostRun.outcome
  dsimp only
  rw [h]
  exact ⟨_, rfl⟩

namespace Bridge

/-- A native call of a member is refused for another reason, or is ready to run on a live object. -/
def NativePrepared (b : Bridge) (prepared : Except BridgeError Call) : Prop :=
  (exists cause, prepared = .error cause ∧
    forall e, cause ≠ .native e) ∨
  exists f path frame id,
    prepared = .ok (.native f path frame) ∧
      b.world.occupant? path.target = some id

theorem nativePrepared_prepareNative (b : Bridge) (m : Member)
    (declaring : ClassId) (h : InstanceHandle) (args : List Value) :
    b.NativePrepared (b.prepareNative m declaring h args) := by
  rw [prepareNative]
  cases ho : b.object h with
  | error cause =>
      rw [object] at ho
      split at ho
      · cases ho
      · cases ho
        exact Or.inl ⟨_, rfl, by intro e heq; cases heq⟩
  | ok o =>
      dsimp only
      cases b.types.nativeFunction? declaring m.name with
      | none => exact Or.inl ⟨_, rfl, by intro e heq; cases heq⟩
      | some f =>
          dsimp only
          cases htarget : b.nativeTarget? h o declaring with
          | none => exact Or.inl ⟨_, rfl, by intro e heq; cases heq⟩
          | some path =>
              dsimp only
              cases hframe :
                  b.types.frame b.world f.function.parameters args with
              | error cause =>
                  rcases TypeTable.argumentMismatch_of_frame hframe with
                    ⟨place, expected, actual, rfl⟩
                  exact Or.inl ⟨_, rfl, by intro e heq; cases heq⟩
              | ok frame =>
                  rcases live_of_nativeTarget?
                    ((object_eq_ok_iff b h o).mp ho) htarget with
                    ⟨object, hlive⟩
                  rcases (World.get?_eq_some_iff _ _ _).mp hlive with
                    ⟨id, hoccupant, _hobject⟩
                  exact Or.inr ⟨f, path, frame, id, rfl, hoccupant⟩

theorem nativePrepared_prepare {m : Member} {declaring : ClassId}
    (hkind : m.kind = .reflected declaring) (b : Bridge) (receiver : Value)
    (args : List Value) :
    b.NativePrepared (b.prepare m receiver args) := by
  obtain ⟨name, owner, kind⟩ := m
  cases hkind
  cases receiver with
  | handle h =>
      cases h with
      | object h => exact nativePrepared_prepareNative b _ declaring h args
      | cls h => exact Or.inl ⟨_, rfl, by intro e heq; cases heq⟩
  | _ => exact Or.inl ⟨_, rfl, by intro e heq; cases heq⟩

/-- The native errors of a call are those of its native body, and results always come back. -/
structure NativeExact (b : Bridge) (m : Member) (receiver : Value)
    (args : List Value) : Prop where
  error_iff (e : NativeError) :
    (b.call m receiver args).1 = .error (.native e) ↔
      exists f path id frame,
        (Operation.journalCall b m receiver args).events =
          [.ran (.native f path id frame)] ∧
        f.returned b id frame = .error e
  results {f : DeclaredFunction} {path : Path} {id : ObjectId}
    {frame : Frame} :
    (Operation.journalCall b m receiver args).events =
      [.ran (.native f path id frame)] ->
    f.returned b id frame = .ok () ->
    exists results, (b.call m receiver args).1 = .ok results

theorem nativeExact_of_reflected {m : Member} {declaring : ClassId}
    (hkind : m.kind = .reflected declaring) (b : Bridge) (receiver : Value)
    (args : List Value) : b.NativeExact m receiver args := by
  rcases nativePrepared_prepare hkind b receiver args with
    ⟨cause, hrefused, hcause⟩ | ⟨f, path, frame, id, hready, hoccupant⟩
  · have hcall : (b.call m receiver args).1 = .error cause := by
      rw [call, hrefused]
    have hevents : (Operation.journalCall b m receiver args).events = [] := by
      rw [Operation.journalCall, hrefused]
      rfl
    constructor
    · intro e
      rw [hcall, hevents]
      constructor
      · intro heq
        cases heq
        exact absurd rfl (hcause e)
      · rintro ⟨_, _, _, _, heq, _⟩
        cases heq
    · intro f path id frame hran
      rw [hevents] at hran
      cases hran
  · have hcall : b.call m receiver args =
        HostRun.outcome b (.native f path id frame) := by
      rw [call, hready]
      exact runNative_of_occupant? frame hoccupant
    have hevents : (Operation.journalCall b m receiver args).events =
        [.ran (.native f path id frame)] := by
      rw [Operation.journalCall, hready]
      dsimp only
      rw [hoccupant]
      rfl
    constructor
    · intro e
      rw [hcall, hevents]
      constructor
      · intro herror
        refine ⟨f, path, id, frame, rfl, ?_⟩
        cases hreturned : f.returned b id frame with
        | ok done =>
            rcases HostRun.outcome_native_of_ok hreturned with
              ⟨results, hresults⟩
            rw [hresults] at herror
            cases herror
        | error failure =>
            rw [HostRun.outcome_native_of_error hreturned] at herror
            cases herror
            rfl
      · rintro ⟨f', path', id', frame', heq, hreturned⟩
        cases heq
        exact HostRun.outcome_native_of_error hreturned
    · intro f' path' id' frame' hran hreturned
      rw [hevents] at hran
      cases hran
      rw [hcall]
      exact HostRun.outcome_native_of_ok hreturned

/-!
## The law
-/

/--
Whatever is done with a handle, a failure is that of the one host body that ran
last, or it left everything as it was.  Filling the frame of a native call never
fails natively, and what a native body leaves is always handed back.
-/
theorem failed_operation_is_atomic (d : Dispatcher) (b : Bridge) :
    (forall op : Operation,
      (op.journal d b).outcome = op.perform d b ∧
      (op.journal d b).Atomic b) ∧
    (forall (m : Member) (declaring : ClassId) (receiver : Value)
      (args : List Value),
      m.kind = .reflected declaring -> b.NativeExact m receiver args) ∧
    (forall (parameters : List Parameter) (args : List Value)
      (e : NativeError),
      b.types.frame b.world parameters args ≠ .error (.native e)) := by
  refine ⟨?_, ?_, ?_⟩
  · intro op
    exact ⟨op.outcome_journal d b,
      Journaled.atomic_of_accounted (op.accounted_journal d b)⟩
  · intro m declaring receiver args hkind
    exact nativeExact_of_reflected hkind b receiver args
  · intro parameters args e hframe
    rcases TypeTable.argumentMismatch_of_frame hframe with
      ⟨place, expected, actual, heq⟩
    cases heq

end Bridge

end ScriptBridge
