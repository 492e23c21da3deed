import ScriptBridge.Proofs.HonestBodies

/-!
# Described programs are honest

Programs that are given as lists of instructions can hardly make a handle up:
the only one that could is an instruction that hands back a value of its own.
Where those values hold no handles, a registration of described programs is an
honest one.  Reading an argument as data of a host type and writing it back
makes no handles either.
-/

namespace ScriptBridge

/-!
## Arguments
-/

theorem exists_of_mem_mapM_ok {Cause Item Other : Type}
    {f : Item -> Except Cause Other} {items : List Item}
    {others : List Other} (h : items.mapM f = .ok others) {other : Other}
    (hmem : other ∈ others) :
    exists item, item ∈ items ∧ f item = .ok other := by
  induction items generalizing others with
  | nil =>
      cases h
      cases hmem
  | cons item rest ih =>
      rw [List.mapM_cons] at h
      rcases exists_of_bind_eq_ok h with ⟨first, hfirst, hnext⟩
      rcases exists_of_bind_eq_ok hnext with ⟨more, hmore, heq⟩
      cases heq
      rcases List.mem_cons.mp hmem with rfl | hmem
      · exact ⟨item, List.mem_cons_self, hfirst⟩
      · rcases ih hmore hmem with ⟨found, hfound, hok⟩
        exact ⟨found, List.mem_cons_of_mem _ hfound, hok⟩

theorem HostType.mem_handles_of_read {type : HostType} {v : Value}
    {data : type.Data} (hread : type.read v = .ok data) {h : Handle}
    (hmem : h ∈ (type.toValue data).handles) : h ∈ v.handles := by
  induction type generalizing v with
  | int t => cases hmem
  | single => cases hmem
  | double => cases hmem
  | bool => cases hmem
  | string => cases hmem
  | handle =>
      cases v with
      | handle found =>
          cases hread
          exact hmem
      | _ => cases hread
  | value =>
      cases hread
      exact hmem
  | option type ih =>
      cases data with
      | none => cases hmem
      | some data =>
          cases v with
          | nil => cases hread
          | _ =>
              rcases exists_of_map_eq_ok hread with ⟨found, hfound, heq⟩
              cases heq
              exact ih hfound hmem
  | list type ih =>
      cases v with
      | array items =>
          rcases Value.mem_handlesAll_iff.mp hmem with ⟨v, hv, hin⟩
          rcases List.mem_map.mp hv with ⟨item, hitem, rfl⟩
          rcases exists_of_mem_mapM_ok hread hitem with
            ⟨found, hfound, hok⟩
          exact Value.mem_handlesAll_iff.mpr ⟨found, hfound, ih hok hin⟩
      | _ => cases hread

theorem HostType.mem_handles_of_readArgument {type : HostType}
    {args : List Value} {index : Nat} {data : type.Data}
    (hread : type.readArgument args index = .ok data) {h : Handle}
    (hmem : h ∈ (type.toValue data).handles) :
    h ∈ Value.handlesAll args := by
  unfold readArgument at hread
  dsimp only at hread
  cases hdata : type.read (args[index]?.getD .nil) with
  | error cause =>
      rw [hdata] at hread
      cases hread
  | ok found =>
      rw [hdata] at hread
      cases hread
      exact Value.mem_handlesAll_of_getD (mem_handles_of_read hdata hmem)

/-!
## Programs on objects
-/

section Programs

open Interaction

variable {known : Handle -> Prop}

abbrev HonestSteps {Result : Type} (returned : Result -> List Handle)
    (attempt : HostAttempt Result) (known : Handle -> Prop) : Prop :=
  HonestAttempt HostOp.handles HostOp.learned returned attempt known

theorem honest_askWorld (op : WorldOp)
    (h : forall h, h ∈ op.handles -> known h) :
    HonestSteps op.learned (askWorld op) known :=
  honest_lift (HostOp.world op) h

theorem MemberContext.honest_target (c : MemberContext) :
    HonestSteps (fun found => found.2.handles) c.target known := by
  apply honest_bind (honest_askWorld (.find c.path.target)
    (List.forall_mem_nil _))
  intro answer known' _ _
  cases answer with
  | none => exact honest_throw _
  | some id =>
      apply honest_bind (honest_askWorld (.read id)
        (List.forall_mem_nil _))
      intro answer known'' _ hread
      cases answer with
      | none => exact honest_throw _
      | some object => exact honest_pure hread

theorem MemberContext.honest_targetThat (c : MemberContext) (sort : String)
    (suits : NativeObject -> Bool) :
    HonestSteps (fun found => found.2.handles) (c.targetThat sort suits)
      known := by
  apply honest_bind c.honest_target
  intro found known' _ hfound
  obtain ⟨id, object⟩ := found
  dsimp only at hfound ⊢
  split
  · exact honest_pure hfound
  · exact honest_throw _

theorem MemberContext.honest_reached (c : MemberContext) (r : ObjectRef) :
    HonestSteps Value.handles (c.reached r) known := by
  apply honest_bind (honest_lift (HostOp.handle (c.path.through r))
    (List.forall_mem_nil _))
  intro answer known' _ hanswer
  apply honest_pure
  rw [Value.handles_ofHandle?]
  exact hanswer

def MemberStep.handles : MemberStep -> List Handle
  | .push v => v.handles
  | _ => []

theorem MemberStep.honest_run (c : MemberContext) {args : List Value}
    (hargs : forall h, h ∈ Value.handlesAll args -> known h)
    (step : MemberStep) (hstep : forall h, h ∈ step.handles -> known h) :
    HonestSteps Value.handlesAll (step.run c args) known := by
  have hsingle (v : Value) : Value.handlesAll [v] = v.handles :=
    List.append_nil _
  cases step with
  | push v =>
      apply honest_pure
      rw [hsingle]
      exact hstep
  | argument index type =>
      unfold MemberStep.run
      dsimp only
      cases hread : type.readArgument args index with
      | error cause => exact honest_throw _
      | ok data =>
          apply honest_pure
          rw [hsingle]
          exact fun h hmem =>
            hargs h (HostType.mem_handles_of_readArgument hread hmem)
  | arguments => exact honest_pure hargs
  | argumentCount => exact honest_pure (List.forall_mem_nil _)
  | trace =>
      apply honest_pure
      intro h hmem
      rcases Value.mem_handlesAll_iff.mp hmem with ⟨v, hv, hin⟩
      rcases List.mem_map.mp hv with ⟨r, _, rfl⟩
      cases hin
  | reach r =>
      apply honest_bind (c.honest_reached r)
      intro v known' _ hv
      apply honest_pure
      rw [hsingle]
      exact hv
  | className =>
      apply honest_bind c.honest_target
      intro found known' _ _
      exact honest_pure (List.forall_mem_nil _)
  | typeCount => exact honest_pure (List.forall_mem_nil _)
  | objectCount =>
      apply honest_bind (honest_askWorld .population
        (List.forall_mem_nil _))
      intro count known' _ _
      exact honest_pure (List.forall_mem_nil _)
  | getField name sort =>
      apply honest_bind (c.honest_targetThat sort.name sort.suits)
      intro found known' _ hfound
      apply honest_pure
      intro h hmem
      rw [hsingle] at hmem
      exact hfound h (NativeObject.mem_handles_of_field hmem)
  | setField name sort =>
      apply honest_bind (c.honest_targetThat sort.name sort.suits)
      intro found known' hgrown _
      apply honest_bind (honest_askWorld
        (.change found.1 (.setField name (args.headD .nil))) ?_)
      · intro done known'' _ _
        exact honest_pure (List.forall_mem_nil _)
      · intro h hmem
        apply hgrown
        apply hargs
        cases args with
        | nil => cases hmem
        | cons v rest => exact List.mem_append_left _ hmem
  | destroy r =>
      apply honest_bind (honest_askWorld (.destroy r)
        (List.forall_mem_nil _))
      intro destroyed known' _ _
      exact honest_pure (List.forall_mem_nil _)
  | fail text => exact honest_throw _

theorem MemberStep.honest_runAll (c : MemberContext) {args : List Value}
    (hargs : forall h, h ∈ Value.handlesAll args -> known h)
    {steps : List MemberStep}
    (hsteps : forall step, step ∈ steps -> step.handles = []) :
    HonestSteps Value.handlesAll (MemberStep.runAll c args steps) known := by
  induction steps generalizing known with
  | nil => exact honest_pure (List.forall_mem_nil _)
  | cons step rest ih =>
      apply honest_bind (MemberStep.honest_run c hargs step ?_)
      · intro results known' hgrown hresults
        apply honest_bind (ih (fun h hmem => hgrown h (hargs h hmem))
          (fun step hstep => hsteps step (List.mem_cons_of_mem _ hstep)))
        intro more known'' hlater hmore
        apply honest_pure
        intro h hmem
        rw [Value.handlesAll_append] at hmem
        rcases List.mem_append.mp hmem with hmem | hmem
        · exact hlater h (hresults h hmem)
        · exact hmore h hmem
      · intro h hmem
        rw [hsteps step List.mem_cons_self] at hmem
        cases hmem

end Programs

namespace Registration

variable {t : TypeTable}

theorem honest_function (id : ClassId) (name : String)
    {steps : List MemberStep}
    (hsteps : forall step, step ∈ steps -> step.handles = []) :
    (function id name (MemberStep.function steps)).Honest t := by
  intro path args
  exact MemberStep.honest_runAll _ (fun _ hmem => Or.inl hmem) hsteps

theorem honest_property (id : ClassId) (name : String)
    {get : List MemberStep} {set : Option (List MemberStep)}
    (hget : forall step, step ∈ get -> step.handles = [])
    (hset : forall steps, set = some steps ->
      forall step, step ∈ steps -> step.handles = []) :
    (property id name (MemberStep.property get set)).Honest t := by
  constructor
  · intro path
    apply Interaction.honest_bind
      (MemberStep.honest_runAll _ (fun _ hmem => Or.inl hmem) hget)
    intro results known' _ hresults
    apply Interaction.honest_pure
    intro h hmem
    apply hresults
    cases results with
    | nil => cases hmem
    | cons v rest => exact List.mem_append_left _ hmem
  · intro write hwrite path v
    rcases Option.map_eq_some_iff.mp hwrite with ⟨steps, hsome, rfl⟩
    have hv : forall h, h ∈ Value.handlesAll [v] -> t.Offers v.handles h := by
      intro h hmem
      rw [Value.handlesAll, Value.handlesAll, List.append_nil] at hmem
      exact Or.inl hmem
    apply Interaction.honest_bind
      (MemberStep.honest_runAll _ hv (hset steps hsome))
    intro results known' _ _
    exact Interaction.honest_pure (List.forall_mem_nil _)

end Registration

/-!
## Programs on classes
-/

/-- The handles in the values that a program hands back of its own. -/
def ClassStep.handles : ClassStep -> List Handle
  | .push v => v.handles
  | _ => []

theorem ClassStep.honest_run (c : ClassContext) {known : Handle -> Prop}
    (hclasses : forall h, c.types.Offers [] h -> known h) {args : List Value}
    (hargs : forall h, h ∈ Value.handlesAll args -> known h)
    (step : ClassStep) (hstep : forall h, h ∈ step.handles -> known h) :
    HonestSteps Value.handlesAll (step.run c args) known := by
  have hsingle (v : Value) : Value.handlesAll [v] = v.handles :=
    List.append_nil _
  have hclass (id : ClassId) :
      HonestSteps Value.handlesAll (pure [c.types.classValue id]) known := by
    apply Interaction.honest_pure
    intro h hmem
    rw [hsingle, TypeTable.classValue, Value.handles_ofHandle?,
      Option.mem_toList, Option.map_eq_some_iff] at hmem
    rcases hmem with ⟨found, hfound, rfl⟩
    exact hclasses _ (Or.inr ⟨id, found, hfound, rfl⟩)
  cases step with
  | push v =>
      apply Interaction.honest_pure
      rw [hsingle]
      exact hstep
  | argument index type =>
      unfold ClassStep.run
      dsimp only
      cases hread : type.readArgument args index with
      | error cause => exact Interaction.honest_throw _
      | ok data =>
          apply Interaction.honest_pure
          rw [hsingle]
          exact fun h hmem =>
            hargs h (HostType.mem_handles_of_readArgument hread hmem)
  | arguments => exact Interaction.honest_pure hargs
  | argumentCount => exact Interaction.honest_pure (List.forall_mem_nil _)
  | className => exact Interaction.honest_pure (List.forall_mem_nil _)
  | itself => exact hclass c.cls
  | reach id => exact hclass id
  | typeCount => exact Interaction.honest_pure (List.forall_mem_nil _)
  | fail text => exact Interaction.honest_throw _

theorem ClassStep.honest_runAll (c : ClassContext) {known : Handle -> Prop}
    (hclasses : forall h, c.types.Offers [] h -> known h) {args : List Value}
    (hargs : forall h, h ∈ Value.handlesAll args -> known h)
    {steps : List ClassStep}
    (hsteps : forall step, step ∈ steps -> step.handles = []) :
    HonestSteps Value.handlesAll (ClassStep.runAll c args steps) known := by
  induction steps generalizing known with
  | nil => exact Interaction.honest_pure (List.forall_mem_nil _)
  | cons step rest ih =>
      apply Interaction.honest_bind
        (ClassStep.honest_run c hclasses hargs step ?_)
      · intro results known' hgrown hresults
        apply Interaction.honest_bind (ih
          (fun h hh => hgrown h (hclasses h hh))
          (fun h hmem => hgrown h (hargs h hmem))
          (fun step hstep => hsteps step (List.mem_cons_of_mem _ hstep)))
        intro more known'' hlater hmore
        apply Interaction.honest_pure
        intro h hmem
        rw [Value.handlesAll_append] at hmem
        rcases List.mem_append.mp hmem with hmem | hmem
        · exact hlater h (hresults h hmem)
        · exact hmore h hmem
      · intro h hmem
        rw [hsteps step List.mem_cons_self] at hmem
        cases hmem

theorem Registration.honest_classFunction {t : TypeTable} (id : ClassId)
    (name : String) {steps : List ClassStep}
    (hsteps : forall step, step ∈ steps -> step.handles = []) :
    (classFunction id name (ClassStep.function steps)).Honest t := by
  intro cls args
  exact ClassStep.honest_runAll ⟨t, cls⟩
    (fun _ hh => Or.inr (hh.resolve_left List.not_mem_nil))
    (fun _ hmem => Or.inl hmem) hsteps

/-!
## Native programs
-/

namespace NativeStep

abbrev Honest {Result : Type} (attempt : Attempt Result)
    (known : Handle -> Prop) : Prop :=
  Interaction.HonestAttempt NativeOp.handles NativeOp.learned (fun _ => [])
    attempt known

variable {known : Handle -> Prop}

theorem honest_ask {op : NativeOp} (h : op.handles = []) :
    Honest (ask op) known := by
  refine ⟨?_, fun _ => List.forall_mem_nil _⟩
  intro h' hmem
  rw [h] at hmem
  cases hmem

theorem honest_bind {Result Other : Type} {attempt : Attempt Result}
    {next : Result -> Attempt Other} (h : Honest attempt known)
    (hnext : forall result known', Honest (next result) known') :
    Honest (attempt >>= next) known :=
  Interaction.honest_bind h (fun result known' _ _ => hnext result known')

theorem honest_pure {Result : Type} (result : Result) :
    Honest (pure result) known :=
  Interaction.honest_pure (List.forall_mem_nil _)

theorem honest_throw {Result : Type} (cause : NativeError) :
    Honest (throw cause : Attempt Result) known :=
  Interaction.honest_throw cause

theorem honest_write (place : FramePlace) (v : NativeValue) :
    Honest (write place v) known := by
  cases place
  all_goals
    apply honest_bind (honest_ask rfl)
    intro outcome known'
    cases outcome with
    | ok done => exact honest_pure ()
    | error cause => exact honest_throw cause

theorem honest_readSlot (index : Nat) (kind : Option NativeKind) :
    Honest (readSlot index kind) known := by
  cases kind
  all_goals
    apply honest_bind (honest_ask rfl)
    intro outcome known'
    cases outcome with
    | ok v => exact honest_pure v
    | error cause => exact honest_throw cause

theorem honest_object (id : ObjectId) : Honest (object id) known := by
  apply honest_bind (honest_ask rfl)
  intro answer known'
  cases answer with
  | none => exact honest_throw _
  | some o => exact honest_pure o

theorem honest_run (id : ObjectId) (step : NativeStep) :
    Honest (step.run id) known := by
  cases step with
  | put place v => exact honest_write place v
  | copy index place kind =>
      apply honest_bind (honest_readSlot index kind)
      intro v known'
      exact honest_write place v
  | calls place =>
      apply honest_bind (honest_ask rfl)
      intro done known'
      apply honest_bind (honest_object id)
      intro o known''
      exact honest_write place _
  | count => exact honest_ask rfl
  | className place =>
      apply honest_bind (honest_object id)
      intro o known'
      exact honest_write place _
  | width place =>
      apply honest_bind (honest_ask rfl)
      intro width known'
      exact honest_write place _
  | destroy r =>
      apply honest_bind (honest_ask rfl)
      intro destroyed known'
      exact honest_pure ()
  | fail text => exact honest_throw _

theorem honest_runAll (id : ObjectId) (steps : List NativeStep) :
    Honest (runAll id steps) known := by
  induction steps generalizing known with
  | nil => exact honest_pure ()
  | cons step rest ih =>
      apply honest_bind (honest_run id step)
      intro done known'
      exact ih

/-- The body of a native program makes no handles up, whatever it does. -/
theorem honest_body (t : TypeTable) (steps : List NativeStep) :
    t.HonestNative (body steps) := by
  intro id
  exact honest_runAll id steps

end NativeStep

end ScriptBridge
