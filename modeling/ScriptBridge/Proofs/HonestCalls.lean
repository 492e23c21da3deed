import ScriptBridge.Proofs.Fitting
import ScriptBridge.Proofs.HonestBodies

/-!
# Operations under honest bodies

What scripts do with handles changes the world by host bodies only.  So under a
registry of honest bodies an operation leaves the handles in all fields settled,
and the handles in its reply are settled as well, whatever it was given that was
settled.
-/

namespace ScriptBridge

namespace Bridge

theorem registry_afterAll (b : Bridge) (events : List HostEvent) :
    (b.afterAll events).registry = b.registry := by
  induction events generalizing b with
  | nil => rfl
  | cons e rest ih =>
      rw [afterAll, ih]
      cases e with
      | renamed id nick => rfl
      | ran run =>
          cases run with
          | getter p c => rfl
          | setter set c v => rfl
          | function body c args => rfl
          | classFunction body c args => rfl
          | native f path id frame =>
              unfold HostEvent.after HostRun.outcome
              dsimp only
              cases ((f.function.body id).run NativeOp.perform
                (b.world, frame)).1 with
              | error cause => rfl
              | ok done => rfl

theorem worldOps_append (b : Bridge) (events more : List HostEvent) :
    b.worldOps (events ++ more) =
      b.worldOps events ++ (b.afterAll events).worldOps more := by
  induction events generalizing b with
  | nil => rfl
  | cons e rest ih =>
      rw [List.cons_append, worldOps, ih, worldOps, afterAll,
        List.append_assoc]

structure Upright (b : Bridge) : Prop where
  tidy : b.world.Tidy
  settled : b.types.AllSettled b.world

end Bridge

/--
While the generations last, an operation leaves an upright bridge, and the
handles in its reply are settled there.
-/
def Journaled.Settles {Reply : Type} (handles : Reply -> List Handle)
    (b : Bridge) (j : Journaled Reply) : Prop :=
  b.world.Unspent (b.worldOps j.events) ->
    b.types.AllSettled j.outcome.2.world ∧
      forall reply, j.outcome.1 = .ok reply ->
        forall h, h ∈ handles reply -> b.types.Settled j.outcome.2.world h

namespace Journaled

variable {Reply : Type} {handles : Reply -> List Handle} {b : Bridge}

theorem settles_refused (hb : b.Upright) (cause : BridgeError) :
    (silent (.error cause) b : Journaled Reply).Settles handles b := by
  intro _
  exact ⟨hb.settled, fun _ heq => nomatch heq⟩

theorem settles_answered (hb : b.Upright) {reply : Reply}
    (hnone : handles reply = []) :
    (silent (.ok reply) b).Settles handles b := by
  intro _
  refine ⟨hb.settled, ?_⟩
  intro other heq h hmem
  cases heq
  rw [hnone] at hmem
  cases hmem

theorem settles_ofRun (hb : b.Upright) {run : HostRun}
    {read : List Value -> Reply} (hhonest : run.Honest b.types)
    (hoffered : forall h, h ∈ run.offered -> b.types.Settled b.world h)
    (hread : forall results h, h ∈ handles (read results) ->
      h ∈ Value.handlesAll results) :
    (ofRun b run read).Settles handles b := by
  intro hspent
  have hops : b.worldOps [.ran run] = run.worldOps b :=
    List.append_nil _
  have hrun : b.world.Unspent (run.worldOps b) := by
    rw [← hops]
    exact hspent
  rcases HostRun.settled_outcome hhonest hoffered hb.tidy hrun hb.settled with
    ⟨hafter, hresults⟩
  refine ⟨hafter, ?_⟩
  intro reply hreply h hmem
  rcases exists_of_map_eq_ok hreply with ⟨results, hok, rfl⟩
  exact hresults results hok h (hread results h hmem)

end Journaled

namespace Bridge

theorem exists_of_firstAlong {Answer : Type} {b : Bridge} {h : InstanceHandle}
    {o : NativeObject} {answer : ClassId -> Option Answer} {path : Path}
    {a : Answer} (hfound : b.firstAlong h o answer = some (path, a)) :
    exists id, answer id = some a := by
  rcases (firstAlong_eq_some_iff b h o answer path a).mp hfound with
    ⟨object, hanswered⟩
  cases hanswered with
  | own hown => exact ⟨_, hown⟩
  | merged _ _ _ hanswer => exact ⟨_, hanswer⟩

theorem exists_of_meaning_property {b : Bridge} {h : InstanceHandle}
    {name : String} {path : Path} {p : Property}
    (hmeaning : b.meaning h name = .ok (.property path p)) :
    exists id, b.registry.property? id name = some p := by
  unfold meaning at hmeaning
  cases ho : b.object h with
  | error cause =>
      rw [ho] at hmeaning
      cases hmeaning
  | ok o =>
      rw [ho] at hmeaning
      dsimp only at hmeaning
      split at hmeaning
      · rcases exists_of_map_eq_ok hmeaning with ⟨_, _, heq⟩
        cases heq
      · split at hmeaning
        · rcases exists_of_map_eq_ok hmeaning with ⟨_, _, heq⟩
          cases heq
        · cases hfound : b.findProperty? h o name with
          | none =>
              rw [hfound] at hmeaning
              dsimp only at hmeaning
              split at hmeaning <;> cases hmeaning
          | some found =>
              rw [hfound] at hmeaning
              cases hmeaning
              exact exists_of_firstAlong hfound

end Bridge

namespace Operation

def replyHandles : (op : Operation) -> op.Reply -> List Handle
  | .index _ _, v => (v.map Value.handles).getD []
  | .assign _ _ _, _ => []
  | .call _ _ _, results => Value.handlesAll results

/-- The handles that an operation is given besides the one that it is on. -/
def given : Operation -> List Handle
  | .index _ _ => []
  | .assign _ _ v => v.handles
  | .call _ _ args => Value.handlesAll args

theorem settles_journalIndex {b : Bridge} (hr : b.registry.Honest)
    (hb : b.Upright) (d : Dispatcher) (h : Handle) (name : String) :
    (journalIndex d b h name).Settles (replyHandles (.index h name)) b := by
  have hmember (m : Option Member) :
      replyHandles (.index h name) (m.map .member) = [] := by
    cases m <;> rfl
  unfold journalIndex
  cases h with
  | cls h =>
      apply Journaled.settles_answered hb
      unfold Dispatcher.indexClass
      split
      · rfl
      · exact hmember _
  | object h =>
      dsimp only
      cases hmeaning : b.meaning h name with
      | error cause => exact Journaled.settles_refused hb cause
      | ok meaning =>
          cases meaning with
          | text text => exact Journaled.settles_answered hb rfl
          | members => exact Journaled.settles_answered hb rfl
          | function o => exact Journaled.settles_answered hb (hmember _)
          | property path p =>
              rcases Bridge.exists_of_meaning_property hmeaning with
                ⟨id, hp⟩
              apply Journaled.settles_ofRun hb
              · exact (hr.property hp).1 path
              · intro h hmem
                cases hmem
              · intro results h hmem
                cases results with
                | nil => cases hmem
                | cons v rest => exact List.mem_append_left _ hmem

theorem settles_journalAssign {b : Bridge} (hr : b.registry.Honest)
    (hb : b.Upright) (h : Handle) (name : String) {v : Value}
    (hv : forall h, h ∈ v.handles -> b.types.Settled b.world h) :
    (journalAssign b h name v).Settles (replyHandles (.assign h name v)) b := by
  unfold journalAssign
  cases h with
  | cls h => exact Journaled.settles_refused hb _
  | object h =>
      dsimp only
      cases b.object h with
      | error cause => exact Journaled.settles_refused hb cause
      | ok o =>
          dsimp only
          by_cases hnick : name = "nick"
          · rw [if_pos hnick]
            cases Bridge.networkNode o with
            | error cause => exact Journaled.settles_refused hb cause
            | ok node =>
                cases b.world.occupant? h.path.target with
                | none => exact Journaled.settles_refused hb _
                | some id =>
                    cases HostType.string.readArgument [v] 0 with
                    | error cause => exact Journaled.settles_refused hb cause
                    | ok nick =>
                        intro hspent
                        refine ⟨?_, fun _ _ => List.forall_mem_nil _⟩
                        exact hb.settled.performAll hb.tidy
                          (hspent : b.world.Unspent
                            [.change id (.setNick nick)])
                          (by
                            intro op hop h hmem
                            cases List.mem_singleton.mp hop
                            cases hmem)
          · rw [if_neg hnick]
            cases hfound : b.findProperty? h o name with
            | none => exact Journaled.settles_refused hb _
            | some found =>
                obtain ⟨path, p⟩ := found
                dsimp only
                cases hset : p.set with
                | none => exact Journaled.settles_refused hb _
                | some set =>
                    rcases Bridge.exists_of_firstAlong hfound with ⟨id, hp⟩
                    apply Journaled.settles_ofRun hb
                    · exact (hr.property hp).2 set hset path v
                    · exact hv
                    · intro results h hmem
                      cases hmem

end Operation

inductive Call.Honest (t : TypeTable) (args : List Value) : Call -> Prop where
  | listing (names : List String) : Honest t args (.listing names)
  | function {body : FunctionBody} {c : MemberContext} :
      (HostRun.function body c args).Honest t ->
      Honest t args (.function body c args)
  | classFunction {body : ClassFunctionBody} {c : ClassContext} :
      (HostRun.classFunction body c args).Honest t ->
      Honest t args (.classFunction body c args)
  | native {f : DeclaredFunction} (path : Path) (frame : Frame) :
      t.HonestNative f.function.body -> Honest t args (.native f path frame)

namespace Bridge

section Prepare

variable {b : Bridge} {m : Member} {args : List Value} {prepared : Call}

theorem honest_of_prepareFunction (hr : b.registry.Honest)
    {h : InstanceHandle}
    (hprepare : b.prepareFunction m h args = .ok prepared) :
    prepared.Honest b.types args := by
  unfold prepareFunction at hprepare
  cases ho : b.object h with
  | error cause =>
      rw [ho] at hprepare
      cases hprepare
  | ok o =>
      rw [ho] at hprepare
      dsimp only at hprepare
      split at hprepare
      · cases hfound : b.findFunction? h o m.name with
        | none =>
            rw [hfound] at hprepare
            cases hprepare
        | some found =>
            rw [hfound] at hprepare
            cases hprepare
            rcases exists_of_firstAlong hfound with ⟨id, hbody⟩
            exact Call.Honest.function (hr.function hbody found.1 args)
      · cases hprepare

theorem honest_of_prepareClassFunction (hr : b.registry.Honest)
    {h : ClassHandle}
    (hprepare : b.prepareClassFunction m h args = .ok prepared) :
    prepared.Honest b.types args := by
  unfold prepareClassFunction at hprepare
  split at hprepare
  · cases hfound : b.registry.classFunction? h.cls m.name with
    | none =>
        rw [hfound] at hprepare
        cases hprepare
    | some body =>
        rw [hfound] at hprepare
        cases hprepare
        exact Call.Honest.classFunction (hr.classFunction hfound h.cls args)
  · cases hprepare

theorem honest_of_prepareNative (hr : b.registry.Honest)
    {declaring : ClassId} {h : InstanceHandle}
    (hprepare : b.prepareNative m declaring h args = .ok prepared) :
    prepared.Honest b.types args := by
  rcases prepareNative_eq_ok hprepare with
    ⟨o, f, path, frame, rfl, _, hf, _, _⟩
  exact Call.Honest.native path frame (hr.native hf)

theorem honest_of_prepare (hr : b.registry.Honest) {receiver : Value}
    (hprepare : b.prepare m receiver args = .ok prepared) :
    prepared.Honest b.types args := by
  unfold prepare at hprepare
  split at hprepare
  · exact honest_of_prepareFunction hr hprepare
  · cases hprepare
  · exact honest_of_prepareNative hr hprepare
  · cases hprepare
  · exact honest_of_prepareClassFunction hr hprepare
  · cases hprepare
  · rcases exists_of_map_eq_ok hprepare with ⟨names, _, rfl⟩
    exact Call.Honest.listing names
  · cases hprepare

end Prepare

end Bridge

namespace Operation

theorem handlesAll_strings (names : List String) :
    Value.handlesAll (names.map .string) = [] := by
  induction names with
  | nil => rfl
  | cons name rest ih => exact ih

theorem settles_journalCall {b : Bridge} (hr : b.registry.Honest)
    (hb : b.Upright) (m : Member) (receiver : Value) {args : List Value}
    (hargs : forall h, h ∈ Value.handlesAll args ->
      b.types.Settled b.world h) :
    (journalCall b m receiver args).Settles
      (replyHandles (.call m receiver args)) b := by
  unfold journalCall
  cases hprepare : b.prepare m receiver args with
  | error cause => exact Journaled.settles_refused hb cause
  | ok prepared =>
      cases Bridge.honest_of_prepare hr hprepare with
      | listing names =>
          apply Journaled.settles_answered hb
          have hnone : Value.handlesAll (names.map .string) ++ [] = [] := by
            rw [handlesAll_strings, List.append_nil]
          exact hnone
      | function hhonest =>
          exact Journaled.settles_ofRun hb hhonest hargs
            (fun _ _ hmem => hmem)
      | classFunction hhonest =>
          exact Journaled.settles_ofRun hb hhonest hargs
            (fun _ _ hmem => hmem)
      | native path frame hhonest =>
          dsimp only
          cases b.world.occupant? path.target with
          | none => exact Journaled.settles_refused hb _
          | some id =>
              apply Journaled.settles_ofRun hb
              · exact hhonest
              · intro h hmem
                cases hmem
              · exact fun _ _ hmem => hmem

theorem settles_journal {b : Bridge} (hr : b.registry.Honest)
    (hb : b.Upright) (d : Dispatcher) (op : Operation)
    (hgiven : forall h, h ∈ op.given -> b.types.Settled b.world h) :
    (op.journal d b).Settles op.replyHandles b := by
  cases op with
  | index h name => exact settles_journalIndex hr hb d h name
  | assign h name v => exact settles_journalAssign hr hb h name hgiven
  | call m receiver args => exact settles_journalCall hr hb m receiver hgiven

theorem settled_perform {b : Bridge} (hr : b.registry.Honest)
    (hb : b.Upright) (d : Dispatcher) (op : Operation)
    (hgiven : forall h, h ∈ op.given -> b.types.Settled b.world h)
    (hspent : b.world.Unspent (b.worldOps (op.journal d b).events)) :
    b.types.AllSettled (op.perform d b).2.world ∧
      forall reply, (op.perform d b).1 = .ok reply ->
        forall h, h ∈ op.replyHandles reply ->
          b.types.Settled (op.perform d b).2.world h := by
  rw [← op.outcome_journal d b]
  exact settles_journal hr hb d op hgiven hspent

theorem upright_perform {b : Bridge} (hr : b.registry.Honest)
    (hb : b.Upright) (d : Dispatcher) (op : Operation)
    (hgiven : forall h, h ∈ op.given -> b.types.Settled b.world h)
    (hspent : b.world.Unspent (b.worldOps (op.journal d b).events)) :
    (op.perform d b).2.Upright := by
  have hall := (settled_perform hr hb d op hgiven hspent).1
  rw [op.bridge_perform] at hall ⊢
  constructor
  · rw [b.world_afterAll]
    exact hb.tidy.performAll _
  · unfold Bridge.types
    rw [b.registry_afterAll]
    exact hall

end Operation

namespace Dispatcher

theorem settled_callMethod {b : Bridge} (hr : b.registry.Honest)
    (hb : b.Upright) (d : Dispatcher) (h : Handle) (name : String)
    {args : List Value}
    (hargs : forall h, h ∈ Value.handlesAll args ->
      b.types.Settled b.world h)
    (hspent : b.world.Unspent
      (b.worldOps (d.journalMethod b h name args).events)) :
    b.types.AllSettled (d.callMethod b h name args).2.1.world ∧
      forall results, (d.callMethod b h name args).1 = .ok results ->
        forall other, other ∈ Value.handlesAll results ->
          b.types.Settled (d.callMethod b h name args).2.1.world other := by
  have houtcome := d.outcome_journalMethod b h name args
  have hresult := (congrArg Prod.fst houtcome).symm
  have hbridge := (congrArg Prod.snd houtcome).symm
  dsimp only at hresult hbridge
  rw [hresult, hbridge]
  have hlookUp : (Operation.journalIndex d b h name).outcome =
      (Operation.index h name).perform d b :=
    (Operation.index h name).outcome_journal d b
  have hregistry := b.registry_afterAll
    (Operation.journalIndex d b h name).events
  have hindexed :=
    (Operation.accounted_journalIndex d b h name).bridge_outcome
  rcases d.journalMethod_cases b h name args with
    ⟨m, b', hfound, heq⟩ | ⟨cause, heq⟩
  · rw [heq, Bridge.worldOps_append] at hspent
    have hupright := Operation.upright_perform hr hb d (.index h name)
      (List.forall_mem_nil _) hspent.left
    -- The call finds the world as the bodies of the index leave it.
    have hlater := hspent.right hb.tidy
    have hgiven : forall other, other ∈ Value.handlesAll args ->
        b.types.Settled (b.world.performAll (b.worldOps
          (Operation.journalIndex d b h name).events)) other :=
      fun other hmem => (hargs other hmem).performAll hb.tidy hspent.left
    rw [hfound] at hindexed
    dsimp only at hindexed
    rw [← b.world_afterAll, ← hindexed] at hlater hgiven
    rw [← hlookUp, hfound] at hupright
    rw [← hindexed] at hregistry
    have htypes : b'.types = b.types := congrArg Registry.types hregistry
    rw [← hregistry] at hr
    rw [← htypes] at hgiven ⊢
    rw [heq]
    dsimp only
    rw [Operation.outcome_journalCall]
    exact Operation.settled_perform hr hupright d
      (.call m (.handle h) args) hgiven hlater
  · rw [heq] at hspent
    have hupright := Operation.upright_perform hr hb d (.index h name)
      (List.forall_mem_nil _) hspent
    have hafter := hupright.settled
    rw [← hlookUp, hindexed] at hafter
    have htypes : (b.afterAll
        (Operation.journalIndex d b h name).events).types = b.types :=
      congrArg Registry.types hregistry
    rw [htypes, ← hindexed] at hafter
    rw [heq]
    exact ⟨hafter, fun _ heq => nomatch heq⟩

end Dispatcher

/-- The text of a handle may be the work of a body. -/
theorem Bridge.settled_display {b : Bridge} (hr : b.registry.Honest)
    (hb : b.Upright) (h : Handle)
    (hspent : b.world.Unspent (b.worldOps (b.displayEvents h))) :
    b.types.AllSettled (b.display h).2.world := by
  rw [bridge_display]
  unfold displayEvents at hspent ⊢
  cases h with
  | object h => exact hb.settled
  | cls h =>
      dsimp only at hspent ⊢
      cases hfound : b.registry.classFunction? h.cls textFunction with
      | none => exact hb.settled
      | some body =>
          rw [hfound] at hspent
          dsimp only at hspent
          have hsettles : (Journaled.ofRun b
              (.classFunction body ⟨b.types, h.cls⟩ [])
              (fun _ => ())).Settles (fun _ => []) b :=
            Journaled.settles_ofRun hb (hr.classFunction hfound h.cls [])
              (List.forall_mem_nil _) (fun _ => List.forall_mem_nil _)
          exact (hsettles hspent).1

end ScriptBridge
