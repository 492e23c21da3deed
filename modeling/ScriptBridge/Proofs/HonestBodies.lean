import ScriptBridge.Host.Program
import ScriptBridge.Proofs.Resaving
import ScriptBridge.Proofs.RightHandles
import ScriptBridge.Proofs.Traces

/-!
# Honest bodies

A body is honest if it makes no handles up: whatever handle it writes into an
object or returns is one that it was offered, read from a field, or was given
when it asked for the handle of an object; handles of classes are known to
everyone.  What the answers are is left open, so an honest body is honest in
every world.

Running an honest body keeps the handles in all fields settled, and settled
handles are all that it returns.
-/

namespace ScriptBridge

namespace Interaction

variable {Op : Type} {Answer : Op -> Type} {Result Other State : Type}

/--
Every handle that a dialogue brings in is known by then, and what is known at
the end is as demanded.  Answers add to what is known.
-/
def Honest (given : Op -> List Handle)
    (learned : (op : Op) -> Answer op -> List Handle)
    (demanded : Result -> (Handle -> Prop) -> Prop) :
    Interaction Op Answer Result -> (Handle -> Prop) -> Prop
  | .finish result, known => demanded result known
  | .ask op next, known =>
      (forall h, h ∈ given op -> known h) ∧
        forall answer,
          Honest given learned demanded (next answer)
            (fun h => known h ∨ h ∈ learned op answer)

section Honest

variable {given : Op -> List Handle}
variable {learned : (op : Op) -> Answer op -> List Handle}
variable {demanded : Result -> (Handle -> Prop) -> Prop}

theorem Honest.andThen {demanded' : Other -> (Handle -> Prop) -> Prop}
    {i : Interaction Op Answer Result} {known : Handle -> Prop}
    {next : Result -> Interaction Op Answer Other}
    (h : i.Honest given learned demanded known)
    (hnext : forall result known',
      (forall h, known h -> known' h) -> demanded result known' ->
      (next result).Honest given learned demanded' known') :
    (i.andThen next).Honest given learned demanded' known := by
  induction i generalizing known with
  | finish result => exact hnext result known (fun _ hknown => hknown) h
  | ask op follow ih =>
      refine ⟨h.1, ?_⟩
      intro answer
      apply ih answer (h.2 answer)
      intro result known' hgrown hresult
      exact hnext result known' (fun h hknown => hgrown h (Or.inl hknown))
        hresult

/-- An honest run keeps the handles in fields settled, and learns settled handles only. -/
theorem Honest.settled_run (types : TypeTable)
    (perform : (op : Op) -> State -> Answer op × State)
    (world : State -> World) (worldOps : Op -> List WorldOp)
    (hstep : forall op s,
      world (perform op s).2 = (world s).performAll (worldOps op))
    (hgiven : forall op o, o ∈ worldOps op -> forall h, h ∈ o.handles ->
      h ∈ given op)
    (hlearned : forall op s, types.AllSettled (world s) ->
      forall h, h ∈ learned op (perform op s).1 ->
        types.Settled (world s) h)
    {i : Interaction Op Answer Result} {known : Handle -> Prop}
    (hhonest : i.Honest given learned demanded known) {s : State}
    (hw : (world s).Tidy)
    (hspent : (world s).Unspent ((i.asked perform s).flatMap worldOps))
    (hknown : forall h, known h -> types.Settled (world s) h)
    (hall : types.AllSettled (world s)) :
    types.AllSettled (world (i.run perform s).2) ∧
      exists known', demanded (i.run perform s).1 known' ∧
        forall h, known' h -> types.Settled (world (i.run perform s).2) h := by
  -- Every answer adds to what is known, and the world moves on.
  induction i generalizing known s with
  | finish result => exact ⟨hall, known, hhonest, hknown⟩
  | ask op next ih =>
      rw [asked, List.flatMap_cons] at hspent
      have hlater := hspent.right hw
      have hkept {h : Handle} (hsettled : types.Settled (world s) h) :
          types.Settled (world (perform op s).2) h := by
        rw [hstep]
        exact hsettled.performAll hw hspent.left
      apply ih (perform op s).1 (hhonest.2 _)
      · rw [hstep]
        exact hw.performAll _
      · rw [hstep]
        exact hlater
      · intro h hh
        rcases hh with hh | hh
        · exact hkept (hknown h hh)
        · exact hkept (hlearned op s hall h hh)
      · rw [hstep]
        apply hall.performAll hw hspent.left
        intro o ho h hh
        exact hknown h (hhonest.1 h (hgiven op o ho h hh))

def Attempted {Cause : Type} (returned : Result -> List Handle) :
    Except Cause Result -> (Handle -> Prop) -> Prop
  | .ok result, known => forall h, h ∈ returned result -> known h
  | .error _, _ => True

def HonestAttempt {Cause : Type} (given : Op -> List Handle)
    (learned : (op : Op) -> Answer op -> List Handle)
    (returned : Result -> List Handle)
    (attempt : ExceptT Cause (Interaction Op Answer) Result)
    (known : Handle -> Prop) : Prop :=
  attempt.run.Honest given learned (Attempted returned) known

section Attempts

variable {Cause : Type} {known : Handle -> Prop}
variable {returned : Result -> List Handle}

theorem honest_pure {result : Result}
    (h : forall h, h ∈ returned result -> known h) :
    HonestAttempt given learned returned
      (pure result : ExceptT Cause (Interaction Op Answer) Result) known :=
  h

theorem honest_throw (cause : Cause) :
    HonestAttempt given learned returned
      (throw cause : ExceptT Cause (Interaction Op Answer) Result) known :=
  trivial

theorem honest_lift (op : Op) (h : forall h, h ∈ given op -> known h) :
    HonestAttempt given learned (learned op)
      (ExceptT.lift (.request op) :
        ExceptT Cause (Interaction Op Answer) (Answer op)) known :=
  ⟨h, fun _ _ hh => Or.inr hh⟩

theorem honest_bind {returned' : Other -> List Handle}
    {attempt : ExceptT Cause (Interaction Op Answer) Result}
    {next : Result -> ExceptT Cause (Interaction Op Answer) Other}
    (h : HonestAttempt given learned returned attempt known)
    (hnext : forall result known',
      (forall h, known h -> known' h) ->
      (forall h, h ∈ returned result -> known' h) ->
      HonestAttempt given learned returned' (next result) known') :
    HonestAttempt given learned returned' (attempt >>= next) known := by
  apply Honest.andThen h
  intro result known' hgrown hresult
  cases result with
  | error cause => exact trivial
  | ok result => exact hnext result known' hgrown hresult

end Attempts

end Honest

end Interaction

/-!
## Operations of bodies
-/

namespace HostOp

def handles : HostOp -> List Handle
  | .world op => op.handles
  | .handle _ => []

def learned : (op : HostOp) -> op.Answer -> List Handle
  | .world op, answer => op.learned answer
  | .handle _, answer => (answer.map Handle.object).toList

end HostOp

namespace NativeOp

def handles : NativeOp -> List Handle
  | .world op => op.handles
  | _ => []

def learned : (op : NativeOp) -> op.Answer -> List Handle
  | .world op, answer => op.learned answer
  | _, _ => []

end NativeOp

namespace TypeTable

theorem settled_of_mem_learned {t : TypeTable} {w : World} {op : WorldOp}
    (hall : t.AllSettled w) {h : Handle}
    (hmem : h ∈ op.learned (op.perform w).1) : t.Settled w h := by
  cases op with
  | read id =>
      unfold WorldOp.learned WorldOp.perform at hmem
      dsimp only at hmem
      cases ho : w.object? id with
      | none =>
          rw [ho] at hmem
          cases hmem
      | some o =>
          rw [ho] at hmem
          exact hall h (World.mem_handles_of_object? ho hmem)
  | find r => cases hmem
  | change id c => cases hmem
  | spawn o => cases hmem
  | share id => cases hmem
  | destroy r => cases hmem
  | population => cases hmem

/-- What a body knows that is offered some handles: these, and the handles of classes. -/
def Offers (t : TypeTable) (offered : List Handle) (h : Handle) : Prop :=
  h ∈ offered ∨ exists id c, t.classHandle? id = some c ∧ h = .cls c

theorem settled_of_offers {t : TypeTable} {w : World} {offered : List Handle}
    (hoffered : forall h, h ∈ offered -> t.Settled w h) {h : Handle}
    (hh : t.Offers offered h) : t.Settled w h := by
  rcases hh with hmem | ⟨id, c, hc, rfl⟩
  · exact hoffered h hmem
  · exact settled_of_classHandle? hc

def HonestBody {Result : Type} (t : TypeTable)
    (returned : Result -> List Handle) (offered : List Handle)
    (body : HostAttempt Result) : Prop :=
  Interaction.HonestAttempt HostOp.handles HostOp.learned returned body
    (t.Offers offered)

/-- A native body makes no handles up.  It is offered none and returns none. -/
def HonestNative (t : TypeTable) (body : NativeBody) : Prop :=
  forall id, (body id).Honest NativeOp.handles NativeOp.learned
    (Interaction.Attempted (fun _ => [])) (t.Offers [])

end TypeTable

/-!
## Running honest bodies
-/

theorem Bridge.settled_runBody {Result : Type} {b : Bridge}
    {returned : Result -> List Handle} {offered : List Handle}
    {body : HostAttempt Result}
    (hhonest : b.types.HonestBody returned offered body)
    (hoffered : forall h, h ∈ offered -> b.types.Settled b.world h)
    (hw : b.world.Tidy)
    (hspent : b.world.Unspent (b.types.worldOps body b.world))
    (hall : b.types.AllSettled b.world) :
    b.types.AllSettled (b.runBody body).2.world ∧
      forall result, (b.runBody body).1 = .ok result ->
        forall h, h ∈ returned result ->
          b.types.Settled (b.runBody body).2.world h := by
  have hrun := Interaction.Honest.settled_run b.types
    (HostOp.perform b.types) id HostOp.worldOps
    (HostOp.world_perform b.types)
    (by
      intro op o ho h hh
      cases op with
      | world op =>
          cases List.mem_singleton.mp ho
          exact hh
      | handle p => cases ho)
    (by
      intro op w hall h hh
      cases op with
      | world op => exact TypeTable.settled_of_mem_learned hall hh
      | handle p =>
          rcases Option.map_eq_some_iff.mp (Option.mem_toList.mp hh) with
            ⟨found, hfound, rfl⟩
          exact TypeTable.settled_of_objectHandle? hfound)
    hhonest hw hspent (fun h hh => TypeTable.settled_of_offers hoffered hh)
    hall
  rcases hrun with ⟨hafter, known, hdemanded, hknown⟩
  refine ⟨hafter, ?_⟩
  intro result hresult h hh
  apply hknown
  have hreturned : Interaction.Attempted returned
      (b.runBody body).1 known := hdemanded
  rw [hresult] at hreturned
  exact hreturned h hh

namespace HostRun

def offered : HostRun -> List Handle
  | .getter _ _ => []
  | .setter _ _ v => v.handles
  | .function _ _ args => Value.handlesAll args
  | .classFunction _ _ args => Value.handlesAll args
  | .native _ _ _ _ => []

def Honest (t : TypeTable) : HostRun -> Prop
  | .getter p c => t.HonestBody Value.handles [] (p.get c)
  | .setter set c v => t.HonestBody (fun _ => []) v.handles (set c v)
  | .function body c args =>
      t.HonestBody Value.handlesAll (Value.handlesAll args) (body c args)
  | .classFunction body c args =>
      t.HonestBody Value.handlesAll (Value.handlesAll args) (body c args)
  | .native f _ _ _ => t.HonestNative f.function.body

theorem settled_native {t : TypeTable} {body : NativeBody}
    (hhonest : t.HonestNative body) {w : World} (hw : w.Tidy) {frame : Frame}
    {id : ObjectId}
    (hspent : w.Unspent
      (((body id).asked NativeOp.perform (w, frame)).flatMap
        NativeOp.worldOps))
    (hall : t.AllSettled w) :
    t.AllSettled ((body id).run NativeOp.perform (w, frame)).2.1 := by
  have hrun := Interaction.Honest.settled_run t
    NativeOp.perform Prod.fst NativeOp.worldOps NativeOp.world_perform
    (by
      intro op o ho h hh
      cases op with
      | world op =>
          cases List.mem_singleton.mp ho
          exact hh
      | _ => cases ho)
    (by
      intro op s hall h hh
      cases op with
      | world op => exact TypeTable.settled_of_mem_learned hall hh
      | _ => cases hh)
    (s := (w, frame)) (hhonest id) hw hspent
    (fun h hh => TypeTable.settled_of_offers (List.forall_mem_nil _) hh) hall
  exact hrun.1

theorem settled_outcome {b : Bridge} {run : HostRun}
    (hhonest : run.Honest b.types)
    (hoffered : forall h, h ∈ run.offered -> b.types.Settled b.world h)
    (hw : b.world.Tidy) (hspent : b.world.Unspent (run.worldOps b))
    (hall : b.types.AllSettled b.world) :
    b.types.AllSettled (run.outcome b).2.world ∧
      forall results, (run.outcome b).1 = .ok results ->
        forall h, h ∈ Value.handlesAll results ->
          b.types.Settled (run.outcome b).2.world h := by
  cases run with
  | getter p c =>
      rcases b.settled_runBody hhonest hoffered hw hspent hall with
        ⟨hafter, hresult⟩
      refine ⟨hafter, ?_⟩
      intro results hresults h hh
      rcases exists_of_map_eq_ok hresults with ⟨v, hv, rfl⟩
      apply hresult v hv
      simpa [Value.handlesAll] using hh
  | setter set c v =>
      rcases b.settled_runBody hhonest hoffered hw hspent hall with
        ⟨hafter, _⟩
      refine ⟨hafter, ?_⟩
      intro results hresults h hh
      rcases exists_of_map_eq_ok hresults with ⟨done, _, rfl⟩
      cases hh
  | function body c args =>
      exact b.settled_runBody hhonest hoffered hw hspent hall
  | classFunction body c args =>
      exact b.settled_runBody hhonest hoffered hw hspent hall
  | native f path id frame =>
      have hafter := settled_native hhonest hw hspent hall
      unfold outcome
      dsimp only
      cases ((f.function.body id).run NativeOp.perform
        (b.world, frame)).1 with
      | error cause =>
          refine ⟨hafter, ?_⟩
          intro results hresults
          cases hresults
      | ok done =>
          refine ⟨hafter, ?_⟩
          intro results hresults h hh
          cases hresults
          rcases Value.mem_handlesAll_iff.mp hh with ⟨v, hv, hin⟩
          rcases List.mem_map.mp hv with ⟨entry, _, rfl⟩
          exact TypeTable.settled_of_mem_toScript _ hin

end HostRun

/-!
## Registered bodies
-/

/-- The bodies that a registration brings make no handles up. -/
def Registration.Honest (t : TypeTable) : Registration -> Prop
  | .cls c => forall f, f ∈ c.functions -> t.HonestNative f.body
  | .type _ _ _ => True
  | .function _ _ body =>
      forall path args,
        t.HonestBody Value.handlesAll (Value.handlesAll args)
          (body ⟨t, path⟩ args)
  | .property _ _ p =>
      (forall path, t.HonestBody Value.handles [] (p.get ⟨t, path⟩)) ∧
        forall set, p.set = some set -> forall path v,
          t.HonestBody (fun _ => []) v.handles (set ⟨t, path⟩ v)
  | .classFunction _ _ body =>
      forall id args,
        t.HonestBody Value.handlesAll (Value.handlesAll args)
          (body ⟨t, id⟩ args)

/-- Whatever is in a draft could have come from a registration of a kind. -/
structure Draft.MadeOf (Kind : Registration -> Prop) (d : Draft) : Prop where
  cls {id : ClassId} {c : NativeClass} :
    d.types.catalog.get? id = some c -> Kind (.cls c)
  function {id : ClassId} {table : MemberTable} {name : String}
      {body : FunctionBody} :
    d.members.get? id = some table ->
    table.functions.get? name = some body -> Kind (.function id name body)
  property {id : ClassId} {table : MemberTable} {name : String}
      {p : Property} :
    d.members.get? id = some table ->
    table.properties.get? name = some p -> Kind (.property id name p)
  classFunction {id : ClassId} {table : MemberTable} {name : String}
      {body : ClassFunctionBody} :
    d.members.get? id = some table ->
    table.classFunctions.get? name = some body ->
    Kind (.classFunction id name body)

namespace Draft

section MadeOf

variable {Kind : Registration -> Prop} {d : Draft}

theorem madeOf_empty (mark : String) : (Draft.empty mark).MadeOf Kind := by
  constructor
  · intro id c h
    cases h
  · intro id table name body h
    cases h
  · intro id table name p h
    cases h
  · intro id table name body h
    cases h

theorem MadeOf.getD (h : d.MadeOf Kind) (id : ClassId) :
    (forall name body,
      (d.members.getD id .empty).functions.get? name = some body ->
        Kind (.function id name body)) ∧
    (forall name p,
      (d.members.getD id .empty).properties.get? name = some p ->
        Kind (.property id name p)) ∧
    (forall name body,
      (d.members.getD id .empty).classFunctions.get? name = some body ->
        Kind (.classFunction id name body)) := by
  unfold Table.getD
  cases htable : d.members.get? id with
  | none =>
      refine ⟨?_, ?_, ?_⟩
      · intro name body hget
        cases hget
      · intro name p hget
        cases hget
      · intro name body hget
        cases hget
  | some table =>
      exact ⟨fun _ _ => h.function htable, fun _ _ => h.property htable,
        fun _ _ => h.classFunction htable⟩

theorem MadeOf.addMember (h : d.MadeOf Kind) {id : ClassId} {name : String}
    {sort : MemberSort} {change : MemberTable -> MemberTable}
    (hfunction : forall other body,
      (change (d.members.getD id .empty)).functions.get? other =
        some body -> Kind (.function id other body))
    (hproperty : forall other p,
      (change (d.members.getD id .empty)).properties.get? other =
        some p -> Kind (.property id other p))
    (hclass : forall other body,
      (change (d.members.getD id .empty)).classFunctions.get? other =
        some body -> Kind (.classFunction id other body)) :
    (d.addMember id name sort change).2.MadeOf Kind := by
  unfold Draft.addMember
  cases d.checkLevel id name sort with
  | error cause => exact h
  | ok done =>
      constructor
      · exact h.cls
      · intro other table name body htable hget
        rcases Table.get?_put_cases htable with ⟨rfl, rfl⟩ | hold
        · exact hfunction name body hget
        · exact h.function hold hget
      · intro other table name p htable hget
        rcases Table.get?_put_cases htable with ⟨rfl, rfl⟩ | hold
        · exact hproperty name p hget
        · exact h.property hold hget
      · intro other table name body htable hget
        rcases Table.get?_put_cases htable with ⟨rfl, rfl⟩ | hold
        · exact hclass name body hget
        · exact h.classFunction hold hget

theorem MadeOf.addClass (h : d.MadeOf Kind) {c : NativeClass}
    (hc : Kind (.cls c)) : (d.addClass c).2.MadeOf Kind := by
  unfold Draft.addClass
  split
  · exact h
  · constructor
    · intro id found hget
      rcases Table.get?_put_cases hget with ⟨_, rfl⟩ | hold
      · exact hc
      · exact h.cls hold
    · exact h.function
    · exact h.property
    · exact h.classFunction

theorem MadeOf.exposeType (h : d.MadeOf Kind) (id : ClassId) (name : String)
    (level : TypeLevel) : (d.exposeType id name level).2.MadeOf Kind := by
  unfold Draft.exposeType
  split
  · exact h
  · split
    · split <;> exact h
    · constructor
      · intro other c hget
        dsimp only at hget
        rw [TypeTable.catalog_bind] at hget
        exact h.cls hget
      · exact h.function
      · exact h.property
      · exact h.classFunction

theorem MadeOf.register (h : d.MadeOf Kind) {r : Registration}
    (hr : Kind r) : (d.register r).2.MadeOf Kind := by
  cases r with
  | cls c => exact h.addClass hr
  | type id name level => exact h.exposeType id name level
  | function id name body =>
      rcases h.getD id with ⟨hfunction, hproperty, hclass⟩
      apply h.addMember
      · intro other found hget
        rcases Table.get?_put_cases hget with ⟨rfl, rfl⟩ | hold
        · exact hr
        · exact hfunction other found hold
      · exact hproperty
      · exact hclass
  | property id name p =>
      rcases h.getD id with ⟨hfunction, hproperty, hclass⟩
      apply h.addMember
      · exact hfunction
      · intro other found hget
        rcases Table.get?_put_cases hget with ⟨rfl, rfl⟩ | hold
        · exact hr
        · exact hproperty other found hold
      · exact hclass
  | classFunction id name body =>
      rcases h.getD id with ⟨hfunction, hproperty, hclass⟩
      apply h.addMember
      · exact hfunction
      · exact hproperty
      · intro other found hget
        rcases Table.get?_put_cases hget with ⟨rfl, rfl⟩ | hold
        · exact hr
        · exact hclass other found hold

theorem MadeOf.registerAll (h : d.MadeOf Kind) {rs : List Registration}
    (hrs : forall r, r ∈ rs -> Kind r) : (d.registerAll rs).MadeOf Kind := by
  induction rs generalizing d with
  | nil => exact h
  | cons r rest ih =>
      exact ih (h.register (hrs r List.mem_cons_self))
        (fun r hr => hrs r (List.mem_cons_of_mem _ hr))

end MadeOf

end Draft

structure Registry.Honest (r : Registry) : Prop where
  function {id : ClassId} {name : String} {body : FunctionBody} :
    r.function? id name = some body ->
    (Registration.function id name body).Honest r.types
  property {id : ClassId} {name : String} {p : Property} :
    r.property? id name = some p ->
    (Registration.property id name p).Honest r.types
  classFunction {id : ClassId} {name : String} {body : ClassFunctionBody} :
    r.classFunction? id name = some body ->
    (Registration.classFunction id name body).Honest r.types
  native {id : ClassId} {name : String} {f : DeclaredFunction} :
    r.types.nativeFunction? id name = some f ->
    r.types.HonestNative f.function.body

theorem Registry.exists_of_nearest? {Answer : Type} {r : Registry}
    {id : ClassId} {answer : MemberTable -> Option Answer} {a : Answer}
    (h : r.nearest? id answer = some a) :
    exists ancestor table,
      r.members.get? ancestor = some table ∧ answer table = some a := by
  rcases List.exists_of_findSome?_eq_some h with ⟨ancestor, _, hfound⟩
  rcases Option.bind_eq_some_iff.mp hfound with ⟨table, htable, ha⟩
  exact ⟨ancestor, table, htable, ha⟩

theorem Registry.honest_sealed {mark : String} {rs : List Registration}
    {r : Registry} (hsealed : r = ((Draft.empty mark).registerAll rs).sealed)
    (hrs : forall registration, registration ∈ rs ->
      registration.Honest r.types) : r.Honest := by
  subst hsealed
  have hmade := (Draft.madeOf_empty mark).registerAll hrs
  constructor
  · intro id name body h
    rcases exists_of_nearest? h with ⟨ancestor, table, htable, hbody⟩
    have hhonest := hmade.function htable hbody
    exact hhonest
  · intro id name p h
    rcases exists_of_nearest? h with ⟨ancestor, table, htable, hp⟩
    have hhonest := hmade.property htable hp
    exact hhonest
  · intro id name body h
    rcases exists_of_nearest? h with ⟨ancestor, table, htable, hbody⟩
    have hhonest := hmade.classFunction htable hbody
    exact hhonest
  · intro id name f h
    have hdeclared := Catalog.declared?_of_findFunction? h
    rcases Option.bind_eq_some_iff.mp hdeclared with ⟨c, hc, hf⟩
    exact hmade.cls hc f.function (List.mem_of_find?_eq_some hf)

end ScriptBridge
