import ScriptBridge.Proofs.Listing

/-!
# Shared entries

A dispatcher keeps one entry for a name under an exposed type, and the entry
serves every handle of the type, also one for which a search would find another
function.  For two sorts of functions this never shows, whatever the history.

A function that is registered for the exposed type itself comes first on every
object of the type, so only it can have been found.  A class function that is
found on one class is found on every class of the same exposed type, because
nothing is registered between a class and the ancestor that exposes it.  The two
sorts never meet in one entry: an exposed type is bound at one level only.
-/

namespace ScriptBridge

/-!
## What can have been found first
-/

namespace Bridge

theorem functionKind?_of_own {b : Bridge} {h : InstanceHandle}
    {name : String} {body : FunctionBody}
    (hown : b.registry.function? h.exposed.cls name = some body)
    (o : NativeObject) : b.functionKind? h o name = some .library := by
  rw [functionKind?, findFunction?, firstAlong, hown]
  rfl

theorem kind_of_search?_own {b : Bridge} {h : InstanceHandle}
    {name : String} {body : FunctionBody} {kind : MemberKind}
    (hown : b.registry.function? h.exposed.cls name = some body)
    (hfound : b.search? (.object h) name = some kind) : kind = .library := by
  rw [search?.eq_def] at hfound
  dsimp only at hfound
  split at hfound
  · rw [functionKind?_of_own hown] at hfound
    cases hfound
    rfl
  all_goals cases hfound

end Bridge

namespace Registry

section Found

variable {r : Registry} (hr : r.Coherent) {b : Bridge} (hb : b.registry = r)
  {handle : Handle} (hissued : r.types.Issues handle) {name : String}
  {kind : MemberKind} (hfound : b.search? handle name = some kind)
include hr hb hissued hfound

theorem kind_of_search?_object {h : InstanceHandle}
    (hh : r.types.Issues (.object h))
    (hexposed : handle.exposed = (Handle.object h).exposed)
    {body : FunctionBody}
    (hown : r.function? h.exposed.cls name = some body) :
    kind = .library := by
  have hlevel : handle.level = (Handle.object h).level :=
    hr.types.level_eq_of_issues hissued hh hexposed
  cases handle with
  | cls other => cases hlevel
  | object other =>
      have hother : other.exposed = h.exposed := hexposed
      rw [← hother, ← hb] at hown
      exact Bridge.kind_of_search?_own hown hfound

theorem search?_cls_of_search? {h : ClassHandle}
    (hh : r.types.Issues (.cls h))
    (hexposed : handle.exposed = (Handle.cls h).exposed) {b' : Bridge}
    (hb' : b'.registry = r) : b'.search? (.cls h) name = some kind := by
  have hsome : (r.classFunction? h.cls name).isSome = true :=
    isSome_classFunction?_of_search? hr hh hb hissued hexposed hfound
  have hlevel : handle.level = (Handle.cls h).level :=
    hr.types.level_eq_of_issues hissued hh hexposed
  cases handle with
  | object other => cases hlevel
  | cls other =>
      rw [Bridge.search?] at hfound ⊢
      split at hfound
      · cases hfound
      · rename_i hlisting
        rcases Option.map_eq_some_iff.mp hfound with ⟨_body, _, rfl⟩
        rcases Option.isSome_iff_exists.mp hsome with ⟨body, hbody⟩
        rw [if_neg hlisting, hb', hbody]
        rfl

end Found

end Registry

namespace History

variable {history : History} {r : Registry}

/-- An object of a type with a function of the name answers with that function. -/
theorem firstFound?_or_library (hr : r.Coherent) (hunder : history.Under r)
    {h : InstanceHandle} (hh : r.types.Issues (.object h)) {name : String}
    {body : FunctionBody}
    (hown : r.function? h.exposed.cls name = some body) :
    (history.firstFound? h.exposed name).or (some .library) =
      some .library := by
  cases hfirst : history.firstFound? h.exposed name with
  | none => rfl
  | some kind =>
      rcases exists_search?_of_firstFound? hunder hfirst with
        ⟨b, handle, hb, hissued, hexposed, hfound⟩
      have hkind : kind = .library :=
        Registry.kind_of_search?_object hr hb hissued hfound hh hexposed hown
      rw [hkind]
      rfl

theorem firstFound?_or_search?_cls (hr : r.Coherent)
    (hunder : history.Under r) {h : ClassHandle}
    (hh : r.types.Issues (.cls h)) {b : Bridge} (hb : b.registry = r)
    (name : String) :
    (history.firstFound? h.exposed name).or (b.search? (.cls h) name) =
      b.search? (.cls h) name := by
  cases hfirst : history.firstFound? h.exposed name with
  | none => rfl
  | some kind =>
      rcases exists_search?_of_firstFound? hunder hfirst with
        ⟨b', handle, hb', hissued, hexposed, hfound⟩
      rw [Registry.search?_cls_of_search? hr hb' hissued hfound hh hexposed hb]
      rfl

end History

/-!
## Functions of the exposed type
-/

namespace Dispatcher

theorem journalMethod_of_lookUp {d : Dispatcher} {b : Bridge}
    {h : InstanceHandle} {name : String} {o : NativeObject} {m : Member}
    (hm : b.meaning h name = .ok (.function o))
    (hfound : (d.lookUp h.exposed name (b.functionKind? h o name)).1 = some m)
    (args : List Value) :
    d.journalMethod b (.object h) name args =
      Operation.journalCall b m (.handle (.object h)) args := by
  rw [journalMethod, Operation.journalIndex, hm]
  dsimp only [Journaled.silent]
  rw [hfound]
  rfl

end Dispatcher

theorem Operation.journalCall_of_function {b : Bridge} {m : Member}
    {receiver : Value} {args : List Value} {body : FunctionBody}
    {c : MemberContext}
    (h : b.prepare m receiver args = .ok (.function body c args)) :
    journalCall b m receiver args = .ofRun b (.function body c args) id := by
  rw [journalCall, h]

namespace Journaled

theorem outcome_ofRun_id (b : Bridge) (run : HostRun) :
    (ofRun b run id).outcome = run.outcome b := by
  rw [ofRun]
  cases run.outcome b with
  | mk result b' => cases result <;> rfl

end Journaled

namespace Bridge

/--
A function that is registered for the exposed type of an object is what a method
call runs, whatever was looked up before: the call is one run of the function of
the nearest class, on the object of the handle and along the path of the handle.
-/
theorem own_function_runs {mark : String} {registrations : List Registration}
    {b : Bridge} {history : History} {h : InstanceHandle} {o : NativeObject}
    {name : String}
    (hsealed : b.registry =
      ((Draft.empty mark).registerAll registrations).sealed)
    (hhistory : history.Under b.registry)
    (hh : b.types.objectHandle? b.world h.path = some h)
    (ho : b.object h = .ok o)
    (hname : name ∉ ["id", "nick", "getMembers"])
    (hregistered : exists id table,
      id ∈ b.registry.types.catalog.ancestors h.exposed.cls ∧
      b.registry.members.get? id = some table ∧
      (table.functions.get? name).isSome = true)
    (hproperty : b.registry.property? h.exposed.cls name = none)
    (hmerged : forall r other, (r, other) ∈ b.world.mergedWith o ->
      b.registry.property? other.cls name = none)
    (args : List Value) :
    exists owner body,
      b.registry.Nearest h.exposed.cls (fun t => t.functions.get? name)
        owner body ∧
      ((history.leaves .fresh).journalMethod b (.object h) name args).events =
        [.ran (.function body ⟨b.types, h.path⟩ args)] ∧
      ((history.leaves .fresh).callMethod b (.object h) name args).1 =
        (HostRun.outcome b (.function body ⟨b.types, h.path⟩ args)).1 ∧
      ((history.leaves .fresh).callMethod b (.object h) name args).2.1 =
        (HostRun.outcome b (.function body ⟨b.types, h.path⟩ args)).2 := by
  have hr : b.registry.Coherent := Registry.coherent_of_sealed hsealed
  obtain ⟨body, hown⟩ : exists body,
      b.registry.function? h.exposed.cls name = some body :=
    Option.isSome_iff_exists.mp
      ((Registry.isSome_nearest?_iff _ _ _).mpr hregistered)
  rcases (Registry.nearest?_eq_some_iff _ _ _ _).mp hown with ⟨owner, hnearest⟩
  -- Nothing comes before functions for this name.
  have hm : b.meaning h name = .ok (.function o) := by
    simp only [List.mem_cons, List.not_mem_nil, or_false, not_or] at hname
    rw [meaning_eq_function_iff]
    exact ⟨ho, hname.1, hname.2.1,
      (firstAlong_eq_none_iff b h o _).mpr ⟨hproperty, hmerged⟩, hname.2.2⟩
  have hfound : ((history.leaves .fresh).lookUp h.exposed name
      (b.functionKind? h o name)).1 = some ⟨name, h.exposed, .library⟩ := by
    rw [History.lookUp_leaves_fresh, functionKind?_of_own hown,
      History.firstFound?_or_library hr hhistory ⟨b.world, hh⟩ hown]
    rfl
  have hfunction : b.findFunction? h o name = some (h.path, body) := by
    rw [findFunction?, firstAlong, hown]
  have hjournal := (Dispatcher.journalMethod_of_lookUp hm hfound args).trans
    (Operation.journalCall_of_function
      (prepare_library rfl ho rfl hfunction args))
  have houtcome := (history.leaves .fresh).outcome_journalMethod b
    (.object h) name args
  rw [hjournal, Journaled.outcome_ofRun_id] at houtcome
  refine ⟨owner, body, hnearest, ?_, ?_, ?_⟩
  · rw [hjournal]
    rfl
  · rw [houtcome]
  · rw [houtcome]

end Bridge

/-!
## Class functions
-/

namespace TypeTable

theorem Coherent.isChildOf_of_classHandle? {t : TypeTable} (ht : t.Coherent)
    {h : ClassHandle} (hh : t.classHandle? h.cls = some h) :
    t.isChildOf h.cls h.exposed.cls = true := by
  rcases Option.map_eq_some_iff.mp hh with ⟨binding, hbinding, he⟩
  rw [classBinding?_eq] at hbinding
  rcases List.findSome?_eq_some_iff.mp hbinding with
    ⟨before, ancestor, after, hsplit, hget, _hbefore⟩
  rcases ht.bound hget with ⟨rfl, _⟩
  have hexposed : binding.exposed = h.exposed := congrArg ClassHandle.exposed he
  rw [← hexposed]
  apply (Catalog.isChildOf_iff _ _ _).mpr
  rw [hsplit]
  exact List.mem_append_right before List.mem_cons_self

end TypeTable

namespace Dispatcher

theorem index_cls_leaves_fresh (history : History) (b : Bridge)
    (h : ClassHandle) (name : String) :
    ((history.leaves .fresh).index b (.cls h) name).1 =
      .ok (if name = "getMembers" then
          some (.member ⟨name, h.exposed, .introspection⟩)
        else
          (((history.firstFound? h.exposed name).or
            (b.search? (.cls h) name)).map
              (fun kind => ⟨name, h.exposed, kind⟩)).map .member) := by
  rw [index, indexClass, Bridge.search?]
  by_cases hlisting : name = "getMembers"
  · rw [if_pos hlisting, if_pos hlisting]
  · rw [if_neg hlisting, if_neg hlisting, if_neg hlisting]
    dsimp only
    rw [History.lookUp_leaves_fresh]

end Dispatcher

namespace Bridge

theorem prepare_classLibrary {b : Bridge} {m : Member} {h : ClassHandle}
    {body : ClassFunctionBody} (hkind : m.kind = .classLibrary)
    (howner : b.types.isChildOf h.cls m.owner.cls = true)
    (hbody : b.registry.classFunction? h.cls m.name = some body)
    (args : List Value) :
    b.prepare m (.handle (.cls h)) args =
      .ok (.classFunction body ⟨b.types, h.cls⟩ args) := by
  unfold prepare
  rw [hkind]
  dsimp only
  rw [prepareClassFunction, howner, if_pos rfl, hbody]

/--
On a class every dispatcher answers as a fresh one does.  What it answers with, if
it is a class function, is accepted for the class, and its call is one run of the
function of the nearest class on the chain of the class itself.
-/
theorem class_lookup_ignores_history {mark : String}
    {registrations : List Registration} {b : Bridge} {history : History}
    {h : ClassHandle}
    (hsealed : b.registry =
      ((Draft.empty mark).registerAll registrations).sealed)
    (hhistory : history.Under b.registry)
    (hh : b.types.classHandle? h.cls = some h) (name : String) :
    ((history.leaves .fresh).index b (.cls h) name).1 =
      (Dispatcher.fresh.index b (.cls h) name).1 ∧
    forall m,
      ((history.leaves .fresh).index b (.cls h) name).1 =
        .ok (some (.member m)) ->
      m.kind = .classLibrary ->
      exists owner body,
        b.registry.Nearest h.cls (fun t => t.classFunctions.get? name)
          owner body ∧
        forall (b' : Bridge) (args : List Value),
          b'.registry = b.registry ->
          b'.prepare m (.handle (.cls h)) args =
            .ok (.classFunction body ⟨b.types, h.cls⟩ args) ∧
          b'.call m (.handle (.cls h)) args =
            HostRun.outcome b'
              (.classFunction body ⟨b.types, h.cls⟩ args) := by
  have hr : b.registry.Coherent := Registry.coherent_of_sealed hsealed
  have hfresh := Dispatcher.index_cls_leaves_fresh [] b h name
  have hwarm := Dispatcher.index_cls_leaves_fresh history b h name
  rw [History.firstFound?_or_search?_cls hr hhistory hh rfl] at hwarm
  refine ⟨hwarm.trans hfresh.symm, ?_⟩
  intro m hm hkind
  rw [hwarm] at hm
  split at hm
  · cases hm
    cases hkind
  · rename_i hlisting
    rw [search?, if_neg hlisting] at hm
    cases hfunction : b.registry.classFunction? h.cls name with
    | none =>
        rw [hfunction] at hm
        cases hm
    | some body =>
        rw [hfunction] at hm
        cases hm
        rcases (Registry.nearest?_eq_some_iff _ _ _ _).mp hfunction with
          ⟨owner, hnearest⟩
        refine ⟨owner, body, hnearest, ?_⟩
        intro b' args hb'
        have htypes : b'.types = b.types := congrArg Registry.types hb'
        have hprepare : b'.prepare ⟨name, h.exposed, .classLibrary⟩
            (.handle (.cls h)) args =
              .ok (.classFunction body ⟨b.types, h.cls⟩ args) := by
          rw [← htypes]
          apply prepare_classLibrary rfl
          · rw [htypes]
            exact hr.types.isChildOf_of_classHandle? hh
          · rw [hb']
            exact hfunction
        exact ⟨hprepare, call_of_prepare hprepare⟩

end Bridge

namespace Lamps

/-- Lamps and hubs have a function of one name at both levels, and dimmers have a native one. -/
def stallRegistrations : List Registration :=
  registrations ++
    [.type lamp.id "Lamps" .cls, .type hub.id "Hubs" .cls,
      .function lamp.id "describe" (MemberStep.function []),
      .function hub.id "describe" (MemberStep.function []),
      .classFunction lamp.id "describe" (ClassStep.function []),
      .classFunction hub.id "describe" (ClassStep.function [])]

def stall : Bridge :=
  { bridge with
    registry :=
      ((Draft.empty "netFunc_").registerAll stallRegistrations).sealed }

def hubClassHandle : ClassHandle :=
  ⟨hub.id, ⟨hub.id, "Hubs"⟩⟩

/-- All but the class of dimmers were described. -/
def afterDescribing : History :=
  [(stall, .method (.cls hubClassHandle) "describe" []),
    (stall, .method (.cls lampClassHandle) "describe" []),
    (stall, .method (.object dimmerHandle) "describe" []),
    (stall, .method (.object hubHandle) "describe" [])]

theorem under_afterDescribing : afterDescribing.Under stall.registry := by
  intro moment hmem
  simp only [afterDescribing, List.mem_cons, List.not_mem_nil, or_false]
    at hmem
  rcases hmem with rfl | rfl | rfl | rfl
  all_goals
    refine ⟨rfl, ?_⟩
    intro h name hlooked
    cases hlooked
  · have hhubs : stall.types.classHandle? hubClassHandle.cls =
        some hubClassHandle := by
      decide +kernel
    exact hhubs
  · have hlamps : stall.types.classHandle? lampClassHandle.cls =
        some lampClassHandle := by
      decide +kernel
    exact hlamps
  · exact ⟨stall.world, by decide +kernel⟩
  · exact ⟨stall.world, by decide +kernel⟩

/-- A hub describes itself, and not the dimmer that is merged with it. -/
theorem own_function_runs_hub :
    stall.registry =
      ((Draft.empty "netFunc_").registerAll stallRegistrations).sealed ∧
    afterDescribing.Under stall.registry ∧
    stall.types.objectHandle? stall.world hubHandle.path = some hubHandle ∧
    stall.object hubHandle = .ok hubObject ∧
    stall.findProperty? hubHandle hubObject "describe" = none ∧
    exists owner body,
      stall.registry.Nearest hubHandle.exposed.cls
        (fun t => t.functions.get? "describe") owner body ∧
      ((afterDescribing.leaves .fresh).journalMethod stall (.object hubHandle)
        "describe" []).events =
        [.ran (.function body ⟨stall.types, hubHandle.path⟩ [])] := by
  have hsealed : stall.registry =
      ((Draft.empty "netFunc_").registerAll stallRegistrations).sealed := rfl
  have hhub : stall.types.objectHandle? stall.world hubHandle.path =
      some hubHandle := by
    decide +kernel
  have hobject : stall.object hubHandle = .ok hubObject := rfl
  have hsome : (stall.registry.function? hubHandle.exposed.cls
      "describe").isSome = true := by
    decide +kernel
  have hregistered := (Registry.isSome_nearest?_iff stall.registry
    hubHandle.exposed.cls (fun t => t.functions.get? "describe")).mp hsome
  have hnone : stall.findProperty? hubHandle hubObject "describe" = none := by
    decide +kernel
  have hproperties := (Bridge.firstAlong_eq_none_iff _ _ _ _).mp hnone
  have hname : "describe" ∉ ["id", "nick", "getMembers"] := by
    decide
  have hlaw := Bridge.own_function_runs hsealed under_afterDescribing hhub
    hobject hname hregistered hproperties.1 hproperties.2 []
  rcases hlaw with ⟨owner, body, hnearest, hevents, _, _⟩
  exact ⟨hsealed, under_afterDescribing, hhub, hobject, hnone, owner, body,
    hnearest, hevents⟩

def dimmerClassDescribe : Member :=
  ⟨"describe", dimmerClassHandle.exposed, .classLibrary⟩

/-- The class of dimmers is described by the function that was found on the class of lamps. -/
theorem class_lookup_ignores_history_dimmer :
    stall.registry =
      ((Draft.empty "netFunc_").registerAll stallRegistrations).sealed ∧
    afterDescribing.Under stall.registry ∧
    stall.types.classHandle? dimmerClassHandle.cls = some dimmerClassHandle ∧
    ((afterDescribing.leaves .fresh).index stall (.cls dimmerClassHandle)
      "describe").1 =
      (Dispatcher.fresh.index stall (.cls dimmerClassHandle) "describe").1 ∧
    ((afterDescribing.leaves .fresh).index stall (.cls dimmerClassHandle)
      "describe").1 = .ok (some (.member dimmerClassDescribe)) ∧
    exists owner body,
      stall.registry.Nearest dimmerClassHandle.cls
        (fun t => t.classFunctions.get? "describe") owner body ∧
      stall.call dimmerClassDescribe (.handle (.cls dimmerClassHandle)) [] =
        HostRun.outcome stall
          (.classFunction body ⟨stall.types, dimmerClassHandle.cls⟩ []) := by
  have hsealed : stall.registry =
      ((Draft.empty "netFunc_").registerAll stallRegistrations).sealed := rfl
  have hdimmer : stall.types.classHandle? dimmerClassHandle.cls =
      some dimmerClassHandle := by
    decide +kernel
  have hindex : ((afterDescribing.leaves .fresh).index stall
      (.cls dimmerClassHandle) "describe").1 =
        .ok (some (.member dimmerClassDescribe)) := by
    have hfirst : afterDescribing.firstFound? dimmerClassHandle.exposed
        "describe" = some .classLibrary := by
      decide +kernel
    rw [Dispatcher.index_cls_leaves_fresh, hfirst, if_neg (by decide)]
    rfl
  have hlaw := Bridge.class_lookup_ignores_history hsealed
    under_afterDescribing hdimmer "describe"
  rcases hlaw.2 dimmerClassDescribe hindex rfl with
    ⟨owner, body, hnearest, hcalls⟩
  exact ⟨hsealed, under_afterDescribing, hdimmer, hlaw.1, hindex, owner, body,
    hnearest, (hcalls stall [] rfl).2⟩

end Lamps

end ScriptBridge
