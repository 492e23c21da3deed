import ScriptBridge.Proofs.Journal
import ScriptBridge.Proofs.Resolution

/-!
# Remembered members

A dispatcher remembers the function that it found first for a name, under the
exposed type of the handle on which it was found.  Another handle of that type
may address an object for which a search finds another function: the class of the
object may override it, or other objects may be merged with the object.

What a dispatcher remembers is therefore a matter of its history.  Calling a name
on it does the same as on a fresh dispatcher exactly if the kind of function that
was found first is the kind that a search finds now.
-/

namespace ScriptBridge

/-!
## Searches
-/

/-- How the function that a name stands for is carried out; other names have none. -/
def Bridge.search? (b : Bridge) (h : Handle) (name : String) :
    Option MemberKind :=
  match h with
  | .object h =>
      match b.meaning h name with
      | .ok (.function o) => b.functionKind? h o name
      | .ok (.text _) => none
      | .ok (.property _ _) => none
      | .ok .members => none
      | .error _ => none
  | .cls h =>
      if name = "getMembers" then none
      else
        (b.registry.classFunction? h.cls name).map (fun _ => .classLibrary)

namespace Dispatcher

/-- Looking up adds what the search found, unless something is remembered already. -/
theorem known?_lookUp (d : Dispatcher) (e other : Exposed)
    (name wanted : String) (search : Option MemberKind) :
    (d.lookUp e name search).2.known? other wanted =
      (d.known? other wanted).or
        (if e = other ∧ name = wanted then
          search.map (fun kind => ⟨wanted, other, kind⟩)
        else none) := by
  by_cases hsame : e = other ∧ name = wanted
  · obtain ⟨rfl, rfl⟩ := hsame
    rw [if_pos ⟨rfl, rfl⟩]
    unfold lookUp
    cases hknown : d.known? e name with
    | some m => exact hknown
    | none =>
        cases search with
        | none => exact hknown
        | some kind => exact Table.get?_put_self _ _ _
  · rw [if_neg hsame, Option.or_none]
    unfold lookUp
    cases d.known? e name with
    | some m => rfl
    | none =>
        cases search with
        | none => rfl
        | some kind =>
            change (d.found.put (e, name) _).get? (other, wanted) = _
            rw [Table.get?_put, if_neg]
            · rfl
            · intro heq
              cases heq
              exact hsame ⟨rfl, rfl⟩

theorem known?_index (d : Dispatcher) (b : Bridge) (h : Handle)
    (name wanted : String) (e : Exposed) :
    (d.index b h name).2.2.known? e wanted =
      (d.known? e wanted).or
        (if h.exposed = e ∧ name = wanted then
          (b.search? h name).map (fun kind => ⟨wanted, e, kind⟩)
        else none) := by
  cases h with
  | object h =>
      rw [index, indexObject, Bridge.search?]
      cases b.meaning h name with
      | error cause =>
          dsimp only
          rw [Option.map_none, ite_self, Option.or_none]
      | ok meaning =>
          cases meaning with
          | function o => exact d.known?_lookUp h.exposed e name wanted _
          | _ =>
              dsimp only
              rw [Option.map_none, ite_self, Option.or_none]
  | cls h =>
      rw [index, indexClass, Bridge.search?]
      by_cases hlisting : name = "getMembers"
      · rw [if_pos hlisting, if_pos hlisting, Option.map_none, ite_self,
          Option.or_none]
      · rw [if_neg hlisting, if_neg hlisting]
        exact d.known?_lookUp h.exposed e name wanted _

theorem dispatcher_callMethod (d : Dispatcher) (b : Bridge) (h : Handle)
    (name : String) (args : List Value) :
    (d.callMethod b h name args).2.2 = (d.index b h name).2.2 := by
  unfold callMethod
  split
  · rename_i heq
    rw [heq]
  · rename_i heq
    rw [heq]
  · rename_i heq
    rw [heq]

end Dispatcher

/-!
## Histories
-/

inductive Request where
  | operation (op : Operation)
  /-- Look a name up and call what was found on the same handle. -/
  | method (h : Handle) (name : String) (args : List Value)

namespace Request

def leaves (d : Dispatcher) (b : Bridge) : Request -> Dispatcher
  | .operation (.index h name) => (d.index b h name).2.2
  | .operation (.assign _ _ _) => d
  | .operation (.call _ _ _) => d
  | .method h name args => (d.callMethod b h name args).2.2

def lookedUp : Request -> Option (Handle × String)
  | .operation (.index h name) => some (h, name)
  | .operation (.assign _ _ _) => none
  | .operation (.call _ _ _) => none
  | .method h name _ => some (h, name)

/-- The kind of function that a request finds for a name under an exposed type. -/
def finds? (b : Bridge) (e : Exposed) (wanted : String)
    (request : Request) : Option MemberKind :=
  match request.lookedUp with
  | some (h, name) =>
      if h.exposed = e ∧ name = wanted then b.search? h name else none
  | none => none

theorem known?_leaves (d : Dispatcher) (b : Bridge) (e : Exposed)
    (name : String) (request : Request) :
    (request.leaves d b).known? e name =
      (d.known? e name).or
        ((request.finds? b e name).map (fun kind => ⟨name, e, kind⟩)) := by
  cases request with
  | operation op =>
      cases op with
      | index h other =>
          rw [leaves, finds?, lookedUp, Dispatcher.known?_index]
          dsimp only
          split
          · rfl
          · rfl
      | assign h other v => exact (Option.or_none).symm
      | call m receiver args => exact (Option.or_none).symm
  | method h other args =>
      rw [leaves, finds?, lookedUp, Dispatcher.dispatcher_callMethod,
        Dispatcher.known?_index]
      dsimp only
      split
      · rfl
      · rfl

end Request

/-- Requests, earliest first, each with the bridge as it was then. -/
abbrev History : Type :=
  List (Bridge × Request)

namespace History

def leaves (d : Dispatcher) : History -> Dispatcher
  | [] => d
  | (b, request) :: rest => leaves (request.leaves d b) rest

/-- The kind of function that was found first for a name under an exposed type. -/
def firstFound? (e : Exposed) (name : String) :
    History -> Option MemberKind
  | [] => none
  | (b, request) :: rest =>
      (request.finds? b e name).or (firstFound? e name rest)

/-- What is remembered in the end is what was remembered at first, or else what was found first. -/
theorem known?_leaves (d : Dispatcher) (history : History) (e : Exposed)
    (name : String) :
    (history.leaves d).known? e name =
      (d.known? e name).or
        ((history.firstFound? e name).map (fun kind => ⟨name, e, kind⟩)) := by
  induction history generalizing d with
  | nil => exact (Option.or_none).symm
  | cons moment rest ih =>
      obtain ⟨b, request⟩ := moment
      rw [leaves, ih, Request.known?_leaves, Option.or_assoc, firstFound?,
        Option.map_or]

theorem known?_leaves_fresh (history : History) (e : Exposed)
    (name : String) :
    (history.leaves .fresh).known? e name =
      (history.firstFound? e name).map (fun kind => ⟨name, e, kind⟩) := by
  have hfresh : Dispatcher.fresh.known? e name = none := rfl
  rw [known?_leaves, hfresh, Option.none_or]

theorem lookUp_leaves_fresh (history : History) (e : Exposed) (name : String)
    (search : Option MemberKind) :
    ((history.leaves .fresh).lookUp e name search).1 =
      ((history.firstFound? e name).or search).map
        (fun kind => ⟨name, e, kind⟩) := by
  have hknown := history.known?_leaves_fresh e name
  cases hfirst : history.firstFound? e name with
  | none =>
      rw [hfirst] at hknown
      rw [Dispatcher.lookUp_of_unknown hknown, Option.none_or]
  | some kind =>
      rw [hfirst] at hknown
      rw [Dispatcher.lookUp_of_known hknown, Option.some_or]
      rfl

end History

/-!
## Kinds of functions

A search that finds a native function notes the class that declares it.
-/

/-- The class that a native kind notes declares a function of the name itself. -/
def TypeTable.Declares (t : TypeTable) (name : String)
    (kind : MemberKind) : Prop :=
  forall declaring, kind = .reflected declaring ->
    exists f, t.nativeFunction? declaring name = some f ∧
      f.declaring = declaring

namespace Bridge

theorem declares_of_functionKind? {b : Bridge} {h : InstanceHandle}
    {o : NativeObject} {name : String} {kind : MemberKind}
    (hkind : b.functionKind? h o name = some kind) :
    b.types.Declares name kind := by
  intro declaring heq
  rcases (functionKind?_eq_some_iff b h o name kind).mp hkind with
    ⟨hlibrary, _⟩ | ⟨_, f, hreflected, hnative⟩
  · rw [hlibrary] at heq
    cases heq
  · rw [hreflected] at heq
    cases heq
    rcases (findNative?_eq_some_iff b h o name f).mp hnative with
      ⟨path, object, hanswered⟩
    exact ⟨f, nativeFunction?_of_answered hanswered, rfl⟩

theorem declares_of_resolves {d : Dispatcher} {b : Bridge}
    {h : InstanceHandle} {name : String} {m : Member}
    (hres : d.Resolves b h name m) : b.types.Declares m.name m.kind := by
  rcases (Dispatcher.resolves_iff d b h name m).mp hres with
    ⟨_, o, kind, _, hkind, rfl⟩
  exact declares_of_functionKind? hkind

theorem declares_of_search? {b : Bridge} {h : Handle} {name : String}
    {kind : MemberKind} (hkind : b.search? h name = some kind) :
    b.types.Declares name kind := by
  rw [search?.eq_def] at hkind
  split at hkind
  · split at hkind
    · exact declares_of_functionKind? hkind
    all_goals cases hkind
  · split at hkind
    · cases hkind
    · rcases Option.map_eq_some_iff.mp hkind with ⟨_body, _, rfl⟩
      intro declaring heq
      cases heq

end Bridge

theorem Request.declares_of_finds? {b : Bridge} {e : Exposed}
    {name : String} {request : Request} {kind : MemberKind}
    (hfinds : request.finds? b e name = some kind) :
    b.types.Declares name kind := by
  rw [finds?] at hfinds
  split at hfinds
  · split at hfinds
    · rename_i hsame
      rw [← hsame.2]
      exact Bridge.declares_of_search? hfinds
    · cases hfinds
  · cases hfinds

theorem History.declares_of_firstFound? {history : History} {r : Registry}
    {e : Exposed} {name : String} {kind : MemberKind}
    (hregistry : forall moment, moment ∈ history -> moment.1.registry = r)
    (hfirst : history.firstFound? e name = some kind) :
    r.types.Declares name kind := by
  induction history with
  | nil => cases hfirst
  | cons moment rest ih =>
      obtain ⟨b, request⟩ := moment
      rw [firstFound?] at hfirst
      cases hfinds : request.finds? b e name with
      | some found =>
          rw [hfinds] at hfirst
          cases hfirst
          have hb : b.registry = r := hregistry _ List.mem_cons_self
          rw [← hb]
          exact Request.declares_of_finds? hfinds
      | none =>
          rw [hfinds, Option.none_or] at hfirst
          exact ih
            (fun moment hmem => hregistry moment (List.mem_cons_of_mem _ hmem))
            hfirst

def Call.kind : Call -> MemberKind
  | .listing _ => .introspection
  | .function _ _ _ => .library
  | .classFunction _ _ _ => .classLibrary
  | .native f _ _ => .reflected f.declaring

namespace Bridge

theorem kind_of_prepareNative {b : Bridge} {m : Member}
    {declaring : ClassId} {h : InstanceHandle} {args : List Value} {c : Call}
    (hdeclares : b.types.Declares m.name (.reflected declaring))
    (hprepare : b.prepareNative m declaring h args = .ok c) :
    c.kind = .reflected declaring := by
  rcases hdeclares declaring rfl with ⟨f, hf, hdeclaring⟩
  rw [prepareNative, hf] at hprepare
  split at hprepare
  · cases hprepare
  · dsimp only at hprepare
    split at hprepare
    · cases hprepare
    · split at hprepare
      · cases hprepare
      · cases hprepare
        rw [Call.kind, hdeclaring]

theorem kind_of_prepare {b : Bridge} {m : Member} {h : InstanceHandle}
    {args : List Value} {c : Call}
    (hdeclares : b.types.Declares m.name m.kind)
    (hprepare : b.prepare m (.handle (.object h)) args = .ok c) :
    c.kind = m.kind := by
  obtain ⟨name, owner, kind⟩ := m
  cases kind with
  | library =>
      change b.prepareFunction _ h args = .ok c at hprepare
      rw [prepareFunction] at hprepare
      split at hprepare
      · cases hprepare
      · split at hprepare
        · split at hprepare
          · cases hprepare
            rfl
          · cases hprepare
        · cases hprepare
  | reflected declaring => exact kind_of_prepareNative hdeclares hprepare
  | classLibrary => cases hprepare
  | introspection =>
      change (b.memberNames (.object h)).map Call.listing = .ok c at hprepare
      cases hnames : b.memberNames (.object h) with
      | error cause =>
          rw [hnames] at hprepare
          cases hprepare
      | ok names =>
          rw [hnames] at hprepare
          cases hprepare
          rfl

/-- For a member that was just found there are arguments with which it can be called. -/
theorem exists_prepare_of_resolves {d : Dispatcher} {b : Bridge}
    {h : InstanceHandle} {name : String} {m : Member}
    (hres : d.Resolves b h name m) :
    exists args c, b.prepare m (.handle (.object h)) args = .ok c := by
  rcases (Dispatcher.resolves_iff d b h name m).mp hres with
    ⟨_, o, kind, hm, hkind, rfl⟩
  have ho : b.object h = .ok o := object_of_meaning_function hm
  rcases (functionKind?_eq_some_iff b h o name kind).mp hkind with
    ⟨rfl, hsome⟩ | ⟨_, f, rfl, hnative⟩
  · rcases Option.isSome_iff_exists.mp hsome with ⟨⟨path, body⟩, hbody⟩
    exact ⟨[], _, prepare_library rfl ho rfl hbody []⟩
  · rcases (findNative?_eq_some_iff b h o name f).mp hnative with
      ⟨path, object, hanswered⟩
    rcases TypeTable.frame_samples b.types b.world f.function.parameters with
      ⟨frame, hframe⟩
    refine ⟨TypeTable.samples f.function.parameters.zipIdx,
      .native f path frame, ?_⟩
    rw [prepare_reflected (m := ⟨name, h.exposed, .reflected f.declaring⟩) rfl
      ho (nativeFunction?_of_answered hanswered)
      (nativeTarget?_of_answered hanswered), hframe]
    rfl

end Bridge

/-!
## Calling names
-/

namespace Dispatcher

/-- To call a name on an object is to call a member on it. -/
structure CallsAs (d : Dispatcher) (b : Bridge) (h : InstanceHandle)
    (name : String) (m : Member) : Prop where
  result (args : List Value) :
    (d.callMethod b (.object h) name args).1 =
      (b.call m (.handle (.object h)) args).1
  bridge (args : List Value) :
    (d.callMethod b (.object h) name args).2.1 =
      (b.call m (.handle (.object h)) args).2

theorem callsAs_of_lookUp {d : Dispatcher} {b : Bridge} {h : InstanceHandle}
    {name : String} {o : NativeObject} {m : Member}
    (hm : b.meaning h name = .ok (.function o))
    (hfound : (d.lookUp h.exposed name (b.functionKind? h o name)).1 =
      some m) :
    d.CallsAs b h name m := by
  have hindex := index_of_meaning_function (d := d) hm
  rw [hfound] at hindex
  constructor
  · intro args
    rw [callMethod, hindex]
    rfl
  · intro args
    rw [callMethod, hindex]
    rfl

end Dispatcher

namespace History

/-- A member, but of the kind that was found first for its name, if any was. -/
def remembered (history : History) (m : Member) : Member :=
  ⟨m.name, m.owner, (history.firstFound? m.owner m.name).getD m.kind⟩

/-- What was found first for the name of a member is of its kind, if anything was found. -/
def Confirms (history : History) (m : Member) : Prop :=
  forall kind, history.firstFound? m.owner m.name = some kind ->
    kind = m.kind

theorem remembered_eq_iff (history : History) (m : Member) :
    history.remembered m = m ↔ history.Confirms m := by
  obtain ⟨name, owner, kind⟩ := m
  rw [remembered, Confirms]
  dsimp only
  cases history.firstFound? owner name with
  | none => simp
  | some first => simp

theorem remembered_eq_of_kind {history : History} {m : Member}
    (h : (history.remembered m).kind = m.kind) :
    history.remembered m = m := by
  obtain ⟨name, owner, kind⟩ := m
  rw [remembered] at h ⊢
  dsimp only at h
  rw [h]

theorem declares_of_remembered {history : History} {r : Registry}
    {m : Member}
    (hregistry : forall moment, moment ∈ history -> moment.1.registry = r)
    (hm : r.types.Declares m.name m.kind) :
    r.types.Declares (history.remembered m).name
      (history.remembered m).kind := by
  rw [remembered]
  dsimp only
  cases hfirst : history.firstFound? m.owner m.name with
  | none => exact hm
  | some kind => exact declares_of_firstFound? hregistry hfirst

theorem callsAs_remembered (history : History) {b : Bridge}
    {h : InstanceHandle} {name : String} {m : Member}
    (hres : Dispatcher.fresh.Resolves b h name m) :
    (history.leaves .fresh).CallsAs b h name (history.remembered m) := by
  rcases (Dispatcher.resolves_iff .fresh b h name m).mp hres with
    ⟨_, o, kind, hm, hkind, rfl⟩
  apply Dispatcher.callsAs_of_lookUp hm
  rw [lookUp_leaves_fresh, hkind, remembered]
  cases history.firstFound? h.exposed name with
  | none => rfl
  | some first => rfl

end History

namespace Bridge

/--
The call of a name on a dispatcher with a history prepares what a fresh
dispatcher prepares, the same body for the same object, exactly if the history
confirms the kind of function that the fresh one finds; and then it has the same
result and does the same to the bridge.
-/
theorem remembered_call_iff {r : Registry} {history : History} {b : Bridge}
    {h : InstanceHandle} {name : String} {m : Member}
    (hregistry : forall moment, moment ∈ history -> moment.1.registry = r)
    (hb : b.registry = r) (hres : Dispatcher.fresh.Resolves b h name m) :
    Dispatcher.fresh.CallsAs b h name m ∧
    (history.leaves .fresh).CallsAs b h name (history.remembered m) ∧
    ((forall args,
        b.prepare (history.remembered m) (.handle (.object h)) args =
          b.prepare m (.handle (.object h)) args) ↔
      history.Confirms m) ∧
    (history.Confirms m ->
      (history.leaves .fresh).CallsAs b h name m) := by
  subst hb
  have hfresh : Dispatcher.fresh.CallsAs b h name m :=
    History.callsAs_remembered [] hres
  have hwarm : (history.leaves .fresh).CallsAs b h name
      (history.remembered m) :=
    history.callsAs_remembered hres
  refine ⟨hfresh, hwarm, ?_, ?_⟩
  · rw [← History.remembered_eq_iff]
    constructor
    · intro hsame
      -- With accepted arguments, the prepared call tells the kind of its member.
      rcases exists_prepare_of_resolves hres with ⟨args, c, hprepare⟩
      have hdeclares : b.types.Declares m.name m.kind :=
        declares_of_resolves hres
      have hkind : c.kind = m.kind := kind_of_prepare hdeclares hprepare
      have hremembered : c.kind = (history.remembered m).kind :=
        kind_of_prepare
          (History.declares_of_remembered hregistry hdeclares)
          ((hsame args).trans hprepare)
      exact History.remembered_eq_of_kind (hremembered.symm.trans hkind)
    · intro hsame args
      rw [hsame]
  · intro hconfirms
    have hsame := (history.remembered_eq_iff m).mpr hconfirms
    rw [hsame] at hwarm
    exact hwarm

end Bridge

namespace Lamps

def dimmerDescribe : Member :=
  ⟨"describe", dimmerHandle.exposed, .reflected dimmer.id⟩

theorem resolves_dimmer :
    Dispatcher.fresh.Resolves bridge dimmerHandle "describe"
      dimmerDescribe := by
  have hm : bridge.meaning dimmerHandle "describe" =
      .ok (.function dimmerObject) := by
    rw [Bridge.meaning_eq_function_iff]
    exact ⟨rfl, by decide, by decide, by decide +kernel, by decide⟩
  have hkind : bridge.functionKind? dimmerHandle dimmerObject "describe" =
      some (.reflected dimmer.id) := by
    decide +kernel
  exact (Dispatcher.resolves_iff .fresh bridge dimmerHandle "describe" _).mpr
    ⟨rfl, dimmerObject, .reflected dimmer.id, hm, hkind, rfl⟩

/-- The hub was asked for its description, and then the dimmer was. -/
def afterDimmer : History :=
  [(bridge, .operation (.index (.object hubHandle) "describe")),
    (bridge, .method (.object dimmerHandle) "describe" [])]

theorem remembered_call_iff_dimmer :
    (forall moment, moment ∈ afterDimmer -> moment.1.registry = registry) ∧
    bridge.registry = registry ∧
    afterDimmer.Confirms dimmerDescribe ∧
    (afterDimmer.leaves .fresh).CallsAs bridge dimmerHandle "describe"
      dimmerDescribe := by
  have hregistry : forall moment, moment ∈ afterDimmer ->
      moment.1.registry = registry := by
    intro moment hmem
    rcases List.mem_cons.mp hmem with rfl | hmem
    · rfl
    · rw [List.mem_singleton.mp hmem]
      rfl
  have hb : bridge.registry = registry := rfl
  have hconfirms : afterDimmer.Confirms dimmerDescribe := by
    have hfirst : afterDimmer.firstFound? dimmerDescribe.owner
        dimmerDescribe.name = some dimmerDescribe.kind := by
      decide +kernel
    intro kind hkind
    rw [hfirst] at hkind
    cases hkind
    rfl
  have hlaw := Bridge.remembered_call_iff hregistry hb resolves_dimmer
  exact ⟨hregistry, hb, hconfirms, hlaw.2.2.2 hconfirms⟩

/-- The lamp was asked for its description. -/
def afterLamp : History :=
  [(bridge, .method (.object lampHandle) "describe" [])]

def texts (result : Except BridgeError (List Value)) :
    Option (List (Option String)) :=
  result.toOption.map (List.map Value.asString)

/--
A lamp and a dimmer are exposed as one type.  A dispatcher that was asked for the
lamp first has the dimmer describe itself as a lamp.
-/
theorem remembered_call_differs :
    bridge.types.objectHandle? bridge.world lampHandle.path =
      some lampHandle ∧
    bridge.types.objectHandle? bridge.world dimmerHandle.path =
      some dimmerHandle ∧
    Dispatcher.fresh.Resolves bridge dimmerHandle "describe"
      dimmerDescribe ∧
    texts ((afterLamp.leaves .fresh).callMethod bridge
      (.object dimmerHandle) "describe" []).1 = some [some "lamp"] ∧
    texts (Dispatcher.fresh.callMethod bridge
      (.object dimmerHandle) "describe" []).1 = some [some "dimmer"] := by
  refine ⟨?_, ?_, resolves_dimmer, ?_, ?_⟩
  · decide +kernel
  · decide +kernel
  · decide +kernel
  · decide +kernel

end Lamps

end ScriptBridge
