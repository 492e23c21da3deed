import Mathlib.Data.List.Basic
import ScriptBridge.Proofs.Exposure
import ScriptBridge.Proofs.Remembering

/-!
# Listed names

The names that a handle lists are those that can be looked up on it.  A listing
enumerates what is registered and declared for the class of the object and for
the classes of the merged objects; a look-up asks the exposed type first, puts
the scripting mark before the name, and may find the name among the remembered
members.  Both come to the same names, but for the few that are answered without
being listed: `getMembers`, and the empty name, which a native function has whose
declared name is the bare mark.

What is remembered adds no names to a class handle: a member that was found on
one class is found on every class of the same exposed type, and no object is
exposed as a type of classes.
-/

namespace ScriptBridge

/-!
## Lists without repetitions
-/

theorem nodup_eraseDups {Item : Type} [BEq Item] [LawfulBEq Item] :
    (items : List Item) -> items.eraseDups.Nodup
  | [] => by simp
  | item :: rest => by
      rw [List.eraseDups_cons, List.nodup_cons]
      constructor
      · simp [List.mem_eraseDups]
      · exact nodup_eraseDups (rest.filter (fun other => !other == item))
  termination_by items => items.length
  decreasing_by exact Nat.lt_succ_of_le (List.length_filter_le _ _)

def Handle.level : Handle -> TypeLevel
  | .object _ => .object
  | .cls _ => .cls

namespace TypeTable

/-!
## Native functions

The listed name of a native function is what follows the mark, and a look-up puts
the mark back.
-/

theorem scriptName?_eq_some_iff (t : TypeTable) (declared name : String) :
    t.scriptName? declared = some name ↔
      declared = t.functionMark ++ name ∧ name ≠ "" := by
  have hdeclared (rest : List Char) :
      t.functionMark.toList.isPrefixOf? declared.toList = some rest ↔
        declared = t.functionMark ++ String.ofList rest := by
    rw [List.isPrefixOf?_eq_some_iff_append_eq, eq_comm,
      ← String.toList_inj, String.toList_append, String.toList_ofList]
  rw [scriptName?]
  split
  · rename_i hbare
    constructor
    · intro hnone
      cases hnone
    · rintro ⟨hname, hne⟩
      rw [hdeclared] at hbare
      rw [hbare, ← String.toList_inj, String.toList_append,
        String.toList_append, List.append_cancel_left_eq] at hname
      exact absurd (String.toList_inj.mp hname).symm hne
  · rename_i rest hrest hfound
    rw [hdeclared] at hfound
    constructor
    · intro hname
      cases hname
      refine ⟨hfound, ?_⟩
      intro hempty
      rw [← String.toList_inj, String.toList_ofList] at hempty
      exact hrest hempty
    · rintro ⟨hname, _⟩
      rw [hfound, ← String.toList_inj, String.toList_append,
        String.toList_append, List.append_cancel_left_eq] at hname
      rw [String.toList_inj.mp hname]
  · rename_i hnone
    constructor
    · intro hname
      cases hname
    · rintro ⟨hname, _⟩
      have hsome := (hdeclared name.toList).mpr (by rw [String.ofList_toList, hname])
      rw [hnone] at hsome
      cases hsome

theorem isSome_nativeFunction?_iff (t : TypeTable) (id : ClassId)
    (name : String) :
    (t.nativeFunction? id name).isSome = true ↔
      exists ancestor c f, ancestor ∈ t.catalog.ancestors id ∧
        t.catalog.get? ancestor = some c ∧ f ∈ c.functions ∧
        f.name = t.functionMark ++ name := by
  rw [nativeFunction?, Catalog.findFunction?, List.findSome?_isSome_iff]
  constructor
  · rintro ⟨ancestor, hmem, hsome⟩
    rw [Option.isSome_map] at hsome
    rcases Option.isSome_iff_exists.mp hsome with ⟨f, hf⟩
    rcases Option.bind_eq_some_iff.mp hf with ⟨c, hc, hfind⟩
    have hname := List.find?_some hfind
    exact ⟨ancestor, c, f, hmem, hc, List.mem_of_find?_eq_some hfind,
      of_decide_eq_true hname⟩
  · rintro ⟨ancestor, c, f, hmem, hc, hf, hname⟩
    refine ⟨ancestor, hmem, ?_⟩
    rw [Option.isSome_map, hc, Option.bind_some, NativeClass.function?,
      List.find?_isSome]
    exact ⟨f, hf, decide_eq_true hname⟩

theorem mem_nativeNames_iff (t : TypeTable) (id : ClassId) (name : String) :
    name ∈ t.nativeNames id ↔
      name ≠ "" ∧ (t.nativeFunction? id name).isSome = true := by
  rw [nativeNames, List.mem_eraseDups, List.mem_flatMap,
    isSome_nativeFunction?_iff]
  constructor
  · rintro ⟨ancestor, hmem, hname⟩
    rw [ownNativeNames] at hname
    cases hc : t.catalog.get? ancestor with
    | none =>
        rw [hc] at hname
        cases hname
    | some c =>
        rw [hc] at hname
        rcases List.mem_filterMap.mp hname with ⟨f, hf, hscript⟩
        rcases (t.scriptName?_eq_some_iff f.name name).mp hscript with
          ⟨hdeclared, hne⟩
        exact ⟨hne, ancestor, c, f, hmem, hc, hf, hdeclared⟩
  · rintro ⟨hne, ancestor, c, f, hmem, hc, hf, hdeclared⟩
    refine ⟨ancestor, hmem, ?_⟩
    rw [ownNativeNames, hc]
    apply List.mem_filterMap.mpr
    exact ⟨f, hf, (t.scriptName?_eq_some_iff f.name name).mpr ⟨hdeclared, hne⟩⟩

/-- A handle to an object of some world, or to a class, as the type table makes it. -/
def Issues (t : TypeTable) : Handle -> Prop
  | .object h => exists w, t.objectHandle? w h.path = some h
  | .cls h => t.classHandle? h.cls = some h

theorem objectHandle?_eq_some_iff (t : TypeTable) (w : World)
    (h : InstanceHandle) :
    t.objectHandle? w h.path = some h ↔
      exists o, w.get? h.path.target = some o ∧
        t.exposed? o.cls = some h.exposed := by
  rw [objectHandle?]
  cases w.get? h.path.target with
  | none => simp
  | some o =>
      dsimp only
      rw [Option.map_eq_some_iff]
      constructor
      · rintro ⟨e, he, heq⟩
        rw [← heq]
        exact ⟨o, rfl, he⟩
      · rintro ⟨o', ho, he⟩
        cases ho
        exact ⟨h.exposed, he, rfl⟩

theorem exists_bindingAt?_of_issues {t : TypeTable} {h : Handle}
    (hissued : t.Issues h) :
    exists id binding, t.bindingAt? h.level id = some binding ∧
      binding.exposed = h.exposed := by
  cases h with
  | object h =>
      rcases hissued with ⟨w, hw⟩
      rcases (t.objectHandle?_eq_some_iff w h).mp hw with ⟨o, _, ho⟩
      rcases Option.map_eq_some_iff.mp ho with ⟨binding, hbinding, he⟩
      exact ⟨o.cls, binding, hbinding, he⟩
  | cls h =>
      rcases Option.map_eq_some_iff.mp hissued with ⟨binding, hbinding, he⟩
      exact ⟨h.cls, binding, hbinding, congrArg ClassHandle.exposed he⟩

theorem Coherent.level_eq_of_issues {t : TypeTable} (ht : t.Coherent)
    {h h' : Handle} (hissued : t.Issues h) (hissued' : t.Issues h')
    (hexposed : h.exposed = h'.exposed) : h.level = h'.level := by
  rcases exists_bindingAt?_of_issues hissued with ⟨id, binding, hbinding, he⟩
  rcases exists_bindingAt?_of_issues hissued' with
    ⟨id', binding', hbinding', he'⟩
  apply ht.level_eq hbinding hbinding'
  rw [he, he', hexposed]

end TypeTable

namespace Bridge

/-!
## Look-ups on objects
-/

def classesOf (b : Bridge) (o : NativeObject) : List ClassId :=
  o.cls :: (b.world.mergedWith o).map (fun entry => entry.2.cls)

theorem isSome_firstAlong_iff {Answer : Type} {b : Bridge}
    {h : InstanceHandle} {o : NativeObject}
    {answer : ClassId -> Option Answer}
    (hown : answer o.cls = answer h.exposed.cls) :
    (b.firstAlong h o answer).isSome = true ↔
      exists id, id ∈ b.classesOf o ∧ (answer id).isSome = true := by
  rw [firstAlong]
  cases hanswer : answer h.exposed.cls with
  | some a =>
      have hfound : (answer o.cls).isSome = true := by
        rw [hown, hanswer]
        rfl
      exact iff_of_true rfl ⟨o.cls, List.mem_cons_self, hfound⟩
  | none =>
      rw [List.findSome?_isSome_iff, classesOf]
      constructor
      · rintro ⟨entry, hmem, hsome⟩
        rw [Option.isSome_map] at hsome
        exact ⟨entry.2.cls,
          List.mem_cons_of_mem _ (List.mem_map_of_mem hmem), hsome⟩
      · rintro ⟨id, hmem, hsome⟩
        rcases List.mem_cons.mp hmem with rfl | hmem
        · rw [hown, hanswer] at hsome
          cases hsome
        · rcases List.mem_map.mp hmem with ⟨entry, hentry, rfl⟩
          refine ⟨entry, hentry, ?_⟩
          rw [Option.isSome_map]
          exact hsome

theorem isSome_functionKind?_iff (b : Bridge) (h : InstanceHandle)
    (o : NativeObject) (name : String) :
    (b.functionKind? h o name).isSome = true ↔
      (b.findFunction? h o name).isSome = true ∨
        exists id, id ∈ b.classesOf o ∧
          (b.types.nativeFunction? id name).isSome = true := by
  rw [functionKind?]
  split
  · rename_i hsome
    simp [hsome]
  · rename_i hnone
    rw [Option.isSome_map, findNative?, List.findSome?_isSome_iff]
    simp [hnone, classesOf]

theorem mem_memberNames_object_iff {b : Bridge} (hr : b.registry.Coherent)
    {h : InstanceHandle} {o : NativeObject} {names : List String}
    (ho : b.object h = .ok o) (hnames : b.memberNames (.object h) = .ok names)
    (name : String) :
    name ∈ names ↔
      name = "id" ∨ name = "nick" ∨
        exists id, id ∈ b.classesOf o ∧
          ((b.registry.function? id name).isSome = true ∨
            (b.registry.property? id name).isSome = true ∨
            (name ≠ "" ∧
              (b.types.nativeFunction? id name).isSome = true)) := by
  rw [memberNames, ho] at hnames
  cases hnames
  rw [List.mem_eraseDups, List.mem_append, List.mem_flatMap]
  have hclass (id : ClassId) : name ∈ b.classMembers id ↔
      (b.registry.function? id name).isSome = true ∨
        (b.registry.property? id name).isSome = true ∨
        (name ≠ "" ∧
          (b.types.nativeFunction? id name).isSome = true) := by
    rw [classMembers, List.mem_append, Registry.mem_memberNames_iff hr,
      TypeTable.mem_nativeNames_iff, or_assoc]
  simp only [hclass, classesOf, List.mem_cons, List.not_mem_nil, or_false,
    or_assoc]

end Bridge

namespace Dispatcher

/-- Reading a name gives a value or fails; it does not come out that there is no such member. -/
def Answers (d : Dispatcher) (b : Bridge) (h : Handle) (name : String) :
    Prop :=
  (d.index b h name).1 ≠ .ok none

theorem isSome_lookUp_iff (d : Dispatcher) (e : Exposed) (name : String)
    (search : Option MemberKind) :
    (d.lookUp e name search).1.isSome = true ↔
      (d.known? e name).isSome = true ∨ search.isSome = true := by
  unfold lookUp
  cases d.known? e name with
  | some m => simp
  | none => cases search <;> simp

theorem answers_object_iff {b : Bridge} {h : InstanceHandle}
    {o : NativeObject} (ho : b.object h = .ok o) (d : Dispatcher)
    (name : String) :
    d.Answers b (.object h) name ↔
      name = "id" ∨ name = "nick" ∨ name = "getMembers" ∨
        (b.findProperty? h o name).isSome = true ∨
        (d.known? h.exposed name).isSome = true ∨
        (b.functionKind? h o name).isSome = true := by
  rw [Answers, index, indexObject, Bridge.meaning, ho]
  dsimp only
  by_cases hid : name = "id"
  · subst hid
    cases Bridge.networkNode o <;> simp [Except.map]
  rw [if_neg hid]
  by_cases hnick : name = "nick"
  · subst hnick
    cases Bridge.networkNode o <;> simp [Except.map]
  rw [if_neg hnick]
  cases hproperty : b.findProperty? h o name with
  | some found =>
      cases hresult : (b.runBody (found.2.get ⟨b.types, found.1⟩)).1 with
      | error cause => simp [hresult, Except.map]
      | ok v => simp [hresult, Except.map]
  | none =>
      dsimp only
      by_cases hlisting : name = "getMembers"
      · simp [hlisting]
      · rw [if_neg hlisting]
        have hsome := d.isSome_lookUp_iff h.exposed name
          (b.functionKind? h o name)
        cases hfound : (d.lookUp h.exposed name
            (b.functionKind? h o name)).1 with
        | none =>
            rw [hfound] at hsome
            simp_all
        | some m =>
            rw [hfound] at hsome
            simp_all

theorem answers_cls_iff (d : Dispatcher) (b : Bridge) (h : ClassHandle)
    (name : String) :
    d.Answers b (.cls h) name ↔
      name = "getMembers" ∨ (d.known? h.exposed name).isSome = true ∨
        (b.registry.classFunction? h.cls name).isSome = true := by
  rw [Answers, index, indexClass]
  by_cases hlisting : name = "getMembers"
  · simp [hlisting]
  · rw [if_neg hlisting]
    have hsome := d.isSome_lookUp_iff h.exposed name
      ((b.registry.classFunction? h.cls name).map (fun _ => .classLibrary))
    rw [Option.isSome_map] at hsome
    cases hfound : (d.lookUp h.exposed name
        ((b.registry.classFunction? h.cls name).map
          (fun _ => .classLibrary))).1 with
    | none =>
        rw [hfound] at hsome
        simp_all
    | some m =>
        rw [hfound] at hsome
        simp_all

end Dispatcher

/-!
## Remembered members
-/

namespace History

/-- All requests are made under one registry, on handles that its types issue. -/
def Under (history : History) (r : Registry) : Prop :=
  forall moment, moment ∈ history ->
    moment.1.registry = r ∧
      forall h name, moment.2.lookedUp = some (h, name) -> r.types.Issues h

/-- What was found first was found by a search on some handle of the exposed type. -/
theorem exists_search?_of_firstFound? {history : History} {r : Registry}
    (h : history.Under r) {e : Exposed} {name : String} {kind : MemberKind}
    (hfirst : history.firstFound? e name = some kind) :
    exists (b : Bridge) (handle : Handle), b.registry = r ∧ r.types.Issues handle ∧
      handle.exposed = e ∧ b.search? handle name = some kind := by
  induction history with
  | nil => cases hfirst
  | cons moment rest ih =>
      obtain ⟨b, request⟩ := moment
      rw [firstFound?] at hfirst
      rcases Option.or_eq_some_iff.mp hfirst with hfound | ⟨_, hrest⟩
      · rw [Request.finds?] at hfound
        cases hlooked : request.lookedUp with
        | none =>
            rw [hlooked] at hfound
            cases hfound
        | some entry =>
            obtain ⟨handle, looked⟩ := entry
            rw [hlooked] at hfound
            dsimp only at hfound
            split at hfound
            · rename_i hsame
              obtain ⟨hexposed, rfl⟩ := hsame
              have hmoment := h _ List.mem_cons_self
              exact ⟨b, handle, hmoment.1, hmoment.2 _ _ hlooked, hexposed,
                hfound⟩
            · cases hfound
      · exact ih (fun moment hmem => h moment (List.mem_cons_of_mem _ hmem))
          hrest

end History

namespace Registry

theorem isSome_classFunction?_of_search? {r : Registry} (hr : r.Coherent)
    {h : ClassHandle} (hh : r.types.classHandle? h.cls = some h)
    {b : Bridge} (hb : b.registry = r) {handle : Handle}
    (hissued : r.types.Issues handle) (hexposed : handle.exposed = h.exposed)
    {name : String} {kind : MemberKind}
    (hfound : b.search? handle name = some kind) :
    (r.classFunction? h.cls name).isSome = true := by
  subst hb
  have hlevel : handle.level = (Handle.cls h).level :=
    hr.types.level_eq_of_issues hissued hh hexposed
  cases handle with
  | object other => cases hlevel
  | cls other =>
      rw [Bridge.search?] at hfound
      split at hfound
      · cases hfound
      · rcases Option.map_eq_some_iff.mp hfound with ⟨body, hbody, _⟩
        have hother : other.exposed = h.exposed := hexposed
        rw [classFunction?_of_classHandle? hr hh, ← hother,
          ← classFunction?_of_classHandle? hr hissued, hbody]
        rfl

end Registry

/-!
## The law
-/

namespace Bridge

section Listed

variable {b : Bridge} {h : InstanceHandle} {o : NativeObject}
  {names : List String}

/-- What a name on an object stands for, by the classes that have it. -/
theorem answers_object_iff_classesOf (hr : b.registry.Coherent)
    (ho : b.object h = .ok o) (he : b.types.exposed? o.cls = some h.exposed)
    (d : Dispatcher) (name : String) :
    d.Answers b (.object h) name ↔
      name = "id" ∨ name = "nick" ∨ name = "getMembers" ∨
        (d.known? h.exposed name).isSome = true ∨
        exists id, id ∈ b.classesOf o ∧
          ((b.registry.function? id name).isSome = true ∨
            (b.registry.property? id name).isSome = true ∨
            (b.types.nativeFunction? id name).isSome = true) := by
  have hproperty : (b.findProperty? h o name).isSome = true ↔
      exists id, id ∈ b.classesOf o ∧
        (b.registry.property? id name).isSome = true :=
    isSome_firstAlong_iff (Registry.property?_of_exposed? hr he name)
  have hfunction : (b.findFunction? h o name).isSome = true ↔
      exists id, id ∈ b.classesOf o ∧
        (b.registry.function? id name).isSome = true :=
    isSome_firstAlong_iff (Registry.function?_of_exposed? hr he name)
  rw [Dispatcher.answers_object_iff ho, isSome_functionKind?_iff, hproperty,
    hfunction]
  simp only [and_or_left, exists_or]
  -- The same alternatives, in the order of the look-up and of the listing.
  constructor
  · rintro (h | h | h | h | h | h | h) <;> simp [h]
  · rintro (h | h | h | h | h | h | h) <;> simp [h]

theorem answers_of_mem_memberNames (hr : b.registry.Coherent)
    (ho : b.object h = .ok o) (he : b.types.exposed? o.cls = some h.exposed)
    (hnames : b.memberNames (.object h) = .ok names) (d : Dispatcher)
    {name : String} (hmem : name ∈ names) :
    d.Answers b (.object h) name := by
  rw [answers_object_iff_classesOf hr ho he]
  rcases (mem_memberNames_object_iff hr ho hnames name).mp hmem with
    hid | hnick | ⟨id, hid, hfunction | hproperty | ⟨_, hnative⟩⟩
  · exact Or.inl hid
  · exact Or.inr (Or.inl hnick)
  · exact Or.inr (Or.inr (Or.inr (Or.inr ⟨id, hid, Or.inl hfunction⟩)))
  · exact Or.inr (Or.inr (Or.inr (Or.inr ⟨id, hid, Or.inr (Or.inl hproperty)⟩)))
  · exact Or.inr (Or.inr (Or.inr (Or.inr ⟨id, hid, Or.inr (Or.inr hnative)⟩)))

theorem mem_memberNames_of_answers (hr : b.registry.Coherent)
    (ho : b.object h = .ok o) (he : b.types.exposed? o.cls = some h.exposed)
    (hnames : b.memberNames (.object h) = .ok names) {d : Dispatcher}
    {name : String} (hunknown : d.known? h.exposed name = none)
    (hempty : name ≠ "") (hlisting : name ≠ "getMembers")
    (hanswers : d.Answers b (.object h) name) : name ∈ names := by
  rw [mem_memberNames_object_iff hr ho hnames]
  rcases (answers_object_iff_classesOf hr ho he d name).mp hanswers with
    hid | hnick | hmembers | hknown |
      ⟨id, hid, hfunction | hproperty | hnative⟩
  · exact Or.inl hid
  · exact Or.inr (Or.inl hnick)
  · exact absurd hmembers hlisting
  · rw [hunknown] at hknown
    cases hknown
  · exact Or.inr (Or.inr ⟨id, hid, Or.inl hfunction⟩)
  · exact Or.inr (Or.inr ⟨id, hid, Or.inr (Or.inl hproperty)⟩)
  · exact Or.inr (Or.inr ⟨id, hid, Or.inr (Or.inr ⟨hempty, hnative⟩)⟩)

theorem nodup_memberNames {handle : Handle}
    (hnames : b.memberNames handle = .ok names) : names.Nodup := by
  cases handle with
  | cls h =>
      cases hnames
      exact nodup_eraseDups _
  | object h =>
      rw [memberNames] at hnames
      cases ho : b.object h with
      | error cause =>
          rw [ho] at hnames
          cases hnames
      | ok o =>
          rw [ho] at hnames
          cases hnames
          exact nodup_eraseDups _

theorem network_prefix_memberNames (ho : b.object h = .ok o)
    (hnames : b.memberNames (.object h) = .ok names) :
    ["id", "nick"] <+: names := by
  rw [memberNames, ho] at hnames
  cases hnames
  simp [List.eraseDups_cons]

end Listed

/--
What a handle lists is what can be looked up on it.  On an object a dispatcher
without a history answers for the listed names only, and any dispatcher answers
for all of them; on a class every dispatcher answers for exactly the listed names.
-/
theorem listed_iff_answers {mark : String}
    {registrations : List Registration} {b : Bridge} {history : History}
    (hsealed : b.registry =
      ((Draft.empty mark).registerAll registrations).sealed)
    (hhistory : history.Under b.registry) :
    (forall h : InstanceHandle,
      b.types.objectHandle? b.world h.path = some h ->
      exists names, b.memberNames (.object h) = .ok names ∧ names.Nodup ∧
        ["id", "nick"] <+: names ∧
        (forall name, name ∉ ["id", "nick", "getMembers", ""] ->
          (Dispatcher.fresh.Answers b (.object h) name ↔ name ∈ names)) ∧
        forall name, name ∈ names ->
          (history.leaves .fresh).Answers b (.object h) name) ∧
    (forall h : ClassHandle, b.types.classHandle? h.cls = some h ->
      exists names, b.memberNames (.cls h) = .ok names ∧ names.Nodup ∧
        forall name, name ≠ "getMembers" ->
          ((history.leaves .fresh).Answers b (.cls h) name ↔
            name ∈ names)) := by
  have hr : b.registry.Coherent := by
    rw [hsealed]
    exact Registry.coherent_sealed mark registrations
  constructor
  · intro h hh
    rcases (TypeTable.objectHandle?_eq_some_iff _ _ h).mp hh with ⟨o, hlive, he⟩
    have ho : b.object h = .ok o := (object_eq_ok_iff b h o).mpr hlive
    obtain ⟨names, hnames⟩ :
        exists names, b.memberNames (.object h) = .ok names := by
      rw [memberNames, ho]
      exact ⟨_, rfl⟩
    refine ⟨names, hnames, nodup_memberNames hnames,
      network_prefix_memberNames ho hnames, ?_, ?_⟩
    · intro name hname
      constructor
      · intro hanswers
        apply mem_memberNames_of_answers hr ho he hnames rfl _ _ hanswers
        · intro hempty
          simp [hempty] at hname
        · intro hlisting
          simp [hlisting] at hname
      · exact answers_of_mem_memberNames hr ho he hnames .fresh
    · intro name hmem
      exact answers_of_mem_memberNames hr ho he hnames _ hmem
  · intro h hh
    have hnames : b.memberNames (.cls h) =
        .ok (b.registry.classFunctionNames h.cls) := rfl
    refine ⟨_, hnames, nodup_memberNames hnames, ?_⟩
    intro name hlisting
    rw [Dispatcher.answers_cls_iff, Registry.mem_classFunctionNames_iff hr]
    constructor
    · rintro (hmembers | hknown | hfunction)
      · exact absurd hmembers hlisting
      · rw [History.known?_leaves_fresh, Option.isSome_map] at hknown
        rcases Option.isSome_iff_exists.mp hknown with ⟨kind, hfirst⟩
        rcases History.exists_search?_of_firstFound? hhistory hfirst with
          ⟨b', handle, hb', hissued, hexposed, hfound⟩
        exact Registry.isSome_classFunction?_of_search? hr hh hb' hissued
          hexposed hfound
      · exact hfunction
    · intro hfunction
      exact Or.inr (Or.inr hfunction)

end Bridge

namespace Lamps

/-- The lamps again, with members that are registered for lamps as a class and for hubs. -/
def shopRegistrations : List Registration :=
  registrations ++
    [.type lamp.id "Lamps" .cls,
      .classFunction lamp.id "count" (ClassStep.function [.push (.int 2)]),
      .function hub.id "ring" (MemberStep.function []),
      .property hub.id "volume" (MemberStep.property [] none)]

def shop : Bridge :=
  { bridge with
    registry :=
      ((Draft.empty "netFunc_").registerAll shopRegistrations).sealed }

def lampClassHandle : ClassHandle :=
  ⟨lamp.id, ⟨lamp.id, "Lamps"⟩⟩

def dimmerClassHandle : ClassHandle :=
  ⟨dimmer.id, ⟨lamp.id, "Lamps"⟩⟩

/-- A lamp was described, and the lamps were counted. -/
def afterCounting : History :=
  [(shop, .method (.object lampHandle) "describe" []),
    (shop, .method (.cls lampClassHandle) "count" [])]

theorem listed_iff_answers_shop :
    shop.registry =
      ((Draft.empty "netFunc_").registerAll shopRegistrations).sealed ∧
    afterCounting.Under shop.registry ∧
    shop.types.objectHandle? shop.world hubHandle.path = some hubHandle ∧
    (exists names, shop.memberNames (.object hubHandle) = .ok names ∧
      (Dispatcher.fresh.Answers shop (.object hubHandle) "describe" ↔
        "describe" ∈ names)) ∧
    shop.types.classHandle? dimmerClassHandle.cls = some dimmerClassHandle ∧
    (exists names, shop.memberNames (.cls dimmerClassHandle) = .ok names ∧
      ((afterCounting.leaves .fresh).Answers shop (.cls dimmerClassHandle)
        "count" ↔ "count" ∈ names)) := by
  have hsealed : shop.registry =
      ((Draft.empty "netFunc_").registerAll shopRegistrations).sealed := rfl
  have hhub : shop.types.objectHandle? shop.world hubHandle.path =
      some hubHandle := by
    decide +kernel
  have hdimmer : shop.types.classHandle? dimmerClassHandle.cls =
      some dimmerClassHandle := by
    decide +kernel
  have hlamp : shop.types.objectHandle? shop.world lampHandle.path =
      some lampHandle := by
    decide +kernel
  have hlampClass : shop.types.classHandle? lampClassHandle.cls =
      some lampClassHandle := by
    decide +kernel
  have hunder : afterCounting.Under shop.registry := by
    intro moment hmem
    rcases List.mem_cons.mp hmem with rfl | hmem
    · refine ⟨rfl, ?_⟩
      intro h name hlooked
      cases hlooked
      exact ⟨shop.world, hlamp⟩
    · rw [List.mem_singleton.mp hmem]
      refine ⟨rfl, ?_⟩
      intro h name hlooked
      cases hlooked
      exact hlampClass
  have hlaw := Bridge.listed_iff_answers hsealed hunder
  refine ⟨hsealed, hunder, hhub, ?_, hdimmer, ?_⟩
  · rcases hlaw.1 hubHandle hhub with ⟨names, hnames, _, _, hiff, _⟩
    exact ⟨names, hnames, hiff "describe" (by decide)⟩
  · rcases hlaw.2 dimmerClassHandle hdimmer with ⟨names, hnames, _, hiff⟩
    exact ⟨names, hnames, hiff "count" (by decide)⟩

end Lamps

end ScriptBridge
