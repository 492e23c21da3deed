import ScriptBridge.Proofs.Ancestry
import ScriptBridge.Proofs.Registration

/-!
# Classes and the types that expose them

A class without a binding of its own is exposed as its nearest bound ancestor.
Members are registered only on bound classes, so nothing is registered between a
class and that ancestor: what is registered for the class is what is registered
for the type that exposes it, at either level.
-/

namespace ScriptBridge

namespace TypeTable

/-- The binding of a class at a level, its own or the nearest ancestor's. -/
def bindingAt? (t : TypeTable) (level : TypeLevel) (id : ClassId) :
    Option TypeBinding :=
  (t.catalog.ancestors id).findSome? (t.bindings level).get?

theorem binding?_eq (t : TypeTable) (id : ClassId) :
    t.binding? id = t.bindingAt? .object id :=
  rfl

theorem classBinding?_eq (t : TypeTable) (id : ClassId) :
    t.classBinding? id = t.bindingAt? .cls id :=
  rfl

/-- A class is bound at a level, or derives from one that is. -/
def IsBound (t : TypeTable) (level : TypeLevel) (id : ClassId) : Prop :=
  exists ancestor binding, t.catalog.Derives id ancestor ∧
    (t.bindings level).get? ancestor = some binding

theorem isSome_bindingAt?_iff (t : TypeTable) (level : TypeLevel)
    (id : ClassId) :
    (t.bindingAt? level id).isSome = true ↔ t.IsBound level id := by
  rw [bindingAt?, List.findSome?_isSome_iff]
  constructor
  · rintro ⟨ancestor, hmem, hsome⟩
    rcases Option.isSome_iff_exists.mp hsome with ⟨binding, hbinding⟩
    exact ⟨ancestor, binding, (t.catalog.mem_ancestors_iff id ancestor).mp hmem,
      hbinding⟩
  · rintro ⟨ancestor, binding, hderives, hbinding⟩
    exact ⟨ancestor, (t.catalog.mem_ancestors_iff id ancestor).mpr hderives,
      Option.isSome_of_mem hbinding⟩

section Bound

variable {t : TypeTable} {id : ClassId}

theorem isBound_of_exposed? {e : Exposed} (h : t.exposed? id = some e) :
    t.IsBound .object id := by
  rcases Option.map_eq_some_iff.mp h with ⟨binding, hbinding, _⟩
  exact (t.isSome_bindingAt?_iff .object id).mp (Option.isSome_of_mem hbinding)

theorem not_isBound_of_exposed? (h : t.exposed? id = none) :
    ¬ t.IsBound .object id := by
  intro hbound
  have hsome := (t.isSome_bindingAt?_iff .object id).mpr hbound
  rw [← binding?_eq, Option.map_eq_none_iff.mp h] at hsome
  cases hsome

theorem isBound_of_classBinding? {binding : TypeBinding}
    (h : t.classBinding? id = some binding) : t.IsBound .cls id :=
  (t.isSome_bindingAt?_iff .cls id).mp (Option.isSome_of_mem h)

theorem not_isBound_of_classBinding? (h : t.classBinding? id = none) :
    ¬ t.IsBound .cls id := by
  intro hbound
  have hsome := (t.isSome_bindingAt?_iff .cls id).mpr hbound
  rw [← classBinding?_eq, h] at hsome
  cases hsome

end Bound

theorem Coherent.named?_of_bindingAt? {t : TypeTable} (h : t.Coherent)
    {level : TypeLevel} {id : ClassId} {binding : TypeBinding}
    (hbinding : t.bindingAt? level id = some binding) :
    binding.level = level ∧
      t.named? binding.exposed.name = some binding := by
  rcases List.findSome?_eq_some_iff.mp hbinding with
    ⟨_before, ancestor, _after, _hsplit, hget, _hbefore⟩
  exact ⟨(h.bound hget).2, h.named?_of_bound hget⟩

theorem Coherent.level_eq {t : TypeTable} (h : t.Coherent)
    {level level' : TypeLevel} {id id' : ClassId} {b b' : TypeBinding}
    (hb : t.bindingAt? level id = some b)
    (hb' : t.bindingAt? level' id' = some b')
    (hexposed : b.exposed = b'.exposed) : level = level' := by
  rcases h.named?_of_bindingAt? hb with ⟨rfl, hnamed⟩
  rcases h.named?_of_bindingAt? hb' with ⟨rfl, hnamed'⟩
  rw [hexposed, hnamed'] at hnamed
  cases hnamed
  rfl

end TypeTable

namespace Registry

/-- The registry was made by registrations. -/
def Coherent (r : Registry) : Prop :=
  (Draft.mk r.types r.members).Coherent

theorem coherent_sealed (mark : String)
    (registrations : List Registration) :
    ((Draft.empty mark).registerAll registrations).sealed.Coherent :=
  Draft.coherent_registerAll (Draft.coherent_empty mark) registrations

theorem coherent_of_sealed {mark : String}
    {registrations : List Registration} {r : Registry}
    (hsealed : r = ((Draft.empty mark).registerAll registrations).sealed) :
    r.Coherent := by
  rw [hsealed]
  exact coherent_sealed mark registrations

/-- An answer, with the first of the ancestors whose members have one. -/
def Nearest {Answer : Type} (r : Registry) (id : ClassId)
    (answer : MemberTable -> Option Answer) (owner : ClassId) (a : Answer) :
    Prop :=
  exists before after,
    r.types.catalog.ancestors id = before ++ owner :: after ∧
    (r.members.get? owner).bind answer = some a ∧
    forall passed, passed ∈ before ->
      (r.members.get? passed).bind answer = none

theorem nearest?_eq_some_iff {Answer : Type} (r : Registry) (id : ClassId)
    (answer : MemberTable -> Option Answer) (a : Answer) :
    r.nearest? id answer = some a ↔
      exists owner, r.Nearest id answer owner a := by
  rw [nearest?, List.findSome?_eq_some_iff]
  constructor
  · intro h
    rcases h with ⟨before, owner, after, hsplit, hanswer, hbefore⟩
    exact ⟨owner, before, after, hsplit, hanswer, hbefore⟩
  · intro h
    rcases h with ⟨owner, before, after, hsplit, hanswer, hbefore⟩
    exact ⟨before, owner, after, hsplit, hanswer, hbefore⟩

/-- None of the ancestors of a class has members with an answer. -/
def Lacks {Answer : Type} (r : Registry) (id : ClassId)
    (answer : MemberTable -> Option Answer) : Prop :=
  forall ancestor, r.types.catalog.Derives id ancestor ->
    (r.members.get? ancestor).bind answer = none

theorem nearest?_eq_none_iff {Answer : Type} (r : Registry) (id : ClassId)
    (answer : MemberTable -> Option Answer) :
    r.nearest? id answer = none ↔ r.Lacks id answer := by
  rw [nearest?, List.findSome?_eq_none_iff]
  constructor
  · intro h ancestor hderives
    apply h ancestor
    exact (r.types.catalog.mem_ancestors_iff id ancestor).mpr hderives
  · intro h ancestor hmem
    apply h ancestor
    exact (r.types.catalog.mem_ancestors_iff id ancestor).mp hmem

/-- A question is about the members of a level if only tables with such members have an answer. -/
def Concerns {Answer : Type} (level : TypeLevel)
    (answer : MemberTable -> Option Answer) : Prop :=
  forall t a, t.Coherent -> answer t = some a ->
    exists name, name ∈ t.order level

theorem concerns_functions (name : String) :
    Concerns .object (fun t => t.functions.get? name) := by
  intro t body ht hbody
  refine ⟨name, (ht .object name).mpr (Or.inl ?_)⟩
  exact Option.isSome_of_mem hbody

theorem concerns_properties (name : String) :
    Concerns .object (fun t => t.properties.get? name) := by
  intro t property ht hproperty
  refine ⟨name, (ht .object name).mpr (Or.inr ?_)⟩
  exact Option.isSome_of_mem hproperty

theorem concerns_classFunctions (name : String) :
    Concerns .cls (fun t => t.classFunctions.get? name) := by
  intro t body ht hbody
  refine ⟨name, (ht .cls name).mpr ?_⟩
  exact Option.isSome_of_mem hbody

theorem order_eq_nil_of_unbound {r : Registry} (h : r.Coherent)
    {level : TypeLevel} {id : ClassId} {table : MemberTable}
    (hunbound : (r.types.bindings level).get? id = none)
    (htable : r.members.get? id = some table) : table.order level = [] := by
  apply List.eq_nil_iff_forall_not_mem.mpr
  intro name hname
  have hbound : (r.types.bindings level).contains id = true :=
    h.bound htable hname
  rw [Table.contains, hunbound] at hbound
  cases hbound

theorem answer_eq_none_of_unbound {Answer : Type} {r : Registry}
    (h : r.Coherent) {level : TypeLevel} {id : ClassId}
    (hunbound : (r.types.bindings level).get? id = none)
    {answer : MemberTable -> Option Answer} (hanswer : Concerns level answer) :
    (r.members.get? id).bind answer = none := by
  cases htable : r.members.get? id with
  | none => rfl
  | some table =>
      cases hfound : answer table with
      | none => exact hfound
      | some a =>
          rcases hanswer table a (h.listed htable) hfound with ⟨name, hname⟩
          rw [order_eq_nil_of_unbound h hunbound htable] at hname
          cases hname

/-- What is registered for a class is registered for the type that exposes it. -/
theorem nearest?_of_bindingAt? {Answer : Type} {r : Registry}
    (h : r.Coherent) {level : TypeLevel} {id : ClassId}
    {binding : TypeBinding}
    (hbinding : r.types.bindingAt? level id = some binding)
    {answer : MemberTable -> Option Answer} (hanswer : Concerns level answer) :
    r.nearest? id answer = r.nearest? binding.exposed.cls answer := by
  rcases List.findSome?_eq_some_iff.mp hbinding with
    ⟨before, ancestor, after, hsplit, hget, hbefore⟩
  rcases h.types.bound hget with ⟨rfl, _⟩
  apply Catalog.findSome?_ancestors_of_append hsplit
  intro other hmem
  exact answer_eq_none_of_unbound h (hbefore other hmem) hanswer

theorem nearest?_eq_none_of_bindingAt? {Answer : Type} {r : Registry}
    (h : r.Coherent) {level : TypeLevel} {id : ClassId}
    (hunbound : r.types.bindingAt? level id = none)
    {answer : MemberTable -> Option Answer} (hanswer : Concerns level answer) :
    r.nearest? id answer = none := by
  apply List.findSome?_eq_none_iff.mpr
  intro ancestor hmem
  have hget : (r.types.bindings level).get? ancestor = none :=
    List.findSome?_eq_none_iff.mp hunbound ancestor hmem
  exact answer_eq_none_of_unbound h hget hanswer

section Members

variable {r : Registry} (h : r.Coherent)
include h

theorem function?_of_exposed? {id : ClassId} {e : Exposed}
    (he : r.types.exposed? id = some e) (name : String) :
    r.function? id name = r.function? e.cls name := by
  rcases Option.map_eq_some_iff.mp he with ⟨binding, hbinding, rfl⟩
  rw [TypeTable.binding?_eq] at hbinding
  exact nearest?_of_bindingAt? h hbinding (concerns_functions name)

theorem property?_of_exposed? {id : ClassId} {e : Exposed}
    (he : r.types.exposed? id = some e) (name : String) :
    r.property? id name = r.property? e.cls name := by
  rcases Option.map_eq_some_iff.mp he with ⟨binding, hbinding, rfl⟩
  rw [TypeTable.binding?_eq] at hbinding
  exact nearest?_of_bindingAt? h hbinding (concerns_properties name)

theorem classFunction?_of_classHandle? {id : ClassId} {c : ClassHandle}
    (hc : r.types.classHandle? id = some c) (name : String) :
    r.classFunction? id name = r.classFunction? c.exposed.cls name := by
  rcases Option.map_eq_some_iff.mp hc with ⟨binding, hbinding, rfl⟩
  rw [TypeTable.classBinding?_eq] at hbinding
  exact nearest?_of_bindingAt? h hbinding (concerns_classFunctions name)

end Members

/-!
## Listings

A listing along the ancestors has the names under which a search finds something.
-/

theorem isSome_nearest?_iff {Answer : Type} (r : Registry) (id : ClassId)
    (answer : MemberTable -> Option Answer) :
    (r.nearest? id answer).isSome = true ↔
      exists ancestor table, ancestor ∈ r.types.catalog.ancestors id ∧
        r.members.get? ancestor = some table ∧
        (answer table).isSome = true := by
  rw [nearest?, List.findSome?_isSome_iff]
  constructor
  · rintro ⟨ancestor, hmem, hsome⟩
    cases htable : r.members.get? ancestor with
    | none =>
        rw [htable] at hsome
        cases hsome
    | some table =>
        rw [htable] at hsome
        exact ⟨ancestor, table, hmem, htable, hsome⟩
  · rintro ⟨ancestor, table, hmem, htable, hsome⟩
    refine ⟨ancestor, hmem, ?_⟩
    rw [htable]
    exact hsome

theorem mem_namesAlong_iff (r : Registry) (id : ClassId)
    (order : MemberTable -> List String) (name : String) :
    name ∈ r.namesAlong id order ↔
      exists ancestor table, ancestor ∈ r.types.catalog.ancestors id ∧
        r.members.get? ancestor = some table ∧ name ∈ order table := by
  rw [namesAlong, List.mem_eraseDups, List.mem_flatMap]
  constructor
  · rintro ⟨ancestor, hmem, hname⟩
    cases htable : r.members.get? ancestor with
    | none =>
        rw [htable] at hname
        cases hname
    | some table =>
        rw [htable] at hname
        exact ⟨ancestor, table, hmem, htable, hname⟩
  · rintro ⟨ancestor, table, hmem, htable, hname⟩
    refine ⟨ancestor, hmem, ?_⟩
    rw [htable]
    exact hname

theorem mem_memberNames_iff {r : Registry} (h : r.Coherent) (id : ClassId)
    (name : String) :
    name ∈ r.memberNames id ↔
      (r.function? id name).isSome = true ∨
        (r.property? id name).isSome = true := by
  rw [memberNames, mem_namesAlong_iff, function?, property?,
    isSome_nearest?_iff, isSome_nearest?_iff]
  constructor
  · rintro ⟨ancestor, table, hmem, htable, hname⟩
    rcases (h.listed htable .object name).mp hname with hfunction | hproperty
    · exact Or.inl ⟨ancestor, table, hmem, htable, hfunction⟩
    · exact Or.inr ⟨ancestor, table, hmem, htable, hproperty⟩
  · rintro (⟨ancestor, table, hmem, htable, hsome⟩ |
      ⟨ancestor, table, hmem, htable, hsome⟩)
    · exact ⟨ancestor, table, hmem, htable,
        (h.listed htable .object name).mpr (Or.inl hsome)⟩
    · exact ⟨ancestor, table, hmem, htable,
        (h.listed htable .object name).mpr (Or.inr hsome)⟩

theorem mem_classFunctionNames_iff {r : Registry} (h : r.Coherent)
    (id : ClassId) (name : String) :
    name ∈ r.classFunctionNames id ↔
      (r.classFunction? id name).isSome = true := by
  rw [classFunctionNames, mem_namesAlong_iff, classFunction?,
    isSome_nearest?_iff]
  constructor
  · rintro ⟨ancestor, table, hmem, htable, hname⟩
    exact ⟨ancestor, table, hmem, htable,
      (h.listed htable .cls name).mp hname⟩
  · rintro ⟨ancestor, table, hmem, htable, hsome⟩
    exact ⟨ancestor, table, hmem, htable,
      (h.listed htable .cls name).mpr hsome⟩

theorem namesAlong_of_bindingAt? {r : Registry} (h : r.Coherent)
    {level : TypeLevel} {id : ClassId} {binding : TypeBinding}
    (hbinding : r.types.bindingAt? level id = some binding) :
    r.namesAlong id (fun t => t.order level) =
      r.namesAlong binding.exposed.cls (fun t => t.order level) := by
  rcases List.findSome?_eq_some_iff.mp hbinding with
    ⟨before, ancestor, after, hsplit, hget, hbefore⟩
  rcases h.types.bound hget with ⟨rfl, _⟩
  apply Catalog.eraseDups_ancestors_of_append hsplit
  intro other hmem
  cases htable : r.members.get? other with
  | none => rfl
  | some table => exact order_eq_nil_of_unbound h (hbefore other hmem) htable

/-!
## The law
-/

/--
To look members up, or to list them, on a class is to do so on the class of its
exposed type; without an exposed type there are none.  This holds at both levels.
-/
theorem members_of_exposed {mark : String}
    {registrations : List Registration} {r : Registry}
    (hsealed : r = ((Draft.empty mark).registerAll registrations).sealed)
    (id : ClassId) :
    (forall e, r.types.exposed? id = some e ->
      (forall name, r.function? id name = r.function? e.cls name ∧
        r.property? id name = r.property? e.cls name) ∧
      r.memberNames id = r.memberNames e.cls) ∧
    (r.types.exposed? id = none ->
      forall name, r.function? id name = none ∧ r.property? id name = none) ∧
    (forall binding, r.types.classBinding? id = some binding ->
      (forall name, r.classFunction? id name =
        r.classFunction? binding.exposed.cls name) ∧
      r.classFunctionNames id = r.classFunctionNames binding.exposed.cls) ∧
    (r.types.classBinding? id = none ->
      forall name, r.classFunction? id name = none) := by
  have h : r.Coherent := coherent_of_sealed hsealed
  refine ⟨?_, ?_, ?_, ?_⟩
  · intro e he
    refine ⟨?_, ?_⟩
    · intro name
      exact ⟨function?_of_exposed? h he name, property?_of_exposed? h he name⟩
    · rcases Option.map_eq_some_iff.mp he with ⟨binding, hbinding, rfl⟩
      rw [TypeTable.binding?_eq] at hbinding
      exact namesAlong_of_bindingAt? h hbinding
  · intro hunexposed name
    rw [TypeTable.exposed?, Option.map_eq_none_iff, TypeTable.binding?_eq]
      at hunexposed
    exact ⟨nearest?_eq_none_of_bindingAt? h hunexposed (concerns_functions name),
      nearest?_eq_none_of_bindingAt? h hunexposed (concerns_properties name)⟩
  · intro binding hbinding
    rw [TypeTable.classBinding?_eq] at hbinding
    refine ⟨?_, namesAlong_of_bindingAt? h hbinding⟩
    intro name
    exact nearest?_of_bindingAt? h hbinding (concerns_classFunctions name)
  · intro hunbound name
    rw [TypeTable.classBinding?_eq] at hunbound
    exact nearest?_eq_none_of_bindingAt? h hunbound
      (concerns_classFunctions name)

end Registry

/-!
## An example

Rain, rivers and the sea are each other's parents in a circle, and the parent of
springs is not listed.
-/

namespace Waters

def rain : ClassId := .ofName "Rain"

def river : ClassId := .ofName "River"

def sea : ClassId := .ofName "Sea"

def spring : ClassId := .ofName "Spring"

def registrations : List Registration :=
  [.cls ⟨"Rain", some river, []⟩, .cls ⟨"River", some sea, []⟩,
    .cls ⟨"Sea", some rain, []⟩, .cls ⟨"Spring", some (.ofName "Rock"), []⟩,
    .type river "Stream" .object, .type sea "Ocean" .object,
    .type river "River" .object, .type sea "Oceans" .cls,
    .function river "flow" (fun _ _ => pure []),
    .function sea "rise" (fun _ _ => pure []),
    .property sea "depth" ⟨fun _ => pure .nil, none⟩,
    .classFunction sea "count" (fun _ _ => pure [])]

def registry : Registry :=
  ((Draft.empty "netFunc_").registerAll registrations).sealed

theorem members_of_exposed_waters :
    registry = ((Draft.empty "netFunc_").registerAll registrations).sealed ∧
    registry.types.exposed? rain = some ⟨river, "River"⟩ ∧
    registry.memberNames river = ["flow", "rise", "depth"] ∧
    registry.memberNames rain = registry.memberNames river ∧
    registry.types.classBinding? rain = some ⟨⟨sea, "Oceans"⟩, .cls⟩ ∧
    registry.classFunction? rain "count" =
      registry.classFunction? sea "count" ∧
    registry.types.exposed? spring = none ∧
    registry.function? spring "flow" = none := by
  have hsealed : registry =
      ((Draft.empty "netFunc_").registerAll registrations).sealed := rfl
  have hrain : registry.types.exposed? rain = some ⟨river, "River"⟩ := by
    decide +kernel
  have hclass : registry.types.classBinding? rain =
      some ⟨⟨sea, "Oceans"⟩, .cls⟩ := by
    decide +kernel
  have hspring : registry.types.exposed? spring = none := by
    decide +kernel
  have hnames : registry.memberNames river = ["flow", "rise", "depth"] := by
    decide +kernel
  have hlaw := Registry.members_of_exposed hsealed rain
  have hnone := Registry.members_of_exposed hsealed spring
  exact ⟨hsealed, hrain, hnames, (hlaw.1 _ hrain).2, hclass,
    (hlaw.2.2.1 _ hclass).1 "count", hspring, (hnone.2.1 hspring "flow").1⟩

end Waters

end ScriptBridge
