import ScriptBridge.Registry.Draft

/-!
# What registrations keep

A draft is filled in any order, and registrations may fail.  After all of them
the exposed names and the bindings still say the same: a name leads to exactly
the binding that its class has now and that carries the name.  The listings of a
member table name what is registered in it, and members stand only under classes
that are bound at the level of the members.

What a registration can come to is said once, by `Registers`, and every invariant
of drafts is read off it.
-/

namespace ScriptBridge

namespace TypeTable

structure Coherent (t : TypeTable) : Prop where
  bound {level : TypeLevel} {id : ClassId} {binding : TypeBinding} :
    (t.bindings level).get? id = some binding ->
    binding.exposed.cls = id ∧ binding.level = level
  named_iff (name : String) (binding : TypeBinding) :
    t.named? name = some binding ↔
      (t.bindings binding.level).get? binding.exposed.cls = some binding ∧
        binding.exposed.name = name

/-!
## Binding a class
-/

theorem bindings_bind (t : TypeTable) (id : ClassId) (name : String)
    (level other : TypeLevel) :
    (Draft.bind t id name level).bindings other =
      if other = level then (t.bindings level).put id ⟨⟨id, name⟩, level⟩
      else t.bindings other := by
  cases level <;> cases other <;> rfl

theorem get?_bindings_bind (t : TypeTable) (id other : ClassId)
    (name : String) (level otherLevel : TypeLevel) :
    ((Draft.bind t id name level).bindings otherLevel).get? other =
      if otherLevel = level ∧ other = id then some ⟨⟨id, name⟩, level⟩
      else (t.bindings otherLevel).get? other := by
  rw [bindings_bind]
  by_cases hlevel : otherLevel = level
  · subst hlevel
    rw [if_pos rfl, Table.get?_put]
    by_cases hid : other = id
    · simp [hid]
    · simp [hid]
  · simp [hlevel]

theorem catalog_bind (t : TypeTable) (id : ClassId) (name : String)
    (level : TypeLevel) : (Draft.bind t id name level).catalog = t.catalog := by
  cases level <;> rfl

theorem bindings_withCatalog (t : TypeTable) (k : Catalog)
    (level : TypeLevel) :
    ({ t with catalog := k } : TypeTable).bindings level =
      t.bindings level := by
  cases level <;> rfl

/-- A new name is bound, the name that the class had before is free, and no other name changes. -/
theorem named?_bind (t : TypeTable) (id : ClassId) (name other : String)
    (level : TypeLevel) :
    (Draft.bind t id name level).named? other =
      if other = name then some ⟨⟨id, name⟩, level⟩
      else
        match (t.bindings level).get? id with
        | some previous =>
            if other = previous.exposed.name then none else t.named? other
        | none => t.named? other := by
  have hnames : (Draft.bind t id name level).names =
      (match (t.bindings level).get? id with
        | some previous => t.names.erase previous.exposed.name
        | none => t.names).put name ⟨⟨id, name⟩, level⟩ := by
    cases level <;> rfl
  rw [named?, hnames, Table.get?_put]
  by_cases hother : other = name
  · rw [if_pos hother, if_pos hother]
  · rw [if_neg hother, if_neg hother]
    cases (t.bindings level).get? id with
    | none => rfl
    | some previous =>
        dsimp only
        rw [Table.get?_erase]
        rfl

namespace Coherent

theorem named?_of_bound {t : TypeTable} (h : t.Coherent)
    {level : TypeLevel} {id : ClassId} {binding : TypeBinding}
    (hget : (t.bindings level).get? id = some binding) :
    t.named? binding.exposed.name = some binding := by
  rcases h.bound hget with ⟨rfl, rfl⟩
  exact (h.named_iff _ binding).mpr ⟨hget, rfl⟩

theorem empty (mark : String) : (TypeTable.empty mark).Coherent := by
  constructor
  · intro level id binding hget
    cases level <;> cases hget
  · intro name binding
    constructor
    · intro hnamed
      cases hnamed
    · rintro ⟨hget, _⟩
      cases hlevel : binding.level <;> rw [hlevel] at hget <;> cases hget

theorem bind {t : TypeTable} (h : t.Coherent) {id : ClassId} {name : String}
    {level : TypeLevel} (hfree : t.named? name = none) :
    (Draft.bind t id name level).Coherent := by
  constructor
  · intro otherLevel other binding hget
    rw [get?_bindings_bind] at hget
    split at hget
    · rename_i hsame
      obtain ⟨rfl, rfl⟩ := hsame
      cases hget
      exact ⟨rfl, rfl⟩
    · exact h.bound hget
  · intro other binding
    rw [named?_bind, get?_bindings_bind]
    by_cases hsame : binding.level = level ∧ binding.exposed.cls = id
    · -- Only the new binding is one of this class at this level.
      rw [if_pos hsame]
      obtain ⟨hlevel, hid⟩ := hsame
      constructor
      · intro hnamed
        split at hnamed
        · rename_i hname
          exact ⟨hnamed, by cases hnamed; exact hname.symm⟩
        · -- An old binding of the class has lost its name.
          have hold : t.named? other = some binding := by
            split at hnamed
            · split at hnamed
              · cases hnamed
              · exact hnamed
            · exact hnamed
          rcases (h.named_iff other binding).mp hold with ⟨hget, hname⟩
          rw [hlevel, hid] at hget
          rw [hget] at hnamed
          dsimp only at hnamed
          rw [if_pos hname.symm] at hnamed
          cases hnamed
      · rintro ⟨hnew, hname⟩
        cases hnew
        rw [if_pos hname.symm]
    · rw [if_neg hsame, ← h.named_iff]
      by_cases hother : other = name
      · subst hother
        rw [if_pos rfl, hfree]
        constructor
        · intro hnew
          cases hnew
          exact absurd ⟨rfl, rfl⟩ hsame
        · intro hnone
          cases hnone
      · rw [if_neg hother]
        cases hprevious : (t.bindings level).get? id with
        | none => rfl
        | some previous =>
            dsimp only
            by_cases hfreed : other = previous.exposed.name
            · -- The freed name led to the previous binding of the class.
              rw [if_pos hfreed, hfreed, h.named?_of_bound hprevious]
              constructor
              · intro hnone
                cases hnone
              · intro hsome
                cases hsome
                exact absurd (h.bound hprevious).symm hsame
            · rw [if_neg hfreed]

theorem withCatalog {t : TypeTable} (h : t.Coherent) (k : Catalog) :
    ({ t with catalog := k } : TypeTable).Coherent := by
  constructor
  · intro level id binding hget
    rw [bindings_withCatalog] at hget
    exact h.bound hget
  · intro name binding
    rw [bindings_withCatalog]
    exact h.named_iff name binding

end Coherent

end TypeTable

namespace MemberTable

/-!
## Member tables
-/

def order (t : MemberTable) : TypeLevel -> List String
  | .object => t.objectOrder
  | .cls => t.classOrder

/-- Something is registered under a name at a level. -/
def Registered (t : MemberTable) (name : String) : TypeLevel -> Prop
  | .object =>
      (t.functions.get? name).isSome = true ∨
        (t.properties.get? name).isSome = true
  | .cls => (t.classFunctions.get? name).isSome = true

/-- The listings of a table name exactly what is registered. -/
def Coherent (t : MemberTable) : Prop :=
  forall level name, name ∈ t.order level ↔ t.Registered name level

theorem mem_note (name other : String) (order : List String) :
    other ∈ note name order ↔ other = name ∨ other ∈ order := by
  rw [note]
  split
  · rename_i hknown
    rw [List.contains_iff_mem] at hknown
    constructor
    · exact Or.inr
    · rintro (rfl | hmem)
      · exact hknown
      · exact hmem
  · rw [List.mem_append, List.mem_singleton, or_comm]

theorem isSome_get?_put {Item : Type} (t : Table String Item)
    (name other : String) (item : Item) :
    ((t.put name item).get? other).isSome = true ↔
      other = name ∨ (t.get? other).isSome = true := by
  rw [Table.get?_put]
  by_cases h : other = name
  · simp [h]
  · simp [h]

theorem coherent_empty : MemberTable.empty.Coherent := by
  intro level name
  cases level with
  | object => simp [order, Registered, MemberTable.empty]
  | cls => simp [order, Registered, MemberTable.empty]

inductive Adds (name : String) :
    MemberSort -> (MemberTable -> MemberTable) -> Prop where
  | function (body : FunctionBody) :
      Adds name .function (fun t => t.putFunction name body)
  | property (property : Property) :
      Adds name .property (fun t => t.putProperty name property)
  | classFunction (body : ClassFunctionBody) :
      Adds name .classFunction (fun t => t.putClassFunction name body)

theorem Adds.registered_iff {name : String} {sort : MemberSort}
    {change : MemberTable -> MemberTable} (hchange : Adds name sort change)
    (t : MemberTable) (other : String) (level : TypeLevel) :
    (change t).Registered other level ↔
      (level = sort.level ∧ other = name) ∨ t.Registered other level := by
  cases hchange with
  | function body =>
      cases level with
      | object =>
          simp [Registered, putFunction, isSome_get?_put, MemberSort.level,
            or_assoc]
      | cls => simp [Registered, putFunction, MemberSort.level]
  | property property =>
      cases level with
      | object =>
          simp [Registered, putProperty, isSome_get?_put, MemberSort.level,
            or_left_comm]
      | cls => simp [Registered, putProperty, MemberSort.level]
  | classFunction body =>
      cases level with
      | object => simp [Registered, putClassFunction, MemberSort.level]
      | cls =>
          simp [Registered, putClassFunction, isSome_get?_put,
            MemberSort.level]

theorem Adds.mem_order_iff {name : String} {sort : MemberSort}
    {change : MemberTable -> MemberTable} (hchange : Adds name sort change)
    (t : MemberTable) (other : String) (level : TypeLevel) :
    other ∈ (change t).order level ↔
      (level = sort.level ∧ other = name) ∨ other ∈ t.order level := by
  cases hchange with
  | function body =>
      cases level with
      | object => simp [order, putFunction, mem_note, MemberSort.level]
      | cls => simp [order, putFunction, MemberSort.level]
  | property property =>
      cases level with
      | object => simp [order, putProperty, mem_note, MemberSort.level]
      | cls => simp [order, putProperty, MemberSort.level]
  | classFunction body =>
      cases level with
      | object => simp [order, putClassFunction, MemberSort.level]
      | cls => simp [order, putClassFunction, mem_note, MemberSort.level]

theorem Adds.coherent {name : String} {sort : MemberSort}
    {change : MemberTable -> MemberTable} (hchange : Adds name sort change)
    {t : MemberTable} (h : t.Coherent) : (change t).Coherent := by
  intro level other
  rw [hchange.mem_order_iff, hchange.registered_iff, h level other]

end MemberTable

namespace Draft

/-!
## What a registration can come to
-/

inductive Registers (d : Draft) :
    Except RegistrationError Unit × Draft -> Prop where
  | refused (cause : RegistrationError) : Registers d (.error cause, d)
  /-- The class is bound under the name already. -/
  | known : Registers d (.ok (), d)
  | listed (c : NativeClass) :
      Registers d
        (.ok (), { d with
          types := { d.types with catalog := (d.types.catalog.insert c).2 } })
  | bound {id : ClassId} {name : String} {level : TypeLevel} :
      d.types.catalog.contains id = true ->
      d.types.named? name = none ->
      Registers d (.ok (), { d with types := bind d.types id name level })
  | filled {id : ClassId} {name : String} {sort : MemberSort}
      {change : MemberTable -> MemberTable} :
      (d.types.bindings sort.level).contains id = true ->
      MemberTable.Adds name sort change ->
      Registers d
        (.ok (), { d with
          members := d.members.put id (change (d.members.getD id .empty)) })

theorem registers_addClass (d : Draft) (c : NativeClass) :
    d.Registers (d.addClass c) := by
  rw [addClass]
  split
  · exact .refused _
  · exact .listed c

theorem registers_exposeType (d : Draft) (id : ClassId) (name : String)
    (level : TypeLevel) : d.Registers (d.exposeType id name level) := by
  rw [exposeType]
  split
  · exact .refused _
  · rename_i hlisted
    rw [Bool.not_eq_true', Bool.not_eq_false] at hlisted
    cases hnamed : d.types.named? name with
    | some existing =>
        dsimp only
        split
        · exact .known
        · exact .refused _
    | none => exact .bound hlisted hnamed

theorem contains_of_checkLevel {d : Draft} {id : ClassId} {name : String}
    {sort : MemberSort} {done : Unit}
    (hcheck : d.checkLevel id name sort = .ok done) :
    (d.types.bindings sort.level).contains id = true := by
  rw [checkLevel] at hcheck
  split at hcheck
  · assumption
  · split at hcheck <;> cases hcheck

theorem registers_addMember (d : Draft) (id : ClassId) {name : String}
    {sort : MemberSort} {change : MemberTable -> MemberTable}
    (hchange : MemberTable.Adds name sort change) :
    d.Registers (d.addMember id name sort change) := by
  rw [addMember]
  cases hcheck : d.checkLevel id name sort with
  | error cause => exact .refused cause
  | ok done => exact .filled (contains_of_checkLevel hcheck) hchange

theorem registers_register (d : Draft) (r : Registration) :
    d.Registers (d.register r) := by
  cases r with
  | cls c => exact d.registers_addClass c
  | type id name level => exact d.registers_exposeType id name level
  | function id name body => exact d.registers_addMember id (.function body)
  | property id name property =>
      exact d.registers_addMember id (.property property)
  | classFunction id name body =>
      exact d.registers_addMember id (.classFunction body)

/-- What no registration breaks holds of every draft. -/
theorem registerAll_induction (Kept : Draft -> Prop)
    (hstep : forall {d outcome}, Kept d -> d.Registers outcome ->
      Kept outcome.2)
    {d : Draft} (h : Kept d) (registrations : List Registration) :
    Kept (d.registerAll registrations) := by
  induction registrations generalizing d with
  | nil => exact h
  | cons r rest ih => exact ih (hstep h (d.registers_register r))

/-!
## Drafts
-/

structure Coherent (d : Draft) : Prop where
  types : d.types.Coherent
  listed {id : ClassId} {table : MemberTable} :
    d.members.get? id = some table -> table.Coherent
  /-- Members are registered only on classes that are bound at their level. -/
  bound {id : ClassId} {table : MemberTable} {level : TypeLevel}
    {name : String} :
    d.members.get? id = some table ->
    name ∈ table.order level ->
    (d.types.bindings level).contains id = true

theorem coherent_empty (mark : String) : (Draft.empty mark).Coherent := by
  constructor
  · exact TypeTable.Coherent.empty mark
  · intro id table hget
    cases hget
  · intro id table level name hget
    cases hget

theorem Coherent.withTypes {d : Draft} (h : d.Coherent) {types : TypeTable}
    (htypes : types.Coherent)
    (hkept : forall level id, (d.types.bindings level).contains id = true ->
      (types.bindings level).contains id = true) :
    { d with types := types }.Coherent := by
  constructor
  · exact htypes
  · intro id table hget
    exact h.listed hget
  · intro id table level name hget hmem
    exact hkept level id (h.bound hget hmem)

theorem coherent_getD {d : Draft} (h : d.Coherent) (id : ClassId) :
    (d.members.getD id .empty).Coherent := by
  rw [Table.getD]
  cases hget : d.members.get? id with
  | none => exact MemberTable.coherent_empty
  | some table => exact h.listed hget

theorem mem_order_getD {d : Draft} {id : ClassId} {level : TypeLevel}
    {name : String}
    (hmem : name ∈ (d.members.getD id .empty).order level) :
    exists table, d.members.get? id = some table ∧
      name ∈ table.order level := by
  rw [Table.getD] at hmem
  cases hget : d.members.get? id with
  | none =>
      rw [hget] at hmem
      cases level <;> cases hmem
  | some table =>
      rw [hget] at hmem
      exact ⟨table, rfl, hmem⟩

theorem Coherent.withMember {d : Draft} (h : d.Coherent) {id : ClassId}
    {name : String} {sort : MemberSort} {change : MemberTable -> MemberTable}
    (hbound : (d.types.bindings sort.level).contains id = true)
    (hadds : MemberTable.Adds name sort change) :
    { d with
      members := d.members.put id
        (change (d.members.getD id .empty)) }.Coherent := by
  constructor
  · exact h.types
  · intro other table hget
    rw [Table.get?_put] at hget
    split at hget
    · cases hget
      exact hadds.coherent (coherent_getD h id)
    · exact h.listed hget
  · intro other table level listed hget hmem
    rw [Table.get?_put] at hget
    split at hget
    · rename_i hother
      cases hget
      rw [hother]
      rcases (hadds.mem_order_iff _ listed level).mp hmem with
        ⟨rfl, _⟩ | hold
      · exact hbound
      · rcases mem_order_getD hold with ⟨old, hget, hlisted⟩
        exact h.bound hget hlisted
    · exact h.bound hget hmem

theorem coherent_of_registers {d : Draft} (h : d.Coherent)
    {outcome : Except RegistrationError Unit × Draft}
    (hregisters : d.Registers outcome) : outcome.2.Coherent := by
  cases hregisters with
  | refused cause => exact h
  | known => exact h
  | listed c =>
      apply h.withTypes (h.types.withCatalog _)
      intro level id hcontains
      rw [TypeTable.bindings_withCatalog]
      exact hcontains
  | bound hlisted hfree =>
      apply h.withTypes (h.types.bind hfree)
      intro otherLevel other hcontains
      rw [Table.contains] at hcontains ⊢
      rw [TypeTable.get?_bindings_bind]
      split
      · rfl
      · exact hcontains
  | filled hbound hadds => exact h.withMember hbound hadds

theorem coherent_registerAll {d : Draft} (h : d.Coherent)
    (registrations : List Registration) :
    (d.registerAll registrations).Coherent :=
  registerAll_induction Coherent
    (fun hold hregisters => coherent_of_registers hold hregisters) h registrations

end Draft

end ScriptBridge
