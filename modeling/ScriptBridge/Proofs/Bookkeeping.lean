import ScriptBridge.Proofs.Registration

/-!
# The books of a draft

A draft keeps the catalog, the bindings of each level, the exposed names, and the
members of every class with their listings.  Registrations write several of these
one by one.  After any of them, failed ones included, the books agree: every
exposed name leads to one class at one level and back, every bound class is in
the catalog, members stand only where their class is bound, and each member is
listed once.

A failed registration changes nothing, and one that binds a class again changes
what concerns the class at that level, and nothing else.  One that registers a
member adds its name to those of the class.
-/

namespace ScriptBridge

namespace TypeTable

/-!
## Counting types

The names and the bound classes, those of each level by themselves, are as many
as each other: each name has a class and a level of its own, and each bound class
has a name of its own.
-/

def places (t : TypeTable) : List (TypeLevel × ClassId) :=
  t.objectTypes.keys.map (fun id => (.object, id)) ++
    t.classTypes.keys.map (fun id => (.cls, id))

theorem length_places (t : TypeTable) :
    t.places.length = t.objectTypes.size + t.classTypes.size := by
  simp [places, Table.keys, Table.size]

theorem mem_places_iff (t : TypeTable) (level : TypeLevel) (id : ClassId) :
    (level, id) ∈ t.places ↔ (t.bindings level).contains id = true := by
  rw [places, List.mem_append, List.mem_map, List.mem_map]
  cases level with
  | object => simp [bindings, Table.contains_iff]
  | cls => simp [bindings, Table.contains_iff]

theorem nodup_places (t : TypeTable) : t.places.Nodup := by
  have hlevel (level : TypeLevel) {ids : List ClassId} (h : ids.Nodup) :
      (ids.map (fun id => (level, id))).Nodup := by
    apply List.pairwise_map.mpr
    apply h.imp
    intro id other hne heq
    exact hne (Prod.mk.inj heq).2
  rw [places, List.nodup_append]
  refine ⟨hlevel .object t.objectTypes.keys_nodup,
    hlevel .cls t.classTypes.keys_nodup, ?_⟩
  intro place hobject other hcls heq
  rcases List.mem_map.mp hobject with ⟨id, _, rfl⟩
  rcases List.mem_map.mp hcls with ⟨id', _, rfl⟩
  cases heq

namespace Coherent

variable {t : TypeTable} (h : t.Coherent)
include h

theorem place_eq_of_name_eq {level level' : TypeLevel} {id id' : ClassId}
    {binding binding' : TypeBinding}
    (hget : (t.bindings level).get? id = some binding)
    (hget' : (t.bindings level').get? id' = some binding')
    (hname : binding.exposed.name = binding'.exposed.name) :
    level = level' ∧ id = id' := by
  have hnamed := h.named?_of_bound hget
  rw [hname, h.named?_of_bound hget'] at hnamed
  cases hnamed
  rcases h.bound hget with ⟨hid, hlevel⟩
  rcases h.bound hget' with ⟨hid', hlevel'⟩
  exact ⟨hlevel.symm.trans hlevel', hid.symm.trans hid'⟩

theorem name_eq_of_place_eq {name name' : String}
    {binding binding' : TypeBinding} (hnamed : t.named? name = some binding)
    (hnamed' : t.named? name' = some binding')
    (hcls : binding.exposed.cls = binding'.exposed.cls)
    (hlevel : binding.level = binding'.level) : name = name' := by
  rcases (h.named_iff name binding).mp hnamed with ⟨hget, rfl⟩
  rcases (h.named_iff name' binding').mp hnamed' with ⟨hget', rfl⟩
  rw [hcls, hlevel, hget'] at hget
  cases hget
  rfl

theorem places_subset :
    t.places ⊆ t.names.entries.map
      (fun entry => (entry.2.level, entry.2.exposed.cls)) := by
  intro place hmem
  obtain ⟨level, id⟩ := place
  rw [mem_places_iff, Table.contains] at hmem
  rcases Option.isSome_iff_exists.mp hmem with ⟨binding, hget⟩
  have hnamed := h.named?_of_bound hget
  rcases h.bound hget with ⟨rfl, rfl⟩
  rw [named?, Table.get?_eq_some_iff] at hnamed
  exact List.mem_map.mpr ⟨_, hnamed, rfl⟩

theorem count_le_length_places : t.count ≤ t.places.length := by
  have hnodup : (t.names.entries.map
      (fun entry => (entry.2.level, entry.2.exposed.cls))).Nodup := by
    apply List.pairwise_map.mpr
    have hkeys := List.pairwise_map.mp t.names.keys_nodup
    apply hkeys.imp_of_mem
    intro entry other hentry hother hne heq
    rcases Prod.mk.inj heq with ⟨hlevel, hcls⟩
    apply hne
    exact h.name_eq_of_place_eq
      ((t.names.get?_eq_some_iff entry.1 entry.2).mpr hentry)
      ((t.names.get?_eq_some_iff other.1 other.2).mpr hother) hcls hlevel
  have hsubset : t.names.entries.map
      (fun entry => (entry.2.level, entry.2.exposed.cls)) ⊆ t.places := by
    intro place hmem
    rcases List.mem_map.mp hmem with ⟨entry, hentry, rfl⟩
    have hnamed : t.named? entry.1 = some entry.2 :=
      (t.names.get?_eq_some_iff entry.1 entry.2).mpr hentry
    rcases (h.named_iff entry.1 entry.2).mp hnamed with ⟨hget, _⟩
    rw [mem_places_iff, Table.contains, hget]
    rfl
  have hle := hnodup.length_le_of_subset hsubset
  rw [List.length_map] at hle
  exact hle

theorem count_eq : t.count = t.objectTypes.size + t.classTypes.size := by
  have hle := t.nodup_places.length_le_of_subset h.places_subset
  rw [List.length_map] at hle
  rw [← t.length_places]
  exact Nat.le_antisymm h.count_le_length_places hle

end Coherent

end TypeTable

namespace MemberTable

/-!
## Listings
-/

theorem nodup_note {order : List String} (h : order.Nodup) (name : String) :
    (note name order).Nodup := by
  rw [note]
  split
  · exact h
  · rename_i hnew
    rw [List.nodup_append]
    refine ⟨h, List.pairwise_singleton _ name, ?_⟩
    intro other hmem added hadded heq
    rw [List.mem_singleton] at hadded
    rw [heq, hadded, ← List.contains_iff_mem] at hmem
    exact hnew hmem

theorem Adds.nodup_order {name : String} {sort : MemberSort}
    {change : MemberTable -> MemberTable} (hchange : Adds name sort change)
    {t : MemberTable} {level : TypeLevel} (h : (t.order level).Nodup) :
    ((change t).order level).Nodup := by
  cases hchange with
  | function body =>
      cases level with
      | object => exact nodup_note h name
      | cls => exact h
  | property property =>
      cases level with
      | object => exact nodup_note h name
      | cls => exact h
  | classFunction body =>
      cases level with
      | object => exact h
      | cls => exact nodup_note h name

end MemberTable

namespace Draft

/-!
## Failed registrations
-/

theorem register_of_error {d : Draft} {r : Registration}
    {cause : RegistrationError} (h : (d.register r).1 = .error cause) :
    (d.register r).2 = d := by
  have hregisters := d.registers_register r
  generalize d.register r = outcome at h hregisters
  cases hregisters with
  | refused refusal => rfl
  | _ => cases h

/-!
## What every draft keeps, besides coherence
-/

structure Orderly (d : Draft) : Prop where
  /-- Every bound class is in the catalog. -/
  cataloged {level : TypeLevel} {id : ClassId} :
    (d.types.bindings level).contains id = true ->
    d.types.catalog.contains id = true
  /-- No listing names a member twice. -/
  nodup {id : ClassId} {table : MemberTable} (level : TypeLevel) :
    d.members.get? id = some table -> (table.order level).Nodup

theorem orderly_empty (mark : String) : (Draft.empty mark).Orderly := by
  constructor
  · intro level id hcontains
    cases level <;> cases hcontains
  · intro id table level hget
    cases hget

theorem nodup_order_getD {d : Draft} (h : d.Orderly) (id : ClassId)
    (level : TypeLevel) :
    ((d.members.getD id .empty).order level).Nodup := by
  rw [Table.getD]
  cases hget : d.members.get? id with
  | none => cases level <;> exact List.nodup_nil
  | some table => exact h.nodup level hget

theorem orderly_of_registers {d : Draft} (h : d.Orderly)
    {outcome : Except RegistrationError Unit × Draft}
    (hregisters : d.Registers outcome) : outcome.2.Orderly := by
  cases hregisters with
  | refused cause => exact h
  | known => exact h
  | listed c =>
      constructor
      · intro level id hcontains
        rw [TypeTable.bindings_withCatalog] at hcontains
        have hold := h.cataloged hcontains
        change (d.types.catalog.classes.put c.id c).contains id = true
        rw [Table.contains, Table.get?_put]
        split
        · rfl
        · exact hold
      · exact h.nodup
  | bound hlisted hfree =>
      rename_i id name level
      constructor
      · intro otherLevel other hcontains
        dsimp only at hcontains ⊢
        rw [TypeTable.catalog_bind]
        rw [Table.contains, TypeTable.get?_bindings_bind] at hcontains
        split at hcontains
        · rename_i hsame
          rw [hsame.2]
          exact hlisted
        · exact h.cataloged hcontains
      · exact h.nodup
  | filled hbound hadds =>
      rename_i id name sort change
      constructor
      · exact h.cataloged
      · intro other table level hget
        dsimp only at hget
        rw [Table.get?_put] at hget
        split at hget
        · cases hget
          exact hadds.nodup_order (nodup_order_getD h id level)
        · exact h.nodup level hget

theorem orderly_registerAll {d : Draft} (h : d.Orderly)
    (registrations : List Registration) :
    (d.registerAll registrations).Orderly :=
  registerAll_induction Orderly
    (fun hold hregisters => orderly_of_registers hold hregisters) h registrations

/-!
## Binding a class again
-/

/-- A class has a binding under a name; the name that it had is free, and all else is as before. -/
structure Rebinds (d : Draft) (id : ClassId) (name : String)
    (level : TypeLevel) (after : Draft) : Prop where
  binding : (after.types.bindings level).get? id = some ⟨⟨id, name⟩, level⟩
  named : after.types.named? name = some ⟨⟨id, name⟩, level⟩
  freed {previous : TypeBinding} :
    (d.types.bindings level).get? id = some previous ->
    previous.exposed.name ≠ name ->
    after.types.named? previous.exposed.name = none
  otherNames {other : String} :
    other ≠ name ->
    (forall previous, (d.types.bindings level).get? id = some previous ->
      other ≠ previous.exposed.name) ->
    after.types.named? other = d.types.named? other
  otherBindings {otherLevel : TypeLevel} {other : ClassId} :
    ¬(otherLevel = level ∧ other = id) ->
    (after.types.bindings otherLevel).get? other =
      (d.types.bindings otherLevel).get? other
  catalog : after.types.catalog = d.types.catalog
  members : after.members = d.members

theorem rebinds_bind (d : Draft) (id : ClassId) (name : String)
    (level : TypeLevel) :
    d.Rebinds id name level { d with types := bind d.types id name level } := by
  constructor
  · dsimp only
    rw [TypeTable.get?_bindings_bind, if_pos ⟨rfl, rfl⟩]
  · dsimp only
    rw [TypeTable.named?_bind, if_pos rfl]
  · intro previous hprevious hne
    dsimp only
    rw [TypeTable.named?_bind, if_neg hne, hprevious]
    dsimp only
    rw [if_pos rfl]
  · intro other hne hkept
    dsimp only
    rw [TypeTable.named?_bind, if_neg hne]
    cases hprevious : (d.types.bindings level).get? id with
    | none => rfl
    | some previous =>
        dsimp only
        rw [if_neg (hkept previous hprevious)]
  · intro otherLevel other hne
    dsimp only
    rw [TypeTable.get?_bindings_bind, if_neg hne]
  · exact TypeTable.catalog_bind d.types id name level
  · rfl

theorem rebinds_exposeType {d : Draft} (h : d.Coherent) {id : ClassId}
    {name : String} {level : TypeLevel}
    (hok : (d.exposeType id name level).1 = .ok ()) :
    d.Rebinds id name level (d.exposeType id name level).2 := by
  rw [exposeType] at hok ⊢
  split at hok
  · cases hok
  · rename_i hlisted
    rw [if_neg hlisted]
    cases hnamed : d.types.named? name with
    | none => exact d.rebinds_bind id name level
    | some existing =>
        rw [hnamed] at hok
        dsimp only at hok ⊢
        split at hok
        · -- The class has the name already, and nothing is written.
          rename_i hsame
          rw [if_pos hsame]
          rw [Bool.and_eq_true, decide_eq_true_iff, decide_eq_true_iff] at hsame
          rcases (h.types.named_iff name existing).mp hnamed with ⟨hget, hname⟩
          rw [hsame.1, hsame.2] at hget
          have hexisting : existing = ⟨⟨id, name⟩, level⟩ := by
            obtain ⟨⟨cls, exposedName⟩, existingLevel⟩ := existing
            rw [← hsame.1, ← hsame.2, ← hname]
          rw [hexisting] at hget hnamed
          constructor
          · exact hget
          · exact hnamed
          · intro previous hprevious hne
            rw [hget] at hprevious
            cases hprevious
            exact absurd rfl hne
          · intro other _ _
            rfl
          · intro otherLevel other _
            rfl
          · rfl
          · rfl
        · cases hok

/-!
## Registering a member
-/

inductive OfMember (id : ClassId) (name : String) :
    MemberSort -> Registration -> Prop where
  | function (body : FunctionBody) :
      OfMember id name .function (.function id name body)
  | property (property : Property) :
      OfMember id name .property (.property id name property)
  | classFunction (body : ClassFunctionBody) :
      OfMember id name .classFunction (.classFunction id name body)

/-- A class has a member under a name, and all else is as before. -/
structure Fills (d : Draft) (id : ClassId) (name : String) (sort : MemberSort)
    (after : Draft) : Prop where
  registered :
    (after.members.getD id .empty).Registered name sort.level
  otherNames {other : String} {level : TypeLevel} :
    ¬(level = sort.level ∧ other = name) ->
    ((after.members.getD id .empty).Registered other level ↔
      (d.members.getD id .empty).Registered other level)
  otherMembers {other : ClassId} :
    other ≠ id -> after.members.get? other = d.members.get? other
  types : after.types = d.types

theorem fills_addMember {d : Draft} {id : ClassId} {name : String}
    {sort : MemberSort} {change : MemberTable -> MemberTable}
    (hadds : MemberTable.Adds name sort change)
    (hok : (d.addMember id name sort change).1 = .ok ()) :
    d.Fills id name sort (d.addMember id name sort change).2 := by
  rw [addMember] at hok ⊢
  cases hcheck : d.checkLevel id name sort with
  | error cause =>
      rw [hcheck] at hok
      cases hok
  | ok done =>
      have htable : (d.members.put id
          (change (d.members.getD id .empty))).getD id .empty =
            change (d.members.getD id .empty) := by
        rw [Table.getD, Table.get?_put, if_pos rfl]
        rfl
      constructor
      · dsimp only
        rw [htable, hadds.registered_iff]
        exact Or.inl ⟨rfl, rfl⟩
      · intro other level hother
        dsimp only
        rw [htable, hadds.registered_iff, or_iff_right hother]
      · intro other hne
        dsimp only
        rw [Table.get?_put, if_neg hne]
      · rfl

theorem fills_register {d : Draft} {r : Registration} {id : ClassId}
    {name : String} {sort : MemberSort} (hmember : OfMember id name sort r)
    (hok : (d.register r).1 = .ok ()) :
    d.Fills id name sort (d.register r).2 := by
  cases hmember with
  | function body => exact fills_addMember (.function body) hok
  | property property => exact fills_addMember (.property property) hok
  | classFunction body => exact fills_addMember (.classFunction body) hok

/-!
## The law
-/

/-- The tables of a draft agree, and registrations are all or nothing. -/
structure Consistent (d : Draft) : Prop where
  /-- A name leads to the binding that its class has now, and that carries the name. -/
  named_iff (name : String) (binding : TypeBinding) :
    d.types.named? name = some binding ↔
      (d.types.bindings binding.level).get? binding.exposed.cls =
        some binding ∧ binding.exposed.name = name
  keyed {level : TypeLevel} {id : ClassId} {binding : TypeBinding} :
    (d.types.bindings level).get? id = some binding ->
    binding.exposed.cls = id ∧ binding.level = level
  /-- No name serves two classes or both levels. -/
  one_place {level level' : TypeLevel} {id id' : ClassId}
    {binding binding' : TypeBinding} :
    (d.types.bindings level).get? id = some binding ->
    (d.types.bindings level').get? id' = some binding' ->
    binding.exposed.name = binding'.exposed.name ->
    level = level' ∧ id = id'
  /-- A class has at most one name at a level. -/
  one_name {name name' : String} {binding binding' : TypeBinding} :
    d.types.named? name = some binding ->
    d.types.named? name' = some binding' ->
    binding.exposed.cls = binding'.exposed.cls ->
    binding.level = binding'.level -> name = name'
  count : d.types.count = d.types.objectTypes.size + d.types.classTypes.size
  cataloged {level : TypeLevel} {id : ClassId} :
    (d.types.bindings level).contains id = true ->
    d.types.catalog.contains id = true
  /-- A class with members of a level is bound at that level. -/
  members_bound {id : ClassId} {table : MemberTable} {level : TypeLevel}
    {name : String} :
    d.members.get? id = some table ->
    table.Registered name level ->
    (d.types.bindings level).contains id = true
  /-- A listing has every registered name of its level once, and nothing else. -/
  listed {id : ClassId} {table : MemberTable} (level : TypeLevel) :
    d.members.get? id = some table ->
    (table.order level).Nodup ∧
      forall name, name ∈ table.order level ↔ table.Registered name level
  rebinds {id : ClassId} {name : String} {level : TypeLevel} :
    (d.register (.type id name level)).1 = .ok () ->
    d.Rebinds id name level (d.register (.type id name level)).2
  fills {r : Registration} {id : ClassId} {name : String}
    {sort : MemberSort} :
    OfMember id name sort r ->
    (d.register r).1 = .ok () ->
    d.Fills id name sort (d.register r).2
  unchanged {r : Registration} {cause : RegistrationError} :
    (d.register r).1 = .error cause -> (d.register r).2 = d

/-- In every order of registrations, whichever of them fail, the tables agree at each point. -/
theorem consistent_registerAll (mark : String)
    (registrations : List Registration) :
    ((Draft.empty mark).registerAll registrations).Consistent := by
  have hcoherent := coherent_registerAll (coherent_empty mark) registrations
  have horderly := orderly_registerAll (orderly_empty mark) registrations
  constructor
  · exact hcoherent.types.named_iff
  · exact hcoherent.types.bound
  · exact hcoherent.types.place_eq_of_name_eq
  · exact hcoherent.types.name_eq_of_place_eq
  · exact hcoherent.types.count_eq
  · exact horderly.cataloged
  · intro id table level name hget hregistered
    exact hcoherent.bound hget
      ((hcoherent.listed hget level name).mpr hregistered)
  · intro id table level hget
    exact ⟨horderly.nodup level hget, hcoherent.listed hget level⟩
  · intro id name level hok
    exact rebinds_exposeType hcoherent hok
  · intro r id name sort hmember hok
    exact fills_register hmember hok
  · intro r cause herror
    exact register_of_error herror

end Draft

end ScriptBridge
