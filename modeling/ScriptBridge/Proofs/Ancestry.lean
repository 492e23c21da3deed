import ScriptBridge.Native.Catalog

/-!
# The ancestors of a class

The walk from a class up its parents is cut off after one step more than there
are classes.  Nothing is lost by that: every class on the way, but perhaps the
last one, is listed, so a longer way meets some class twice and can be shortened.
The ancestors of a class are therefore exactly the classes that it derives from,
in every catalog, also where parents run in a circle or end in a class that is
not listed.

A search along the ancestors may thus start at any of them, if those before it
have no answer.  So may a listing that names nothing twice.
-/

namespace ScriptBridge

namespace Catalog

inductive Derives (k : Catalog) : ClassId -> ClassId -> Prop where
  | self (id : ClassId) : Derives k id id
  | parent {id parent other : ClassId} :
      k.parent? id = some parent ->
      Derives k parent other ->
      Derives k id other

theorem Derives.trans {k : Catalog} {id middle other : ClassId}
    (h : k.Derives id middle) (h' : k.Derives middle other) :
    k.Derives id other := by
  induction h with
  | self id => exact h'
  | parent hparent _ ih => exact .parent hparent (ih h')

/-!
## Numbered steps
-/

def above? (k : Catalog) : Nat -> ClassId -> Option ClassId
  | 0, id => some id
  | steps + 1, id => (k.parent? id).bind (above? k steps)

theorem above?_add (k : Catalog) (steps more : Nat) (id : ClassId) :
    k.above? (steps + more) id =
      (k.above? steps id).bind (k.above? more) := by
  induction steps generalizing id with
  | zero =>
      rw [Nat.zero_add]
      rfl
  | succ steps ih =>
      rw [Nat.succ_add, above?, above?]
      cases k.parent? id with
      | none => rfl
      | some parent => exact ih parent

theorem derives_iff_above? (k : Catalog) (id other : ClassId) :
    k.Derives id other ↔ exists steps, k.above? steps id = some other := by
  constructor
  · intro h
    induction h with
    | self id => exact ⟨0, rfl⟩
    | parent hparent _ ih =>
        rcases ih with ⟨steps, hsteps⟩
        refine ⟨steps + 1, ?_⟩
        rw [above?, hparent]
        exact hsteps
  · rintro ⟨steps, hsteps⟩
    induction steps generalizing id with
    | zero =>
        cases hsteps
        exact .self _
    | succ steps ih =>
        rw [above?] at hsteps
        rcases Option.bind_eq_some_iff.mp hsteps with ⟨parent, hparent, hrest⟩
        exact .parent hparent (ih parent hrest)

theorem mem_climb_iff (k : Catalog) (limit : Nat) (id other : ClassId) :
    other ∈ k.climb limit (some id) ↔
      exists steps, steps < limit ∧ k.above? steps id = some other := by
  induction limit generalizing id with
  | zero => simp [climb]
  | succ limit ih =>
      rw [climb, List.mem_cons]
      constructor
      · rintro (rfl | hmem)
        · exact ⟨0, Nat.zero_lt_succ limit, rfl⟩
        · cases hparent : k.parent? id with
          | none =>
              rw [hparent] at hmem
              cases limit <;> cases hmem
          | some parent =>
              rw [hparent] at hmem
              rcases (ih parent).mp hmem with ⟨steps, hlt, hsteps⟩
              refine ⟨steps + 1, Nat.succ_lt_succ hlt, ?_⟩
              rw [above?, hparent]
              exact hsteps
      · rintro ⟨steps, hlt, hsteps⟩
        cases steps with
        | zero =>
            cases hsteps
            exact Or.inl rfl
        | succ steps =>
            rw [above?] at hsteps
            rcases Option.bind_eq_some_iff.mp hsteps with
              ⟨parent, hparent, hrest⟩
            rw [hparent]
            exact Or.inr ((ih parent).mpr ⟨steps, Nat.lt_of_succ_lt_succ hlt, hrest⟩)

/-!
## Long ways can be shortened
-/

theorem mem_keys_of_above? {k : Catalog} {steps limit : Nat}
    {id other : ClassId} (h : k.above? limit id = some other)
    (hlt : steps < limit) :
    exists passed, k.above? steps id = some passed ∧
      passed ∈ k.classes.keys := by
  obtain ⟨more, rfl⟩ : exists more, limit = steps + (more + 1) :=
    ⟨limit - steps - 1, by omega⟩
  rw [above?_add] at h
  rcases Option.bind_eq_some_iff.mp h with ⟨passed, hpassed, hrest⟩
  refine ⟨passed, hpassed, ?_⟩
  rw [above?] at hrest
  rcases Option.bind_eq_some_iff.mp hrest with ⟨parent, hparent, _⟩
  rcases Option.bind_eq_some_iff.mp hparent with ⟨c, hc, _⟩
  apply (Table.contains_iff k.classes passed).mp
  rw [Table.contains, show k.classes.get? passed = some c from hc]
  rfl

/-- A way of more steps than there are classes meets a class twice. -/
theorem exists_above?_eq_of_size_lt {k : Catalog} {limit : Nat}
    {id other : ClassId} (h : k.above? limit id = some other)
    (hlong : k.size < limit) :
    exists i j, i < j ∧ j < limit ∧ k.above? i id = k.above? j id := by
  apply Classical.byContradiction
  intro hnone
  have hnodup : ((List.range limit).map (fun i => k.above? i id)).Nodup := by
    apply List.pairwise_map.mpr
    apply List.pairwise_lt_range.imp_of_mem
    intro i j _ hj hlt heq
    exact hnone ⟨i, j, hlt, List.mem_range.mp hj, heq⟩
  have hsubset : (List.range limit).map (fun i => k.above? i id) ⊆
      k.classes.keys.map some := by
    intro passed? hmem
    rcases List.mem_map.mp hmem with ⟨i, hi, rfl⟩
    rcases mem_keys_of_above? h (List.mem_range.mp hi) with
      ⟨passed, hpassed, hlisted⟩
    rw [hpassed]
    exact List.mem_map_of_mem hlisted
  have hle := hnodup.length_le_of_subset hsubset
  simp only [List.length_map, List.length_range, Table.keys] at hle
  exact absurd hlong (Nat.not_lt.mpr hle)

theorem exists_above?_le_size {k : Catalog} {id other : ClassId}
    (limit : Nat) (h : k.above? limit id = some other) :
    exists steps, steps < k.size + 1 ∧ k.above? steps id = some other := by
  induction limit using Nat.strongRecOn with
  | ind limit ih =>
      by_cases hshort : limit < k.size + 1
      · exact ⟨limit, hshort, h⟩
      · rcases exists_above?_eq_of_size_lt h (by omega) with
          ⟨i, j, hij, hj, heq⟩
        -- Leave out what lies between the two visits of one class.
        have hshorter : k.above? (i + (limit - j)) id = some other := by
          rw [above?_add, heq, ← above?_add]
          rw [show j + (limit - j) = limit by omega]
          exact h
        exact ih (i + (limit - j)) (by omega) hshorter

/-- The ancestors of a class are all the classes that it derives from, and no others. -/
theorem mem_ancestors_iff (k : Catalog) (id other : ClassId) :
    other ∈ k.ancestors id ↔ k.Derives id other := by
  rw [ancestors, mem_climb_iff, derives_iff_above?]
  constructor
  · rintro ⟨steps, _, hsteps⟩
    exact ⟨steps, hsteps⟩
  · rintro ⟨steps, hsteps⟩
    exact exists_above?_le_size steps hsteps

/-!
## Searches that start further up
-/

theorem climb_prefix (k : Catalog) {few many : Nat} (h : few ≤ many)
    (id? : Option ClassId) : k.climb few id? <+: k.climb many id? := by
  induction few generalizing many id? with
  | zero => exact List.nil_prefix
  | succ few ih =>
      cases many with
      | zero => exact absurd h (Nat.not_succ_le_zero few)
      | succ many =>
          cases id? with
          | none => exact List.prefix_rfl
          | some id =>
              exact List.prefix_cons_inj id |>.mpr
                (ih (Nat.le_of_succ_le_succ h) (k.parent? id))

theorem climb_of_append {k : Catalog} {limit : Nat} {id? : Option ClassId}
    {before after : List ClassId} {top : ClassId}
    (h : k.climb limit id? = before ++ top :: after) :
    exists fewer, fewer ≤ limit ∧
      k.climb fewer (some top) = top :: after := by
  induction before generalizing limit id? with
  | nil =>
      cases limit with
      | zero => cases h
      | succ limit =>
          cases id? with
          | none => cases h
          | some id =>
              rw [climb] at h
              cases h
              exact ⟨limit + 1, Nat.le_refl _, rfl⟩
  | cons first rest ih =>
      cases limit with
      | zero => cases h
      | succ limit =>
          cases id? with
          | none => cases h
          | some id =>
              rw [climb, List.cons_append] at h
              rcases ih (List.cons.inj h).2 with ⟨fewer, hle, hclimb⟩
              exact ⟨fewer, Nat.le_succ_of_le hle, hclimb⟩

theorem prefix_ancestors_of_append {k : Catalog} {id top : ClassId}
    {before after : List ClassId}
    (hsplit : k.ancestors id = before ++ top :: after) :
    top :: after <+: k.ancestors top := by
  rcases climb_of_append hsplit with ⟨fewer, hle, hclimb⟩
  rw [← hclimb]
  exact k.climb_prefix hle (some top)

theorem mem_or_mem_of_mem_ancestors {k : Catalog} {id top other : ClassId}
    {before after : List ClassId}
    (hsplit : k.ancestors id = before ++ top :: after)
    (h : other ∈ k.ancestors top) :
    other ∈ before ∨ other ∈ top :: after := by
  have htop : top ∈ k.ancestors id := by
    rw [hsplit]
    exact List.mem_append_right before List.mem_cons_self
  rw [← List.mem_append, ← hsplit]
  rw [mem_ancestors_iff] at h htop ⊢
  exact htop.trans h

/--
If no class before one of the ancestors has an answer, then a search may as well
start at that ancestor.
-/
theorem findSome?_ancestors_of_append {Answer : Type} {k : Catalog}
    {id top : ClassId} {before after : List ClassId}
    (hsplit : k.ancestors id = before ++ top :: after)
    (answer : ClassId -> Option Answer)
    (hbefore : forall ancestor, ancestor ∈ before -> answer ancestor = none) :
    (k.ancestors id).findSome? answer =
      (k.ancestors top).findSome? answer := by
  have hnone : before.findSome? answer = none :=
    List.findSome?_eq_none_iff.mpr hbefore
  rw [hsplit, List.findSome?_append, hnone, Option.none_or]
  rcases prefix_ancestors_of_append hsplit with ⟨more, hmore⟩
  cases hfound : (top :: after).findSome? answer with
  | some a => rw [← hmore, List.findSome?_append, hfound, Option.some_or]
  | none =>
      symm
      rw [List.findSome?_eq_none_iff] at hfound ⊢
      intro ancestor hmem
      rcases mem_or_mem_of_mem_ancestors hsplit hmem with hmem | hmem
      · exact hbefore ancestor hmem
      · exact hfound ancestor hmem

/-!
## Listings that start further up
-/

theorem eraseDups_append_of_subset {Item : Type} [BEq Item] [LawfulBEq Item]
    {items more : List Item} (h : more ⊆ items) :
    (items ++ more).eraseDups = items.eraseDups := by
  have hnew : more.removeAll items = [] := by
    apply List.filter_eq_nil_iff.mpr
    intro item hmem
    simpa using h hmem
  rw [List.eraseDups_append, hnew, List.eraseDups_nil, List.append_nil]

theorem eraseDups_ancestors_of_append {Item : Type} [BEq Item]
    [LawfulBEq Item] {k : Catalog} {id top : ClassId}
    {before after : List ClassId}
    (hsplit : k.ancestors id = before ++ top :: after)
    (items : ClassId -> List Item)
    (hbefore : forall ancestor, ancestor ∈ before -> items ancestor = []) :
    ((k.ancestors id).flatMap items).eraseDups =
      ((k.ancestors top).flatMap items).eraseDups := by
  have hnone : before.flatMap items = [] :=
    List.flatMap_eq_nil_iff.mpr hbefore
  rw [hsplit, List.flatMap_append, hnone, List.nil_append]
  rcases prefix_ancestors_of_append hsplit with ⟨more, hmore⟩
  rw [← hmore, List.flatMap_append]
  symm
  apply eraseDups_append_of_subset
  intro item hitem
  -- In a circle the walk from the top goes on through classes that were met already.
  rcases List.mem_flatMap.mp hitem with ⟨ancestor, hmem, hlisted⟩
  have hancestor : ancestor ∈ k.ancestors top := by
    rw [← hmore]
    exact List.mem_append_right (top :: after) hmem
  rcases mem_or_mem_of_mem_ancestors hsplit hancestor with hmem | hmem
  · rw [hbefore ancestor hmem] at hlisted
    cases hlisted
  · exact List.mem_flatMap.mpr ⟨ancestor, hmem, hlisted⟩

end Catalog

end ScriptBridge
