import Mathlib.Data.List.Chain
import ScriptBridge.Proofs.Ancestry
import ScriptBridge.Proofs.Hierarchy

/-!
# The walk up the parents

The ancestors of a class are listed by one walk.  What stands at a place of the
walk is the class that many steps up, as long as there is one and the walk is not
cut off; so the walk follows the parents, and it meets a class twice only where
parents run in a circle.

A function is found at the fewest steps up at which the name is declared, and
that is before the walk could be cut off.
-/

namespace ScriptBridge

namespace Catalog

/-!
## Places of the walk
-/

theorem getElem?_climb (k : Catalog) (limit : Nat) (id : ClassId) (i : Nat) :
    (k.climb limit (some id))[i]? =
      if i < limit then k.above? i id else none := by
  induction limit generalizing id i with
  | zero => rfl
  | succ limit ih =>
      cases i with
      | zero => simp [climb, above?]
      | succ i =>
          rw [climb, List.getElem?_cons_succ, above?]
          cases hparent : k.parent? id with
          | none => cases limit <;> simp [climb]
          | some parent => simp [ih]

theorem length_climb_le (k : Catalog) (limit : Nat) (id? : Option ClassId) :
    (k.climb limit id?).length ≤ limit := by
  induction limit generalizing id? with
  | zero => exact Nat.le_refl 0
  | succ limit ih =>
      cases id? with
      | none => exact Nat.zero_le _
      | some id => exact Nat.succ_le_succ (ih (k.parent? id))

theorem eq_some_of_mem_head?_climb {k : Catalog} {limit : Nat}
    {id? : Option ClassId} {first : ClassId}
    (h : first ∈ (k.climb limit id?).head?) : id? = some first := by
  cases limit with
  | zero => cases h
  | succ limit =>
      cases id? with
      | none => cases h
      | some id => exact h

theorem isChain_climb (k : Catalog) (limit : Nat) (id? : Option ClassId) :
    (k.climb limit id?).IsChain
      (fun child parent => k.parent? child = some parent) := by
  induction limit generalizing id? with
  | zero => exact List.IsChain.nil
  | succ limit ih =>
      cases id? with
      | none => exact List.IsChain.nil
      | some id =>
          rw [climb, List.isChain_cons]
          exact ⟨fun _ hfirst => eq_some_of_mem_head?_climb hfirst,
            ih (k.parent? id)⟩

theorem above?_of_getElem? {k : Catalog} {id other : ClassId} {i : Nat}
    (h : (k.ancestors id)[i]? = some other) : k.above? i id = some other := by
  rw [ancestors, getElem?_climb] at h
  split at h
  · exact h
  · cases h

/-!
## Chains without circles
-/

/-- No class that a class derives from derives from its own parent. -/
def Acyclic (k : Catalog) (id : ClassId) : Prop :=
  forall other parent, k.Derives id other ->
    k.parent? other = some parent -> ¬ k.Derives parent other

theorem nodup_ancestors {k : Catalog} {id : ClassId} (h : k.Acyclic id) :
    (k.ancestors id).Nodup := by
  rw [List.Nodup, List.pairwise_iff_getElem]
  intro i j hi hj hlt heq
  have hfirst : k.above? i id = some (k.ancestors id)[i] :=
    above?_of_getElem? (List.getElem?_eq_getElem hi)
  have hsecond : k.above? j id = some (k.ancestors id)[i] := by
    rw [heq]
    exact above?_of_getElem? (List.getElem?_eq_getElem hj)
  -- Between the two visits lies a way from the class to itself.
  obtain ⟨steps, rfl⟩ : exists steps, j = i + (steps + 1) :=
    ⟨j - i - 1, by omega⟩
  rw [above?_add, hfirst, Option.bind_some, above?] at hsecond
  rcases Option.bind_eq_some_iff.mp hsecond with ⟨parent, hparent, haround⟩
  exact h _ parent ((k.derives_iff_above? _ _).mpr ⟨i, hfirst⟩) hparent
    ((k.derives_iff_above? _ _).mpr ⟨steps, haround⟩)

/-!
## The nearest declaration
-/

def Declares (k : Catalog) (id : ClassId) (name : String) : Prop :=
  exists c f, k.get? id = some c ∧ f ∈ c.functions ∧ f.name = name

theorem declared?_eq_some_iff (k : Catalog) (id : ClassId) (name : String)
    (f : NativeFunction) :
    k.declared? id name = some f ↔
      exists c earlier later, k.get? id = some c ∧
        c.functions = earlier ++ f :: later ∧ f.name = name ∧
        forall other, other ∈ earlier -> other.name ≠ name := by
  rw [declared?, Option.bind_eq_some_iff]
  simp only [NativeClass.function?, List.find?_eq_some_iff_append,
    decide_eq_true_eq, Bool.not_eq_true', decide_eq_false_iff_not]
  constructor
  · rintro ⟨c, hc, hname, earlier, later, hsplit, hearlier⟩
    exact ⟨c, earlier, later, hc, hsplit, hname, hearlier⟩
  · rintro ⟨c, earlier, later, hc, hsplit, hname, hearlier⟩
    exact ⟨c, hc, hname, earlier, later, hsplit, hearlier⟩

theorem declared?_eq_none_iff (k : Catalog) (id : ClassId) (name : String) :
    k.declared? id name = none ↔ ¬ k.Declares id name := by
  rw [declared?, Option.bind_eq_none_iff]
  simp only [NativeClass.function?, List.find?_eq_none, decide_eq_true_eq]
  constructor
  · rintro h ⟨c, f, hc, hf, hname⟩
    exact h c hc f hf hname
  · intro h c hc f hf hname
    exact h ⟨c, f, hc, hf, hname⟩

/--
A function is the first of its name in the class that declares it, and none of
the classes before that one declares the name.
-/
structure FoundAt (k : Catalog) (id : ClassId) (name : String)
    (f : DeclaredFunction) : Prop where
  first : exists c earlier later, k.get? f.declaring = some c ∧
    c.functions = earlier ++ f.function :: later ∧ f.function.name = name ∧
    forall other, other ∈ earlier -> other.name ≠ name
  nearest : exists steps, k.above? steps id = some f.declaring ∧
    forall fewer passed, fewer < steps ->
      k.above? fewer id = some passed -> ¬ k.Declares passed name

theorem foundAt_of_findFunction? {k : Catalog} {id : ClassId} {name : String}
    {f : DeclaredFunction} (h : k.findFunction? id name = some f) :
    k.FoundAt id name f := by
  rcases (k.findFunction?_eq_some_iff id name f).mp h with
    ⟨before, after, hsplit, hdeclared, hbefore⟩
  have hat : (k.ancestors id)[before.length]? = some f.declaring := by
    rw [hsplit, List.getElem?_append_right (Nat.le_refl _), Nat.sub_self]
    rfl
  refine ⟨(k.declared?_eq_some_iff _ _ _).mp hdeclared,
    before.length, above?_of_getElem? hat, ?_⟩
  intro fewer passed hlt hpassed
  rw [← declared?_eq_none_iff]
  apply hbefore passed
  have hlimit : fewer < k.size + 1 := by
    have hlength := k.length_climb_le (k.size + 1) (some id)
    rw [← ancestors, hsplit, List.length_append, List.length_cons] at hlength
    omega
  have hplace : (k.ancestors id)[fewer]? = some passed := by
    rw [ancestors, getElem?_climb, if_pos hlimit, hpassed]
  rw [hsplit, List.getElem?_append_left hlt] at hplace
  exact List.mem_of_getElem? hplace

theorem FoundAt.declares {k : Catalog} {id : ClassId} {name : String}
    {f : DeclaredFunction} (h : k.FoundAt id name f) :
    k.Derives id f.declaring ∧ k.Declares f.declaring name := by
  rcases h.first with ⟨c, earlier, later, hc, hsplit, hname, _⟩
  rcases h.nearest with ⟨steps, hsteps, _⟩
  refine ⟨(k.derives_iff_above? _ _).mpr ⟨steps, hsteps⟩,
    c, f.function, hc, ?_, hname⟩
  rw [hsplit]
  exact List.mem_append_right earlier List.mem_cons_self

theorem FoundAt.eq {k : Catalog} {id : ClassId} {name : String}
    {f g : DeclaredFunction} (h : k.FoundAt id name f)
    (h' : k.FoundAt id name g) : f = g := by
  rcases h.nearest with ⟨steps, hsteps, hpassed⟩
  rcases h'.nearest with ⟨steps', hsteps', hpassed'⟩
  have hsame : steps = steps' := by
    rcases Nat.lt_trichotomy steps steps' with hlt | heq | hlt
    · exact absurd h.declares.2 (hpassed' steps _ hlt hsteps)
    · exact heq
    · exact absurd h'.declares.2 (hpassed steps' _ hlt hsteps')
  rw [hsame, hsteps'] at hsteps
  obtain ⟨declaring, function⟩ := f
  cases hsteps
  have hf := (k.declared?_eq_some_iff _ _ _).mpr h.first
  have hg := (k.declared?_eq_some_iff _ _ _).mpr h'.first
  rw [hf] at hg
  cases hg
  rfl

theorem findFunction?_eq_none_iff_derives (k : Catalog) (id : ClassId)
    (name : String) :
    k.findFunction? id name = none ↔
      forall other, k.Derives id other -> ¬ k.Declares other name := by
  rw [findFunction?_eq_none_iff]
  simp only [mem_ancestors_iff, declared?_eq_none_iff]

theorem findFunction?_eq_some_iff_foundAt (k : Catalog) (id : ClassId)
    (name : String) (f : DeclaredFunction) :
    k.findFunction? id name = some f ↔ k.FoundAt id name f := by
  constructor
  · exact foundAt_of_findFunction?
  · intro h
    cases hfound : k.findFunction? id name with
    | none =>
        have hnone := (k.findFunction?_eq_none_iff_derives id name).mp hfound
        exact absurd h.declares.2 (hnone f.declaring h.declares.1)
    | some g => rw [(foundAt_of_findFunction? hfound).eq h]

/-!
## The law
-/

structure Traverses (k : Catalog) (id : ClassId) (walk : List ClassId) :
    Prop where
  length_le : walk.length ≤ k.size + 1
  head : walk.head? = some id
  links : walk.IsChain (fun child parent => k.parent? child = some parent)
  complete : forall other, other ∈ walk ↔ k.Derives id other
  nodup : k.Acyclic id -> walk.Nodup

theorem traverses_ancestors (k : Catalog) (id : ClassId) :
    k.Traverses id (k.ancestors id) where
  length_le := k.length_climb_le (k.size + 1) (some id)
  head := rfl
  links := k.isChain_climb (k.size + 1) (some id)
  complete := k.mem_ancestors_iff id
  nodup := nodup_ancestors

/--
In every catalog the walk up the parents meets all classes that a class derives
from, and so do the questions that are answered by it: whether a class derives
from another one, and which function is the nearest under a name.
-/
theorem ancestry_exact (k : Catalog) (id : ClassId) :
    k.Traverses id (k.ancestors id) ∧
      (forall parent, k.isChildOf id parent = true ↔ k.Derives id parent) ∧
      k.isChildOf id id = true ∧
      (forall middle other, k.isChildOf id middle = true ->
        k.isChildOf middle other = true -> k.isChildOf id other = true) ∧
      forall name,
        (forall f, k.findFunction? id name = some f ↔
          k.FoundAt id name f) ∧
        (k.findFunction? id name = none ↔
          forall other, k.Derives id other -> ¬ k.Declares other name) := by
  have hchild (child parent : ClassId) :
      k.isChildOf child parent = true ↔ k.Derives child parent := by
    rw [isChildOf_iff, mem_ancestors_iff]
  refine ⟨k.traverses_ancestors id, hchild id, k.isChildOf_self id, ?_, ?_⟩
  · intro middle other hmiddle hother
    rw [hchild] at hmiddle hother ⊢
    exact hmiddle.trans hother
  · intro name
    exact ⟨k.findFunction?_eq_some_iff_foundAt id name,
      k.findFunction?_eq_none_iff_derives id name⟩

/-- Two classes that are each other's parents are met once around, and one of them again. -/
example :
    ((empty.insert ⟨"A", some (.ofName "B"), []⟩).2.insert
      ⟨"B", some (.ofName "A"), []⟩).2.ancestors (.ofName "A") =
        [.ofName "A", .ofName "B", .ofName "A"] := by
  decide +kernel

end Catalog

end ScriptBridge
