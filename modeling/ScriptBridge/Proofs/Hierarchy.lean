import ScriptBridge.Registry.Types

/-!
# Functions along the chain of a class

A native function is looked up on a class and then on its ancestors.  The first
class of the chain that declares the name decides, so what was found on a class
is found again when the search starts at the class that declares it.  This holds
in every catalog, also where a chain is cut off because it runs in a circle.
-/

namespace ScriptBridge

namespace Catalog

/-!
## Ancestors
-/

theorem mem_ancestors_self (k : Catalog) (id : ClassId) :
    id ∈ k.ancestors id := by
  rw [ancestors, climb]
  exact List.mem_cons_self

theorem isChildOf_iff (k : Catalog) (id parent : ClassId) :
    k.isChildOf id parent = true ↔ parent ∈ k.ancestors id := by
  rw [isChildOf, List.any_eq_true]
  constructor
  · rintro ⟨ancestor, hmem, heq⟩
    rw [decide_eq_true_iff] at heq
    rw [← heq]
    exact hmem
  · intro hmem
    exact ⟨parent, hmem, decide_eq_true rfl⟩

@[simp] theorem isChildOf_self (k : Catalog) (id : ClassId) :
    k.isChildOf id id = true :=
  (isChildOf_iff k id id).mpr (mem_ancestors_self k id)

/-!
## Declarations
-/

def declared? (k : Catalog) (id : ClassId) (name : String) :
    Option NativeFunction :=
  (k.get? id).bind (fun c => c.function? name)

theorem findFunction?_eq_none_iff (k : Catalog) (id : ClassId)
    (name : String) :
    k.findFunction? id name = none ↔
      forall ancestor, ancestor ∈ k.ancestors id ->
        k.declared? ancestor name = none := by
  rw [findFunction?, List.findSome?_eq_none_iff]
  constructor
  · intro h ancestor hmem
    exact Option.map_eq_none_iff.mp (h ancestor hmem)
  · intro h ancestor hmem
    exact Option.map_eq_none_iff.mpr (h ancestor hmem)

theorem findFunction?_eq_some_iff (k : Catalog) (id : ClassId)
    (name : String) (f : DeclaredFunction) :
    k.findFunction? id name = some f ↔
      exists before after,
        k.ancestors id = before ++ f.declaring :: after ∧
        k.declared? f.declaring name = some f.function ∧
        forall ancestor, ancestor ∈ before ->
          k.declared? ancestor name = none := by
  rw [findFunction?, List.findSome?_eq_some_iff]
  constructor
  · rintro ⟨before, ancestor, after, hsplit, hfound, hbefore⟩
    rcases Option.map_eq_some_iff.mp hfound with ⟨function, hdeclared, rfl⟩
    refine ⟨before, after, hsplit, hdeclared, ?_⟩
    intro other hmem
    exact Option.map_eq_none_iff.mp (hbefore other hmem)
  · rintro ⟨before, after, hsplit, hdeclared, hbefore⟩
    refine ⟨before, f.declaring, after, hsplit, ?_, ?_⟩
    · exact Option.map_eq_some_iff.mpr ⟨f.function, hdeclared, rfl⟩
    · intro other hmem
      exact Option.map_eq_none_iff.mpr (hbefore other hmem)

theorem declared?_of_findFunction? {k : Catalog} {id : ClassId}
    {name : String} {f : DeclaredFunction}
    (h : k.findFunction? id name = some f) :
    k.declared? f.declaring name = some f.function := by
  rcases (findFunction?_eq_some_iff k id name f).mp h with
    ⟨_before, _after, _hsplit, hdeclared, _hbefore⟩
  exact hdeclared

theorem isChildOf_of_findFunction? {k : Catalog} {id : ClassId}
    {name : String} {f : DeclaredFunction}
    (h : k.findFunction? id name = some f) :
    k.isChildOf id f.declaring = true := by
  rcases (findFunction?_eq_some_iff k id name f).mp h with
    ⟨before, after, hsplit, _hdeclared, _hbefore⟩
  rw [isChildOf_iff, hsplit]
  exact List.mem_append_right before List.mem_cons_self

theorem findFunction?_of_declared? {k : Catalog} {id : ClassId}
    {name : String} {function : NativeFunction}
    (h : k.declared? id name = some function) :
    k.findFunction? id name = some ⟨id, function⟩ := by
  rw [findFunction?_eq_some_iff]
  refine ⟨[], k.climb k.size (k.parent? id), rfl, h, ?_⟩
  intro ancestor hmem
  cases hmem

theorem findFunction?_ne_none_of_isChildOf {k : Catalog}
    {id declaring : ClassId} {name : String} {function : NativeFunction}
    (hchild : k.isChildOf id declaring = true)
    (hdeclared : k.declared? declaring name = some function) :
    k.findFunction? id name ≠ none := by
  intro hnone
  have hmem : declaring ∈ k.ancestors id :=
    (isChildOf_iff k id declaring).mp hchild
  have hundeclared : k.declared? declaring name = none :=
    (findFunction?_eq_none_iff k id name).mp hnone declaring hmem
  rw [hundeclared] at hdeclared
  cases hdeclared

end Catalog

namespace TypeTable

/-!
## Native functions under their script names
-/

theorem nativeFunction?_declaring {t : TypeTable} {id : ClassId}
    {name : String} {f : DeclaredFunction}
    (h : t.nativeFunction? id name = some f) :
    t.nativeFunction? f.declaring name = some f :=
  Catalog.findFunction?_of_declared? (Catalog.declared?_of_findFunction? h)

theorem isChildOf_of_nativeFunction? {t : TypeTable} {id : ClassId}
    {name : String} {f : DeclaredFunction}
    (h : t.nativeFunction? id name = some f) :
    t.isChildOf id f.declaring = true :=
  Catalog.isChildOf_of_findFunction? h

/-- A class without a native function of the name derives from none that declares one. -/
theorem isChildOf_eq_false_of_nativeFunction?_eq_none {t : TypeTable}
    {id other : ClassId} {name : String} {f : DeclaredFunction}
    (hnone : t.nativeFunction? id name = none)
    (h : t.nativeFunction? other name = some f) :
    t.isChildOf id f.declaring = false := by
  cases hchild : t.isChildOf id f.declaring with
  | false => rfl
  | true =>
      exact absurd hnone
        (Catalog.findFunction?_ne_none_of_isChildOf hchild
          (Catalog.declared?_of_findFunction? h))

@[simp] theorem isChildOf_self (t : TypeTable) (id : ClassId) :
    t.isChildOf id id = true :=
  Catalog.isChildOf_self t.catalog id

end TypeTable

end ScriptBridge
