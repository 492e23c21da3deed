import ScriptBridge.Dispatch.Call
import ScriptBridge.Proofs.Hierarchy

/-!
# What a search finds

Every search of the bridge has one shape: the object answers by itself, or else
the first live object merged with it that has an answer does.  `Answered` says
this without searching, and each search is shown to find exactly what it says.

A native function is searched for twice, by its name when it is looked up and by
its declaring class when it is called.  Both searches stop at the same object:
a class that derives from the declaring class has a function of the name, so no
object before the one that was found can derive from it.
-/

namespace ScriptBridge

namespace World

theorem get?_eq_some_iff (w : World) (r : ObjectRef) (o : NativeObject) :
    w.get? r = some o ↔
      exists id, w.occupant? r = some id ∧ w.object? id = some o := by
  rw [get?, Option.bind_eq_some_iff]

theorem mem_mergedWith_iff (w : World) (o : NativeObject) (r : ObjectRef)
    (object : NativeObject) :
    (r, object) ∈ w.mergedWith o ↔
      r ∈ o.mergedRefs ∧ w.get? r = some object := by
  rw [mergedWith, List.mem_filterMap]
  constructor
  · rintro ⟨s, hmem, hs⟩
    rcases Option.map_eq_some_iff.mp hs with ⟨found, hfound, heq⟩
    cases heq
    exact ⟨hmem, hfound⟩
  · rintro ⟨hmem, hlive⟩
    refine ⟨r, hmem, ?_⟩
    rw [hlive]
    rfl

theorem mergedRefs_split_of_mergedWith {w : World} {o object : NativeObject}
    {before after : List (ObjectRef × NativeObject)} {r : ObjectRef}
    (h : w.mergedWith o = before ++ (r, object) :: after) :
    exists passed rest,
      o.mergedRefs = passed ++ r :: rest ∧ w.get? r = some object ∧
      forall s other, s ∈ passed -> w.get? s = some other ->
        (s, other) ∈ before := by
  rcases List.filterMap_eq_append_iff.mp h with
    ⟨left, right, hrefs, hleft, hright⟩
  rcases List.filterMap_eq_cons_iff.mp hright with
    ⟨dead, s, rest, rfl, hdead, hs, _⟩
  rcases Option.map_eq_some_iff.mp hs with ⟨found, hfound, heq⟩
  cases heq
  refine ⟨left ++ dead, rest, by rw [hrefs, List.append_assoc], hfound, ?_⟩
  intro passed other hmem hlive
  rcases List.mem_append.mp hmem with hpassed | hpassed
  · rw [← hleft]
    exact List.mem_filterMap.mpr ⟨passed, hpassed, by rw [hlive]; rfl⟩
  · have hnone := hdead passed hpassed
    rw [hlive] at hnone
    cases hnone

end World

/-!
## Answers
-/

/--
An object answers a question by itself, or else the first live object merged
with it that has an answer.  The path leads to the object that answers.
-/
inductive Answered {Answer : Type} (w : World) (p : Path) (o : NativeObject)
    (own : Option Answer) (other : ClassId -> Option Answer) :
    Path -> NativeObject -> Answer -> Prop where
  | own {a : Answer} : own = some a -> Answered w p o own other p o a
  | merged {before after : List (ObjectRef × NativeObject)} {r : ObjectRef}
      {object : NativeObject} {a : Answer} :
      own = none ->
      w.mergedWith o = before ++ (r, object) :: after ->
      (forall entry, entry ∈ before -> other entry.2.cls = none) ->
      other object.cls = some a ->
      Answered w p o own other (p.through r) object a

namespace Answered

variable {Answer : Type} {w : World} {p path : Path} {o object : NativeObject}
  {own : Option Answer} {other : ClassId -> Option Answer} {a : Answer}

theorem live (h : Answered w p o own other path object a)
    (hlive : w.get? p.target = some o) :
    w.get? path.target = some object := by
  cases h with
  | own _ => exact hlive
  | @merged before after r _ _ _ hsplit _ _ =>
      have hmem : (r, object) ∈ w.mergedWith o := by
        rw [hsplit]
        exact List.mem_append_right _ List.mem_cons_self
      rw [Path.target_through]
      exact ((w.mem_mergedWith_iff o r object).mp hmem).2

end Answered

namespace Bridge

theorem object_eq_ok_iff (b : Bridge) (h : InstanceHandle)
    (o : NativeObject) :
    b.object h = .ok o ↔ b.world.get? h.path.target = some o := by
  rw [object]
  cases b.world.get? h.path.target with
  | none =>
      constructor
      · intro heq
        cases heq
      · intro heq
        cases heq
  | some found =>
      constructor
      · intro heq
        cases heq
        rfl
      · intro heq
        cases heq
        rfl

/-!
## Registered members
-/

theorem firstAlong_eq_some_iff {Answer : Type} (b : Bridge)
    (h : InstanceHandle) (o : NativeObject)
    (answer : ClassId -> Option Answer) (path : Path) (a : Answer) :
    b.firstAlong h o answer = some (path, a) ↔
      exists object,
        Answered b.world h.path o (answer h.exposed.cls) answer path object a := by
  constructor
  · intro hfound
    rw [firstAlong] at hfound
    cases hown : answer h.exposed.cls with
    | some own =>
        rw [hown] at hfound
        cases hfound
        exact ⟨o, Answered.own rfl⟩
    | none =>
        rw [hown] at hfound
        rcases List.findSome?_eq_some_iff.mp hfound with
          ⟨before, ⟨r, object⟩, after, hsplit, hlast, hbefore⟩
        rcases Option.map_eq_some_iff.mp hlast with ⟨found, hanswer, heq⟩
        cases heq
        refine ⟨object, Answered.merged rfl hsplit ?_ hanswer⟩
        intro entry hmem
        exact Option.map_eq_none_iff.mp (hbefore entry hmem)
  · rintro ⟨object, hanswered⟩
    rw [firstAlong]
    cases hanswered with
    | own hown => rw [hown]
    | merged hown hsplit hbefore hanswer =>
        rename_i before after r
        rw [hown]
        apply List.findSome?_eq_some_iff.mpr
        refine ⟨before, (r, object), after, hsplit, ?_, ?_⟩
        · exact Option.map_eq_some_iff.mpr ⟨a, hanswer, rfl⟩
        · intro entry hmem
          exact Option.map_eq_none_iff.mpr (hbefore entry hmem)

theorem firstAlong_eq_none_iff {Answer : Type} (b : Bridge)
    (h : InstanceHandle) (o : NativeObject)
    (answer : ClassId -> Option Answer) :
    b.firstAlong h o answer = none ↔
      answer h.exposed.cls = none ∧
        forall r other, (r, other) ∈ b.world.mergedWith o ->
          answer other.cls = none := by
  rw [firstAlong]
  cases answer h.exposed.cls with
  | some own => simp
  | none =>
      dsimp only
      rw [List.findSome?_eq_none_iff]
      simp

/-!
## Native functions
-/

abbrev NativeAnswered (b : Bridge) (h : InstanceHandle) (o : NativeObject)
    (name : String) : Path -> NativeObject -> DeclaredFunction -> Prop :=
  Answered b.world h.path o (b.types.nativeFunction? o.cls name)
    (fun id => b.types.nativeFunction? id name)

theorem findNative?_eq_some_iff (b : Bridge) (h : InstanceHandle)
    (o : NativeObject) (name : String) (f : DeclaredFunction) :
    b.findNative? o name = some f ↔
      exists path object, b.NativeAnswered h o name path object f := by
  rw [findNative?, List.findSome?_cons, List.findSome?_map]
  constructor
  · intro hfound
    cases hown : b.types.nativeFunction? o.cls name with
    | some own =>
        rw [hown] at hfound
        cases hfound
        exact ⟨h.path, o, Answered.own hown⟩
    | none =>
        rw [hown] at hfound
        rcases List.findSome?_eq_some_iff.mp hfound with
          ⟨before, ⟨r, object⟩, after, hsplit, hanswer, hbefore⟩
        exact ⟨h.path.through r, object,
          Answered.merged hown hsplit hbefore hanswer⟩
  · rintro ⟨path, object, hanswered⟩
    cases hanswered with
    | own hown => rw [hown]
    | merged hown hsplit hbefore hanswer =>
        rename_i before after r
        rw [hown]
        exact List.findSome?_eq_some_iff.mpr
          ⟨before, (r, object), after, hsplit, hanswer, hbefore⟩

theorem live_of_nativeTarget? {b : Bridge} {h : InstanceHandle}
    {o : NativeObject} {declaring : ClassId} {path : Path}
    (hlive : b.world.get? h.path.target = some o)
    (htarget : b.nativeTarget? h o declaring = some path) :
    exists object, b.world.get? path.target = some object := by
  rw [nativeTarget?] at htarget
  split at htarget
  · cases htarget
    exact ⟨o, hlive⟩
  · rcases Option.map_eq_some_iff.mp htarget with ⟨⟨r, object⟩, hfind, heq⟩
    cases heq
    refine ⟨object, ?_⟩
    rw [Path.target_through]
    exact ((b.world.mem_mergedWith_iff o r object).mp
      (List.mem_of_find?_eq_some hfind)).2

theorem nativeFunction?_of_answered {b : Bridge} {h : InstanceHandle}
    {o object : NativeObject} {name : String} {path : Path}
    {f : DeclaredFunction} (hf : b.NativeAnswered h o name path object f) :
    b.types.nativeFunction? f.declaring name = some f := by
  cases hf with
  | own hown => exact TypeTable.nativeFunction?_declaring hown
  | merged _ _ _ hanswer => exact TypeTable.nativeFunction?_declaring hanswer

/-- The search by declaring class ends at the object that the search by name found. -/
theorem nativeTarget?_of_answered {b : Bridge} {h : InstanceHandle}
    {o object : NativeObject} {name : String} {path : Path}
    {f : DeclaredFunction} (hf : b.NativeAnswered h o name path object f) :
    b.nativeTarget? h o f.declaring = some path := by
  rw [nativeTarget?]
  cases hf with
  | own hown => rw [if_pos (TypeTable.isChildOf_of_nativeFunction? hown)]
  | merged hown hsplit hbefore hanswer =>
      rename_i before after r
      have hforeign : b.types.isChildOf o.cls f.declaring = false :=
        TypeTable.isChildOf_eq_false_of_nativeFunction?_eq_none hown hanswer
      rw [hforeign, if_neg Bool.false_ne_true]
      apply Option.map_eq_some_iff.mpr
      refine ⟨(r, object), ?_, rfl⟩
      apply List.find?_eq_some_iff_append.mpr
      refine ⟨TypeTable.isChildOf_of_nativeFunction? hanswer, before, after,
        hsplit, ?_⟩
      intro entry hmem
      have hother : b.types.isChildOf entry.2.cls f.declaring = false :=
        TypeTable.isChildOf_eq_false_of_nativeFunction?_eq_none
          (hbefore entry hmem) hanswer
      simp only [hother, Bool.not_false]

end Bridge

end ScriptBridge
