import ScriptBridge.Proofs.Results

/-!
# There and back

A script value that goes into a native function can come out of it again, and
then has its shape again.  An integer that went in as a number comes back as one,
and a handle comes back as a handle to the same object or class, however that was
reached the first time.  But a handle is lost, and nil comes back, where neither
the class nor an ancestor of it has an exposed type.

The last of these is the only one that the native function could notice: what
came back is the same native value again exactly if no handle became nil.
-/

namespace ScriptBridge

inductive Value.Loses : Value -> Value -> Prop where
  | handle (h : Handle) : Loses (.handle h) .nil
  | item {items others : List Value} {i : Nat} {v other : Value} :
      items[i]? = some v -> others[i]? = some other -> Loses v other ->
      Loses (.array items) (.array others)

theorem mapM_eq_some_iff_map {Item Other : Type} {f : Item -> Option Other}
    {items : List Item} {others : List Other} :
    items.mapM f = some others ↔ items.map f = others.map some := by
  induction items generalizing others with
  | nil => cases others <;> simp
  | cons item rest ih =>
      rw [List.mapM_cons]
      cases others with
      | nil =>
          cases f item <;> cases rest.mapM f <;> simp
      | cons other more =>
          rw [List.map_cons, List.map_cons, List.cons.injEq, ← ih]
          cases f item <;> cases rest.mapM f <;> simp

theorem exists_of_map_eq_map_some {Item Other : Type}
    {f : Item -> Option Other} {items : List Item} {others : List Other}
    (h : items.map f = others.map some) {i : Nat} {item : Item}
    (hitem : items[i]? = some item) :
    exists other, others[i]? = some other ∧ f item = some other := by
  have hat := congrArg (fun l => l[i]?) h
  simp only [List.getElem?_map, hitem, Option.map_some] at hat
  rcases Option.map_eq_some_iff.mp hat.symm with ⟨other, hother, hfound⟩
  exact ⟨other, hother, hfound.symm⟩

namespace TypeTable

/-!
## Values that came back
-/

/-- How a script value comes back that was converted to a native value of a type. -/
inductive Echoed (t : TypeTable) (w : World) :
    NativeType -> Value -> Value -> Prop where
  | bool (b : Bool) : Echoed t w .bool (.bool b) (.bool b)
  | int (n : Int64) : Echoed t w .int (.int n) (.int n)
  | float (x : Double) : Echoed t w .float (.float x) (.float x)
  | widened (n : Int64) :
      Echoed t w .float (.int n) (.float (Double.ofInt n.toInt))
  | string (text : String) : Echoed t w .string (.string text) (.string text)
  | noObject (required : Option ClassId) :
      Echoed t w (.object required) .nil .nil
  | object {required : Option ClassId} {h other : InstanceHandle}
      {o : NativeObject} :
      w.get? h.path.target = some o -> t.IsBound .object o.cls ->
      Handle.equals (.object h) (.object other) = true ->
      Echoed t w (.object required) (.handle (.object h))
        (.handle (.object other))
  | unboundObject {required : Option ClassId} {h : InstanceHandle}
      {o : NativeObject} :
      w.get? h.path.target = some o -> ¬ t.IsBound .object o.cls ->
      Echoed t w (.object required) (.handle (.object h)) .nil
  | noClass (required : Option ClassId) : Echoed t w (.cls required) .nil .nil
  | cls {required : Option ClassId} {h other : ClassHandle} :
      t.IsBound .cls h.cls ->
      Handle.equals (.cls h) (.cls other) = true ->
      Echoed t w (.cls required) (.handle (.cls h)) (.handle (.cls other))
  | unboundClass {required : Option ClassId} {h : ClassHandle} :
      ¬ t.IsBound .cls h.cls ->
      Echoed t w (.cls required) (.handle (.cls h)) .nil
  | array {element : NativeType} {items others : List Value} :
      others.length = items.length ->
      (forall (i : Nat) (v other : Value), items[i]? = some v ->
        others[i]? = some other -> Echoed t w element v other) ->
      Echoed t w (.array element) (.array items) (.array others)

section Echo

variable {t : TypeTable} {w : World}

theorem toScriptAll_eq_map (p : Path) (items : List NativeValue) :
    t.toScriptAll w p items = items.map (t.toScript w p) := by
  induction items with
  | nil => rfl
  | cons v rest ih => rw [toScriptAll, ih, List.map_cons]

theorem toNative_object_eq_some_iff {required : Option ClassId}
    {h : InstanceHandle} {native : NativeValue} :
    t.toNative w (.object required) (.handle (.object h)) = some native ↔
      exists o, w.get? h.path.target = some o ∧
        t.satisfies o.cls required = true ∧
        .object (some h.path.target) = native := by
  rw [toNative]
  cases w.get? h.path.target with
  | none => simp
  | some o => simp

theorem toNative_cls_eq_some_iff {required : Option ClassId}
    {h : ClassHandle} {native : NativeValue} :
    t.toNative w (.cls required) (.handle (.cls h)) = some native ↔
      t.satisfies h.cls required = true ∧ .cls (some h.cls) = native := by
  rw [toNative]
  simp

theorem toNative_array_eq_some_iff {element : NativeType}
    {items : List Value} {native : NativeValue} :
    t.toNative w (.array element) (.array items) = some native ↔
      exists natives, items.map (t.toNative w element) = natives.map some ∧
        .array natives = native := by
  rw [toNative, Option.map_eq_some_iff]
  simp only [mapM_eq_some_iff_map]

theorem echoed_objectValue (p : Path) {required : Option ClassId}
    {h : InstanceHandle} {o : NativeObject}
    (hlive : w.get? h.path.target = some o) :
    t.Echoed w (.object required) (.handle (.object h))
      (t.objectValue w (p.through h.path.target)) := by
  have hshown := t.shown_objectValue w p h.path.target
  generalize t.objectValue w (p.through h.path.target) = other at hshown
  cases hshown with
  | object hlive' hexposed _ htarget =>
      apply Echoed.object hlive' (isBound_of_exposed? hexposed)
      exact decide_eq_true htarget.symm
  | gone hgone =>
      rw [hlive] at hgone
      cases hgone
  | unexposed hlive' hunexposed =>
      exact Echoed.unboundObject hlive' (not_isBound_of_exposed? hunexposed)

theorem echoed_classValue {required : Option ClassId} (h : ClassHandle) :
    t.Echoed w (.cls required) (.handle (.cls h)) (t.classValue h.cls) := by
  have hshown := t.shown_classValue w default h.cls
  generalize t.classValue h.cls = other at hshown
  cases hshown with
  | cls hbinding =>
      exact Echoed.cls (isBound_of_classBinding? hbinding) (decide_eq_true rfl)
  | unboundClass hunbound =>
      exact Echoed.unboundClass (not_isBound_of_classBinding? hunbound)

theorem echoed_toScript (p : Path) {type : NativeType} {v : Value}
    {native : NativeValue} (h : t.toNative w type v = some native) :
    t.Echoed w type v (t.toScript w p native) := by
  induction type generalizing v native with
  | bool =>
      cases v with
      | bool b =>
          cases h
          exact Echoed.bool b
      | _ => cases h
  | int =>
      cases v with
      | int n =>
          cases h
          exact Echoed.int n
      | _ => cases h
  | float =>
      cases v with
      | float x =>
          cases h
          exact Echoed.float x
      | int n =>
          cases h
          exact Echoed.widened n
      | _ => cases h
  | string =>
      cases v with
      | string text =>
          cases h
          exact Echoed.string text
      | _ => cases h
  | object required =>
      cases v with
      | nil =>
          cases h
          exact Echoed.noObject required
      | handle handle =>
          cases handle with
          | cls _ => cases h
          | object handle =>
              rcases toNative_object_eq_some_iff.mp h with
                ⟨o, hlive, _hsatisfies, rfl⟩
              exact echoed_objectValue p hlive
      | _ => cases h
  | cls required =>
      cases v with
      | nil =>
          cases h
          exact Echoed.noClass required
      | handle handle =>
          cases handle with
          | object _ => cases h
          | cls handle =>
              rcases toNative_cls_eq_some_iff.mp h with ⟨_hsatisfies, rfl⟩
              exact echoed_classValue handle
      | _ => cases h
  | array element ih =>
      cases v with
      | array items =>
          rcases toNative_array_eq_some_iff.mp h with ⟨natives, hmap, rfl⟩
          rw [toScript, toScriptAll_eq_map]
          apply Echoed.array
          · rw [List.length_map, ← List.length_map some, ← hmap,
              List.length_map]
          · intro i v other hv hother
            rcases exists_of_map_eq_map_some hmap hv with
              ⟨item, hitem, hnative⟩
            rw [List.getElem?_map, hitem] at hother
            cases hother
            exact ih hnative
      | _ => cases h

theorem toNative_array_iff_of_items {element : NativeType}
    {items others : List Value} {natives : List NativeValue}
    (hmap : items.map (t.toNative w element) = natives.map some)
    (hlength : others.length = items.length)
    (hitems : forall (i : Nat) (v other : Value) (native : NativeValue),
      items[i]? = some v -> others[i]? = some other ->
      t.toNative w element v = some native ->
      (t.toNative w element other = some native ↔ ¬ v.Loses other)) :
    t.toNative w (.array element) (.array others) = some (.array natives) ↔
      ¬ Value.Loses (.array items) (.array others) := by
  rw [toNative_array_eq_some_iff]
  constructor
  · rintro ⟨natives', hmap', heq⟩ hloses
    cases heq
    cases hloses with
    | item hv hother hloses =>
        rcases exists_of_map_eq_map_some hmap hv with ⟨n, hn, hnative⟩
        rcases exists_of_map_eq_map_some hmap' hother with ⟨n', hn', hagain⟩
        rw [hn] at hn'
        cases hn'
        exact (hitems _ _ _ n hv hother hnative).mp hagain hloses
  · intro hkept
    refine ⟨natives, ?_, rfl⟩
    rw [← hmap]
    apply List.ext_getElem (by simp only [List.length_map, hlength])
    intro i hi hi'
    rw [List.length_map] at hi hi'
    rw [List.getElem_map, List.getElem_map]
    have hv : items[i]? = some items[i] := List.getElem?_eq_getElem hi'
    have hother : others[i]? = some others[i] := List.getElem?_eq_getElem hi
    rcases exists_of_map_eq_map_some hmap hv with ⟨n, _hn, hnative⟩
    rw [hnative]
    apply (hitems i _ _ n hv hother hnative).mpr
    intro hloses
    exact hkept (.item hv hother hloses)

/-- What came back is the same native value again exactly if no handle became nil. -/
theorem toNative_iff_of_echoed {type : NativeType} {v other : Value}
    {native : NativeValue} (hechoed : t.Echoed w type v other)
    (h : t.toNative w type v = some native) :
    t.toNative w type other = some native ↔ ¬ v.Loses other := by
  induction hechoed generalizing native with
  | bool b => exact iff_of_true h (fun hloses => nomatch hloses)
  | int n => exact iff_of_true h (fun hloses => nomatch hloses)
  | float x => exact iff_of_true h (fun hloses => nomatch hloses)
  | widened n => exact iff_of_true h (fun hloses => nomatch hloses)
  | string text => exact iff_of_true h (fun hloses => nomatch hloses)
  | noObject required => exact iff_of_true h (fun hloses => nomatch hloses)
  | noClass required => exact iff_of_true h (fun hloses => nomatch hloses)
  | @object required handle other o hlive hbound hequals =>
      apply iff_of_true _ (fun hloses => nomatch hloses)
      have htarget : handle.path.target = other.path.target :=
        of_decide_eq_true hequals
      rw [toNative_object_eq_some_iff, ← htarget]
      exact toNative_object_eq_some_iff.mp h
  | @unboundObject required handle o hlive hunbound =>
      apply iff_of_false _ (fun hkept => hkept (.handle _))
      rcases toNative_object_eq_some_iff.mp h with ⟨_, _, _, rfl⟩
      intro hnil
      cases hnil
  | @cls required handle other hbound hequals =>
      apply iff_of_true _ (fun hloses => nomatch hloses)
      have hcls : handle.cls = other.cls := of_decide_eq_true hequals
      rw [toNative_cls_eq_some_iff, ← hcls]
      exact toNative_cls_eq_some_iff.mp h
  | @unboundClass required handle hunbound =>
      apply iff_of_false _ (fun hkept => hkept (.handle _))
      rcases toNative_cls_eq_some_iff.mp h with ⟨_, rfl⟩
      intro hnil
      cases hnil
  | @array element items others hlength hitems ih =>
      rcases toNative_array_eq_some_iff.mp h with ⟨natives, hmap, rfl⟩
      exact toNative_array_iff_of_items hmap hlength
        (fun i v other native hv hother hnative =>
          ih i v other hv hother hnative)

/-!
## The law
-/

/--
A script value that a native function is given, and that comes back along
whatever path, has its shape again.  Only a handle without an exposed type is
lost, and nothing else tells what came back from what was given.
-/
theorem echoes_exact (p : Path) {type : NativeType} {v : Value}
    {native : NativeValue} (h : t.toNative w type v = some native) :
    t.Echoed w type v (t.toScript w p native) ∧
      (t.toNative w type (t.toScript w p native) = some native ↔
        ¬ v.Loses (t.toScript w p native)) := by
  have hechoed := echoed_toScript p h
  exact ⟨hechoed, toNative_iff_of_echoed hechoed h⟩

end Echo

end TypeTable

/-!
## A gathering

Lamps and dimmers are gathered with a hub, whose class has no exposed type here.
-/

namespace Lamps

def hublessTypes : TypeTable :=
  ((Draft.empty "netFunc_").registerAll
    [.cls lamp, .cls dimmer, .cls hub,
      .type lamp.id "Light" .object]).sealed.types

/-- A dimmer that was reached through a hub, no object, and a hub. -/
def gathering : Value :=
  .array
    [.array [.handle (.object ⟨.along ⟨2, 0⟩ [⟨1, 0⟩], dimmerHandle.exposed⟩),
        .nil],
      .array [], .array [.handle (.object hubHandle)]]

def gatheringType : NativeType :=
  .array (.array (.object none))

theorem echoes_exact_gathering :
    exists native,
      hublessTypes.toNative bridge.world gatheringType gathering =
        some native ∧
      hublessTypes.Echoed bridge.world gatheringType gathering
        (hublessTypes.toScript bridge.world lampHandle.path native) ∧
      (hublessTypes.toNative bridge.world gatheringType
          (hublessTypes.toScript bridge.world lampHandle.path native) =
            some native ↔
        ¬ gathering.Loses
          (hublessTypes.toScript bridge.world lampHandle.path native)) := by
  have hsome : (hublessTypes.toNative bridge.world gatheringType
      gathering).isSome = true := by
    decide +kernel
  rcases Option.isSome_iff_exists.mp hsome with ⟨native, hnative⟩
  exact ⟨native, hnative,
    TypeTable.echoes_exact lampHandle.path hnative⟩

end Lamps

end ScriptBridge
