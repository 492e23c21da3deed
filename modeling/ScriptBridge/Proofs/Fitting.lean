import ScriptBridge.Proofs.Ancestry
import ScriptBridge.Proofs.Resolution
import ScriptBridge.Proofs.Journal

/-!
# What native bodies are given

A member is plain data: its name, its owner and its declaring class may be made
up.  Still no native body runs on an object that does not fit it.  The body is
one that the declaring class knows by the name of the member, the object derives
from the declaring class and so from the class that declares the body, and
whatever the body finds in its frame is of the declared types, where objects and
classes derive from those that the types require.

Nothing is asked of the hierarchy: parents may run in a circle.
-/

namespace ScriptBridge

namespace TypeTable

theorem isChildOf_iff_derives (t : TypeTable) (id parent : ClassId) :
    t.isChildOf id parent = true ↔ t.catalog.Derives id parent := by
  rw [← t.catalog.mem_ancestors_iff]
  exact t.catalog.isChildOf_iff id parent

theorem derives_of_satisfies {t : TypeTable} {id : ClassId}
    {required : Option ClassId} (h : t.satisfies id required = true)
    {parent : ClassId} (hrequired : required = some parent) :
    t.catalog.Derives id parent := by
  rw [hrequired] at h
  exact (t.isChildOf_iff_derives id parent).mp h

/-!
## Values that fit a type
-/

inductive Fits (t : TypeTable) (w : World) : NativeType -> NativeValue -> Prop where
  | bool (b : Bool) : Fits t w .bool (.bool b)
  | int (n : Int64) : Fits t w .int (.int n)
  | float (x : Double) : Fits t w .float (.float x)
  | string (text : String) : Fits t w .string (.string text)
  | noObject (required : Option ClassId) :
      Fits t w (.object required) (.object none)
  | object {required : Option ClassId} {r : ObjectRef} {o : NativeObject} :
      w.get? r = some o ->
      (forall parent, required = some parent ->
        t.catalog.Derives o.cls parent) ->
      Fits t w (.object required) (.object (some r))
  | noClass (required : Option ClassId) :
      Fits t w (.cls required) (.cls none)
  | cls {required : Option ClassId} {id : ClassId} :
      (forall parent, required = some parent ->
        t.catalog.Derives id parent) ->
      Fits t w (.cls required) (.cls (some id))
  | array {element : NativeType} {items : List NativeValue} :
      (forall item, item ∈ items -> Fits t w element item) ->
      Fits t w (.array element) (.array items)

theorem fits_blank (t : TypeTable) (w : World) (type : NativeType) :
    t.Fits w type type.blank := by
  cases type with
  | bool => exact Fits.bool false
  | int => exact Fits.int 0
  | float => exact Fits.float .zero
  | string => exact Fits.string ""
  | object required => exact Fits.noObject required
  | cls required => exact Fits.noClass required
  | array element =>
      apply Fits.array
      intro item hmem
      cases hmem

theorem Fits.kind_eq {t : TypeTable} {w : World} {type : NativeType}
    {native : NativeValue} (h : t.Fits w type native) :
    native.kind = type.kind := by
  cases h <;> rfl

theorem exists_of_mem_mapM {Item Other : Type} {f : Item -> Option Other}
    {items : List Item} {others : List Other}
    (h : items.mapM f = some others) {other : Other}
    (hmem : other ∈ others) : exists item, f item = some other := by
  induction items generalizing others with
  | nil =>
      cases h
      cases hmem
  | cons item rest ih =>
      rw [List.mapM_cons] at h
      rcases Option.bind_eq_some_iff.mp h with ⟨first, hfirst, hrest⟩
      rcases Option.bind_eq_some_iff.mp hrest with ⟨more, hmore, heq⟩
      cases heq
      rcases List.mem_cons.mp hmem with hmem | hmem
      · rw [hmem]
        exact ⟨item, hfirst⟩
      · exact ih hmore hmem

theorem fits_of_toNative_object {t : TypeTable} {w : World}
    {required : Option ClassId} {h : InstanceHandle} {native : NativeValue}
    (hnative : t.toNative w (.object required) (.handle (.object h)) =
      some native) : t.Fits w (.object required) native := by
  rw [toNative] at hnative
  cases ho : w.get? h.path.target with
  | none =>
      rw [ho] at hnative
      cases hnative
  | some o =>
      rw [ho] at hnative
      dsimp only at hnative
      split at hnative
      · next hsatisfies =>
          cases hnative
          apply Fits.object ho
          intro parent hrequired
          exact derives_of_satisfies hsatisfies hrequired
      · cases hnative

theorem fits_of_toNative_cls {t : TypeTable} {w : World}
    {required : Option ClassId} {h : ClassHandle} {native : NativeValue}
    (hnative : t.toNative w (.cls required) (.handle (.cls h)) =
      some native) : t.Fits w (.cls required) native := by
  rw [toNative] at hnative
  split at hnative
  · next hsatisfies =>
      cases hnative
      apply Fits.cls
      intro parent hrequired
      exact derives_of_satisfies hsatisfies hrequired
  · cases hnative

/-- A script value is converted only to values that fit. -/
theorem fits_of_toNative {t : TypeTable} {w : World} {type : NativeType}
    {v : Value} {native : NativeValue}
    (h : t.toNative w type v = some native) : t.Fits w type native := by
  induction type generalizing v native with
  | bool =>
      cases v with
      | bool b =>
          cases h
          exact Fits.bool b
      | _ => cases h
  | int =>
      cases v with
      | int n =>
          cases h
          exact Fits.int n
      | _ => cases h
  | float =>
      cases v with
      | float x =>
          cases h
          exact Fits.float x
      | int n =>
          cases h
          exact Fits.float _
      | _ => cases h
  | string =>
      cases v with
      | string text =>
          cases h
          exact Fits.string text
      | _ => cases h
  | object required =>
      cases v with
      | nil =>
          cases h
          exact Fits.noObject required
      | handle handle =>
          cases handle with
          | cls _ => cases h
          | object handle => exact fits_of_toNative_object h
      | _ => cases h
  | cls required =>
      cases v with
      | nil =>
          cases h
          exact Fits.noClass required
      | handle handle =>
          cases handle with
          | object _ => cases h
          | cls handle => exact fits_of_toNative_cls h
      | _ => cases h
  | array element ih =>
      cases v with
      | array items =>
          rw [toNative] at h
          rcases Option.map_eq_some_iff.mp h with ⟨natives, hnatives, rfl⟩
          apply Fits.array
          intro item hmem
          rcases exists_of_mem_mapM hnatives hmem with ⟨v, hv⟩
          exact ih hv
      | _ => cases h

/-!
## Frames that fit their parameters
-/

/-- A frame has a slot for every parameter, in order, and each holds a value that fits. -/
structure FitsFrame (t : TypeTable) (w : World)
    (parameters : List Parameter) (f : Frame) : Prop where
  width : f.width = parameters.length
  slot {i : Nat} {p : Parameter} :
    parameters[i]? = some p ->
    exists native, f.slots[i]? = some ⟨p.role, native⟩ ∧
      t.Fits w p.type native

theorem fitsFrame_ofParameters (t : TypeTable) (w : World)
    (parameters : List Parameter) :
    t.FitsFrame w parameters (.ofParameters parameters) := by
  constructor
  · exact List.length_map _
  · intro i p hp
    refine ⟨p.type.blank, ?_, t.fits_blank w p.type⟩
    unfold Frame.ofParameters
    dsimp only
    rw [List.getElem?_map, hp]
    rfl

section Filling

variable {t : TypeTable} {w : World} {parameters : List Parameter} {f : Frame}

theorem FitsFrame.suits (h : t.FitsFrame w parameters f)
    {rest : List (Parameter × Nat)}
    (hrest : forall entry, entry ∈ rest ->
      parameters[entry.2]? = some entry.1) : Suits f rest := by
  intro p i hmem
  rcases h.slot (hrest (p, i) hmem) with ⟨native, hslot, hfits⟩
  unfold Frame.kinds
  rw [List.getElem?_map, hslot, Option.map_some, hfits.kind_eq]

theorem FitsFrame.set (h : t.FitsFrame w parameters f) {index : Nat}
    {p : Parameter} (hp : parameters[index]? = some p)
    {native : NativeValue} (hfits : t.Fits w p.type native) :
    t.FitsFrame w parameters (f.set index native).2 := by
  rcases h.slot hp with ⟨old, hslot, hold⟩
  unfold Frame.set
  rw [hslot]
  dsimp only
  rw [if_pos (hold.kind_eq.trans hfits.kind_eq.symm)]
  constructor
  · exact List.length_set.trans h.width
  · intro i q hq
    dsimp only
    rw [List.getElem?_set]
    by_cases hi : index = i
    · rw [← hi, hp] at hq
      cases hq
      rw [if_pos hi, if_pos (List.getElem?_eq_some_iff.mp hslot).1]
      exact ⟨native, rfl, hfits⟩
    · rw [if_neg hi]
      exact h.slot hq

theorem FitsFrame.fill (h : t.FitsFrame w parameters f)
    {rest : List (Parameter × Nat)} {position : Nat} {args : List Value}
    {filled : Frame}
    (hrest : forall entry, entry ∈ rest ->
      parameters[entry.2]? = some entry.1)
    (hfill : t.fill w rest position args f = .ok filled) :
    t.FitsFrame w parameters filled := by
  induction rest generalizing position args f with
  | nil =>
      cases hfill
      exact h
  | cons entry rest ih =>
      obtain ⟨p, index⟩ := entry
      have hp := hrest (p, index) List.mem_cons_self
      have hmore : forall entry, entry ∈ rest ->
          parameters[entry.2]? = some entry.1 :=
        fun entry hmem => hrest entry (List.mem_cons_of_mem _ hmem)
      cases hrole : p.role.isInput with
      | false =>
          rw [fill_skipped hrole] at hfill
          exact ih h hmore hfill
      | true =>
          cases hnative : t.toNative w p.type (args.headD .nil) with
          | none =>
              rw [fill_refused hrole hnative] at hfill
              cases hfill
          | some native =>
              rw [fill_accepted (h.suits hrest) hrole hnative] at hfill
              exact ih (h.set hp (fits_of_toNative hnative)) hmore hfill

end Filling

theorem fitsFrame_of_frame {t : TypeTable} {w : World}
    {parameters : List Parameter} {args : List Value} {f : Frame}
    (h : t.frame w parameters args = .ok f) :
    t.FitsFrame w parameters f := by
  apply (t.fitsFrame_ofParameters w parameters).fill ?_ h
  intro entry hmem
  exact List.mem_zipIdx_iff_getElem?.mp hmem

end TypeTable

namespace Bridge

/-!
## Objects that fit a class
-/

/--
The object of a handle, if its class derives from the given one, or else the
first live object of its merged list whose class does; with the path to it.
-/
inductive NearestOf (b : Bridge) (h : InstanceHandle) (o : NativeObject)
    (declaring : ClassId) : Path -> NativeObject -> Prop where
  | own :
      b.types.catalog.Derives o.cls declaring ->
      NearestOf b h o declaring h.path o
  | merged {before after : List ObjectRef} {r : ObjectRef}
      {object : NativeObject} :
      ¬ b.types.catalog.Derives o.cls declaring ->
      o.mergedRefs = before ++ r :: after ->
      (forall passed other, passed ∈ before ->
        b.world.get? passed = some other ->
        ¬ b.types.catalog.Derives other.cls declaring) ->
      b.world.get? r = some object ->
      b.types.catalog.Derives object.cls declaring ->
      NearestOf b h o declaring (h.path.through r) object

theorem NearestOf.derives {b : Bridge} {h : InstanceHandle}
    {o object : NativeObject} {declaring : ClassId} {path : Path}
    (hnearest : b.NearestOf h o declaring path object) :
    b.types.catalog.Derives object.cls declaring := by
  cases hnearest with
  | own hderives => exact hderives
  | merged _ _ _ _ hderives => exact hderives

theorem NearestOf.live {b : Bridge} {h : InstanceHandle}
    {o object : NativeObject} {declaring : ClassId} {path : Path}
    (hnearest : b.NearestOf h o declaring path object)
    (hlive : b.world.get? h.path.target = some o) :
    b.world.get? path.target = some object := by
  cases hnearest with
  | own hderives => exact hlive
  | merged _ _ _ hfound _ =>
      rw [Path.target_through]
      exact hfound

theorem nearestOf_of_nativeTarget? {b : Bridge} {h : InstanceHandle}
    {o : NativeObject} {declaring : ClassId} {path : Path}
    (htarget : b.nativeTarget? h o declaring = some path) :
    exists object, b.NearestOf h o declaring path object := by
  rw [nativeTarget?] at htarget
  split at htarget
  · next hown =>
      cases htarget
      exact ⟨o, NearestOf.own
        ((b.types.isChildOf_iff_derives _ _).mp hown)⟩
  · next hforeign =>
      rcases Option.map_eq_some_iff.mp htarget with
        ⟨⟨r, object⟩, hfind, rfl⟩
      rcases List.find?_eq_some_iff_append.mp hfind with
        ⟨hsuits, before, after, hsplit, hbefore⟩
      rcases World.mergedRefs_split_of_mergedWith hsplit with
        ⟨passed, rest, hrefs, hlive, hpassed⟩
      refine ⟨object, NearestOf.merged ?_ hrefs ?_ hlive ?_⟩
      · intro hderives
        exact hforeign ((b.types.isChildOf_iff_derives _ _).mpr hderives)
      · intro s other hmem hother hderives
        have hnot := hbefore (s, other) (hpassed s other hmem hother)
        have hchild := (b.types.isChildOf_iff_derives _ _).mpr hderives
        simp [hchild] at hnot
      · exact (b.types.isChildOf_iff_derives _ _).mp hsuits

/-!
## Runs of native bodies
-/

/-- A native body runs where it fits: the right one, on the right object, with a fitting frame. -/
structure RunFits (b : Bridge) (m : Member) (declaring : ClassId)
    (h : InstanceHandle) (f : DeclaredFunction) (path : Path) (id : ObjectId)
    (frame : Frame) : Prop where
  /-- The body is the first one under the name along the ancestors of the declaring class. -/
  function : exists before after,
    b.types.catalog.ancestors declaring = before ++ f.declaring :: after ∧
    b.types.catalog.declared? f.declaring (b.types.functionMark ++ m.name) =
      some f.function ∧
    forall ancestor, ancestor ∈ before ->
      b.types.catalog.declared? ancestor (b.types.functionMark ++ m.name) =
        none
  /-- The object is alive and the nearest one that derives from the declaring class. -/
  object : exists o object,
    b.world.get? h.path.target = some o ∧
    b.NearestOf h o declaring path object ∧
    b.world.occupant? path.target = some id ∧
    b.world.object? id = some object ∧
    b.types.catalog.Derives object.cls declaring ∧
    b.types.catalog.Derives object.cls f.declaring
  frame : b.types.FitsFrame b.world f.function.parameters frame

theorem prepared_of_ran {b : Bridge} {m : Member} {receiver : Value}
    {args : List Value} {f : DeclaredFunction} {path : Path} {id : ObjectId}
    {frame : Frame}
    (h : .ran (.native f path id frame) ∈
      (Operation.journalCall b m receiver args).events) :
    b.prepare m receiver args = .ok (.native f path frame) ∧
      b.world.occupant? path.target = some id := by
  unfold Operation.journalCall at h
  cases hprepare : b.prepare m receiver args with
  | error cause =>
      rw [hprepare] at h
      cases h
  | ok prepared =>
      rw [hprepare] at h
      cases prepared with
      | listing names => cases h
      | function body c args =>
          have heq := List.mem_singleton.mp h
          cases heq
      | classFunction body c args =>
          have heq := List.mem_singleton.mp h
          cases heq
      | native g path' frame' =>
          dsimp only at h
          cases hoccupant : b.world.occupant? path'.target with
          | none =>
              rw [hoccupant] at h
              cases h
          | some object =>
              rw [hoccupant] at h
              have heq := List.mem_singleton.mp h
              cases heq
              exact ⟨rfl, hoccupant⟩

theorem prepareNative_eq_ok {b : Bridge} {m : Member} {declaring : ClassId}
    {h : InstanceHandle} {args : List Value} {prepared : Call}
    (hprepare : b.prepareNative m declaring h args = .ok prepared) :
    exists o f path frame,
      prepared = .native f path frame ∧
      b.world.get? h.path.target = some o ∧
      b.types.nativeFunction? declaring m.name = some f ∧
      b.nativeTarget? h o declaring = some path ∧
      b.types.frame b.world f.function.parameters args = .ok frame := by
  unfold prepareNative at hprepare
  cases ho : b.object h with
  | error cause =>
      rw [ho] at hprepare
      cases hprepare
  | ok o =>
      rw [ho] at hprepare
      dsimp only at hprepare
      cases hf : b.types.nativeFunction? declaring m.name with
      | none =>
          rw [hf] at hprepare
          cases hprepare
      | some f =>
          rw [hf] at hprepare
          dsimp only at hprepare
          cases hpath : b.nativeTarget? h o declaring with
          | none =>
              rw [hpath] at hprepare
              cases hprepare
          | some path =>
              rw [hpath] at hprepare
              dsimp only at hprepare
              cases hframe :
                  b.types.frame b.world f.function.parameters args with
              | error cause =>
                  rw [hframe] at hprepare
                  cases hprepare
              | ok frame =>
                  rw [hframe] at hprepare
                  cases hprepare
                  exact ⟨o, f, path, frame, rfl,
                    (object_eq_ok_iff b h o).mp ho, rfl, hpath, hframe⟩

/-- Only members of the native kind are prepared as native calls, for handles of objects. -/
theorem prepareNative_of_prepare {b : Bridge} {m : Member} {receiver : Value}
    {args : List Value} {f : DeclaredFunction} {path : Path} {frame : Frame}
    (hprepare : b.prepare m receiver args = .ok (.native f path frame)) :
    exists declaring h,
      m.kind = .reflected declaring ∧ receiver = .handle (.object h) ∧
      b.prepareNative m declaring h args = .ok (.native f path frame) := by
  unfold prepare at hprepare
  split at hprepare
  case h_1 h _ =>
    unfold prepareFunction at hprepare
    split at hprepare
    · cases hprepare
    · split at hprepare
      · split at hprepare
        · cases hprepare
        · cases hprepare
      · cases hprepare
  case h_3 declaring h hkind =>
    exact ⟨declaring, h, hkind, rfl, hprepare⟩
  case h_5 h _ =>
    unfold prepareClassFunction at hprepare
    split at hprepare
    · split at hprepare
      · cases hprepare
      · cases hprepare
    · cases hprepare
  case h_7 h _ =>
    cases hnames : b.memberNames h with
    | error cause =>
        rw [hnames] at hprepare
        cases hprepare
    | ok names =>
        rw [hnames] at hprepare
        cases hprepare
  all_goals cases hprepare

/--
Whatever a member says of itself, and whatever it is called with: if its call
runs a native body, then that body runs where it fits.
-/
theorem native_run_fits {b : Bridge} {m : Member} {receiver : Value}
    {args : List Value} {f : DeclaredFunction} {path : Path} {id : ObjectId}
    {frame : Frame}
    (hran : .ran (.native f path id frame) ∈
      (Operation.journalCall b m receiver args).events) :
    b.call m receiver args = HostRun.outcome b (.native f path id frame) ∧
      exists declaring h,
        m.kind = .reflected declaring ∧ receiver = .handle (.object h) ∧
        b.RunFits m declaring h f path id frame := by
  rcases prepared_of_ran hran with ⟨hprepare, hoccupant⟩
  constructor
  · rw [call_of_prepare hprepare]
    exact runNative_of_occupant? frame hoccupant
  · rcases prepareNative_of_prepare hprepare with
      ⟨declaring, h, hkind, hreceiver, hnative⟩
    refine ⟨declaring, h, hkind, hreceiver, ?_⟩
    rcases prepareNative_eq_ok hnative with
      ⟨o, f', path', frame', heq, ho, hf, hpath, hframe⟩
    cases heq
    rcases nearestOf_of_nativeTarget? hpath with ⟨object, hnearest⟩
    have hfound : b.world.object? id = some object := by
      have hlive := hnearest.live ho
      rw [World.get?, hoccupant, Option.bind_some] at hlive
      exact hlive
    have hdeclares : b.types.catalog.Derives declaring f.declaring :=
      (b.types.isChildOf_iff_derives _ _).mp
        (TypeTable.isChildOf_of_nativeFunction? hf)
    exact {
      function := (Catalog.findFunction?_eq_some_iff _ _ _ _).mp hf
      object := ⟨o, object, ho, hnearest, hoccupant, hfound,
        hnearest.derives, hnearest.derives.trans hdeclares⟩
      frame := TypeTable.fitsFrame_of_frame hframe }

end Bridge

/-!
## A made-up member

Lamps are linked to other lamps by a native function.  A member with a made-up
owner names it as one of dimmers, and is called on a hub, which is no lamp but
is merged with a dimmer.
-/

namespace Lamps

def link : NativeFunction :=
  ⟨"netFunc_link",
    [.returns .bool, .input "lamps" (.array (.object (some lamp.id)))],
    NativeStep.body [.put .result (.bool true)]⟩

def linkBridge : Bridge :=
  { bridge with
    registry := ((Draft.empty "netFunc_").registerAll
      [.cls { lamp with functions := [link] }, .cls dimmer, .cls hub]).sealed }

def madeUp : Member :=
  ⟨"link", ⟨.empty, "Nobody"⟩, .reflected dimmer.id⟩

/-- What the hub is to be linked to: no lamp, and a dimmer. -/
def linked : List Value :=
  [.array [.nil, .handle (.object dimmerHandle)]]

theorem native_run_fits_link :
    exists f id frame,
      .ran (.native f (hubHandle.path.through ⟨1, 0⟩) id frame) ∈
        (Operation.journalCall linkBridge madeUp
          (.handle (.object hubHandle)) linked).events ∧
      exists declaring h,
        madeUp.kind = .reflected declaring ∧
        Value.handle (.object hubHandle) = .handle (.object h) ∧
        linkBridge.RunFits madeUp declaring h f
          (hubHandle.path.through ⟨1, 0⟩) id frame := by
  have hstarted : ((Operation.journalCall linkBridge madeUp
      (.handle (.object hubHandle)) linked).events.head?.bind
        HostEvent.started?) = some (hubHandle.path.through ⟨1, 0⟩) := by
    decide +kernel
  rcases Option.bind_eq_some_iff.mp hstarted with ⟨e, hhead, he⟩
  rcases HostEvent.exists_of_started? he with ⟨f, id, frame, rfl⟩
  have hran := List.mem_of_mem_head? hhead
  exact ⟨f, id, frame, hran, (Bridge.native_run_fits hran).2⟩

end Lamps

end ScriptBridge
