import ScriptBridge.Computer
import ScriptBridge.Proofs.Resolution

/-!
# Loading what was saved

Saving threads two growing tables through the globals of a computer, and loading
reads every token against the tables as they were at the end.  Tables only grow
at their ends, so a position that was given out early still means the same when
loading begins.

All handles to one object share one position.  A loaded handle therefore has the
path of the first handle to its object, where globals count in the order of
their names and the items of an array from left to right.
-/

namespace ScriptBridge

/-!
## What a value holds
-/

namespace Value

mutual

def objectPaths : Value -> List Path
  | .nil => []
  | .bool _ => []
  | .int _ => []
  | .float _ => []
  | .string _ => []
  | .array items => objectPathsAll items
  | .handle (.object h) => [h.path]
  | .handle (.cls _) => []
  | .member _ => []

def objectPathsAll : List Value -> List Path
  | [] => []
  | v :: rest => objectPaths v ++ objectPathsAll rest

end

mutual

def exposedTypes : Value -> List Exposed
  | .nil => []
  | .bool _ => []
  | .int _ => []
  | .float _ => []
  | .string _ => []
  | .array items => exposedTypesAll items
  | .handle h => [h.exposed]
  | .member m => [m.owner]

def exposedTypesAll : List Value -> List Exposed
  | [] => []
  | v :: rest => exposedTypes v ++ exposedTypesAll rest

end

end Value

namespace Path

def firstTo? (paths : List Path) (p : Path) : Option Path :=
  paths.find? (fun q => q.sameTarget p)

theorem firstTo?_append (paths more : List Path) (p : Path) :
    firstTo? (paths ++ more) p =
      (firstTo? paths p).or (firstTo? more p) := by
  rw [firstTo?, List.find?_append]
  rfl

theorem firstTo?_congr (paths : List Path) {p p' : Path}
    (h : p.target = p'.target) : firstTo? paths p = firstTo? paths p' := by
  have hiff : (fun q : Path => q.sameTarget p) =
      (fun q => q.sameTarget p') := by
    funext q
    rw [sameTarget, sameTarget, h]
  rw [firstTo?, firstTo?, hiff]

theorem firstTo?_singleton_of_ne {p p' : Path} (h : p.target ≠ p'.target) :
    firstTo? [p] p' = none := by
  have hother : ¬ p.sameTarget p' = true := by
    intro hsame
    exact h (of_decide_eq_true hsame)
  exact List.find?_cons_of_neg hother

end Path

namespace Value

mutual

/--
A value comes back in the same shape: everything in it is what it was, except
that the path of a handle to an object may be another one to the same object,
which `first` chooses.
-/
inductive Returns (first : Path -> Option Path) : Value -> Value -> Prop where
  | nil : Returns first .nil .nil
  | bool (b : Bool) : Returns first (.bool b) (.bool b)
  | int (n : Int64) : Returns first (.int n) (.int n)
  | float (x : Double) : Returns first (.float x) (.float x)
  | string (text : String) : Returns first (.string text) (.string text)
  | array {items others : List Value} :
      ReturnsAll first items others ->
      Returns first (.array items) (.array others)
  | object {p q : Path} (e : Exposed) :
      q.target = p.target ->
      first p = some q ->
      Returns first (.handle (.object ⟨p, e⟩)) (.handle (.object ⟨q, e⟩))
  | cls (h : ClassHandle) :
      Returns first (.handle (.cls h)) (.handle (.cls h))
  | member (m : Member) : Returns first (.member m) (.member m)

inductive ReturnsAll (first : Path -> Option Path) :
    List Value -> List Value -> Prop where
  | nil : ReturnsAll first [] []
  | cons {v other : Value} {rest others : List Value} :
      Returns first v other ->
      ReturnsAll first rest others ->
      ReturnsAll first (v :: rest) (other :: others)

end

end Value

namespace SaveTables

/-!
## Growing tables
-/

/-- Tables that other tables may grow into. -/
structure GrowsInto (t later : SaveTables) : Prop where
  paths : t.paths <+: later.paths
  classes : t.classes <+: later.classes

namespace GrowsInto

theorem refl (t : SaveTables) : t.GrowsInto t :=
  ⟨List.prefix_rfl, List.prefix_rfl⟩

theorem trans {t t' t'' : SaveTables} (h : t.GrowsInto t')
    (h' : t'.GrowsInto t'') : t.GrowsInto t'' :=
  ⟨h.paths.trans h'.paths, h.classes.trans h'.classes⟩

end GrowsInto

theorem growsInto_addPath (t : SaveTables) (p : Path) :
    t.GrowsInto (t.addPath p).2 := by
  rw [addPath]
  cases t.paths.findIdx? (fun q => q.sameTarget p) with
  | some id => exact .refl t
  | none => exact ⟨List.prefix_append _ _, List.prefix_rfl⟩

theorem growsInto_addClass (t : SaveTables) (c : ClassId) :
    t.GrowsInto (t.addClass c).2 := by
  rw [addClass]
  cases t.classes.findIdx? (fun d => d = c) with
  | some id => exact .refl t
  | none => exact ⟨List.prefix_rfl, List.prefix_append _ _⟩

/-!
## Positions

The position of a path is that of the first path to its object, now and in all
tables that these grow into.  The same holds for a class.
-/

theorem findIdx?_concat {Item : Type} {f : Item -> Bool} {items : List Item}
    {item : Item} (hnone : items.findIdx? f = none) (hitem : f item = true) :
    (items ++ [item]).findIdx? f = some items.length := by
  rw [List.findIdx?_append, hnone]
  simp [hitem]

theorem find?_of_findIdx?_of_prefix {Item : Type} {f : Item -> Bool}
    {items later : List Item} {id : Nat} (h : items.findIdx? f = some id)
    (hgrow : items <+: later) :
    exists item, later[id]? = some item ∧ later.find? f = some item := by
  have hlater : later.findIdx? f = some id := hgrow.findIdx?_eq_some h
  rcases List.findIdx?_eq_some_iff_getElem.mp hlater with ⟨hid, _hitem, _⟩
  refine ⟨later[id], List.getElem?_eq_getElem hid, ?_⟩
  rw [List.find?_eq_bind_findIdx?_getElem?, hlater]
  exact List.getElem?_eq_getElem hid

theorem findIdx?_addPath (t : SaveTables) (p : Path) :
    (t.addPath p).2.paths.findIdx? (fun q => q.sameTarget p) =
      some (t.addPath p).1 := by
  rw [addPath]
  cases hfound : t.paths.findIdx? (fun q => q.sameTarget p) with
  | some id => exact hfound
  | none => exact findIdx?_concat hfound (decide_eq_true rfl)

theorem findIdx?_addClass (t : SaveTables) (c : ClassId) :
    (t.addClass c).2.classes.findIdx? (fun d => d = c) =
      some (t.addClass c).1 := by
  rw [addClass]
  cases hfound : t.classes.findIdx? (fun d => d = c) with
  | some id => exact hfound
  | none => exact findIdx?_concat hfound (decide_eq_true rfl)

theorem path_addPath {t later : SaveTables} {p : Path}
    (hgrow : (t.addPath p).2.GrowsInto later) :
    exists q, later.path (t.addPath p).1 = .ok q ∧
      q.target = p.target ∧ Path.firstTo? later.paths p = some q := by
  rcases find?_of_findIdx?_of_prefix (findIdx?_addPath t p) hgrow.paths with
    ⟨q, hat, hfirst⟩
  refine ⟨q, ?_, ?_, hfirst⟩
  · rw [path, hat]
  · have hsame := List.find?_some hfirst
    exact of_decide_eq_true hsame

theorem cls_addClass {t later : SaveTables} {c : ClassId}
    (hgrow : (t.addClass c).2.GrowsInto later) :
    later.cls (t.addClass c).1 = .ok c := by
  rcases find?_of_findIdx?_of_prefix (findIdx?_addClass t c) hgrow.classes with
    ⟨d, hat, hfirst⟩
  have heq := List.find?_some hfirst
  rw [cls, hat, of_decide_eq_true heq]

/-!
## Saving
-/

theorem growsInto_saveKind (t : SaveTables) (kind : MemberKind) :
    t.GrowsInto (t.saveKind kind).2 := by
  cases kind with
  | library => exact .refl t
  | reflected declaring => exact growsInto_addClass t declaring
  | classLibrary => exact .refl t
  | introspection => exact .refl t

theorem growsInto_saveMember (t : SaveTables) (m : Member) :
    t.GrowsInto (t.saveMember m).2 :=
  (growsInto_saveKind t m.kind).trans
    (growsInto_addClass (t.saveKind m.kind).2 m.owner.cls)

mutual

theorem growsInto_save (t : SaveTables) :
    (v : Value) -> t.GrowsInto (save t v).2
  | .nil => .refl t
  | .bool _ => .refl t
  | .int _ => .refl t
  | .float _ => .refl t
  | .string _ => .refl t
  | .array items => growsInto_saveAll t items
  | .handle (.object h) => growsInto_addPath t h.path
  | .handle (.cls h) => growsInto_addClass t h.cls
  | .member m => growsInto_saveMember t m

theorem growsInto_saveAll (t : SaveTables) :
    (items : List Value) -> t.GrowsInto (saveAll t items).2
  | [] => .refl t
  | v :: rest =>
      (growsInto_save t v).trans (growsInto_saveAll (save t v).2 rest)

end

/-!
The paths in the tables are those of the saved handles, without any that lead
where an earlier one leads.
-/

theorem firstTo?_addPath (t : SaveTables) (p p' : Path) :
    Path.firstTo? (t.addPath p).2.paths p' =
      (Path.firstTo? t.paths p').or (Path.firstTo? [p] p') := by
  rw [addPath]
  cases hfound : t.paths.findIdx? (fun q => q.sameTarget p) with
  | none => exact Path.firstTo?_append t.paths [p] p'
  | some id =>
      dsimp only
      by_cases hsame : p.target = p'.target
      · -- The object has a path in the tables, so the new one is not the first.
        rcases find?_of_findIdx?_of_prefix hfound List.prefix_rfl with
          ⟨q, _hat, hfirst⟩
        have hold : Path.firstTo? t.paths p = some q := hfirst
        rw [← Path.firstTo?_congr t.paths hsame, hold, Option.some_or]
      · rw [Path.firstTo?_singleton_of_ne hsame, Option.or_none]

theorem paths_addClass (t : SaveTables) (c : ClassId) :
    (t.addClass c).2.paths = t.paths := by
  rw [addClass]
  cases t.classes.findIdx? (fun d => d = c) with
  | some id => rfl
  | none => rfl

theorem paths_saveMember (t : SaveTables) (m : Member) :
    (t.saveMember m).2.paths = t.paths := by
  have howner : (t.saveMember m).2.paths = (t.saveKind m.kind).2.paths :=
    paths_addClass (t.saveKind m.kind).2 m.owner.cls
  rw [howner]
  cases m.kind with
  | library => rfl
  | reflected declaring => exact paths_addClass t declaring
  | classLibrary => rfl
  | introspection => rfl

mutual

theorem firstTo?_save (t : SaveTables) (p : Path) :
    (v : Value) ->
    Path.firstTo? (save t v).2.paths p =
      (Path.firstTo? t.paths p).or (Path.firstTo? v.objectPaths p)
  | .nil => (Option.or_none).symm
  | .bool _ => (Option.or_none).symm
  | .int _ => (Option.or_none).symm
  | .float _ => (Option.or_none).symm
  | .string _ => (Option.or_none).symm
  | .array items => firstTo?_saveAll t p items
  | .handle (.object h) => firstTo?_addPath t h.path p
  | .handle (.cls h) => by
      change Path.firstTo? (t.addClass h.cls).2.paths p = _
      rw [paths_addClass]
      exact (Option.or_none).symm
  | .member m => by
      change Path.firstTo? (t.saveMember m).2.paths p = _
      rw [paths_saveMember]
      exact (Option.or_none).symm

theorem firstTo?_saveAll (t : SaveTables) (p : Path) :
    (items : List Value) ->
    Path.firstTo? (saveAll t items).2.paths p =
      (Path.firstTo? t.paths p).or
        (Path.firstTo? (Value.objectPathsAll items) p)
  | [] => (Option.or_none).symm
  | v :: rest => by
      change Path.firstTo? (saveAll (save t v).2 rest).2.paths p =
        (Path.firstTo? t.paths p).or
          (Path.firstTo? (v.objectPaths ++ Value.objectPathsAll rest) p)
      rw [firstTo?_saveAll, firstTo?_save, Path.firstTo?_append,
        Option.or_assoc]

end

/-!
## Loading

What was saved is loaded from any tables that the ones after saving grow into.
-/

/-- A type name still means what it meant when its exposed type was saved. -/
def Binds (types : TypeTable) (e : Exposed) : Prop :=
  (types.named? e.name).map TypeBinding.exposed = some e

theorem exposedNamed_of_binds {types : TypeTable} {e : Exposed}
    (h : Binds types e) : exposedNamed types e.name = .ok e := by
  rcases Option.map_eq_some_iff.mp h with ⟨binding, hnamed, hexposed⟩
  rw [exposedNamed, hnamed]
  dsimp only
  rw [hexposed]

theorem loadKind_saveKind {t later : SaveTables} {kind : MemberKind}
    (hgrow : (t.saveKind kind).2.GrowsInto later) :
    later.loadKind (t.saveKind kind).1 = .ok kind := by
  cases kind with
  | library => rfl
  | reflected declaring =>
      change (later.cls (t.addClass declaring).1).map MemberKind.reflected = _
      rw [cls_addClass hgrow]
      rfl
  | classLibrary => rfl
  | introspection => rfl

theorem load_saveMember {types : TypeTable} {t later : SaveTables}
    {m : Member} (hgrow : (t.saveMember m).2.GrowsInto later)
    (hbinds : Binds types m.owner) :
    later.load types (t.saveMember m).1 = .ok (.member m) := by
  have hkind : later.loadKind (t.saveKind m.kind).1 = .ok m.kind :=
    loadKind_saveKind
      ((growsInto_addClass (t.saveKind m.kind).2 m.owner.cls).trans hgrow)
  have howner : later.cls ((t.saveKind m.kind).2.addClass m.owner.cls).1 =
      .ok m.owner.cls :=
    cls_addClass hgrow
  have hmember : later.loadMember types m.name (t.saveKind m.kind).1
      (.reference ((t.saveKind m.kind).2.addClass m.owner.cls).1)
      m.owner.name = .ok m := by
    rw [loadMember, loadClass, howner, hkind, exposedNamed_of_binds hbinds]
    exact if_pos rfl
  change (later.loadMember types m.name (t.saveKind m.kind).1
    (.reference ((t.saveKind m.kind).2.addClass m.owner.cls).1)
    m.owner.name).map Value.member = _
  rw [hmember]
  rfl

theorem load_saveHandle {types : TypeTable} {t later : SaveTables}
    {h : Handle} (hgrow : (save t (.handle h)).2.GrowsInto later)
    (hbinds : Binds types h.exposed) :
    exists other, later.load types (save t (.handle h)).1 = .ok other ∧
      Value.Returns (Path.firstTo? later.paths) (.handle h) other := by
  cases h with
  | object h =>
      rcases path_addPath hgrow with ⟨q, hpath, htarget, hfirst⟩
      refine ⟨.handle (.object ⟨q, h.exposed⟩), ?_, .object _ htarget hfirst⟩
      change (later.loadHandle types
        (.object (t.addPath h.path).1 h.exposed.name)).map Value.handle = _
      have hexposed : exposedNamed types h.exposed.name = .ok h.exposed :=
        exposedNamed_of_binds hbinds
      rw [loadHandle, hpath, hexposed]
      rfl
  | cls h =>
      refine ⟨.handle (.cls h), ?_, .cls h⟩
      change (later.loadHandle types
        (.cls (t.addClass h.cls).1 h.exposed.name)).map Value.handle = _
      have hexposed : exposedNamed types h.exposed.name = .ok h.exposed :=
        exposedNamed_of_binds hbinds
      rw [loadHandle, cls_addClass hgrow, hexposed]
      rfl

mutual

theorem load_save {types : TypeTable} {t later : SaveTables} :
    (v : Value) ->
    (save t v).2.GrowsInto later ->
    (forall e, e ∈ v.exposedTypes -> Binds types e) ->
    exists other, later.load types (save t v).1 = .ok other ∧
      Value.Returns (Path.firstTo? later.paths) v other
  | .nil, _, _ => ⟨.nil, rfl, .nil⟩
  | .bool b, _, _ => ⟨.bool b, rfl, .bool b⟩
  | .int n, _, _ => ⟨.int n, rfl, .int n⟩
  | .float x, _, _ => ⟨.float x, rfl, .float x⟩
  | .string text, _, _ => ⟨.string text, rfl, .string text⟩
  | .array items, hgrow, hbinds => by
      rcases loadAll_saveAll items hgrow hbinds with
        ⟨others, hload, hreturns⟩
      refine ⟨.array others, ?_, .array hreturns⟩
      change (later.loadAll types (saveAll t items).1).map Value.array = _
      rw [hload]
      rfl
  | .handle h, hgrow, hbinds =>
      load_saveHandle hgrow (hbinds h.exposed List.mem_cons_self)
  | .member m, hgrow, hbinds =>
      ⟨.member m,
        load_saveMember hgrow (hbinds m.owner List.mem_cons_self),
        .member m⟩

theorem loadAll_saveAll {types : TypeTable} {t later : SaveTables} :
    (items : List Value) ->
    (saveAll t items).2.GrowsInto later ->
    (forall e, e ∈ Value.exposedTypesAll items -> Binds types e) ->
    exists others, later.loadAll types (saveAll t items).1 = .ok others ∧
      Value.ReturnsAll (Path.firstTo? later.paths) items others
  | [], _, _ => ⟨[], rfl, .nil⟩
  | v :: rest, hgrow, hbinds => by
      have hfirst : (save t v).2.GrowsInto later :=
        (growsInto_saveAll (save t v).2 rest).trans hgrow
      rcases load_save v hfirst
        (fun e hmem => hbinds e (List.mem_append_left _ hmem)) with
        ⟨other, hload, hreturns⟩
      rcases loadAll_saveAll rest hgrow
        (fun e hmem => hbinds e (List.mem_append_right _ hmem)) with
        ⟨others, hloadAll, hreturnsAll⟩
      refine ⟨other :: others, ?_, .cons hreturns hreturnsAll⟩
      change later.loadAll types
        ((save t v).1 :: (saveAll (save t v).2 rest).1) = _
      rw [loadAll, hload, hloadAll]
      rfl

end

/-!
## All globals
-/

theorem growsInto_mapEntries (t : SaveTables)
    (entries : List (String × Value)) :
    t.GrowsInto (NameTable.mapEntries save t entries).2 := by
  induction entries generalizing t with
  | nil => exact .refl t
  | cons entry rest ih =>
      exact (growsInto_save t entry.2).trans (ih (save t entry.2).2)

theorem firstTo?_mapEntries (t : SaveTables) (p : Path)
    (entries : List (String × Value)) :
    Path.firstTo? (NameTable.mapEntries save t entries).2.paths p =
      (Path.firstTo? t.paths p).or
        (Path.firstTo? (entries.flatMap (fun entry => entry.2.objectPaths))
          p) := by
  induction entries generalizing t with
  | nil => exact (Option.or_none).symm
  | cons entry rest ih =>
      change Path.firstTo?
        (NameTable.mapEntries save (save t entry.2).2 rest).2.paths p = _
      rw [ih, firstTo?_save, List.flatMap_cons, Path.firstTo?_append,
        Option.or_assoc]

theorem tryEntries_mapEntries {types : TypeTable} {t later : SaveTables}
    {entries : List (String × Value)}
    (hgrow : (NameTable.mapEntries save t entries).2.GrowsInto later)
    (hbinds : forall entry, entry ∈ entries ->
      forall e, e ∈ entry.2.exposedTypes -> Binds types e) :
    exists others,
      NameTable.tryEntries (later.load types)
          (NameTable.mapEntries save t entries).1 = .ok others ∧
        forall name v, NameTable.find name entries = some v ->
          exists other, NameTable.find name others = some other ∧
            Value.Returns (Path.firstTo? later.paths) v other := by
  induction entries generalizing t with
  | nil =>
      refine ⟨[], rfl, ?_⟩
      intro name v hfind
      cases hfind
  | cons entry rest ih =>
      obtain ⟨n, first⟩ := entry
      have hfirst : (save t first).2.GrowsInto later :=
        (growsInto_mapEntries (save t first).2 rest).trans hgrow
      rcases load_save first hfirst (hbinds _ List.mem_cons_self) with
        ⟨loaded, hload, hreturns⟩
      rcases ih hgrow
        (fun entry hmem => hbinds entry (List.mem_cons_of_mem _ hmem)) with
        ⟨others, hothers, hrest⟩
      refine ⟨(n, loaded) :: others, ?_, ?_⟩
      · change NameTable.tryEntries (later.load types)
          ((n, (save t first).1) ::
            (NameTable.mapEntries save (save t first).2 rest).1) = _
        rw [NameTable.tryEntries, hload]
        dsimp only
        rw [hothers]
      · intro name v hfind
        rw [NameTable.find] at hfind
        by_cases hname : n = name
        · rw [if_pos hname] at hfind
          cases hfind
          refine ⟨loaded, ?_, hreturns⟩
          rw [NameTable.find, if_pos hname]
        · rw [if_neg hname] at hfind
          rcases hrest name v hfind with ⟨other, hother, hreturned⟩
          refine ⟨other, ?_, hreturned⟩
          rw [NameTable.find, if_neg hname]
          exact hother

end SaveTables

theorem NameTable.tryMap_of_tryEntries {Item Cause Other : Type}
    {f : Item -> Except Cause Other} {t : NameTable Item}
    {others : List (String × Other)}
    (h : tryEntries f t.entries = .ok others) :
    exists t', t.tryMap f = .ok t' ∧ t'.entries = others := by
  rw [tryMap]
  split
  · rename_i cause herror
    rw [h] at herror
    cases herror
  · rename_i found hfound
    rw [h] at hfound
    cases hfound
    exact ⟨_, rfl, rfl⟩

namespace Computer

def objectPaths (c : Computer) : List Path :=
  c.globals.entries.flatMap (fun entry => entry.2.objectPaths)

def exposedTypes (c : Computer) : List Exposed :=
  c.globals.entries.flatMap (fun entry => entry.2.exposedTypes)

/-- A computer comes back: the same globals and the same wait, and nothing looked up. -/
structure Returns (c other : Computer) : Prop where
  names : other.globals.names = c.globals.names
  globals : forall name v, c.global? name = some v ->
    exists v', other.global? name = some v' ∧
      v.Returns (Path.firstTo? c.objectPaths) v'
  wait : other.wait = c.wait
  dispatcher : other.dispatcher = .fresh

/--
A saved computer is loaded again if the registry still binds the exposed types of
its globals under their names.  Nothing is asked of the objects.
-/
theorem returns_after_save (types : TypeTable) (c : Computer)
    (hbinds : forall e, e ∈ c.exposedTypes -> SaveTables.Binds types e) :
    exists other, load types c.save = .ok other ∧ c.Returns other := by
  have hgrow : (NameTable.mapEntries SaveTables.save .empty
      c.globals.entries).2.GrowsInto c.save.tables :=
    ⟨List.prefix_rfl, List.prefix_rfl⟩
  rcases SaveTables.tryEntries_mapEntries hgrow
    (fun entry hmem e he =>
      hbinds e (List.mem_flatMap.mpr ⟨entry, hmem, he⟩)) with
    ⟨others, hothers, hglobals⟩
  -- Only the first paths count, and the tables have the same ones as the globals.
  have hfirst : Path.firstTo? c.save.tables.paths =
      Path.firstTo? c.objectPaths := by
    funext p
    exact SaveTables.firstTo?_mapEntries .empty p c.globals.entries
  rw [hfirst] at hglobals
  rcases NameTable.tryMap_of_tryEntries (t := c.save.globals) hothers with
    ⟨globals, hmap, hentries⟩
  refine ⟨⟨.fresh, globals, c.wait⟩, ?_, ?_, ?_, rfl, rfl⟩
  · rw [load, Snapshot.loadGlobals, hmap]
    rfl
  · change globals.entries.map Prod.fst = c.globals.entries.map Prod.fst
    rw [hentries, NameTable.names_tryEntries _ hothers,
      NameTable.names_mapEntries]
  · intro name v hv
    rcases hglobals name v hv with ⟨other, hother, hreturns⟩
    refine ⟨other, ?_, hreturns⟩
    change NameTable.find name globals.entries = some other
    rw [hentries]
    exact hother

end Computer

namespace Lamps

/--
Two handles to one lamp, of which the later one is in an array of its own, a
handle to an object that is gone, and a member.
-/
def computer : Computer :=
  ⟨.fresh,
    .ofList
      [("lamps", .array
        [.handle (.object ⟨.along ⟨2, 0⟩ [⟨0, 0⟩], lampHandle.exposed⟩),
          .array [.handle (.object lampHandle), .string "spare"]]),
      ("gone", .handle (.object ⟨.direct ⟨1, 7⟩, dimmerHandle.exposed⟩)),
      ("describe", .member
        ⟨"describe", dimmerHandle.exposed, .reflected dimmer.id⟩)],
    .begun 5 (some 10)⟩

theorem returns_after_save_lamps :
    (forall e, e ∈ computer.exposedTypes ->
        SaveTables.Binds bridge.types e) ∧
      exists other, Computer.load bridge.types computer.save = .ok other ∧
        computer.Returns other := by
  have hbinds : forall e, e ∈ computer.exposedTypes ->
      (bridge.types.named? e.name).map TypeBinding.exposed = some e := by
    decide +kernel
  exact ⟨hbinds, Computer.returns_after_save bridge.types computer hbinds⟩

end Lamps

end ScriptBridge
