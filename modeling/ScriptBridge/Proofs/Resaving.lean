import ScriptBridge.Proofs.Registration
import ScriptBridge.Proofs.Restoration

/-!
# Saving what was loaded

A save that is loaded and saved again is the same save.  The second pass meets
its handles in the order of the first, and a loaded handle has the path that the
first pass kept for its object; so the second pass gives out the same positions,
and its tables go through the same states.

Types are saved by name and looked up by name.  The registry may be another one
than that of the save, but what it binds under a name carries that name.
-/

namespace ScriptBridge

/-!
## Steps that succeed
-/

theorem exists_of_bind_eq_ok {Cause First Second : Type}
    {first : Except Cause First} {next : First -> Except Cause Second}
    {result : Second} (h : (first >>= next) = .ok result) :
    exists a, first = .ok a ∧ next a = .ok result := by
  cases first with
  | error cause => cases h
  | ok a => exact ⟨a, rfl, h⟩

theorem exists_of_map_eq_ok {Cause First Second : Type}
    {first : Except Cause First} {f : First -> Second} {result : Second}
    (h : first.map f = .ok result) :
    exists a, first = .ok a ∧ f a = result := by
  cases first with
  | error cause => cases h
  | ok a =>
      cases h
      exact ⟨a, rfl, rfl⟩

theorem NameTable.exists_of_tryEntries_cons {Item Cause Other : Type}
    {f : Item -> Except Cause Other} {name : String} {item : Item}
    {rest : List (String × Item)} {others : List (String × Other)}
    (h : tryEntries f ((name, item) :: rest) = .ok others) :
    exists other more,
      f item = .ok other ∧ tryEntries f rest = .ok more ∧
        others = (name, other) :: more := by
  rw [tryEntries] at h
  cases hother : f item with
  | error cause =>
      rw [hother] at h
      cases h
  | ok other =>
      cases hmore : tryEntries f rest with
      | error cause =>
          rw [hother, hmore] at h
          cases h
      | ok more =>
          rw [hother, hmore] at h
          cases h
          exact ⟨other, more, rfl, rfl, rfl⟩

namespace SaveTables

/-!
## Positions

A path that is found at a position of later tables takes that position again.
-/

theorem addPath_of_path {t later : SaveTables} {p q : Path}
    (hgrow : (t.addPath p).2.GrowsInto later)
    (hpath : later.path (t.addPath p).1 = .ok q) :
    t.addPath q = t.addPath p := by
  rcases path_addPath hgrow with ⟨found, hfound, htarget, _hfirst⟩
  rw [hfound] at hpath
  cases hpath
  have hsame : (fun other : Path => other.sameTarget q) =
      (fun other => other.sameTarget p) := by
    funext other
    rw [Path.sameTarget, Path.sameTarget, htarget]
  cases hknown : t.paths.findIdx? (fun other => other.sameTarget p) with
  | some id => rw [addPath, addPath, hsame, hknown]
  | none =>
      -- The path is new, so what stands at its position is the path itself.
      have hadd : t.addPath p =
          (t.paths.length, { t with paths := t.paths ++ [p] }) := by
        rw [addPath, hknown]
      rw [hadd] at hgrow hfound
      have hat : later.paths[t.paths.length]? = some p := by
        rcases hgrow.paths with ⟨more, hmore⟩
        rw [← hmore]
        simp
      have hq : q = p := by
        rw [path, hat] at hfound
        cases hfound
        rfl
      rw [hq]

/-!
## Names

Whatever a registry binds under a name is saved under that name again.
-/

theorem name_of_exposedNamed {types : TypeTable} (htypes : types.Coherent)
    {name : String} {e : Exposed}
    (h : exposedNamed types name = .ok e) : e.name = name := by
  rw [exposedNamed] at h
  cases hnamed : types.named? name with
  | none =>
      rw [hnamed] at h
      cases h
  | some binding =>
      rw [hnamed] at h
      cases h
      exact ((htypes.named_iff name binding).mp hnamed).2

/-!
## Values

A value that was loaded is saved as it was, from the same tables on.
-/

section Resave

variable {types : TypeTable} {t later : SaveTables}

theorem save_of_load_handle (htypes : types.Coherent) {h : Handle}
    {other : Value} (hgrow : (save t (.handle h)).2.GrowsInto later)
    (hload : later.load types (save t (.handle h)).1 = .ok other) :
    save t other = save t (.handle h) := by
  rcases exists_of_map_eq_ok hload with ⟨loaded, hhandle, rfl⟩
  cases h with
  | object h =>
      rcases exists_of_bind_eq_ok hhandle with ⟨q, hpath, hnext⟩
      rcases exists_of_bind_eq_ok hnext with ⟨e, hexposed, hloaded⟩
      cases hloaded
      have hadd : t.addPath q = t.addPath h.path :=
        addPath_of_path hgrow hpath
      have hname : e.name = h.exposed.name :=
        name_of_exposedNamed htypes hexposed
      simp only [save, saveHandle, hadd, hname]
  | cls h =>
      rcases exists_of_bind_eq_ok hhandle with ⟨c, hcls, hnext⟩
      rcases exists_of_bind_eq_ok hnext with ⟨e, hexposed, hloaded⟩
      cases hloaded
      have hc : later.cls (t.addClass h.cls).1 = .ok h.cls :=
        cls_addClass hgrow
      rw [hc] at hcls
      cases hcls
      have hname : e.name = h.exposed.name :=
        name_of_exposedNamed htypes hexposed
      simp only [save, saveHandle, hname]

theorem save_of_load_member (htypes : types.Coherent) {m : Member}
    {other : Value} (hgrow : (t.saveMember m).2.GrowsInto later)
    (hload : later.load types (t.saveMember m).1 = .ok other) :
    save t other = t.saveMember m := by
  have hkind : later.loadKind (t.saveKind m.kind).1 = .ok m.kind :=
    loadKind_saveKind
      ((growsInto_addClass (t.saveKind m.kind).2 m.owner.cls).trans hgrow)
  have howner : later.cls ((t.saveKind m.kind).2.addClass m.owner.cls).1 =
      .ok m.owner.cls :=
    cls_addClass hgrow
  rcases exists_of_map_eq_ok hload with ⟨loaded, hmember, rfl⟩
  rcases exists_of_bind_eq_ok hmember with ⟨c, hc, hnext⟩
  rcases exists_of_bind_eq_ok hnext with ⟨kind, hk, hnext⟩
  rcases exists_of_bind_eq_ok hnext with ⟨e, hexposed, hloaded⟩
  have hclass : c = m.owner.cls := by
    cases howner.symm.trans hc
    rfl
  have hsameKind : kind = m.kind := by
    cases hkind.symm.trans hk
    rfl
  have hname : e.name = m.owner.name :=
    name_of_exposedNamed htypes hexposed
  -- The name must be bound to the class of the owner.
  split at hloaded
  · rename_i hcls
    cases hloaded
    simp only [save, saveMember, hsameKind, hcls, hclass, hname]
  · cases hloaded

mutual

theorem save_of_load (htypes : types.Coherent) {t : SaveTables} :
    (v other : Value) ->
    (save t v).2.GrowsInto later ->
    later.load types (save t v).1 = .ok other ->
    save t other = save t v
  | .nil, _, _, hload => by cases hload; rfl
  | .bool b, _, _, hload => by cases hload; rfl
  | .int n, _, _, hload => by cases hload; rfl
  | .float x, _, _, hload => by cases hload; rfl
  | .string text, _, _, hload => by cases hload; rfl
  | .array items, other, hgrow, hload => by
      rcases exists_of_map_eq_ok hload with ⟨others, hothers, rfl⟩
      have hall : saveAll t others = saveAll t items :=
        saveAll_of_loadAll htypes items others hgrow hothers
      simp only [save, hall]
  | .handle h, _, hgrow, hload => save_of_load_handle htypes hgrow hload
  | .member m, _, hgrow, hload => save_of_load_member htypes hgrow hload

theorem saveAll_of_loadAll (htypes : types.Coherent) {t : SaveTables} :
    (items others : List Value) ->
    (saveAll t items).2.GrowsInto later ->
    later.loadAll types (saveAll t items).1 = .ok others ->
    saveAll t others = saveAll t items
  | [], _, _, hload => by cases hload; rfl
  | v :: rest, others, hgrow, hload => by
      have hfirst : (save t v).2.GrowsInto later :=
        (growsInto_saveAll (save t v).2 rest).trans hgrow
      rcases exists_of_bind_eq_ok hload with ⟨other, hother, hnext⟩
      rcases exists_of_bind_eq_ok hnext with ⟨more, hmore, hothers⟩
      cases hothers
      have hsave : save t other = save t v :=
        save_of_load htypes v other hfirst hother
      have hall : saveAll (save t v).2 more = saveAll (save t v).2 rest :=
        saveAll_of_loadAll htypes rest more hgrow hmore
      simp only [saveAll, hsave, hall]

end

theorem mapEntries_of_tryEntries (htypes : types.Coherent)
    {entries others : List (String × Value)}
    (hgrow : (NameTable.mapEntries save t entries).2.GrowsInto later)
    (hload : NameTable.tryEntries (later.load types)
      (NameTable.mapEntries save t entries).1 = .ok others) :
    NameTable.mapEntries save t others =
      NameTable.mapEntries save t entries := by
  induction entries generalizing t others with
  | nil =>
      cases hload
      rfl
  | cons entry rest ih =>
      obtain ⟨name, v⟩ := entry
      have hfirst : (save t v).2.GrowsInto later :=
        (growsInto_mapEntries (save t v).2 rest).trans hgrow
      rcases NameTable.exists_of_tryEntries_cons hload with
        ⟨other, more, hother, hmore, rfl⟩
      have hsave : save t other = save t v :=
        save_of_load htypes v other hfirst hother
      simp only [NameTable.mapEntries, hsave, ih hgrow hmore]

end Resave

end SaveTables

/-!
## Computers
-/

theorem NameTable.tryEntries_of_tryMap {Item Cause Other : Type}
    {f : Item -> Except Cause Other} {t : NameTable Item}
    {t' : NameTable Other} (h : t.tryMap f = .ok t') :
    tryEntries f t.entries = .ok t'.entries := by
  rw [tryMap] at h
  split at h
  · cases h
  · rename_i others hothers
    cases h
    exact hothers

theorem NameTable.mapState_congr {State Item Other : Type}
    {f : State -> Item -> Other × State} {s : State} {t t' : NameTable Item}
    (h : mapEntries f s t.entries = mapEntries f s t'.entries) :
    t.mapState f s = t'.mapState f s := by
  simp only [mapState, h]

namespace Computer

/--
If what was saved can be loaded at all, under whatever registry, then the loaded
computer is saved as the very same snapshot.
-/
theorem save_of_loaded (mark : String) (registrations : List Registration)
    (c other : Computer)
    (hload : load ((Draft.empty mark).registerAll registrations).sealed.types
      c.save = .ok other) :
    other.save = c.save := by
  have htypes :
      ((Draft.empty mark).registerAll registrations).sealed.types.Coherent :=
    (Draft.coherent_registerAll (Draft.coherent_empty mark) registrations).types
  rw [load] at hload
  cases hglobals : c.save.loadGlobals
      ((Draft.empty mark).registerAll registrations).sealed.types with
  | error cause =>
      rw [hglobals] at hload
      cases hload
  | ok globals =>
      rw [hglobals] at hload
      cases hload
      have hentries := NameTable.tryEntries_of_tryMap hglobals
      have hgrow : (NameTable.mapEntries SaveTables.save .empty
          c.globals.entries).2.GrowsInto c.save.tables :=
        ⟨List.prefix_rfl, List.prefix_rfl⟩
      have hsaved : globals.mapState SaveTables.save .empty =
          c.globals.mapState SaveTables.save .empty :=
        NameTable.mapState_congr
          (SaveTables.mapEntries_of_tryEntries htypes hgrow hentries)
      change Snapshot.take globals c.wait = Snapshot.take c.globals c.wait
      rw [Snapshot.take, Snapshot.take, hsaved]

end Computer

namespace Lamps

/-- Lamps under their old name, but no hubs, and dimmers with a name of their own. -/
def otherRegistrations : List Registration :=
  [.cls lamp, .cls dimmer, .type lamp.id "Light" .object,
    .type lamp.id "Lamp" .object, .type dimmer.id "Dimmer" .object]

theorem save_of_loaded_elsewhere :
    exists other,
      Computer.load
          ((Draft.empty "").registerAll otherRegistrations).sealed.types
          computer.save = .ok other ∧
        other.save = computer.save := by
  have hok : (Computer.load
      ((Draft.empty "").registerAll otherRegistrations).sealed.types
      computer.save).isOk = true := by
    decide +kernel
  cases hload : Computer.load
      ((Draft.empty "").registerAll otherRegistrations).sealed.types
      computer.save with
  | error cause =>
      rw [hload] at hok
      cases hok
  | ok other =>
      exact ⟨other, rfl,
        Computer.save_of_loaded "" otherRegistrations computer other hload⟩

end Lamps

end ScriptBridge
