import ScriptBridge.Proofs.Resaving
import ScriptBridge.Proofs.RightHandles

/-!
# Handles that come back from a save

The path of a loaded handle comes from the tables of the save, which keep one
path for each object, and its exposed type comes from its own token, by name.
Still a loaded handle leads to the object of the handle that was saved and has
the same exposed type, so it is settled if the other one is.  This is so whenever
loading succeeds, whatever else was saved.
-/

namespace ScriptBridge

inductive Handle.Matches : Handle -> Handle -> Prop where
  | object {h h' : InstanceHandle} :
      h.path.target = h'.path.target -> h.exposed = h'.exposed ->
      Matches (.object h) (.object h')
  | cls (h : ClassHandle) : Matches (.cls h) (.cls h)

theorem TypeTable.Settled.of_matches {t : TypeTable} {w : World}
    {h other : Handle} (hsettled : t.Settled w h)
    (hmatches : other.Matches h) : t.Settled w other := by
  cases hmatches with
  | cls h => exact hsettled
  | object htarget hexposed =>
      cases hsettled with
      | live hhandle =>
          apply Settled.live
          rw [t.objectHandle?_eq_some_iff, htarget, hexposed]
          exact (t.objectHandle?_eq_some_iff _ _).mp hhandle
      | passed he hpassed =>
          rw [← hexposed] at he
          rw [← htarget] at hpassed
          exact Settled.passed he hpassed

namespace SaveTables

section Load

variable {types : TypeTable} {t later : SaveTables}

theorem matches_of_load_handle {h : Handle} {other : Value}
    (hgrow : (save t (.handle h)).2.GrowsInto later)
    (hbinds : Binds types h.exposed)
    (hload : later.load types (save t (.handle h)).1 = .ok other) :
    exists h', other = .handle h' ∧ h'.Matches h := by
  rcases load_saveHandle hgrow hbinds with ⟨found, hfound, hreturns⟩
  rw [hload] at hfound
  cases hfound
  cases hreturns with
  | object e htarget hfirst => exact ⟨_, rfl, .object htarget rfl⟩
  | cls h => exact ⟨_, rfl, .cls h⟩

mutual

theorem matches_of_load {t : SaveTables} :
    (v other : Value) ->
    (save t v).2.GrowsInto later ->
    (forall h, h ∈ v.handles -> Binds types h.exposed) ->
    later.load types (save t v).1 = .ok other ->
    forall h', h' ∈ other.handles ->
      exists h, h ∈ v.handles ∧ h'.Matches h
  | .nil, _, _, _, hload, _, hmem => by cases hload; cases hmem
  | .bool _, _, _, _, hload, _, hmem => by cases hload; cases hmem
  | .int _, _, _, _, hload, _, hmem => by cases hload; cases hmem
  | .float _, _, _, _, hload, _, hmem => by cases hload; cases hmem
  | .string _, _, _, _, hload, _, hmem => by cases hload; cases hmem
  | .array items, other, hgrow, hbinds, hload, h', hmem => by
      rcases exists_of_map_eq_ok hload with ⟨others, hothers, rfl⟩
      exact matches_of_loadAll items others hgrow hbinds hothers h' hmem
  | .handle h, other, hgrow, hbinds, hload, h', hmem => by
      rcases matches_of_load_handle hgrow
        (hbinds h List.mem_cons_self) hload with ⟨loaded, rfl, hmatches⟩
      rw [List.mem_singleton.mp hmem]
      exact ⟨h, List.mem_cons_self, hmatches⟩
  | .member _, _, _, _, hload, _, hmem => by
      rcases exists_of_map_eq_ok hload with ⟨loaded, _, rfl⟩
      cases hmem

theorem matches_of_loadAll {t : SaveTables} :
    (items others : List Value) ->
    (saveAll t items).2.GrowsInto later ->
    (forall h, h ∈ Value.handlesAll items -> Binds types h.exposed) ->
    later.loadAll types (saveAll t items).1 = .ok others ->
    forall h', h' ∈ Value.handlesAll others ->
      exists h, h ∈ Value.handlesAll items ∧ h'.Matches h
  | [], _, _, _, hload, _, hmem => by cases hload; cases hmem
  | v :: rest, others, hgrow, hbinds, hload, h', hmem => by
      -- The tables after the first item are not the last ones yet.
      have hfirst : (save t v).2.GrowsInto later :=
        (growsInto_saveAll (save t v).2 rest).trans hgrow
      rcases exists_of_bind_eq_ok hload with ⟨other, hother, hnext⟩
      rcases exists_of_bind_eq_ok hnext with ⟨more, hmore, hothers⟩
      cases hothers
      rcases List.mem_append.mp hmem with hmem | hmem
      · rcases matches_of_load v other hfirst
          (fun h hh => hbinds h (List.mem_append_left _ hh)) hother h'
          hmem with ⟨h, hh, hmatches⟩
        exact ⟨h, List.mem_append_left _ hh, hmatches⟩
      · rcases matches_of_loadAll rest more hgrow
          (fun h hh => hbinds h (List.mem_append_right _ hh)) hmore h'
          hmem with ⟨h, hh, hmatches⟩
        exact ⟨h, List.mem_append_right _ hh, hmatches⟩

end

end Load

end SaveTables

/-!
## Globals
-/

def NameTable.handles (t : NameTable Value) : List Handle :=
  t.entries.flatMap (fun entry => entry.2.handles)

theorem SaveTables.matches_of_tryEntries {types : TypeTable}
    {t later : SaveTables} {entries others : List (String × Value)}
    (hgrow : (NameTable.mapEntries save t entries).2.GrowsInto later)
    (hbinds : forall h,
      h ∈ entries.flatMap (fun entry => entry.2.handles) ->
        Binds types h.exposed)
    (hload : NameTable.tryEntries (later.load types)
      (NameTable.mapEntries save t entries).1 = .ok others) {h' : Handle}
    (hmem : h' ∈ others.flatMap (fun entry => entry.2.handles)) :
    exists h, h ∈ entries.flatMap (fun entry => entry.2.handles) ∧
      h'.Matches h := by
  induction entries generalizing t others with
  | nil =>
      cases hload
      cases hmem
  | cons entry rest ih =>
      obtain ⟨name, v⟩ := entry
      have hfirst : (save t v).2.GrowsInto later :=
        (growsInto_mapEntries (save t v).2 rest).trans hgrow
      rcases NameTable.exists_of_tryEntries_cons hload with
        ⟨other, more, hother, hmore, rfl⟩
      rw [List.flatMap_cons] at hbinds hmem ⊢
      rcases List.mem_append.mp hmem with hmem | hmem
      · rcases matches_of_load v other hfirst
          (fun h hh => hbinds h (List.mem_append_left _ hh)) hother h'
          hmem with ⟨h, hh, hmatches⟩
        exact ⟨h, List.mem_append_left _ hh, hmatches⟩
      · rcases ih hgrow (fun h hh => hbinds h (List.mem_append_right _ hh))
          hmore hmem with ⟨h, hh, hmatches⟩
        exact ⟨h, List.mem_append_right _ hh, hmatches⟩

/-- Every handle in the globals of a loaded save matches one in those that were saved. -/
theorem Computer.matches_of_loadGlobals {types : TypeTable} {c : Computer}
    {globals : NameTable Value}
    (hbinds : forall h, h ∈ c.globals.handles ->
      SaveTables.Binds types h.exposed)
    (hload : c.save.loadGlobals types = .ok globals) {h' : Handle}
    (hmem : h' ∈ globals.handles) :
    exists h, h ∈ c.globals.handles ∧ h'.Matches h := by
  have hentries := NameTable.tryEntries_of_tryMap hload
  have hgrow : (NameTable.mapEntries SaveTables.save .empty
      c.globals.entries).2.GrowsInto c.save.tables :=
    ⟨List.prefix_rfl, List.prefix_rfl⟩
  exact SaveTables.matches_of_tryEntries hgrow hbinds hentries hmem

end ScriptBridge
