import Mathlib.Data.List.Forall2
import ScriptBridge.Proofs.Listing
import ScriptBridge.Proofs.Restoration
import ScriptBridge.Proofs.WrittenSaves

/-!
# Passes of saving

In a pass of saving, paths, classes, handles and values go into the same tables
one after the other, and positions are given out at every moment in between.
Saving a value does to the tables just what adding its paths and classes one by
one does, so a pass is a list of such additions.

The tables have every object and every class once, in the order in which they
came up first.  They only grow at their ends: a position means at the end of the
pass what it meant when it was given out, and a saved value is loaded at any later
moment with the same result, or the same error, as right after it was saved.
-/

namespace ScriptBridge

/-!
## What goes into the tables
-/

/-- One thing that needs a position: an object, by a path to it, or a class. -/
inductive Mention where
  | path (p : Path)
  | cls (c : ClassId)

namespace Mention

def path? : Mention -> Option Path
  | path p => some p
  | cls _ => none

def cls? : Mention -> Option ClassId
  | path _ => none
  | cls c => some c

end Mention

def Handle.mentions : Handle -> List Mention
  | .object h => [.path h.path]
  | .cls h => [.cls h.cls]

def MemberKind.mentions : MemberKind -> List Mention
  | .reflected declaring => [.cls declaring]
  | .library => []
  | .classLibrary => []
  | .introspection => []

def Member.mentions (m : Member) : List Mention :=
  m.kind.mentions ++ [.cls m.owner.cls]

namespace Value

mutual

/-- What a value has positions for when it is saved, from left to right. -/
def mentions : Value -> List Mention
  | .nil => []
  | .bool _ => []
  | .int _ => []
  | .float _ => []
  | .string _ => []
  | .array items => mentionsAll items
  | .handle h => h.mentions
  | .member m => m.mentions

def mentionsAll : List Value -> List Mention
  | [] => []
  | v :: rest => mentions v ++ mentionsAll rest

end

end Value

namespace SaveTables

def add (t : SaveTables) : Mention -> Nat × SaveTables
  | .path p => t.addPath p
  | .cls c => t.addClass c

def addAll (t : SaveTables) : List Mention -> SaveTables
  | [] => t
  | m :: rest => addAll (t.add m).2 rest

/-- The place of a mention: that of the first path to its object, or of its class. -/
def position (t : SaveTables) : Mention -> Nat
  | .path p => t.paths.findIdx (fun q => q.sameTarget p)
  | .cls c => t.classes.findIdx (fun d => d = c)

theorem addAll_append (t : SaveTables) (ms more : List Mention) :
    t.addAll (ms ++ more) = (t.addAll ms).addAll more := by
  induction ms generalizing t with
  | nil => rfl
  | cons m rest ih => exact ih (t.add m).2

theorem growsInto_add (t : SaveTables) (m : Mention) :
    t.GrowsInto (t.add m).2 := by
  cases m with
  | path p => exact growsInto_addPath t p
  | cls c => exact growsInto_addClass t c

theorem growsInto_addAll (t : SaveTables) (ms : List Mention) :
    t.GrowsInto (t.addAll ms) := by
  induction ms generalizing t with
  | nil => exact .refl t
  | cons m rest ih => exact (growsInto_add t m).trans (ih (t.add m).2)

theorem addAll_saveMember (t : SaveTables) (m : Member) :
    (t.saveMember m).2 = t.addAll m.mentions := by
  obtain ⟨name, owner, kind⟩ := m
  cases kind <;> rfl

mutual

theorem addAll_save (t : SaveTables) :
    (v : Value) -> (save t v).2 = t.addAll v.mentions
  | .nil => rfl
  | .bool _ => rfl
  | .int _ => rfl
  | .float _ => rfl
  | .string _ => rfl
  | .array items => addAll_saveAll t items
  | .handle (.object _) => rfl
  | .handle (.cls _) => rfl
  | .member m => addAll_saveMember t m

theorem addAll_saveAll (t : SaveTables) :
    (items : List Value) ->
    (saveAll t items).2 = t.addAll (Value.mentionsAll items)
  | [] => rfl
  | v :: rest => by
      rw [Value.mentionsAll, addAll_append, ← addAll_save t v]
      exact addAll_saveAll (save t v).2 rest

end

/-!
## Tokens

A token gives the position of what it stands for, and it does so in all tables
that grow out of those in which it was made.
-/

inductive Refers (t : SaveTables) : Mention -> Token -> Prop where
  | object {p : Path} (typeName : String) :
      t.position (.path p) < t.paths.length ->
      Refers t (.path p) (.object (t.position (.path p)) typeName)
  | cls {c : ClassId} (typeName : String) :
      t.position (.cls c) < t.classes.length ->
      Refers t (.cls c) (.cls (t.position (.cls c)) typeName)
  | reference {c : ClassId} :
      t.position (.cls c) < t.classes.length ->
      Refers t (.cls c) (.reference (t.position (.cls c)))

section Positions

variable {t later : SaveTables}

theorem position_addPath {p : Path}
    (hgrow : (t.addPath p).2.GrowsInto later) :
    later.position (.path p) < later.paths.length ∧
      later.position (.path p) = (t.addPath p).1 := by
  have hfound := hgrow.paths.findIdx?_eq_some (findIdx?_addPath t p)
  rcases List.findIdx?_eq_some_iff_findIdx_eq.mp hfound with ⟨hlt, heq⟩
  rw [position, heq]
  exact ⟨hlt, rfl⟩

theorem position_addClass {c : ClassId}
    (hgrow : (t.addClass c).2.GrowsInto later) :
    later.position (.cls c) < later.classes.length ∧
      later.position (.cls c) = (t.addClass c).1 := by
  have hfound := hgrow.classes.findIdx?_eq_some (findIdx?_addClass t c)
  rcases List.findIdx?_eq_some_iff_findIdx_eq.mp hfound with ⟨hlt, heq⟩
  rw [position, heq]
  exact ⟨hlt, rfl⟩

theorem position_add {m : Mention} (hgrow : (t.add m).2.GrowsInto later) :
    later.position m = (t.add m).1 := by
  cases m with
  | path p => exact (position_addPath hgrow).2
  | cls c => exact (position_addClass hgrow).2

theorem refers_saveHandle {h : Handle}
    (hgrow : (t.saveHandle h).2.GrowsInto later) :
    List.Forall₂ later.Refers h.mentions [(t.saveHandle h).1] := by
  cases h with
  | object h =>
      rcases position_addPath hgrow with ⟨hlt, heq⟩
      change List.Forall₂ later.Refers [.path h.path]
        [.object (t.addPath h.path).1 h.exposed.name]
      rw [← heq]
      exact .cons (.object _ hlt) .nil
  | cls h =>
      rcases position_addClass hgrow with ⟨hlt, heq⟩
      change List.Forall₂ later.Refers [.cls h.cls]
        [.cls (t.addClass h.cls).1 h.exposed.name]
      rw [← heq]
      exact .cons (.cls _ hlt) .nil

theorem refers_saveClass {c : ClassId}
    (hgrow : (t.saveClass c).2.GrowsInto later) :
    later.Refers (.cls c) (t.saveClass c).1 := by
  rcases position_addClass hgrow with ⟨hlt, heq⟩
  change later.Refers (.cls c) (.reference (t.addClass c).1)
  rw [← heq]
  exact .reference hlt

theorem refers_saveMember {m : Member}
    (hgrow : (t.saveMember m).2.GrowsInto later) :
    List.Forall₂ later.Refers m.mentions (t.saveMember m).1.tokens := by
  have howner : later.Refers (.cls m.owner.cls)
      ((t.saveKind m.kind).2.saveClass m.owner.cls).1 :=
    refers_saveClass hgrow
  have hkind : (t.saveKind m.kind).2.GrowsInto later :=
    (growsInto_addClass (t.saveKind m.kind).2 m.owner.cls).trans hgrow
  obtain ⟨name, owner, kind⟩ := m
  cases kind with
  | reflected declaring =>
      exact .cons (refers_saveClass hkind) (.cons howner .nil)
  | library => exact .cons howner .nil
  | classLibrary => exact .cons howner .nil
  | introspection => exact .cons howner .nil

mutual

/-- The tokens of a saved value stand for what the value mentions, one for one. -/
theorem refers_save {t : SaveTables} :
    (v : Value) -> (save t v).2.GrowsInto later ->
    List.Forall₂ later.Refers v.mentions (save t v).1.tokens
  | .nil, _ => .nil
  | .bool _, _ => .nil
  | .int _, _ => .nil
  | .float _, _ => .nil
  | .string _, _ => .nil
  | .array items, hgrow => refers_saveAll items hgrow
  | .handle _, hgrow => refers_saveHandle hgrow
  | .member _, hgrow => refers_saveMember hgrow

theorem refers_saveAll {t : SaveTables} :
    (items : List Value) -> (saveAll t items).2.GrowsInto later ->
    List.Forall₂ later.Refers (Value.mentionsAll items)
      (SavedValue.tokensOfAll (saveAll t items).1)
  | [], _ => .nil
  | v :: rest, hgrow => by
      have hfirst : (save t v).2.GrowsInto later :=
        (growsInto_saveAll (save t v).2 rest).trans hgrow
      exact List.rel_append (refers_save v hfirst)
        (refers_saveAll rest hgrow)

end

end Positions

/-!
## Loading later

Only the entries at the positions of its tokens matter for what a saved value is
loaded as.
-/

end SaveTables

def Token.Within (t : SaveTables) : Token -> Prop
  | .object id _ => id < t.paths.length
  | .cls id _ => id < t.classes.length
  | .reference id => id < t.classes.length

namespace SaveTables

theorem Refers.within {t : SaveTables} {m : Mention} {token : Token}
    (h : t.Refers m token) : token.Within t := by
  cases h with
  | object _ hlt => exact hlt
  | cls _ hlt => exact hlt
  | reference hlt => exact hlt

theorem within_of_refers {t : SaveTables} {ms : List Mention}
    {tokens : List Token} (h : List.Forall₂ t.Refers ms tokens) :
    forall token, token ∈ tokens -> token.Within t := by
  induction h with
  | nil =>
      intro token hmem
      cases hmem
  | cons hfirst _ ih => exact List.forall_mem_cons.mpr ⟨hfirst.within, ih⟩

section Later

variable {t later : SaveTables} (hgrow : t.GrowsInto later)
include hgrow

theorem path_of_growsInto {id : Nat} (hlt : id < t.paths.length) :
    later.path id = t.path id := by
  rw [path, path, List.prefix_iff_getElem?.mp hgrow.paths id hlt,
    List.getElem?_eq_getElem hlt]

theorem cls_of_growsInto {id : Nat} (hlt : id < t.classes.length) :
    later.cls id = t.cls id := by
  rw [cls, cls, List.prefix_iff_getElem?.mp hgrow.classes id hlt,
    List.getElem?_eq_getElem hlt]

theorem loadHandle_of_growsInto (types : TypeTable) {token : Token}
    (hwithin : token.Within t) :
    later.loadHandle types token = t.loadHandle types token := by
  cases token with
  | object id typeName =>
      rw [loadHandle, loadHandle, path_of_growsInto hgrow hwithin]
  | cls id typeName =>
      rw [loadHandle, loadHandle, cls_of_growsInto hgrow hwithin]
  | reference id =>
      rw [loadHandle, loadHandle, cls_of_growsInto hgrow hwithin]

theorem loadClass_of_growsInto {token : Token} (hwithin : token.Within t) :
    later.loadClass token = t.loadClass token := by
  cases token with
  | object id typeName => rfl
  | cls id typeName => rfl
  | reference id => exact cls_of_growsInto hgrow hwithin

theorem loadKind_of_growsInto {kind : SavedKind}
    (hwithin : forall token, token ∈ kind.tokens -> token.Within t) :
    later.loadKind kind = t.loadKind kind := by
  cases kind with
  | reflected declaring =>
      rw [loadKind, loadKind, loadClass_of_growsInto hgrow
        (hwithin declaring List.mem_cons_self)]
  | library => rfl
  | classLibrary => rfl
  | introspection => rfl

end Later

mutual

theorem load_of_growsInto {t later : SaveTables}
    (hgrow : t.GrowsInto later) (types : TypeTable) :
    (saved : SavedValue) ->
    (forall token, token ∈ saved.tokens -> token.Within t) ->
    later.load types saved = t.load types saved
  | .nil, _ => rfl
  | .bool _, _ => rfl
  | .int _, _ => rfl
  | .float _, _ => rfl
  | .string _, _ => rfl
  | .array items, hwithin => by
      rw [load, load, loadAll_of_growsInto hgrow types items hwithin]
  | .handle token, hwithin => by
      rw [load, load, loadHandle_of_growsInto hgrow types
        (hwithin token List.mem_cons_self)]
  | .member name kind owner ownerTypeName, hwithin => by
      have hkind : later.loadKind kind = t.loadKind kind :=
        loadKind_of_growsInto hgrow
          (fun token hmem => hwithin token (List.mem_append_left _ hmem))
      have howner : later.loadClass owner = t.loadClass owner :=
        loadClass_of_growsInto hgrow
          (hwithin owner (List.mem_append_right _ List.mem_cons_self))
      rw [load, load, loadMember, loadMember, hkind, howner]

theorem loadAll_of_growsInto {t later : SaveTables}
    (hgrow : t.GrowsInto later) (types : TypeTable) :
    (items : List SavedValue) ->
    (forall token, token ∈ SavedValue.tokensOfAll items ->
      token.Within t) ->
    later.loadAll types items = t.loadAll types items
  | [], _ => rfl
  | saved :: rest, hwithin => by
      rw [loadAll, loadAll,
        load_of_growsInto hgrow types saved
          (fun token hmem => hwithin token (List.mem_append_left _ hmem)),
        loadAll_of_growsInto hgrow types rest
          (fun token hmem => hwithin token (List.mem_append_right _ hmem))]

end

/-!
## First appearances
-/

theorem eraseDups_concat {Item : Type} [DecidableEq Item] (items : List Item)
    (item : Item) :
    (items ++ [item]).eraseDups =
      if item ∈ items then items.eraseDups
      else items.eraseDups ++ [item] := by
  rw [List.eraseDups_append]
  by_cases hmem : item ∈ items
  · simp [List.cons_removeAll, hmem]
  · simp [List.cons_removeAll, List.eraseDups_cons, hmem]

theorem targets_addPath (t : SaveTables) (p : Path) :
    (t.addPath p).2.paths.map Path.target =
      if p.target ∈ t.paths.map Path.target then t.paths.map Path.target
      else t.paths.map Path.target ++ [p.target] := by
  have hknown : (exists q, q ∈ t.paths ∧ q.sameTarget p = true) ↔
      p.target ∈ t.paths.map Path.target := by
    simp [Path.sameTarget]
  rw [addPath]
  cases hfound : t.paths.findIdx? (fun q => q.sameTarget p) with
  | some id =>
      have hsome := List.findIdx?_isSome.symm.trans
        (congrArg Option.isSome hfound)
      rw [if_pos (hknown.mp (List.any_eq_true.mp hsome))]
  | none =>
      rw [if_neg]
      · exact List.map_append
      · intro hmem
        rcases hknown.mpr hmem with ⟨q, hq, hsame⟩
        rw [List.findIdx?_eq_none_iff.mp hfound q hq] at hsame
        cases hsame

theorem classes_addClass (t : SaveTables) (c : ClassId) :
    (t.addClass c).2.classes =
      if c ∈ t.classes then t.classes else t.classes ++ [c] := by
  rw [addClass]
  cases hfound : t.classes.findIdx? (fun d => d = c) with
  | some id =>
      have hsome := List.findIdx?_isSome.symm.trans
        (congrArg Option.isSome hfound)
      rcases List.any_eq_true.mp hsome with ⟨d, hd, hsame⟩
      rw [← of_decide_eq_true hsame, if_pos hd]
  | none =>
      rw [if_neg]
      intro hmem
      have hother := List.findIdx?_eq_none_iff.mp hfound c hmem
      exact absurd rfl (of_decide_eq_false hother)

theorem classes_addPath (t : SaveTables) (p : Path) :
    (t.addPath p).2.classes = t.classes := by
  rw [addPath]
  cases t.paths.findIdx? (fun q => q.sameTarget p) with
  | some id => rfl
  | none => rfl

/-- The tables have what was mentioned, in the order in which it came up first. -/
structure CollectedFrom (t : SaveTables) (ms : List Mention) : Prop where
  targets : t.paths.map Path.target =
    ((ms.filterMap Mention.path?).map Path.target).eraseDups
  /-- The path that is kept for an object is the first one to it. -/
  first (p : Path) : Path.firstTo? t.paths p =
    Path.firstTo? (ms.filterMap Mention.path?) p
  classes : t.classes = (ms.filterMap Mention.cls?).eraseDups

theorem collectedFrom_empty : empty.CollectedFrom [] :=
  ⟨rfl, fun _ => rfl, rfl⟩

theorem CollectedFrom.add {t : SaveTables} {ms : List Mention}
    (h : t.CollectedFrom ms) (m : Mention) :
    (t.add m).2.CollectedFrom (ms ++ [m]) := by
  cases m with
  | path p =>
      have hpaths : (ms ++ [Mention.path p]).filterMap Mention.path? =
          ms.filterMap Mention.path? ++ [p] := List.filterMap_append
      have hclasses : (ms ++ [Mention.path p]).filterMap Mention.cls? =
          ms.filterMap Mention.cls? :=
        List.filterMap_append.trans (List.append_nil _)
      constructor
      · rw [hpaths, List.map_append, List.map_singleton, eraseDups_concat,
          SaveTables.add, targets_addPath, h.targets]
        simp only [List.mem_eraseDups]
      · intro p'
        rw [hpaths, Path.firstTo?_append, ← h.first p']
        exact firstTo?_addPath t p p'
      · rw [hclasses, ← h.classes]
        exact classes_addPath t p
  | cls c =>
      have hpaths : (ms ++ [Mention.cls c]).filterMap Mention.path? =
          ms.filterMap Mention.path? :=
        List.filterMap_append.trans (List.append_nil _)
      have hclasses : (ms ++ [Mention.cls c]).filterMap Mention.cls? =
          ms.filterMap Mention.cls? ++ [c] := List.filterMap_append
      constructor
      · rw [hpaths, SaveTables.add, paths_addClass, h.targets]
      · intro p'
        rw [hpaths, SaveTables.add, paths_addClass, h.first p']
      · rw [hclasses, eraseDups_concat, SaveTables.add, classes_addClass,
          h.classes]
        simp only [List.mem_eraseDups]

theorem CollectedFrom.addAll {t : SaveTables} {ms : List Mention}
    (h : t.CollectedFrom ms) (more : List Mention) :
    (t.addAll more).CollectedFrom (ms ++ more) := by
  induction more generalizing t ms with
  | nil =>
      rw [List.append_nil]
      exact h
  | cons m rest ih =>
      have hrest := ih (h.add m)
      rw [List.append_assoc] at hrest
      exact hrest

end SaveTables

/-!
## Passes
-/

inductive SaveStep where
  | path (p : Path)
  | cls (c : ClassId)
  | handle (h : Handle)
  | value (v : Value)

namespace SaveStep

def mentions : SaveStep -> List Mention
  | path p => [.path p]
  | cls c => [.cls c]
  | handle h => h.mentions
  | value v => v.mentions

def leaves (t : SaveTables) : SaveStep -> SaveTables
  | path p => (t.addPath p).2
  | cls c => (t.addClass c).2
  | handle h => (t.saveHandle h).2
  | value v => (t.save v).2

theorem leaves_eq_addAll (t : SaveTables) (step : SaveStep) :
    step.leaves t = t.addAll step.mentions := by
  cases step with
  | path p => rfl
  | cls c => rfl
  | handle h => cases h <;> rfl
  | value v => exact t.addAll_save v

end SaveStep

namespace SaveTables

def pass (t : SaveTables) : List SaveStep -> SaveTables
  | [] => t
  | step :: rest => pass (step.leaves t) rest

/-- A pass adds what its steps mention, one after the other. -/
theorem pass_eq_addAll (t : SaveTables) (steps : List SaveStep) :
    t.pass steps = t.addAll (steps.flatMap SaveStep.mentions) := by
  induction steps generalizing t with
  | nil => rfl
  | cons step rest ih =>
      rw [List.flatMap_cons, addAll_append, ← step.leaves_eq_addAll]
      exact ih (step.leaves t)

theorem growsInto_pass (t : SaveTables) (steps : List SaveStep) :
    t.GrowsInto (t.pass steps) := by
  rw [pass_eq_addAll]
  exact growsInto_addAll t _

/-- What stays as it is from a moment of a pass to any later one. -/
structure LastsThrough (t : SaveTables) (steps : List SaveStep) :
    Prop where
  path {id : Nat} {p : Path} : t.path id = .ok p ->
    (t.pass steps).path id = .ok p
  cls {id : Nat} {c : ClassId} : t.cls id = .ok c ->
    (t.pass steps).cls id = .ok c
  addPath (p : Path) :
    ((t.addPath p).2.pass steps).position (.path p) = (t.addPath p).1
  addClass (c : ClassId) :
    ((t.addClass c).2.pass steps).position (.cls c) = (t.addClass c).1
  /-- The token of a handle gives the later position, and is loaded as at first. -/
  handle (h : Handle) :
    List.Forall₂ ((t.saveHandle h).2.pass steps).Refers h.mentions
        [(t.saveHandle h).1] ∧
      forall types, ((t.saveHandle h).2.pass steps).loadHandle types
          (t.saveHandle h).1 =
        (t.saveHandle h).2.loadHandle types (t.saveHandle h).1
  /-- The tokens of a value give the later positions, and it is loaded as at first. -/
  value (v : Value) :
    List.Forall₂ ((t.save v).2.pass steps).Refers v.mentions
        (t.save v).1.tokens ∧
      forall types, ((t.save v).2.pass steps).load types (t.save v).1 =
        (t.save v).2.load types (t.save v).1

theorem lastsThrough (t : SaveTables) (steps : List SaveStep) :
    t.LastsThrough steps := by
  have hgrow := growsInto_pass t steps
  constructor
  · intro id p hpath
    have hlt : id < t.paths.length := by
      rw [SaveTables.path] at hpath
      split at hpath
      · next hat => exact (List.getElem?_eq_some_iff.mp hat).1
      · cases hpath
    rw [path_of_growsInto hgrow hlt, hpath]
  · intro id c hcls
    have hlt : id < t.classes.length := by
      rw [SaveTables.cls] at hcls
      split at hcls
      · next hat => exact (List.getElem?_eq_some_iff.mp hat).1
      · cases hcls
    rw [cls_of_growsInto hgrow hlt, hcls]
  · intro p
    exact position_add (m := .path p) (growsInto_pass _ steps)
  · intro c
    exact position_add (m := .cls c) (growsInto_pass _ steps)
  · intro h
    have hlater := growsInto_pass (t.saveHandle h).2 steps
    have hnow := refers_saveHandle (.refl (t.saveHandle h).2)
    exact ⟨refers_saveHandle hlater, fun types =>
      loadHandle_of_growsInto hlater types
        (within_of_refers hnow _ List.mem_cons_self)⟩
  · intro v
    have hlater := growsInto_pass (t.save v).2 steps
    have hnow := refers_save v (.refl (t.save v).2)
    exact ⟨refers_save v hlater, fun types =>
      load_of_growsInto hlater types _ (within_of_refers hnow)⟩

/--
At every moment of a pass through fresh tables, no object and no class is in the
tables twice, and each stands where it came up first.  Whatever the rest of the
pass does, entries stay at their positions, a position that was given out stays
the position of its object or class, and what was saved is loaded, under any
registry, with the outcome that it had right after it was saved.
-/
theorem pass_exact (before after : List SaveStep) :
    ((empty.pass before).paths.map Path.target).Nodup ∧
    (empty.pass before).classes.Nodup ∧
    (empty.pass before).CollectedFrom (before.flatMap SaveStep.mentions) ∧
    (empty.pass before).LastsThrough after := by
  have hcollected : (empty.pass before).CollectedFrom
      (before.flatMap SaveStep.mentions) := by
    rw [pass_eq_addAll]
    exact collectedFrom_empty.addAll _
  refine ⟨?_, ?_, hcollected, lastsThrough _ after⟩
  · rw [hcollected.targets]
    exact nodup_eraseDups _
  · rw [hcollected.classes]
    exact nodup_eraseDups _

end SaveTables

end ScriptBridge
