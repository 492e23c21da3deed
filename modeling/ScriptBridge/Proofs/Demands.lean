import ScriptBridge.Proofs.Exposure
import ScriptBridge.Proofs.Resaving

/-!
# What a snapshot demands

A snapshot may come from anywhere: its positions may lie beyond the tables, its
type names may be unknown, and tokens of one kind may stand where another kind is
wanted.  Every token makes demands on the tables and on the registry, in a fixed
order, and the demands of a snapshot are those of its globals in the order of
their names, where the items of an array count from left to right.

A snapshot is loaded exactly if all its demands are met.  Otherwise the cause is
that of the first demand that is not.
-/

namespace ScriptBridge

/-!
## Demands
-/

/-- One thing that loading a token asks of the tables and of the registry. -/
inductive Demand where
  /-- There is a path at a position. -/
  | path (id : Nat)
  /-- There is a class at a position. -/
  | cls (id : Nat)
  /-- The class at a position has an exposed type of its own level. -/
  | exposed (id : Nat)
  /-- A type is exposed under a name. -/
  | named (typeName : String)
  /-- A token is a plain reference. -/
  | plain (token : Token)
  /-- The type under a name is that of the class that a token refers to. -/
  | owned (owner : Token) (typeName : String)

namespace Demand

def Met (t : SaveTables) (types : TypeTable) : Demand -> Prop
  | path id => id < t.paths.length
  | cls id => id < t.classes.length
  | exposed id => exists c, t.classes[id]? = some c ∧ types.IsBound .cls c
  | named typeName => exists binding, types.named? typeName = some binding
  | plain token => exists id, token = .reference id
  | owned owner typeName => exists binding,
      types.named? typeName = some binding ∧
        t.classes[owner.id]? = some binding.exposed.cls

def cause : Demand -> LoadError
  | path id => .unknownTrace id
  | cls id => .unknownReference id
  | exposed id => .unknownReference id
  | named typeName => .unknownType typeName
  | plain token => .notPlain token.id
  | owned _ typeName => .unknownType typeName

end Demand

def Token.handleDemands : Token -> List Demand
  | .object id typeName => [.path id, .named typeName]
  | .cls id typeName => [.cls id, .named typeName]
  | .reference id => [.cls id, .exposed id]

def Token.classDemands (token : Token) : List Demand :=
  [.plain token, .cls token.id]

def SavedKind.demands : SavedKind -> List Demand
  | .reflected declaring => declaring.classDemands
  | .library => []
  | .classLibrary => []
  | .introspection => []

namespace SavedValue

mutual

def demands : SavedValue -> List Demand
  | .nil => []
  | .bool _ => []
  | .int _ => []
  | .float _ => []
  | .string _ => []
  | .array items => demandsAll items
  | .handle token => token.handleDemands
  | .member _ kind owner ownerTypeName =>
      owner.classDemands ++ (kind.demands ++
        [.named ownerTypeName, .owned owner ownerTypeName])

def demandsAll : List SavedValue -> List Demand
  | [] => []
  | saved :: rest => demands saved ++ demandsAll rest

end

end SavedValue

def Snapshot.demands (s : Snapshot) : List Demand :=
  s.globals.entries.flatMap (fun entry => entry.2.demands)

/-!
## Doing what is demanded
-/

/-- A result is there if all demands are met, and else fails for the first one that is not. -/
inductive Obeys (t : SaveTables) (types : TypeTable) {Result : Type} :
    List Demand -> Except LoadError Result -> Prop where
  | done (result : Result) : Obeys t types [] (.ok result)
  | met {d : Demand} {rest : List Demand} {result : Except LoadError Result} :
      d.Met t types -> Obeys t types rest result ->
      Obeys t types (d :: rest) result
  | unmet {d : Demand} (rest : List Demand) :
      ¬ d.Met t types -> Obeys t types (d :: rest) (.error d.cause)

namespace Obeys

variable {t : SaveTables} {types : TypeTable} {Result Other : Type}
  {demands more : List Demand}

theorem bind {first : Except LoadError Result}
    {next : Result -> Except LoadError Other}
    (h : Obeys t types demands first)
    (hnext : forall result, first = .ok result ->
      Obeys t types more (next result)) :
    Obeys t types (demands ++ more) (first >>= next) := by
  induction h with
  | done result => exact hnext result rfl
  | met hmet _ ih => exact .met hmet (ih hnext)
  | unmet rest hunmet => exact .unmet (rest ++ more) hunmet

theorem map {result : Except LoadError Result} (f : Result -> Other)
    (h : Obeys t types demands result) :
    Obeys t types demands (result.map f) := by
  induction h with
  | done result => exact .done (f result)
  | met hmet _ ih => exact .met hmet ih
  | unmet rest hunmet => exact .unmet rest hunmet

theorem of_ok {result : Result} (h : Obeys t types demands (.ok result)) :
    forall d, d ∈ demands -> d.Met t types := by
  generalize hr : (Except.ok result : Except LoadError Result) = r at h
  induction h with
  | done _ =>
      intro d hmem
      cases hmem
  | met hmet _ ih => exact List.forall_mem_cons.mpr ⟨hmet, ih hr⟩
  | unmet _ _ => cases hr

theorem of_error {cause : LoadError}
    (h : Obeys t types demands (.error cause : Except LoadError Result)) :
    exists before d after, demands = before ++ d :: after ∧
      (forall passed, passed ∈ before -> passed.Met t types) ∧
      ¬ d.Met t types ∧ d.cause = cause := by
  generalize hr : (Except.error cause : Except LoadError Result) = r at h
  induction h with
  | done _ => cases hr
  | @met d _ _ hmet _ ih =>
      rcases ih hr with ⟨before, other, after, rfl, hbefore, hother⟩
      exact ⟨d :: before, other, after, rfl,
        List.forall_mem_cons.mpr ⟨hmet, hbefore⟩, hother⟩
  | @unmet d rest hunmet =>
      cases hr
      refine ⟨[], d, rest, rfl, ?_, hunmet, rfl⟩
      intro passed hmem
      cases hmem

/-- The first demand that is not met decides. -/
theorem eq_error {result : Except LoadError Result}
    {before after : List Demand} {d : Demand}
    (h : Obeys t types (before ++ d :: after) result)
    (hbefore : forall passed, passed ∈ before -> passed.Met t types)
    (hunmet : ¬ d.Met t types) : result = .error d.cause := by
  induction before with
  | nil =>
      cases h with
      | met hmet _ => exact absurd hmet hunmet
      | unmet _ _ => rfl
  | cons first rest ih =>
      rcases List.forall_mem_cons.mp hbefore with ⟨hfirst, hrest⟩
      cases h with
      | met _ hrun => exact ih hrun hrest
      | unmet _ hnot => exact absurd hfirst hnot

end Obeys

namespace NameTable

theorem tryEntries_cons {Item Cause Other : Type}
    (f : Item -> Except Cause Other) (entry : String × Item)
    (rest : List (String × Item)) :
    tryEntries f (entry :: rest) =
      f entry.2 >>= fun other =>
        (tryEntries f rest).map (fun others => (entry.1, other) :: others) := by
  rw [tryEntries]
  cases f entry.2 with
  | error cause => rfl
  | ok other => cases tryEntries f rest <;> rfl

theorem tryMap_of_error {Item Cause Other : Type}
    {f : Item -> Except Cause Other} {t : NameTable Item} {cause : Cause}
    (h : tryEntries f t.entries = .error cause) :
    t.tryMap f = .error cause := by
  rw [tryMap]
  split
  · rename_i other hother
    rw [h] at hother
    cases hother
    rfl
  · rename_i others hothers
    rw [h] at hothers
    cases hothers

end NameTable

namespace SaveTables

/-!
## Tokens
-/

section Tokens

variable (t : SaveTables) (types : TypeTable)

theorem obeys_path (id : Nat) : Obeys t types [.path id] (t.path id) := by
  rw [path]
  cases hpath : t.paths[id]? with
  | none =>
      refine .unmet (d := .path id) [] (fun hlt => ?_)
      rw [List.getElem?_eq_none_iff] at hpath
      exact absurd hlt (Nat.not_lt.mpr hpath)
  | some p => exact .met (List.getElem?_eq_some_iff.mp hpath).1 (.done p)

theorem obeys_cls (id : Nat) : Obeys t types [.cls id] (t.cls id) := by
  rw [cls]
  cases hcls : t.classes[id]? with
  | none =>
      refine .unmet (d := .cls id) [] (fun hlt => ?_)
      rw [List.getElem?_eq_none_iff] at hcls
      exact absurd hlt (Nat.not_lt.mpr hcls)
  | some c => exact .met (List.getElem?_eq_some_iff.mp hcls).1 (.done c)

theorem obeys_exposedNamed (typeName : String) :
    Obeys t types [.named typeName] (exposedNamed types typeName) := by
  rw [exposedNamed]
  cases hnamed : types.named? typeName with
  | none =>
      refine .unmet (d := .named typeName) [] ?_
      rintro ⟨binding, hbinding⟩
      rw [hnamed] at hbinding
      cases hbinding
  | some binding => exact .met ⟨binding, hnamed⟩ (.done binding.exposed)

theorem cls_eq_ok_iff {t : SaveTables} {id : Nat} {c : ClassId} :
    t.cls id = .ok c ↔ t.classes[id]? = some c := by
  rw [cls]
  cases t.classes[id]? with
  | none => simp
  | some d => simp

theorem exists_of_exposedNamed {types : TypeTable} {typeName : String}
    {e : Exposed} (h : exposedNamed types typeName = .ok e) :
    exists binding, types.named? typeName = some binding ∧
      binding.exposed = e := by
  rw [exposedNamed] at h
  cases hnamed : types.named? typeName with
  | none =>
      rw [hnamed] at h
      cases h
  | some binding =>
      rw [hnamed] at h
      cases h
      exact ⟨binding, rfl, rfl⟩

theorem obeys_loadHandle (token : Token) :
    Obeys t types token.handleDemands (t.loadHandle types token) := by
  cases token with
  | object id typeName =>
      apply (t.obeys_path types id).bind
      intro p _hpath
      exact (t.obeys_exposedNamed types typeName).bind
        (fun e _he => .done (Handle.object ⟨p, e⟩))
  | cls id typeName =>
      apply (t.obeys_cls types id).bind
      intro c _hc
      exact (t.obeys_exposedNamed types typeName).bind
        (fun e _he => .done (Handle.cls ⟨c, e⟩))
  | reference id =>
      apply (t.obeys_cls types id).bind
      intro c hc
      have hat : t.classes[id]? = some c := cls_eq_ok_iff.mp hc
      dsimp only [TypeTable.classHandle?]
      cases hbinding : types.classBinding? c with
      | some binding =>
          exact .met ⟨c, hat, TypeTable.isBound_of_classBinding? hbinding⟩
            (.done _)
      | none =>
          refine .unmet (d := .exposed id) [] ?_
          rintro ⟨c', hat', hbound⟩
          rw [hat] at hat'
          cases hat'
          exact TypeTable.not_isBound_of_classBinding? hbinding hbound

theorem obeys_loadClass (token : Token) :
    Obeys t types token.classDemands (t.loadClass token) := by
  cases token with
  | reference id => exact .met ⟨id, rfl⟩ (t.obeys_cls types id)
  | object id typeName =>
      refine .unmet (d := .plain (.object id typeName)) _ ?_
      rintro ⟨_, hplain⟩
      cases hplain
  | cls id typeName =>
      refine .unmet (d := .plain (.cls id typeName)) _ ?_
      rintro ⟨_, hplain⟩
      cases hplain

theorem obeys_loadKind (kind : SavedKind) :
    Obeys t types kind.demands (t.loadKind kind) := by
  cases kind with
  | library => exact .done _
  | reflected declaring => exact (t.obeys_loadClass types declaring).map _
  | classLibrary => exact .done _
  | introspection => exact .done _

end Tokens

/-!
## Values
-/

section Values

variable (t : SaveTables) (types : TypeTable)

theorem obeys_owned {owner : Token} {c : ClassId} {e : Exposed}
    {ownerTypeName : String} (name : String) (kind : MemberKind)
    (hc : t.loadClass owner = .ok c)
    (he : exposedNamed types ownerTypeName = .ok e) :
    Obeys t types [.owned owner ownerTypeName]
      (if e.cls = c then .ok ⟨name, e, kind⟩
        else .error (.unknownType ownerTypeName) :
        Except LoadError Member) := by
  have hat : t.classes[owner.id]? = some c := by
    cases owner with
    | reference id => exact cls_eq_ok_iff.mp hc
    | object id typeName => cases hc
    | cls id typeName => cases hc
  rcases exists_of_exposedNamed he with ⟨binding, hnamed, rfl⟩
  by_cases hcls : binding.exposed.cls = c
  · rw [if_pos hcls]
    exact .met ⟨binding, hnamed, hcls ▸ hat⟩ (.done _)
  · rw [if_neg hcls]
    refine .unmet (d := .owned owner ownerTypeName) [] ?_
    rintro ⟨binding', hnamed', hat'⟩
    rw [hnamed] at hnamed'
    cases hnamed'
    rw [hat] at hat'
    cases hat'
    exact hcls rfl

theorem obeys_loadMember (name : String) (kind : SavedKind) (owner : Token)
    (ownerTypeName : String) :
    Obeys t types
      (SavedValue.member name kind owner ownerTypeName).demands
      (t.loadMember types name kind owner ownerTypeName) := by
  apply (t.obeys_loadClass types owner).bind
  intro c hc
  apply (t.obeys_loadKind types kind).bind
  intro kind _hkind
  apply (t.obeys_exposedNamed types ownerTypeName).bind
  intro e he
  exact t.obeys_owned types name kind hc he

mutual

theorem obeys_load : (saved : SavedValue) ->
    Obeys t types saved.demands (load t types saved)
  | .array items => (obeys_loadAll items).map _
  | .handle token => (t.obeys_loadHandle types token).map _
  | .member name kind owner ownerTypeName =>
      (t.obeys_loadMember types name kind owner ownerTypeName).map _
  | .nil => .done _
  | .bool _ => .done _
  | .int _ => .done _
  | .float _ => .done _
  | .string _ => .done _

theorem obeys_loadAll : (items : List SavedValue) ->
    Obeys t types (SavedValue.demandsAll items) (loadAll t types items)
  | [] => .done _
  | saved :: rest =>
      (obeys_load saved).bind (fun _v _hv => (obeys_loadAll rest).map _)

end

theorem obeys_tryEntries (entries : List (String × SavedValue)) :
    Obeys t types (entries.flatMap (fun entry => entry.2.demands))
      (NameTable.tryEntries (t.load types) entries) := by
  induction entries with
  | nil => exact .done _
  | cons entry rest ih =>
      rw [List.flatMap_cons, NameTable.tryEntries_cons]
      apply (t.obeys_load types entry.2).bind
      intro v _hv
      exact ih.map _

end Values

end SaveTables

/-!
## The law
-/

namespace Computer

theorem obeys_load (types : TypeTable) (s : Snapshot) :
    Obeys s.tables types s.demands (load types s) := by
  have hentries := s.tables.obeys_tryEntries types s.globals.entries
  rw [load, Snapshot.loadGlobals]
  cases htry : NameTable.tryEntries (s.tables.load types)
      s.globals.entries with
  | error cause =>
      rw [htry] at hentries
      rw [NameTable.tryMap_of_error htry]
      exact hentries.map (fun _ => fresh)
  | ok others =>
      rcases NameTable.tryMap_of_tryEntries htry with ⟨globals, hmap, _⟩
      rw [htry] at hentries
      rw [hmap]
      exact hentries.map
        (fun _ => Computer.mk .fresh globals s.tables.wait)

/--
Whatever a snapshot holds, it is loaded exactly if all its demands are met, and
else is refused for the first of them that is not.
-/
theorem load_exact (types : TypeTable) (s : Snapshot) :
    ((exists c, load types s = .ok c) ↔
        forall d, d ∈ s.demands -> d.Met s.tables types) ∧
      forall cause, load types s = .error cause ↔
        exists before d after, s.demands = before ++ d :: after ∧
          (forall passed, passed ∈ before -> passed.Met s.tables types) ∧
          ¬ d.Met s.tables types ∧ d.cause = cause := by
  have hobeys := obeys_load types s
  constructor
  · constructor
    · rintro ⟨c, hc⟩
      rw [hc] at hobeys
      exact hobeys.of_ok
    · intro hmet
      cases hload : load types s with
      | ok c => exact ⟨c, rfl⟩
      | error cause =>
          rw [hload] at hobeys
          rcases hobeys.of_error with ⟨before, d, after, hsplit, _, hunmet, _⟩
          have hmem : d ∈ s.demands := by
            rw [hsplit]
            exact List.mem_append_right before List.mem_cons_self
          exact absurd (hmet d hmem) hunmet
  · intro cause
    constructor
    · intro herror
      rw [herror] at hobeys
      exact hobeys.of_error
    · rintro ⟨before, d, after, hsplit, hbefore, hunmet, rfl⟩
      rw [hsplit] at hobeys
      exact hobeys.eq_error hbefore hunmet

end Computer

namespace Lamps

/-- The owner of the member is no plain reference, and the later handle has no path. -/
def tampered : Snapshot :=
  ⟨.ofList
      [("spare", .handle (.object 4 "Lamp")),
        ("lamps", .array
          [.handle (.object 0 "Lamp"),
            .member "describe" (.reflected (.reference 3)) (.cls 0 "Lamp")
              "Nobody"])],
    ⟨[lampHandle.path], [lamp.id], .idle⟩⟩

example :
    (match Computer.load bridge.types tampered with
      | .ok _ => none
      | .error cause => some cause) = some (.notPlain 0) := by
  decide +kernel

end Lamps

end ScriptBridge
