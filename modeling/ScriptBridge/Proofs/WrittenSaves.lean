import ScriptBridge.Proofs.WrittenTokens

/-!
# The text of a save

The text of a snapshot is read as that snapshot, provided that its doubles are
read back as they were written and that its nesting stays within the limit.  A
double that is not finite has no number for it, and deeper nesting is not
entered: either makes the whole text unreadable.  Nothing is ever read as another
snapshot.
-/

namespace ScriptBridge

/-- A double that is read as it was written, which only a finite one can be. -/
def Double.ReadsBack (x : Double) : Prop :=
  (Json.ofDouble x).double? = some x

namespace SavedValue

mutual

def floats : SavedValue -> List Double
  | .float x => [x]
  | .array items => floatsOfAll items
  | _ => []

def floatsOfAll : List SavedValue -> List Double
  | [] => []
  | v :: rest => floats v ++ floatsOfAll rest

end

mutual

def tokens : SavedValue -> List Token
  | .array items => tokensOfAll items
  | .handle token => [token]
  | .member _ kind owner _ => kind.tokens ++ [owner]
  | _ => []

def tokensOfAll : List SavedValue -> List Token
  | [] => []
  | v :: rest => tokens v ++ tokensOfAll rest

end

end SavedValue

namespace Snapshot

def floats (s : Snapshot) : List Double :=
  s.globals.entries.flatMap (fun g => g.2.floats)

def tokens (s : Snapshot) : List Token :=
  s.globals.entries.flatMap (fun g => g.2.tokens)

end Snapshot

/-!
## Values
-/

namespace SavedValue

theorem allToJson_eq_map (items : List SavedValue) :
    allToJson items = items.map toJson := by
  induction items with
  | nil => rfl
  | cons v rest ih => rw [allToJson, ih, List.map_cons]

theorem mem_floatsOfAll {items : List SavedValue} {x : Double} :
    x ∈ floatsOfAll items ↔ exists item, item ∈ items ∧ x ∈ item.floats := by
  induction items with
  | nil => simp [floatsOfAll]
  | cons v rest ih =>
      rw [floatsOfAll, List.mem_append, ih]
      simp

theorem mem_tokensOfAll {items : List SavedValue} {token : Token} :
    token ∈ tokensOfAll items ↔
      exists item, item ∈ items ∧ token ∈ item.tokens := by
  induction items with
  | nil => simp [tokensOfAll]
  | cons v rest ih =>
      rw [tokensOfAll, List.mem_append, ih]
      simp

/-- What holds of an array if it holds of its items holds of every value. -/
theorem inductionOnItems {motive : SavedValue -> Prop} (nil : motive .nil)
    (bool : forall b, motive (.bool b)) (int : forall n, motive (.int n))
    (float : forall x, motive (.float x))
    (string : forall text, motive (.string text))
    (array : forall items, (forall item, item ∈ items -> motive item) ->
      motive (.array items))
    (handle : forall token, motive (.handle token))
    (member : forall name kind owner ownerTypeName,
      motive (.member name kind owner ownerTypeName)) (v : SavedValue) :
    motive v :=
  match v with
  | .nil => nil
  | .bool b => bool b
  | .int n => int n
  | .float x => float x
  | .string text => string text
  | .array items =>
      array items (fun item _ =>
        inductionOnItems nil bool int float string array handle member item)
  | .handle token => handle token
  | .member name kind owner ownerTypeName =>
      member name kind owner ownerTypeName

/-!
### Within the levels
-/

def itemReader : Nat -> Json -> Option SavedValue
  | 0 => fun _ => none
  | deeper + 1 => ofJson? .direct deeper

theorem ofJson?_typed (type : String) (content : Json) (levels : Nat) :
    ofJson? .direct (levels + 1) (typed type content) =
      content? (itemReader levels) .direct levels type content := by
  unfold typed Json.record
  rw [List.map_cons, List.map_cons, List.map_nil, ofJson?]
  cases levels <;> rfl

theorem ofJson?_array (items : List SavedValue) (levels : Nat) :
    ofJson? .direct (levels + 2) (toJson (.array items)) =
      ((items.map toJson).mapM (ofJson? .direct levels)).map .array := by
  rw [toJson, allToJson_eq_map, ofJson?_typed]
  rfl

theorem depth_typed_le_iff (type : String) (content : Json) (levels : Nat) :
    (typed type content).depth ≤ levels + 1 ↔ content.depth ≤ levels := by
  unfold typed
  rw [Json.depth_record_le_iff]
  simp

theorem depth_array_le_iff (items : List SavedValue) (levels : Nat) :
    (toJson (.array items)).depth ≤ levels + 2 ↔
      forall item, item ∈ items -> item.toJson.depth ≤ levels := by
  rw [toJson, depth_typed_le_iff, allToJson_eq_map,
    Json.depth_array_map_le_iff]

theorem depth_pos (v : SavedValue) : 0 < v.toJson.depth := by
  cases v <;> exact Nat.succ_pos _

def memberRecord (name : String) (kind : SavedKind) (owner : Token)
    (ownerTypeName : String) : Json :=
  .record
    [("name", .ofText name), ("kind", kind.toJson), ("owner", owner.toJson),
      ("ownerTypeName", .ofText ownerTypeName)]

theorem depth_memberRecord_le_iff (name : String) (kind : SavedKind)
    (owner : Token) (ownerTypeName : String) (levels : Nat) :
    (memberRecord name kind owner ownerTypeName).depth ≤ levels + 1 ↔
      kind.toJson.depth ≤ levels := by
  have hkind := kind.depth_pos
  unfold memberRecord
  rw [Json.depth_record_le_iff]
  simp
  omega

theorem record?_memberRecord (name : String) (kind : SavedKind)
    (owner : Token) (ownerTypeName : String) (levels : Nat) :
    (memberRecord name kind owner ownerTypeName).record?
        ["name", "kind", "owner", "ownerTypeName"] 4 (levels + 1) =
      some (levels, [some (.ofText name), some kind.toJson,
        some owner.toJson, some (.ofText ownerTypeName)]) :=
  Json.record?_record (by rfl) (by decide) 4 levels

theorem memberContent?_memberRecord (name : String) (kind : SavedKind)
    (owner : Token) (ownerTypeName : String) (levels : Nat) :
    memberContent? .direct (levels + 1)
        (memberRecord name kind owner ownerTypeName) =
      (SavedKind.ofJson? .direct levels kind.toJson).bind (fun kind =>
        (Token.ofJson? .direct levels owner.toJson).map (fun owner =>
          .member name kind owner ownerTypeName)) := by
  have hrecord := record?_memberRecord name kind owner ownerTypeName levels
  unfold memberRecord Json.record at hrecord ⊢
  unfold memberContent?
  dsimp only
  rw [hrecord]
  dsimp only
  cases SavedKind.ofJson? .direct levels kind.toJson
  · rfl
  · cases Token.ofJson? .direct levels owner.toJson <;> rfl

theorem exists_inner {v : SavedValue} {levels : Nat}
    (hdepth : v.toJson.depth ≤ levels) : exists inner, levels = inner + 1 :=
  Nat.exists_eq_add_one_of_ne_zero
    (Nat.ne_of_gt (Nat.lt_of_lt_of_le v.depth_pos hdepth))

theorem ofJson?_toJson {v : SavedValue}
    (hfloats : forall x, x ∈ v.floats -> x.ReadsBack)
    (htokens : forall token, token ∈ v.tokens -> token.Fits) {levels : Nat}
    (hdepth : v.toJson.depth ≤ levels) :
    ofJson? .direct levels v.toJson = some v := by
  rcases exists_inner hdepth with ⟨inner, rfl⟩
  induction v using inductionOnItems generalizing inner with
  | nil =>
      rw [toJson, Json.record, List.map_cons, List.map_nil, ofJson?]
      rfl
  | bool b =>
      rw [toJson, ofJson?_typed]
      rfl
  | int n =>
      have hcontent : content? (itemReader inner) .direct inner "int"
          (.ofInteger n) = (Json.ofInteger n).integer?.map .int := rfl
      rw [toJson, ofJson?_typed, hcontent, Json.integer?_ofInteger]
      rfl
  | float x =>
      have hback : x.ReadsBack := hfloats x List.mem_cons_self
      have hcontent : content? (itemReader inner) .direct inner "float"
          (.ofDouble x) = (Json.ofDouble x).double?.map .float := rfl
      rw [toJson, ofJson?_typed, hcontent, hback]
      rfl
  | string text =>
      rw [toJson, ofJson?_typed]
      rfl
  | array items ih =>
      cases inner with
      | zero =>
          rw [toJson, depth_typed_le_iff, Json.depth] at hdepth
          cases hdepth
      | succ deeper =>
          have hitems := (depth_array_le_iff items deeper).mp hdepth
          have hread : forall item, item ∈ items ->
              ofJson? .direct deeper item.toJson = some item := by
            intro item hmem
            have hitem := hitems item hmem
            rcases exists_inner hitem with ⟨below, rfl⟩
            apply ih item hmem
            · intro x hx
              exact hfloats x (mem_floatsOfAll.mpr ⟨item, hmem, hx⟩)
            · intro token htoken
              exact htokens token (mem_tokensOfAll.mpr ⟨item, hmem, htoken⟩)
            · exact hitem
          rw [ofJson?_array, mapM_map_eq_self hread]
          rfl
  | handle token =>
      have hfits : token.Fits := htokens token List.mem_cons_self
      rw [toJson, depth_typed_le_iff, token.depth_toJson] at hdepth
      obtain ⟨deeper, rfl⟩ :=
        Nat.exists_eq_add_one_of_ne_zero (Nat.ne_of_gt hdepth)
      have hcontent : content? (itemReader (deeper + 1)) .direct (deeper + 1)
          "handle" token.toJson =
            (Token.ofJson? .direct (deeper + 1) token.toJson).map .handle :=
        rfl
      rw [toJson, ofJson?_typed, hcontent, Token.ofJson?_toJson hfits]
      rfl
  | member name kind owner ownerTypeName =>
      have hkind : forall token, token ∈ kind.tokens -> token.Fits :=
        fun token hmem => htokens token (List.mem_append_left _ hmem)
      have howner : owner.Fits :=
        htokens owner (List.mem_append_right _ List.mem_cons_self)
      have hrecord : (memberRecord name kind owner ownerTypeName).depth ≤
          inner :=
        (depth_typed_le_iff "member" _ inner).mp hdepth
      cases inner with
      | zero => cases hrecord
      | succ deeper =>
          have hdeeper :=
            (depth_memberRecord_le_iff _ _ _ _ deeper).mp hrecord
          obtain ⟨below, rfl⟩ : exists below, deeper = below + 1 :=
            Nat.exists_eq_add_one_of_ne_zero
              (Nat.ne_of_gt (Nat.lt_of_lt_of_le kind.depth_pos hdeeper))
          have hcontent :=
            memberContent?_memberRecord name kind owner ownerTypeName
              (below + 1)
          rw [SavedKind.ofJson?_toJson hkind hdeeper,
            Token.ofJson?_toJson howner] at hcontent
          rw [toJson, ofJson?_typed]
          exact hcontent

theorem written_typed (type : String) {content : Json}
    (h : content.Written) : (typed type content).Written := by
  apply Json.written_record
  simpa using h

@[simp] theorem written_toJson (v : SavedValue) : v.toJson.Written := by
  induction v using inductionOnItems with
  | nil =>
      apply Json.written_record
      simp
  | bool b => exact written_typed "bool" (Json.written_bool b)
  | int n => exact written_typed "int" (Json.written_ofInteger n)
  | float x => exact written_typed "float" (Json.written_ofDouble x)
  | string text => exact written_typed "string" (Json.written_ofText text)
  | array items ih =>
      rw [toJson, allToJson_eq_map]
      exact written_typed "array" (Json.written_array_map ih)
  | handle token => exact written_typed "handle" token.written_toJson
  | member name kind owner ownerTypeName =>
      apply written_typed "member"
      apply Json.written_record
      simp

/-!
### Refused values
-/

theorem ofJson?_zero (reading : Reading) (j : Json) :
    ofJson? reading 0 j = none := by
  rw [ofJson?]

theorem ofJson?_array_one (items : List SavedValue) :
    ofJson? .direct 1 (toJson (.array items)) = none := by
  rw [toJson, ofJson?_typed]
  rfl

theorem ofJson?_array_of_item {items : List SavedValue} {item : SavedValue}
    (hmem : item ∈ items) {levels : Nat}
    (h : ofJson? .direct levels item.toJson = none) :
    ofJson? .direct (levels + 2) (toJson (.array items)) = none := by
  rw [ofJson?_array, mapM_map_eq_none hmem h]
  rfl

theorem ofJson?_of_depth_gt {v : SavedValue} {levels : Nat}
    (hdepth : levels < v.toJson.depth) :
    ofJson? .direct levels v.toJson = none := by
  have hflat {w : SavedValue} {n : Nat} (hone : w.toJson.depth ≤ 1)
      (hw : n < w.toJson.depth) : ofJson? .direct n w.toJson = none := by
    have hzero : n = 0 := by omega
    rw [hzero, ofJson?_zero]
  have hscalar (type : String) {content : Json} (hcontent : content.depth = 0) :
      (typed type content).depth ≤ 1 :=
    (depth_typed_le_iff type content 0).mpr (Nat.le_of_eq hcontent)
  induction v using inductionOnItems generalizing levels with
  | nil => exact hflat (Nat.le_refl 1) hdepth
  | bool b => exact hflat (hscalar "bool" (Json.depth_bool b)) hdepth
  | int n => exact hflat (hscalar "int" (Json.depth_ofInteger n)) hdepth
  | float x => exact hflat (hscalar "float" (Json.depth_ofDouble x)) hdepth
  | string text =>
      exact hflat (hscalar "string" (Json.depth_ofText text)) hdepth
  | array items ih =>
      match levels with
      | 0 => exact ofJson?_zero .direct _
      | 1 => exact ofJson?_array_one items
      | deeper + 2 =>
          have hnot : ¬ forall item, item ∈ items ->
              item.toJson.depth ≤ deeper := by
            intro hitems
            exact Nat.not_le.mpr hdepth
              ((depth_array_le_iff items deeper).mpr hitems)
          rcases Classical.not_forall.mp hnot with ⟨item, hitem⟩
          rcases Classical.not_imp.mp hitem with ⟨hmem, hitem⟩
          exact ofJson?_array_of_item hmem
            (ih item hmem (Nat.lt_of_not_le hitem))
  | handle token =>
      match levels with
      | 0 => exact ofJson?_zero .direct _
      | 1 =>
          have hcontent : content? (itemReader 0) .direct 0 "handle"
              token.toJson =
                (Token.ofJson? .direct 0 token.toJson).map .handle := rfl
          rw [toJson, ofJson?_typed, hcontent, Token.ofJson?_zero]
          rfl
      | deeper + 2 =>
          have hle : (toJson (.handle token)).depth ≤ deeper + 2 := by
            rw [toJson, depth_typed_le_iff, token.depth_toJson]
            exact Nat.le_add_left 1 deeper
          exact absurd hdepth (Nat.not_lt.mpr hle)
  | member name kind owner ownerTypeName =>
      match levels with
      | 0 => exact ofJson?_zero .direct _
      | 1 =>
          rw [toJson, ofJson?_typed]
          rfl
      | deeper + 2 =>
          have hkind : deeper < kind.toJson.depth := by
            apply Nat.lt_of_not_le
            intro hle
            apply Nat.not_le.mpr hdepth
            exact (depth_typed_le_iff "member" _ (deeper + 1)).mpr
              ((depth_memberRecord_le_iff name kind owner ownerTypeName
                deeper).mpr hle)
          have hcontent :=
            memberContent?_memberRecord name kind owner ownerTypeName deeper
          rw [SavedKind.ofJson?_of_depth_gt hkind] at hcontent
          rw [toJson, ofJson?_typed]
          exact hcontent

theorem ofJson?_of_not_finite {v : SavedValue} {x : Double}
    (hmem : x ∈ v.floats) (hfinite : x.isFinite = false) (levels : Nat) :
    ofJson? .direct levels v.toJson = none := by
  induction v using inductionOnItems generalizing levels with
  | nil => cases hmem
  | bool b => cases hmem
  | int n => cases hmem
  | string text => cases hmem
  | handle token => cases hmem
  | member name kind owner ownerTypeName => cases hmem
  | float y =>
      rw [floats, List.mem_singleton] at hmem
      subst hmem
      cases levels with
      | zero => exact ofJson?_zero .direct _
      | succ inner =>
          have hcontent : content? (itemReader inner) .direct inner "float"
              (.ofDouble x) = (Json.ofDouble x).double?.map .float := rfl
          rw [toJson, ofJson?_typed, hcontent,
            Json.double?_ofDouble_of_not_finite hfinite]
          rfl
  | array items ih =>
      rcases mem_floatsOfAll.mp hmem with ⟨item, hitem, hx⟩
      match levels with
      | 0 => exact ofJson?_zero .direct _
      | 1 => exact ofJson?_array_one items
      | deeper + 2 =>
          exact ofJson?_array_of_item hitem (ih item hitem hx deeper)

end SavedValue

/-!
## Tables
-/

namespace SaveTables

theorem ofJson?_toJson (t : SaveTables) (levels : Nat) :
    ofJson? (levels + 5) t.toJson = some t := by
  have hrecord :
      t.toJson.record? ["traces", "references", "wait"] 3 (levels + 5) =
        some (levels + 4, [some (.array (t.paths.map Path.toJson)),
          some (.array (t.classes.map ClassId.toJson)),
          some t.wait.toJson]) :=
    Json.record?_record (by rfl) (by decide) 3 (levels + 4)
  unfold ofJson?
  rw [hrecord]
  dsimp only
  rw [Json.list?_array (fun p _ => Path.ofJson?_toJson p levels),
    Json.list?_array (fun c _ => ClassId.ofJson?_toJson c),
    Wait.ofJson?_toJson]
  rfl

theorem depth_toJson_le (t : SaveTables) : t.toJson.depth ≤ 5 := by
  have hwait : t.wait.toJson.depth ≤ 4 :=
    Nat.le_trans t.wait.depth_toJson_le (by decide)
  apply (Json.depth_record_le_iff _ 4).mpr
  simp [Json.depth_array_map_le_iff, Path.depth_toJson_le, ClassId.toJson,
    hwait]

@[simp] theorem written_toJson (t : SaveTables) : t.toJson.Written := by
  apply Json.written_record
  simp [Json.written_array_map]

end SaveTables

/-!
## Globals
-/

namespace NameTable

variable {Item : Type}

theorem write_of_greatest {name : String} (item : Item)
    {entries : List (String × Item)}
    (h : forall entry, entry ∈ entries -> entry.1 < name) :
    write name item entries = entries ++ [(name, item)] := by
  induction entries with
  | nil => rfl
  | cons first rest ih =>
      obtain ⟨n, old⟩ := first
      have hless : n < name := h (n, old) List.mem_cons_self
      have hne : n ≠ name := by
        intro heq
        rw [heq] at hless
        exact String.lt_irrefl name hless
      have hnot : ¬ name < n := String.lt_asymm hless
      rw [write, if_neg hne, if_neg hnot,
        ih (fun entry hmem => h entry (List.mem_cons_of_mem _ hmem)),
        List.cons_append]

theorem entries_foldl_put {more : List (String × Item)}
    (t : NameTable Item)
    (h : (t.entries ++ more).Pairwise (fun a b => a.1 < b.1)) :
    (more.foldl (fun t entry => t.put entry.1 entry.2) t).entries =
      t.entries ++ more := by
  induction more generalizing t with
  | nil => rw [List.foldl_nil, List.append_nil]
  | cons entry rest ih =>
      have hwrite : (t.put entry.1 entry.2).entries =
          t.entries ++ [entry] := by
        apply write_of_greatest
        intro other hmem
        exact (List.pairwise_append.mp h).2.2 other hmem entry
          List.mem_cons_self
      rw [List.foldl_cons, ih, hwrite, List.append_assoc,
        List.singleton_append]
      rw [hwrite, List.append_assoc, List.singleton_append]
      exact h

theorem ofList_entries (t : NameTable Item) : ofList t.entries = t := by
  have hentries : (ofList t.entries).entries = t.entries :=
    entries_foldl_put empty t.ascending
  cases hlist : ofList t.entries with
  | mk entries hascending =>
      rw [hlist] at hentries
      cases t
      cases hentries
      rfl

end NameTable

namespace Snapshot

def globalsDocument (s : Snapshot) : Json :=
  .object (s.globals.entries.map (fun g => (some g.1, g.2.toJson)))

def globalOf? (levels : Nat) (m : JsonText × Json) :
    Option (String × SavedValue) := do
  some (← m.1, ← SavedValue.ofJson? .direct levels m.2)

theorem globals?_globalsDocument_eq (s : Snapshot) (levels : Nat) :
    globals? (levels + 1) s.globalsDocument =
      ((s.globals.entries.map (fun g => (some g.1, g.2.toJson))).mapM
        (globalOf? levels)).map .ofList := by
  unfold globals? globalsDocument
  rw [Option.map_eq_bind]
  rfl

theorem globals?_of_read {s : Snapshot} {levels : Nat}
    (h : forall g, g ∈ s.globals.entries ->
      SavedValue.ofJson? .direct levels g.2.toJson = some g.2) :
    globals? (levels + 1) s.globalsDocument = some s.globals := by
  have hread : forall g, g ∈ s.globals.entries ->
      globalOf? levels (some g.1, g.2.toJson) = some g := by
    intro g hmem
    unfold globalOf?
    rw [h g hmem]
    rfl
  rw [globals?_globalsDocument_eq, mapM_map_eq_self hread, Option.map_some,
    s.globals.ofList_entries]

theorem globals?_of_refused {s : Snapshot} {levels : Nat}
    {g : String × SavedValue} (hmem : g ∈ s.globals.entries)
    (h : SavedValue.ofJson? .direct levels g.2.toJson = none) :
    globals? (levels + 1) s.globalsDocument = none := by
  have hrefused : globalOf? levels (some g.1, g.2.toJson) = none := by
    unfold globalOf?
    rw [h]
    rfl
  rw [globals?_globalsDocument_eq, mapM_map_eq_none hmem hrefused]
  rfl

/-!
## Snapshots
-/

theorem written_globalsDocument (s : Snapshot) :
    s.globalsDocument.Written := by
  apply Json.Written.object
  · intro m hmem
    rcases List.mem_map.mp hmem with ⟨g, _, rfl⟩
    rfl
  · intro m hmem
    rcases List.mem_map.mp hmem with ⟨g, _, rfl⟩
    exact g.2.written_toJson

theorem written_toJson (s : Snapshot) : s.toJson.Written := by
  have hglobals := s.written_globalsDocument
  unfold globalsDocument at hglobals
  apply Json.written_record
  simp [hglobals]

theorem depth_toJson_le_iff (s : Snapshot) (levels : Nat) :
    s.toJson.depth ≤ levels + 6 ↔
      forall g, g ∈ s.globals.entries -> g.2.toJson.depth ≤ levels + 4 := by
  have htables : s.tables.toJson.depth ≤ levels + 5 :=
    Nat.le_trans s.tables.depth_toJson_le (Nat.le_add_left 5 levels)
  have hglobals : s.globalsDocument.depth ≤ levels + 5 ↔
      forall g, g ∈ s.globals.entries -> g.2.toJson.depth ≤ levels + 4 := by
    rw [globalsDocument, Json.depth, Nat.add_le_add_iff_right,
      Json.memberDepth_le_iff]
    constructor
    · intro h g hmem
      exact h (some g.1, g.2.toJson) (List.mem_map_of_mem hmem)
    · intro h m hmem
      rcases List.mem_map.mp hmem with ⟨g, hg, rfl⟩
      exact h g hg
  unfold toJson
  rw [Json.depth_record_le_iff, ← hglobals]
  simp [globalsDocument, htables]

theorem ofJson?_toJson (s : Snapshot) (levels : Nat) :
    ofJson? (levels + 6) s.toJson =
      (globals? (levels + 5) s.globalsDocument).map (fun globals =>
        ⟨globals, s.tables⟩) := by
  have hrecord : s.toJson.record? ["globals", "storage"] 2 (levels + 6) =
      some (levels + 5, [some s.globalsDocument, some s.tables.toJson]) :=
    Json.record?_record (by rfl) (by decide) 2 (levels + 5)
  unfold ofJson?
  rw [hrecord]
  dsimp only
  rw [s.tables.ofJson?_toJson]
  cases globals? (levels + 5) s.globalsDocument <;> rfl

theorem ofText?_toText (s : Snapshot) :
    ofText? s.toText =
      (globals? (nestingLimit - 1) s.globalsDocument).map (fun globals =>
        ⟨globals, s.tables⟩) := by
  unfold ofText? toText
  rw [s.written_toJson.parse?_print, Option.bind_some]
  exact s.ofJson?_toJson 121

/--
The text of a snapshot is read as that snapshot, if its doubles are read back
and it is not nested too deeply.  A double that is not finite, or deeper nesting,
makes the text unreadable.
-/
theorem text_loses_nothing (s : Snapshot) :
    ((forall x, x ∈ s.floats -> x.ReadsBack) ->
      (forall token, token ∈ s.tokens -> token.Fits) ->
      s.toJson.depth ≤ nestingLimit ->
      ofText? s.toText = some s) ∧
    ((exists x, x ∈ s.floats ∧ x.isFinite = false) ∨
        nestingLimit < s.toJson.depth ->
      ofText? s.toText = none) := by
  rw [ofText?_toText]
  constructor
  · intro hfloats htokens hdepth
    have hvalues := (s.depth_toJson_le_iff 121).mp hdepth
    have hread : globals? 126 s.globalsDocument = some s.globals := by
      apply globals?_of_read
      intro g hmem
      apply SavedValue.ofJson?_toJson
      · intro x hx
        exact hfloats x (List.mem_flatMap.mpr ⟨g, hmem, hx⟩)
      · intro token htoken
        exact htokens token (List.mem_flatMap.mpr ⟨g, hmem, htoken⟩)
      · exact hvalues g hmem
    exact congrArg (Option.map _) hread
  · intro hbad
    have hrefused : exists g, g ∈ s.globals.entries ∧
        SavedValue.ofJson? .direct 125 g.2.toJson = none := by
      rcases hbad with ⟨x, hx, hfinite⟩ | hdepth
      · rcases List.mem_flatMap.mp hx with ⟨g, hmem, hg⟩
        exact ⟨g, hmem, SavedValue.ofJson?_of_not_finite hg hfinite 125⟩
      · have hnot : ¬ forall g, g ∈ s.globals.entries ->
            g.2.toJson.depth ≤ 125 := by
          intro hvalues
          exact Nat.not_le.mpr hdepth
            ((s.depth_toJson_le_iff 121).mpr hvalues)
        rcases Classical.not_forall.mp hnot with ⟨g, hg⟩
        rcases Classical.not_imp.mp hg with ⟨hmem, hg⟩
        exact ⟨g, hmem,
          SavedValue.ofJson?_of_depth_gt (Nat.lt_of_not_le hg)⟩
    rcases hrefused with ⟨g, hmem, hg⟩
    have hnone : globals? 126 s.globalsDocument = none :=
      globals?_of_refused hmem hg
    exact congrArg (Option.map _) hnone

/-- Globals of every kind, one of them under a name that has to be escaped. -/
def motley : Snapshot :=
  ⟨.ofList
      [("a \"quoted\"\n", .array [.float ⟨0x3FB999999999999A⟩,
          .array [.string "\x01 \\ é", .nil], .bool true]),
        ("handle", .handle (.object 0 "Lamp")),
        ("least", .int Int64.minValue),
        ("member", .member "describe" (.reflected (.reference 1))
          (.reference 0) "Lamp")],
    ⟨[⟨⟨0, 0⟩, [⟨1, 2⟩]⟩], [⟨5⟩, ⟨0xFFFFFFFFFFFFFFFF⟩],
      .begun 7 (some 100)⟩⟩

def notANumber : Snapshot :=
  ⟨.ofList [("x", .float ⟨0x7FF8000000000000⟩)], .empty⟩

theorem text_loses_nothing_motley :
    (forall x, x ∈ motley.floats -> x.ReadsBack) ∧
      (forall token, token ∈ motley.tokens -> token.Fits) ∧
      motley.toJson.depth ≤ nestingLimit ∧
      ofText? motley.toText = some motley ∧
      (exists x, x ∈ notANumber.floats ∧ x.isFinite = false) ∧
      ofText? notANumber.toText = none := by
  have hfloats : motley.floats = [⟨0x3FB999999999999A⟩] := by
    decide +kernel
  have htokens : motley.tokens =
      [.object 0 "Lamp", .reference 1, .reference 0] := by
    decide +kernel
  have hread : forall x, x ∈ motley.floats -> x.ReadsBack := by
    intro x hx
    rw [hfloats, List.mem_singleton] at hx
    subst hx
    unfold Double.ReadsBack
    decide +kernel
  have hfit : forall token, token ∈ motley.tokens -> token.Fits := by
    intro token htoken
    rw [htokens] at htoken
    simp only [List.mem_cons, List.not_mem_nil, or_false] at htoken
    rcases htoken with rfl | rfl | rfl
    · exact (by decide : 0 < UInt64.size)
    · exact (by decide : 1 < UInt64.size)
    · exact (by decide : 0 < UInt64.size)
  have hdepth : motley.toJson.depth ≤ nestingLimit := by
    decide +kernel
  have hnaN : exists x, x ∈ notANumber.floats ∧ x.isFinite = false :=
    ⟨⟨0x7FF8000000000000⟩, by decide +kernel, by decide +kernel⟩
  exact ⟨hread, hfit, hdepth,
    (text_loses_nothing motley).1 hread hfit hdepth, hnaN,
    (text_loses_nothing notANumber).2 (Or.inl hnaN)⟩

end Snapshot

end ScriptBridge
