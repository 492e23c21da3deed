import ScriptBridge.Proofs.Records
import ScriptBridge.Save.Format

/-!
# The written form of references and tokens

References, paths, waits, tokens and kinds are read back wherever there are
levels enough for their records.  A token is read through the fields that were
kept for it, so the declaring class of a native function counts its level twice
over: it has to be kept before it is read.
-/

namespace ScriptBridge

/-!
## Tokens and their positions
-/

def SavedKind.tokens : SavedKind -> List Token
  | .reflected declaring => [declaring]
  | _ => []

/-- A position that fits into a machine word, as every position does. -/
def Token.Fits (t : Token) : Prop :=
  t.id < UInt64.size

/-!
## References, paths and waits
-/

theorem ObjectRef.ofJson?_toJson (r : ObjectRef) (levels : Nat) :
    ObjectRef.ofJson? (levels + 1) r.toJson = some r := by
  have hrecord :
      r.toJson.record? ["index", "generation"] 2 (levels + 1) =
        some (levels, [some (.ofNat r.index.toNat),
          some (.ofNat r.generation.toNat)]) :=
    Json.record?_record (by rfl) (by decide) 2 levels
  unfold ofJson?
  rw [hrecord]
  dsimp only
  rw [Json.halfWord?_ofNat, Json.halfWord?_ofNat]
  rfl

@[simp] theorem ObjectRef.depth_toJson (r : ObjectRef) :
    r.toJson.depth = 1 :=
  rfl

@[simp] theorem ObjectRef.written_toJson (r : ObjectRef) :
    r.toJson.Written := by
  apply Json.written_record
  simp

theorem Path.ofJson?_toJson (p : Path) (levels : Nat) :
    Path.ofJson? (levels + 3) p.toJson = some p := by
  have hrecord :
      p.toJson.record? ["root", "hops"] 2 (levels + 3) =
        some (levels + 2, [some p.root.toJson,
          some (.array (p.hops.map ObjectRef.toJson))]) :=
    Json.record?_record (by rfl) (by decide) 2 (levels + 2)
  unfold ofJson?
  rw [hrecord]
  dsimp only
  rw [ObjectRef.ofJson?_toJson,
    Json.list?_array (fun r _ => ObjectRef.ofJson?_toJson r levels)]
  rfl

theorem Path.depth_toJson_le (p : Path) : p.toJson.depth ≤ 3 := by
  apply (Json.depth_record_le_iff _ 2).mpr
  simp [Json.depth_array_map_le_iff]

@[simp] theorem Path.written_toJson (p : Path) : p.toJson.Written := by
  apply Json.written_record
  simp [Json.written_array_map]

theorem ClassId.ofJson?_toJson (c : ClassId) :
    ClassId.ofJson? c.toJson = some c := by
  unfold ofJson? toJson
  rw [Json.word?_ofNat]
  rfl

@[simp] theorem ClassId.written_toJson (c : ClassId) : c.toJson.Written :=
  Json.written_ofNat c.word.toNat

theorem Wait.ofJson?_toJson (w : Wait) (levels : Nat) :
    Wait.ofJson? (levels + 1) w.toJson = some w := by
  have hrecord :
      w.toJson.record? ["pending", "startedAtMs", "timeoutMs"] 3
          (levels + 1) =
        some (levels, [some (.bool w.pending),
          some (.ofNat w.startedAt.toNat),
          some (.ofOption (fun t => .ofNat t.toNat) w.timeout)]) :=
    Json.record?_record (by rfl) (by decide) 3 levels
  have htimeout :
      (Json.ofOption (fun t : UInt64 => .ofNat t.toNat) w.timeout).optional?
        Json.word? = some w.timeout := by
    cases w.timeout with
    | none => rfl
    | some t =>
        have hword := Json.word?_ofNat t
        unfold Json.ofOption Json.ofNat at *
        rw [Json.optional?, hword]
        · rfl
        · intro heq
          cases heq
  unfold ofJson?
  rw [hrecord]
  dsimp only
  rw [Json.word?_ofNat, Option.getD_some, htimeout]
  rfl

theorem Wait.depth_toJson_le (w : Wait) : w.toJson.depth ≤ 1 := by
  apply (Json.depth_record_le_iff _ 0).mpr
  cases w.timeout <;> simp [Json.ofOption, Json.depth]

@[simp] theorem Wait.written_toJson (w : Wait) : w.toJson.Written := by
  apply Json.written_record
  cases w.timeout <;> simp [Json.ofOption, Json.Written.null]

/-!
## Tokens and kinds
-/

theorem splitKind?_record {fields : List (String × Json)}
    (hkind : "kind" ∉ fields.map Prod.fst) (kind : Json) :
    splitKind? ((("kind", kind) :: fields).map (fun m => (some m.1, m.2))) =
      some (kind, fields.map (fun m => (some m.1, m.2))) := by
  have hkept : (fields.map (fun m => (some m.1, m.2))).filter
      (fun m : JsonText × Json => decide (m.1 = some "kind")) = [] := by
    rw [List.filter_eq_nil_iff]
    intro m hmem
    rcases List.mem_map.mp hmem with ⟨field, hfield, rfl⟩
    intro heq
    apply hkind
    rw [← Option.some.inj (of_decide_eq_true heq)]
    exact List.mem_map_of_mem hfield
  have hothers : (fields.map (fun m => (some m.1, m.2))).filter
      (not ∘ fun m : JsonText × Json => decide (m.1 = some "kind")) =
        fields.map (fun m => (some m.1, m.2)) := by
    rw [List.filter_eq_self]
    intro m hmem
    have hnot := List.filter_eq_nil_iff.mp hkept m hmem
    simpa using hnot
  unfold splitKind?
  rw [List.partition_eq_filter_filter, List.map_cons,
    List.filter_cons_of_pos (by simp), List.filter_cons_of_neg (by simp),
    hkept, hothers]

theorem kindAndFields?_record {kinds : List String}
    {fieldNames : String -> List String} {levels : Nat} {name : String}
    {fields : List (String × Json)} (hkinds : kinds.contains name = true)
    (hnames : fields.map Prod.fst = fieldNames name)
    (hnodup : (fieldNames name).Nodup) (hkind : "kind" ∉ fieldNames name)
    (hkeep : forall m, m ∈ fields -> m.2.keepable levels = true)
    (reading : Reading) :
    kindAndFields? reading kinds fieldNames (levels + 1)
        (.record (("kind", .ofText name) :: fields)) =
      some (name, fields.map (fun m => some m.2)) := by
  rw [← hnames] at hkind
  have hkeepAll : (fields.map (fun m => (some m.1, m.2))).all
      (fun m : JsonText × Json => m.2.keepable levels) = true := by
    rw [List.all_map]
    exact List.all_eq_true.mpr hkeep
  have hread : kind? reading kinds (.ofText name) = some name := by
    unfold kind? Json.ofText
    dsimp only
    rw [if_pos hkinds]
  unfold kindAndFields? Json.record
  dsimp only
  rw [splitKind?_record hkind]
  dsimp only
  rw [Json.namesReadable_record, hkeepAll, hread, Bool.and_self, if_pos rfl,
    Option.bind_eq_bind, Option.bind_some,
    Json.members?_record hnames hnodup]
  rfl

theorem kindAndFields?_of_not_keepable {kinds : List String}
    {fieldNames : String -> List String} {levels : Nat} {name : String}
    {fields : List (String × Json)} (hkind : "kind" ∉ fields.map Prod.fst)
    {m : String × Json} (hmem : m ∈ fields)
    (hkeep : m.2.keepable levels = false) (reading : Reading) :
    kindAndFields? reading kinds fieldNames (levels + 1)
        (.record (("kind", .ofText name) :: fields)) = none := by
  have hkeepAll : (fields.map (fun m => (some m.1, m.2))).all
      (fun m : JsonText × Json => m.2.keepable levels) = false := by
    rw [List.all_map, List.all_eq_false]
    refine ⟨m, hmem, ?_⟩
    intro htrue
    rw [Function.comp_apply, hkeep] at htrue
    cases htrue
  unfold kindAndFields? Json.record
  dsimp only
  rw [splitKind?_record hkind]
  dsimp only
  rw [hkeepAll, Bool.and_false]
  rfl

namespace Token

theorem kindAndFields?_named (kind : String)
    (hkinds : kinds.contains kind = true)
    (hnames : fieldNames kind = ["id", "exposedTypeName"]) {id : Nat}
    (hid : id < UInt64.size) (typeName : String) (reading : Reading)
    (levels : Nat) :
    kindAndFields? reading kinds fieldNames (levels + 1)
        (.record [("kind", .ofText kind), ("id", .ofNat id),
          ("exposedTypeName", .ofText typeName)]) =
      some (kind, [some (.ofNat id), some (.ofText typeName)]) := by
  apply kindAndFields?_record hkinds
  · exact hnames.symm
  · rw [hnames]
    decide
  · rw [hnames]
    decide
  · intro m hmem
    simp only [List.mem_cons, List.not_mem_nil, or_false] at hmem
    rcases hmem with rfl | rfl
    · exact Json.keepable_of_readable (Json.readable_ofNat hid)
        (Nat.zero_le levels)
    · exact Json.keepable_of_readable rfl (Nat.zero_le levels)

theorem ofJson?_toJson {token : Token} (h : token.Fits)
    (reading : Reading) (levels : Nat) :
    ofJson? reading (levels + 1) token.toJson = some token := by
  have hnatural {id : Nat} (hid : id < UInt64.size) :
      (Json.ofNat id).natural? UInt64.size = some id :=
    Json.natural?_ofNat hid (Nat.le_refl _)
  unfold ofJson? toJson
  cases token with
  | object id typeName =>
      have hid : id < UInt64.size := h
      dsimp only
      rw [kindAndFields?_named "instance" rfl rfl hid]
      dsimp only
      rw [hnatural hid]
      rfl
  | cls id typeName =>
      have hid : id < UInt64.size := h
      dsimp only
      rw [kindAndFields?_named "classInstance" rfl rfl hid]
      dsimp only
      rw [hnatural hid]
      rfl
  | reference id =>
      have hid : id < UInt64.size := h
      have hfields : kindAndFields? reading kinds fieldNames (levels + 1)
          (.record [("kind", .ofText "reference"), ("id", .ofNat id)]) =
            some ("reference", [some (.ofNat id)]) := by
        apply kindAndFields?_record (by rfl) (by rfl) (by decide) (by decide)
        intro m hmem
        rw [List.mem_singleton.mp hmem]
        exact Json.keepable_of_readable (Json.readable_ofNat hid)
          (Nat.zero_le levels)
      dsimp only
      rw [hfields]
      dsimp only
      rw [hnatural hid]
      rfl

@[simp] theorem depth_toJson (token : Token) : token.toJson.depth = 1 := by
  cases token <;> rfl

@[simp] theorem written_toJson (token : Token) : token.toJson.Written := by
  cases token with
  | object id typeName =>
      apply Json.written_record
      simp
  | cls id typeName =>
      apply Json.written_record
      simp
  | reference id =>
      apply Json.written_record
      simp

theorem readable_toJson {token : Token} (h : token.Fits) :
    token.toJson.readable = true := by
  have hid : (Json.ofNat token.id).readable = true := Json.readable_ofNat h
  cases token with
  | object id typeName =>
      apply Json.readable_record
      simpa [Token.id] using hid
  | cls id typeName =>
      apply Json.readable_record
      simpa [Token.id] using hid
  | reference id =>
      apply Json.readable_record
      simpa [Token.id] using hid

theorem ofJson?_zero (reading : Reading) (token : Token) :
    ofJson? reading 0 token.toJson = none := by
  cases token <;> rfl

end Token

namespace SavedKind

theorem depth_pos (kind : SavedKind) : 0 < kind.toJson.depth := by
  cases kind <;> exact Nat.succ_pos _

@[simp] theorem written_toJson (kind : SavedKind) : kind.toJson.Written := by
  cases kind with
  | library =>
      apply Json.written_record
      simp
  | classLibrary =>
      apply Json.written_record
      simp
  | introspection =>
      apply Json.written_record
      simp
  | reflected declaring =>
      apply Json.written_record
      simp

theorem ofJson?_toJson {kind : SavedKind}
    (h : forall token, token ∈ kind.tokens -> token.Fits) {levels : Nat}
    (hdepth : kind.toJson.depth ≤ levels) (reading : Reading) :
    ofJson? reading levels kind.toJson = some kind := by
  obtain ⟨inner, rfl⟩ : exists inner, levels = inner + 1 :=
    Nat.exists_eq_add_one_of_ne_zero
      (Nat.ne_of_gt (Nat.lt_of_lt_of_le kind.depth_pos hdepth))
  have hbare (name : String) (hkinds : kinds.contains name = true)
      (hnames : fieldNames name = []) :
      kindAndFields? reading kinds fieldNames (inner + 1)
          (.record [("kind", .ofText name)]) = some (name, []) := by
    apply kindAndFields?_record hkinds
    · exact hnames.symm
    · rw [hnames]
      decide
    · rw [hnames]
      decide
    · intro m hmem
      cases hmem
  unfold ofJson? toJson
  cases kind with
  | library =>
      dsimp only
      rw [hbare "library" rfl rfl]
      rfl
  | classLibrary =>
      dsimp only
      rw [hbare "classLibrary" rfl rfl]
      rfl
  | introspection =>
      dsimp only
      rw [hbare "introspection" rfl rfl]
      rfl
  | reflected declaring =>
      have hfits : declaring.Fits := h declaring List.mem_cons_self
      have hinner : declaring.toJson.depth ≤ inner :=
        (Json.depth_record_le_iff _ inner).mp hdepth
          ("declaring", declaring.toJson)
          (List.mem_cons_of_mem _ List.mem_cons_self)
      have hfields : kindAndFields? reading kinds fieldNames (inner + 1)
          (.record [("kind", .ofText "reflected"),
            ("declaring", declaring.toJson)]) =
              some ("reflected", [some declaring.toJson]) := by
        apply kindAndFields?_record (by rfl) (by rfl) (by decide) (by decide)
        intro m hmem
        rw [List.mem_singleton.mp hmem]
        exact Json.keepable_of_readable (Token.readable_toJson hfits) hinner
      obtain ⟨deeper, rfl⟩ : exists deeper, inner = deeper + 1 := by
        rw [declaring.depth_toJson] at hinner
        exact Nat.exists_eq_add_one_of_ne_zero (Nat.ne_of_gt hinner)
      dsimp only
      rw [hfields]
      dsimp only
      rw [Nat.add_sub_cancel, Token.ofJson?_toJson hfits]
      rfl

theorem depth_le (kind : SavedKind) :
    kind.toJson.depth ≤ kind.tokens.length + 1 := by
  cases kind with
  | library => exact Nat.le_refl 1
  | classLibrary => exact Nat.le_refl 1
  | introspection => exact Nat.le_refl 1
  | reflected declaring =>
      apply (Json.depth_record_le_iff _ 1).mpr
      simp

theorem ofJson?_of_depth_gt {kind : SavedKind} {levels : Nat}
    (h : levels < kind.toJson.depth) (reading : Reading) :
    ofJson? reading levels kind.toJson = none := by
  cases levels with
  | zero => cases kind <;> rfl
  | succ inner =>
      have hle := Nat.lt_of_lt_of_le h kind.depth_le
      cases kind with
      | library => exact absurd hle (by simp [tokens])
      | classLibrary => exact absurd hle (by simp [tokens])
      | introspection => exact absurd hle (by simp [tokens])
      | reflected declaring =>
          have hinner : inner < declaring.toJson.depth := by
            rw [declaring.depth_toJson]
            exact Nat.lt_of_succ_lt_succ hle
          have hfields : kindAndFields? reading kinds fieldNames (inner + 1)
              (.record [("kind", .ofText "reflected"),
                ("declaring", declaring.toJson)]) = none :=
            kindAndFields?_of_not_keepable (by simp) List.mem_cons_self
              (Json.keepable_of_depth_gt hinner) reading
          unfold ofJson? toJson
          dsimp only
          rw [hfields]

end SavedKind

end ScriptBridge
