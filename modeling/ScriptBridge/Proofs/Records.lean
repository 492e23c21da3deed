import ScriptBridge.Json.Fields
import ScriptBridge.Proofs.Parsing
import ScriptBridge.Proofs.Shortest

/-!
# Written data is read

What a writer of data makes is written well, and what a reader makes of it is
what was written.  A record gives back its members under their names; numbers,
words and texts give themselves back.  A list is read back if each of its items
is, and is refused if one of them is.
-/

namespace ScriptBridge

/-!
## Lists
-/

theorem mapM_map_eq_some {Data Written Read : Type} {write : Data -> Written}
    {read : Written -> Option Read} {f : Data -> Read} {items : List Data}
    (h : forall item, item ∈ items -> read (write item) = some (f item)) :
    (items.map write).mapM read = some (items.map f) := by
  induction items with
  | nil => rfl
  | cons item others ih =>
      have hitem := h item List.mem_cons_self
      have hothers := ih (fun j hmem => h j (List.mem_cons_of_mem item hmem))
      rw [List.map_cons, List.mapM_cons, hitem, hothers]
      rfl

theorem mapM_map_eq_self {Data Written : Type} {write : Data -> Written}
    {read : Written -> Option Data} {items : List Data}
    (h : forall item, item ∈ items -> read (write item) = some item) :
    (items.map write).mapM read = some items := by
  have hitems := mapM_map_eq_some (f := id) h
  rw [List.map_id] at hitems
  exact hitems

theorem mapM_map_eq_none {Data Written Read : Type} {write : Data -> Written}
    {read : Written -> Option Read} {items : List Data} {item : Data}
    (hmem : item ∈ items) (h : read (write item) = none) :
    (items.map write).mapM read = none := by
  induction items with
  | nil => cases hmem
  | cons first others ih =>
      rw [List.map_cons, List.mapM_cons]
      rcases List.mem_cons.mp hmem with rfl | hmem
      · rw [h]
        rfl
      · rw [ih hmem]
        cases read (write first) <;> rfl

namespace Json

theorem list?_array {Data : Type} {write : Data -> Json}
    {read : Nat -> Json -> Option Data} {items : List Data} {levels : Nat}
    (h : forall item, item ∈ items -> read levels (write item) = some item) :
    (Json.array (items.map write)).list? (levels + 1) read = some items :=
  mapM_map_eq_self h

/-!
## Nesting
-/

theorem itemDepth_le_iff (items : List Json) (levels : Nat) :
    itemDepth items ≤ levels ↔
      forall item, item ∈ items -> item.depth ≤ levels := by
  induction items with
  | nil => simp [itemDepth]
  | cons item others ih =>
      rw [itemDepth, Nat.max_le, ih]
      simp

theorem memberDepth_le_iff (members : List (JsonText × Json))
    (levels : Nat) :
    memberDepth members ≤ levels ↔
      forall m, m ∈ members -> m.2.depth ≤ levels := by
  induction members with
  | nil => simp [memberDepth]
  | cons m others ih =>
      rw [memberDepth, Nat.max_le, ih]
      simp

theorem depth_record_le_iff (members : List (String × Json))
    (levels : Nat) :
    (Json.record members).depth ≤ levels + 1 ↔
      forall m, m ∈ members -> m.2.depth ≤ levels := by
  rw [record, depth, Nat.add_le_add_iff_right, memberDepth_le_iff]
  constructor
  · intro h m hmem
    exact h (some m.1, m.2) (List.mem_map_of_mem hmem)
  · intro h m hmem
    rcases List.mem_map.mp hmem with ⟨member, hmember, rfl⟩
    exact h member hmember

theorem depth_array_map_le_iff {Data : Type} (write : Data -> Json)
    (items : List Data) (levels : Nat) :
    (Json.array (items.map write)).depth ≤ levels + 1 ↔
      forall item, item ∈ items -> (write item).depth ≤ levels := by
  rw [depth, Nat.add_le_add_iff_right, itemDepth_le_iff]
  simp

@[simp] theorem depth_ofNat (n : Nat) : (Json.ofNat n).depth = 0 :=
  rfl

@[simp] theorem depth_ofInteger (n : Int64) : (Json.ofInteger n).depth = 0 :=
  rfl

@[simp] theorem depth_ofText (text : String) : (Json.ofText text).depth = 0 :=
  rfl

@[simp] theorem depth_bool (b : Bool) : (Json.bool b).depth = 0 :=
  rfl

@[simp] theorem depth_ofDouble (x : Double) : (Json.ofDouble x).depth = 0 := by
  unfold ofDouble
  split <;> rfl

/-!
## Written documents
-/

theorem written_record {members : List (String × Json)}
    (h : forall m, m ∈ members -> m.2.Written) :
    (Json.record members).Written := by
  apply Written.object
  · intro m hmem
    rcases List.mem_map.mp hmem with ⟨entry, hentry, rfl⟩
    rfl
  · intro m hmem
    rcases List.mem_map.mp hmem with ⟨entry, hentry, rfl⟩
    exact h entry hentry

theorem written_array_map {Data : Type} {write : Data -> Json}
    {items : List Data}
    (h : forall item, item ∈ items -> (write item).Written) :
    (Json.array (items.map write)).Written := by
  apply Written.array
  intro j hmem
  rcases List.mem_map.mp hmem with ⟨item, hitem, rfl⟩
  exact h item hitem

@[simp] theorem written_bool (b : Bool) : (Json.bool b).Written :=
  Written.bool b

@[simp] theorem written_ofText (text : String) : (Json.ofText text).Written :=
  Written.string text

@[simp] theorem written_ofNat (n : Nat) : (Json.ofNat n).Written :=
  Written.number (JsonNumber.written_ofNat n)

@[simp] theorem written_ofInteger (n : Int64) : (Json.ofInteger n).Written :=
  Written.number (JsonNumber.written_ofInt n.toInt)

@[simp] theorem written_ofDouble (x : Double) : (Json.ofDouble x).Written := by
  unfold ofDouble
  split
  · next hfinite => exact Written.number (JsonNumber.written_ofDouble hfinite)
  · exact Written.null

/-!
## Records
-/

theorem namesReadable_record (members : List (String × Json)) :
    namesReadable (members.map (fun m => (some m.1, m.2))) = true := by
  unfold namesReadable
  simp

theorem member?_record {members : List (String × Json)}
    (hnodup : (members.map Prod.fst).Nodup) {m : String × Json}
    (hmem : m ∈ members) :
    member? (members.map (fun m => (some m.1, m.2))) m.1 =
      some (some m.2) := by
  have hfilter : (members.map (fun m => (some m.1, m.2))).filter
      (fun other : JsonText × Json => other.1 = some m.1) =
        [(some m.1, m.2)] := by
    induction members with
    | nil => cases hmem
    | cons first others ih =>
        rw [List.map_cons, List.nodup_cons] at hnodup
        rw [List.map_cons, List.filter_cons]
        rcases List.mem_cons.mp hmem with rfl | hmem
        · have hnone : (others.map (fun m => (some m.1, m.2))).filter
              (fun other : JsonText × Json => other.1 = some m.1) = [] := by
            rw [List.filter_eq_nil_iff]
            intro other hother
            rcases List.mem_map.mp hother with ⟨entry, hentry, rfl⟩
            intro heq
            apply hnodup.1
            rw [← Option.some.inj (of_decide_eq_true heq)]
            exact List.mem_map_of_mem hentry
          rw [hnone]
          simp
        · have hne : first.1 ≠ m.1 := by
            intro heq
            apply hnodup.1
            rw [heq]
            exact List.mem_map_of_mem hmem
          rw [ih hnodup.2 hmem]
          simp [hne]
  unfold member?
  rw [hfilter]

theorem members?_record {members : List (String × Json)}
    {names : List String} (hnames : members.map Prod.fst = names)
    (hnodup : names.Nodup) :
    members? (members.map (fun m => (some m.1, m.2))) names =
      some (members.map (fun m => some m.2)) := by
  subst hnames
  unfold members?
  rw [namesReadable_record, if_pos rfl]
  exact mapM_map_eq_some (fun m hmem => member?_record hnodup hmem)

theorem record?_record {members : List (String × Json)}
    {names : List String} (hnames : members.map Prod.fst = names)
    (hnodup : names.Nodup) (least levels : Nat) :
    record? names least (levels + 1) (.record members) =
      some (levels, members.map (fun m => some m.2)) := by
  unfold record? record
  dsimp only
  rw [members?_record hnames hnodup]
  rfl

/-!
## Numbers
-/

theorem natural?_ofNat {n bound : Nat} (hn : n < bound)
    (hbound : bound ≤ UInt64.size) :
    (Json.ofNat n).natural? bound = some n := by
  unfold natural? numeral? ofNat
  dsimp only
  rw [JsonNumber.numeral?_ofNat (Nat.lt_of_lt_of_le hn hbound)]
  exact if_pos hn

theorem word?_ofNat (w : UInt64) :
    (Json.ofNat w.toNat).word? = some w := by
  unfold word?
  rw [natural?_ofNat w.toNat_lt_size (Nat.le_refl _), Option.map_some,
    UInt64.ofNat_toNat]

theorem halfWord?_ofNat (w : UInt32) :
    (Json.ofNat w.toNat).halfWord? = some w := by
  unfold halfWord?
  rw [natural?_ofNat w.toNat_lt_size (by decide), Option.map_some,
    UInt32.ofNat_toNat]

theorem integer?_ofInteger (n : Int64) :
    (Json.ofInteger n).integer? = some n := by
  have hlow : -2 ^ 63 ≤ n.toInt := n.le_toInt
  have hhigh : n.toInt < 2 ^ 63 := n.toInt_lt
  unfold integer? numeral? ofInteger
  dsimp only
  rcases Int.lt_or_le n.toInt 0 with hneg | hnonneg
  · have hfits : n.toInt.natAbs ≤ 0x8000000000000000 := by omega
    have hvalue : -(n.toInt.natAbs : Int) = n.toInt := by omega
    rw [JsonNumber.numeral?_ofInt_of_neg hneg hfits]
    dsimp only
    rw [hvalue, Int64.ofInt_toInt]
  · have hfits : n.toInt.natAbs < 0x8000000000000000 := by omega
    have hword : n.toInt.natAbs < UInt64.size :=
      Nat.lt_trans hfits (by decide)
    have hvalue : (n.toInt.natAbs : Int) = n.toInt := by omega
    rw [JsonNumber.numeral?_ofInt_of_nonneg hnonneg hword]
    dsimp only
    rw [if_pos hfits, ← Int64.ofInt_eq_ofNat, hvalue, Int64.ofInt_toInt]

/-- A double that is not finite is not read back at all. -/
theorem double?_ofDouble_of_not_finite {x : Double}
    (h : x.isFinite = false) : (Json.ofDouble x).double? = none := by
  unfold ofDouble
  rw [h]
  rfl

/-!
## Keeping
-/

theorem readable_ofNat {n : Nat} (hn : n < UInt64.size) :
    (Json.ofNat n).readable = true := by
  unfold ofNat readable
  rw [JsonNumber.numeral?_ofNat hn]
  rfl

@[simp] theorem readable_ofText (text : String) :
    (Json.ofText text).readable = true :=
  rfl

theorem readable_record {members : List (String × Json)}
    (h : forall m, m ∈ members -> m.2.readable = true) :
    (Json.record members).readable = true := by
  unfold record readable
  induction members with
  | nil => rfl
  | cons m others ih =>
      rw [List.map_cons, membersReadable, h m List.mem_cons_self,
        ih (fun entry hmem => h entry (List.mem_cons_of_mem m hmem))]
      rfl

theorem keepable_of_readable {j : Json} {levels : Nat}
    (hreadable : j.readable = true) (hdepth : j.depth ≤ levels) :
    j.keepable levels = true := by
  unfold keepable
  rw [hreadable, decide_eq_true hdepth]
  rfl

theorem keepable_of_depth_gt {j : Json} {levels : Nat}
    (h : levels < j.depth) : j.keepable levels = false := by
  unfold keepable
  rw [decide_eq_false (Nat.not_le.mpr h), Bool.and_false]

end Json

end ScriptBridge
