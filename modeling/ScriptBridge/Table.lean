/-!
# Tables

A table is a finite map kept in the order in which its keys first appeared.
Every table of the bridge is one of these: the classes of a catalog, the types
a registry exposes, the members of a class, the call locks, the fields of an
object.  The key column never repeats a key, so the number of entries is the
number of keys, and a table is read through `Table.get?` alone.
-/

namespace ScriptBridge

structure Table (Key : Type) (Item : Type) where
  entries : List (Key × Item)
  keys_nodup : (entries.map Prod.fst).Nodup

namespace Table

variable {Key Item : Type}

instance : Inhabited (Table Key Item) :=
  ⟨⟨[], List.nodup_nil⟩⟩

def empty : Table Key Item :=
  ⟨[], List.nodup_nil⟩

def keys (t : Table Key Item) : List Key :=
  t.entries.map Prod.fst

def size (t : Table Key Item) : Nat :=
  t.entries.length

def isEmpty (t : Table Key Item) : Bool :=
  t.entries.isEmpty

variable [DecidableEq Key]

/-!
## Reading
-/

def find (key : Key) : List (Key × Item) -> Option Item
  | [] => none
  | (k, item) :: rest => if k = key then some item else find key rest

def get? (t : Table Key Item) (key : Key) : Option Item :=
  find key t.entries

def getD (t : Table Key Item) (key : Key) (fallback : Item) : Item :=
  (t.get? key).getD fallback

def contains (t : Table Key Item) (key : Key) : Bool :=
  (t.get? key).isSome

theorem find_isSome_iff (key : Key) (entries : List (Key × Item)) :
    (find key entries).isSome = true ↔ key ∈ entries.map Prod.fst := by
  induction entries with
  | nil => simp [find]
  | cons entry rest ih =>
      obtain ⟨k, item⟩ := entry
      by_cases h : k = key
      · simp [find, h]
      · simp [find, h, ih, Ne.symm h]

theorem contains_iff (t : Table Key Item) (key : Key) :
    t.contains key = true ↔ key ∈ t.keys :=
  find_isSome_iff key t.entries

theorem find_eq_some_iff {entries : List (Key × Item)}
    (h : (entries.map Prod.fst).Nodup) (key : Key) (item : Item) :
    find key entries = some item ↔ (key, item) ∈ entries := by
  induction entries with
  | nil => simp [find]
  | cons entry rest ih =>
      obtain ⟨k, first⟩ := entry
      rw [List.map_cons, List.nodup_cons] at h
      by_cases hk : k = key
      · subst hk
        have hrest : (k, item) ∉ rest := by
          intro hmem
          exact h.1 (List.mem_map.mpr ⟨(k, item), hmem, rfl⟩)
        simp [find, hrest, eq_comm]
      · simp [find, hk, Ne.symm hk, ih h.2]

theorem get?_eq_some_iff (t : Table Key Item) (key : Key) (item : Item) :
    t.get? key = some item ↔ (key, item) ∈ t.entries :=
  find_eq_some_iff t.keys_nodup key item

/-!
## Writing

An item written under a known key takes the place of the old one; a new key
goes to the end.
-/

/-- Write an item under a key of a list of entries. -/
def write (key : Key) (item : Item) : List (Key × Item) -> List (Key × Item)
  | [] => [(key, item)]
  | (k, old) :: rest =>
      if k = key then (k, item) :: rest else (k, old) :: write key item rest

theorem mem_keys_write (key : Key) (item : Item) (entries : List (Key × Item))
    (k : Key) :
    k ∈ (write key item entries).map Prod.fst ↔
      k = key ∨ k ∈ entries.map Prod.fst := by
  induction entries with
  | nil => simp [write]
  | cons entry rest ih =>
      obtain ⟨k', old⟩ := entry
      by_cases h : k' = key
      · subst h
        simp [write]
      · simp only [write, if_neg h, List.map_cons, List.mem_cons, ih]
        constructor
        · rintro (rfl | rfl | hk)
          · exact Or.inr (Or.inl rfl)
          · exact Or.inl rfl
          · exact Or.inr (Or.inr hk)
        · rintro (rfl | rfl | hk)
          · exact Or.inr (Or.inl rfl)
          · exact Or.inl rfl
          · exact Or.inr (Or.inr hk)

theorem nodup_keys_write (key : Key) (item : Item)
    (entries : List (Key × Item)) (h : (entries.map Prod.fst).Nodup) :
    ((write key item entries).map Prod.fst).Nodup := by
  induction entries with
  | nil => simp [write]
  | cons entry rest ih =>
      obtain ⟨k, old⟩ := entry
      rw [List.map_cons, List.nodup_cons] at h
      by_cases hk : k = key
      · subst hk
        rw [write, if_pos rfl, List.map_cons, List.nodup_cons]
        exact h
      · rw [write, if_neg hk, List.map_cons, List.nodup_cons]
        refine ⟨?_, ih h.2⟩
        rw [mem_keys_write]
        rintro (hkey | hmem)
        · exact hk hkey
        · exact h.1 hmem

def put (t : Table Key Item) (key : Key) (item : Item) : Table Key Item :=
  ⟨write key item t.entries, nodup_keys_write key item t.entries t.keys_nodup⟩

def erase (t : Table Key Item) (key : Key) : Table Key Item :=
  ⟨t.entries.filter (fun entry => entry.1 ≠ key),
    List.Nodup.sublist (List.filter_sublist.map Prod.fst) t.keys_nodup⟩

/-!
## What reading says after writing
-/

@[simp] theorem get?_empty (key : Key) :
    (empty : Table Key Item).get? key = none :=
  rfl

theorem find_write (key other : Key) (item : Item)
    (entries : List (Key × Item)) :
    find other (write key item entries) =
      if other = key then some item else find other entries := by
  induction entries with
  | nil =>
      by_cases h : other = key
      · simp [write, find, h]
      · simp [write, find, h, Ne.symm h]
  | cons entry rest ih =>
      obtain ⟨k, old⟩ := entry
      by_cases hk : k = key
      · subst hk
        by_cases h : other = k
        · simp [write, find, h]
        · simp [write, find, h, Ne.symm h]
      · by_cases h : k = other
        · subst h
          simp [write, find, hk]
        · simp only [write, if_neg hk, find, if_neg h, ih]

theorem get?_put (t : Table Key Item) (key other : Key) (item : Item) :
    (t.put key item).get? other =
      if other = key then some item else t.get? other :=
  find_write key other item t.entries

@[simp] theorem get?_put_self (t : Table Key Item) (key : Key) (item : Item) :
    (t.put key item).get? key = some item := by
  simp [get?_put]

/-- What is found after a write was written, or it was there before. -/
theorem get?_put_cases {t : Table Key Item} {key other : Key}
    {item found : Item} (h : (t.put key item).get? other = some found) :
    (other = key ∧ item = found) ∨ t.get? other = some found := by
  rw [get?_put] at h
  by_cases hother : other = key
  · rw [if_pos hother] at h
    exact Or.inl ⟨hother, Option.some.inj h⟩
  · rw [if_neg hother] at h
    exact Or.inr h

theorem find_filter_ne (key other : Key) (entries : List (Key × Item)) :
    find other (entries.filter (fun entry => entry.1 ≠ key)) =
      if other = key then none else find other entries := by
  induction entries with
  | nil => simp [find]
  | cons entry rest ih =>
      obtain ⟨k, item⟩ := entry
      by_cases hk : k = key
      · subst hk
        by_cases h : other = k
        · simpa [h] using ih
        · simpa [find, h, Ne.symm h] using ih
      · by_cases h : k = other
        · subst h
          simp [find, hk]
        · simpa [find, hk, h] using ih

theorem get?_erase (t : Table Key Item) (key other : Key) :
    (t.erase key).get? other =
      if other = key then none else t.get? other :=
  find_filter_ne key other t.entries

end Table

end ScriptBridge
