/-!
# Name tables

A name table is a finite map from names that is always listed in the order of
the names, compared character by character.  Two name tables with the same
names and items are therefore equal, however they were filled.  The globals of
a script and the globals of a saved script are name tables.
-/

namespace ScriptBridge

structure NameTable (Item : Type) where
  entries : List (String × Item)
  ascending : entries.Pairwise (fun a b => a.1 < b.1)

namespace NameTable

variable {Item : Type}

def empty : NameTable Item :=
  ⟨[], List.Pairwise.nil⟩

instance : Inhabited (NameTable Item) :=
  ⟨empty⟩

def names (t : NameTable Item) : List String :=
  t.entries.map Prod.fst

def size (t : NameTable Item) : Nat :=
  t.entries.length

/-!
## Reading and writing
-/

def find (name : String) : List (String × Item) -> Option Item
  | [] => none
  | (n, item) :: rest => if n = name then some item else find name rest

def get? (t : NameTable Item) (name : String) : Option Item :=
  find name t.entries

/-- Write an item at the place of its name. -/
def write (name : String) (item : Item) :
    List (String × Item) -> List (String × Item)
  | [] => [(name, item)]
  | (n, old) :: rest =>
      if n = name then (n, item) :: rest
      else if name < n then (name, item) :: (n, old) :: rest
      else (n, old) :: write name item rest

theorem mem_write {name : String} {item : Item}
    {entries : List (String × Item)} {entry : String × Item}
    (h : entry ∈ write name item entries) :
    entry = (name, item) ∨ entry ∈ entries := by
  induction entries with
  | nil => simpa [write] using h
  | cons first rest ih =>
      obtain ⟨n, old⟩ := first
      by_cases hn : n = name
      · subst hn
        rw [write, if_pos rfl, List.mem_cons] at h
        rcases h with h | h
        · exact Or.inl h
        · exact Or.inr (List.mem_cons_of_mem _ h)
      · by_cases hlt : name < n
        · rw [write, if_neg hn, if_pos hlt, List.mem_cons] at h
          exact h
        · rw [write, if_neg hn, if_neg hlt, List.mem_cons] at h
          rcases h with h | h
          · exact Or.inr (h ▸ List.mem_cons_self)
          · rcases ih h with h | h
            · exact Or.inl h
            · exact Or.inr (List.mem_cons_of_mem _ h)

theorem name_lt_of_not_lt {a b : String} (hne : a ≠ b) (h : ¬ b < a) :
    a < b := by
  rcases Std.lt_trichotomy a b with h' | h' | h'
  · exact h'
  · exact absurd h' hne
  · exact absurd h' h

theorem ascending_write (name : String) (item : Item)
    {entries : List (String × Item)}
    (h : entries.Pairwise (fun a b => a.1 < b.1)) :
    (write name item entries).Pairwise (fun a b => a.1 < b.1) := by
  induction entries with
  | nil => simp [write]
  | cons first rest ih =>
      obtain ⟨n, old⟩ := first
      rw [List.pairwise_cons] at h
      by_cases hn : n = name
      · subst hn
        rw [write, if_pos rfl, List.pairwise_cons]
        exact h
      · by_cases hlt : name < n
        · rw [write, if_neg hn, if_pos hlt, List.pairwise_cons,
            List.pairwise_cons]
          refine ⟨?_, h⟩
          intro entry hmem
          rcases List.mem_cons.1 hmem with rfl | hmem
          · exact hlt
          · exact String.lt_trans hlt (h.1 entry hmem)
        · rw [write, if_neg hn, if_neg hlt, List.pairwise_cons]
          refine ⟨?_, ih h.2⟩
          intro entry hmem
          rcases mem_write hmem with rfl | hmem
          · exact name_lt_of_not_lt hn hlt
          · exact h.1 entry hmem

def put (t : NameTable Item) (name : String) (item : Item) : NameTable Item :=
  ⟨write name item t.entries, ascending_write name item t.ascending⟩

def erase (t : NameTable Item) (name : String) : NameTable Item :=
  ⟨t.entries.filter (fun entry => entry.1 ≠ name),
    t.ascending.sublist List.filter_sublist⟩

/-- The table of a list of entries; of two entries under one name the later one counts. -/
def ofList (entries : List (String × Item)) : NameTable Item :=
  entries.foldl (fun t entry => t.put entry.1 entry.2) empty

/-!
## Items of another kind under the same names

Items are visited in the order of the names.
-/

theorem ascending_of_names {Other : Type} {entries : List (String × Item)}
    {others : List (String × Other)}
    (hnames : others.map Prod.fst = entries.map Prod.fst)
    (h : entries.Pairwise (fun a b => a.1 < b.1)) :
    others.Pairwise (fun a b => a.1 < b.1) := by
  have hmap : (entries.map Prod.fst).Pairwise (· < ·) := List.pairwise_map.2 h
  rw [← hnames] at hmap
  exact List.pairwise_map.1 hmap

/-- Replace items one after the other, passing a state along. -/
def mapEntries {State Other : Type} (f : State -> Item -> Other × State) :
    State -> List (String × Item) -> List (String × Other) × State
  | s, [] => ([], s)
  | s, (name, item) :: rest =>
      let (other, s') := f s item
      let (others, s'') := mapEntries f s' rest
      ((name, other) :: others, s'')

theorem names_mapEntries {State Other : Type}
    (f : State -> Item -> Other × State) (s : State)
    (entries : List (String × Item)) :
    (mapEntries f s entries).1.map Prod.fst = entries.map Prod.fst := by
  induction entries generalizing s with
  | nil => rfl
  | cons entry rest ih =>
      rw [mapEntries, List.map_cons, List.map_cons, ih]

/-- The same names with every item replaced, passing a state along. -/
def mapState {State Other : Type} (f : State -> Item -> Other × State)
    (s : State) (t : NameTable Item) : NameTable Other × State :=
  (⟨(mapEntries f s t.entries).1,
      ascending_of_names (names_mapEntries f s t.entries) t.ascending⟩,
    (mapEntries f s t.entries).2)

/-- Replace items one after the other until one cannot be replaced. -/
def tryEntries {Cause Other : Type} (f : Item -> Except Cause Other) :
    List (String × Item) -> Except Cause (List (String × Other))
  | [] => .ok []
  | (name, item) :: rest =>
      match f item with
      | .error cause => .error cause
      | .ok other =>
          match tryEntries f rest with
          | .error cause => .error cause
          | .ok others => .ok ((name, other) :: others)

theorem names_tryEntries {Cause Other : Type} (f : Item -> Except Cause Other)
    {entries : List (String × Item)} {others : List (String × Other)}
    (h : tryEntries f entries = .ok others) :
    others.map Prod.fst = entries.map Prod.fst := by
  induction entries generalizing others with
  | nil =>
      cases h
      rfl
  | cons entry rest ih =>
      rw [tryEntries] at h
      cases hitem : f entry.2 with
      | error cause =>
          rw [hitem] at h
          cases h
      | ok other =>
          cases hrest : tryEntries f rest with
          | error cause =>
              rw [hitem, hrest] at h
              cases h
          | ok more =>
              rw [hitem, hrest] at h
              cases h
              rw [List.map_cons, List.map_cons, ih hrest]

/-- The same names with every item replaced, unless one cannot be; the first cause counts. -/
def tryMap {Cause Other : Type} (f : Item -> Except Cause Other)
    (t : NameTable Item) : Except Cause (NameTable Other) :=
  match h : tryEntries f t.entries with
  | .error cause => .error cause
  | .ok others =>
      .ok ⟨others, ascending_of_names (names_tryEntries f h) t.ascending⟩

end NameTable

end ScriptBridge
