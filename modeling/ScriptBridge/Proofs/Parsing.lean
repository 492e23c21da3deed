import ScriptBridge.Json.Reader
import ScriptBridge.Proofs.Scanning

/-!
# Printed documents are parsed

A document whose numbers are written well and whose texts can be read comes back
from its printed form as it was, however deep it is.  Scanning gives its lexemes
back, and putting them together gives it to whatever is still open around it.
-/

namespace ScriptBridge

namespace Json

inductive Written : Json -> Prop where
  | null : Written .null
  | bool (b : Bool) : Written (.bool b)
  | number {n : JsonNumber} : n.Written -> Written (.number n)
  | string (text : String) : Written (.string (some text))
  | array {items : List Json} :
      (forall item, item ∈ items -> Written item) -> Written (.array items)
  | object {members : List (JsonText × Json)} :
      (forall m, m ∈ members -> m.1.isSome = true) ->
      (forall m, m ∈ members -> Written m.2) -> Written (.object members)

/-!
## Scanning
-/

open Scanning

/-- The lexemes of a document are scanned wherever a number may end. -/
def Scannable (j : Json) : Prop :=
  forall rest, Ends rest -> Scans j.lexemes rest

theorem scans_itemLexemes {items : List Json}
    (h : forall item, item ∈ items -> item.Scannable) {rest : List Char}
    (hends : Ends rest) : Scans (itemLexemes items) rest := by
  induction items with
  | nil => exact Scans.nil rest
  | cons item others ih =>
      have hitem := h item List.mem_cons_self
      have hothers := ih (fun j hmem => h j (List.mem_cons_of_mem item hmem))
      cases others with
      | nil => exact hitem rest hends
      | cons next more =>
          rw [itemLexemes]
          apply Scans.append
          · exact hitem _ (Ends.comma _)
          · exact Scans.cons (scans_mark rfl rfl _) hothers

theorem scans_memberLexemes {members : List (JsonText × Json)}
    (hnames : forall m, m ∈ members -> m.1.isSome = true)
    (h : forall m, m ∈ members -> m.2.Scannable) {rest : List Char}
    (hends : Ends rest) : Scans (memberLexemes members) rest := by
  induction members with
  | nil => exact Scans.nil rest
  | cons m others ih =>
      obtain ⟨name, item⟩ := m
      have hitem : item.Scannable := h (name, item) List.mem_cons_self
      have hname : name.isSome = true := hnames (name, item) List.mem_cons_self
      rcases Option.isSome_iff_exists.mp hname with ⟨text, rfl⟩
      have hothers := ih
        (fun m hmem => hnames m (List.mem_cons_of_mem _ hmem))
        (fun m hmem => h m (List.mem_cons_of_mem _ hmem))
      cases others with
      | nil =>
          rw [memberLexemes]
          apply Scans.cons (scans_text text _)
          exact Scans.cons (scans_mark rfl rfl _) (hitem rest hends)
      | cons next more =>
          rw [memberLexemes]
          apply Scans.cons (scans_text text _)
          apply Scans.cons (scans_mark rfl rfl _)
          apply Scans.append
          · exact hitem _ (Ends.comma _)
          · exact Scans.cons (scans_mark rfl rfl _) hothers

theorem Written.scannable {j : Json} (h : j.Written) : j.Scannable := by
  induction h with
  | null =>
      intro rest hends
      exact scans_null rest
  | bool b =>
      intro rest hends
      exact scans_bool b rest
  | number hn =>
      intro rest hends
      exact scans_number hn hends
  | string text =>
      intro rest hends
      exact scans_text text rest
  | array hitems ih =>
      intro rest hends
      rw [lexemes]
      apply Scans.append
      · exact Scans.cons (scans_mark rfl rfl _)
          (scans_itemLexemes ih (Ends.array rest))
      · exact scans_mark rfl rfl rest
  | object hnames hmembers ih =>
      intro rest hends
      rw [lexemes]
      apply Scans.append
      · exact Scans.cons (scans_mark rfl rfl _)
          (scans_memberLexemes hnames ih (Ends.object rest))
      · exact scans_mark rfl rfl rest

theorem Written.scanJson_print {j : Json} (h : j.Written) :
    scanJson j.print = some j.lexemes := by
  have hscans := h.scannable [] Ends.text
  unfold Scans at hscans
  rw [List.append_nil] at hscans
  unfold scanJson print characters
  rw [String.toList_ofList, hscans]
  simp [run, finish]

end Json

/-!
## Putting together
-/

namespace Assembly

theorem run_append (a : Assembly) (lexemes more : List JsonLexeme) :
    a.run (lexemes ++ more) = (a.run lexemes).bind (fun b => b.run more) := by
  induction lexemes generalizing a with
  | nil => rfl
  | cons l rest ih =>
      rw [List.cons_append, run, run]
      cases a.step l with
      | none => rfl
      | some b => exact ih b

theorem run_singleton (a : Assembly) (l : JsonLexeme) :
    a.run [l] = a.step l := by
  rw [run]
  cases a.step l <;> rfl

end Assembly

namespace Json

open Assembly

/-- The lexemes of a document give it to what is open around it. -/
def Given (j : Json) : Prop :=
  forall outer, run (.value outer) j.lexemes = give j outer

theorem run_firstItem (item : Json) (others : List Json)
    (outer : List OpenJson) :
    run (.firstItem outer) (itemLexemes (item :: others)) =
      run (.value (.array [] :: outer)) (itemLexemes (item :: others)) := by
  have hfirst : exists l rest, item.lexemes = l :: rest ∧
      step (.firstItem outer) l = step (.value (.array [] :: outer)) l := by
    cases item with
    | null => exact ⟨_, _, rfl, rfl⟩
    | bool b => exact ⟨_, _, rfl, rfl⟩
    | number n => exact ⟨_, _, rfl, rfl⟩
    | string text => exact ⟨_, _, rfl, rfl⟩
    | array items => exact ⟨_, _, rfl, rfl⟩
    | object members => exact ⟨_, _, rfl, rfl⟩
  have hitems : exists more,
      itemLexemes (item :: others) = item.lexemes ++ more := by
    cases others with
    | nil => exact ⟨[], (List.append_nil _).symm⟩
    | cons next rest => exact ⟨_, rfl⟩
  rcases hfirst with ⟨l, rest, hl, hstep⟩
  rcases hitems with ⟨more, hmore⟩
  rw [hmore, hl, List.cons_append, run, run, hstep]

theorem run_itemLexemes {item : Json} {others : List Json}
    (h : forall j, j ∈ item :: others -> j.Given) (before : List Json)
    (outer : List OpenJson) :
    run (.value (.array before :: outer)) (itemLexemes (item :: others)) =
      some (.separator (.array ((item :: others).reverse ++ before))
        outer) := by
  induction others generalizing item before with
  | nil => exact h item List.mem_cons_self _
  | cons next rest ih =>
      have hitem := h item List.mem_cons_self (.array before :: outer)
      have hrest := ih
        (fun j hmem => h j (List.mem_cons_of_mem item hmem)) (item :: before)
      rw [itemLexemes, run_append, hitem]
      have hcomma : run (.separator (.array (item :: before)) outer)
          (.comma :: itemLexemes (next :: rest)) =
            run (.value (.array (item :: before) :: outer))
              (itemLexemes (next :: rest)) := rfl
      exact (hcomma.trans hrest).trans (by simp)

theorem given_array {items : List Json}
    (h : forall item, item ∈ items -> item.Given) :
    (Json.array items).Given := by
  intro outer
  have hopen : run (.value outer) (lexemes (.array items)) =
      run (.firstItem outer) (itemLexemes items ++ [.closeArray]) := by
    rw [lexemes]
    rfl
  rw [hopen]
  cases items with
  | nil =>
      exact run_singleton (.firstItem outer) .closeArray
  | cons item others =>
      rw [run_append, run_firstItem, run_itemLexemes h, Option.bind_some,
        List.append_nil, run_singleton, step, List.reverse_reverse]

theorem run_member (name : JsonText) {item : Json} (h : item.Given)
    (before : List (JsonText × Json)) (outer : List OpenJson) :
    run (.nextName before outer) (.string name :: .colon :: item.lexemes) =
      some (.separator (.object ((name, item) :: before)) outer) :=
  h (.member before name :: outer)

theorem run_memberLexemes {m : JsonText × Json}
    {others : List (JsonText × Json)}
    (h : forall entry, entry ∈ m :: others -> entry.2.Given)
    (before : List (JsonText × Json)) (outer : List OpenJson) :
    run (.nextName before outer) (memberLexemes (m :: others)) =
      some (.separator (.object ((m :: others).reverse ++ before))
        outer) := by
  induction others generalizing m before with
  | nil =>
      obtain ⟨name, item⟩ := m
      exact run_member name (h (name, item) List.mem_cons_self) before outer
  | cons next rest ih =>
      obtain ⟨name, item⟩ := m
      have hitem := run_member name (h (name, item) List.mem_cons_self)
        before outer
      have hrest := ih
        (fun entry hmem => h entry (List.mem_cons_of_mem _ hmem))
        ((name, item) :: before)
      have hsplit : memberLexemes ((name, item) :: next :: rest) =
          (.string name :: .colon :: item.lexemes) ++
            .comma :: memberLexemes (next :: rest) := by
        rw [memberLexemes]
      rw [hsplit, run_append, hitem]
      have hcomma :
          run (.separator (.object ((name, item) :: before)) outer)
            (.comma :: memberLexemes (next :: rest)) =
              run (.nextName ((name, item) :: before) outer)
                (memberLexemes (next :: rest)) := rfl
      exact (hcomma.trans hrest).trans (by simp)

theorem given_object {members : List (JsonText × Json)}
    (h : forall m, m ∈ members -> m.2.Given) :
    (Json.object members).Given := by
  intro outer
  have hopen : run (.value outer) (lexemes (.object members)) =
      run (.firstName outer) (memberLexemes members ++ [.closeObject]) := by
    rw [lexemes]
    rfl
  rw [hopen]
  cases members with
  | nil =>
      exact run_singleton (.firstName outer) .closeObject
  | cons m others =>
      have hfirst : run (.firstName outer) (memberLexemes (m :: others)) =
          run (.nextName [] outer) (memberLexemes (m :: others)) := by
        obtain ⟨name, item⟩ := m
        cases others <;> rfl
      rw [run_append, hfirst, run_memberLexemes h, Option.bind_some,
        List.append_nil, run_singleton, step, List.reverse_reverse]

theorem Written.given {j : Json} (h : j.Written) : j.Given := by
  induction h with
  | null => exact fun outer => run_singleton (.value outer) .null
  | bool b => exact fun outer => run_singleton (.value outer) (.bool b)
  | @number n hn => exact fun outer => run_singleton (.value outer) (.number n)
  | string text =>
      exact fun outer => run_singleton (.value outer) (.string (some text))
  | array hitems ih => exact given_array ih
  | object hnames hmembers ih => exact given_object ih

/-- A well written document is the one that its text holds. -/
theorem Written.parse?_print {j : Json} (h : j.Written) :
    parse? j.print = some j := by
  unfold parse?
  rw [h.scanJson_print, Option.bind_some, ofLexemes?, h.given []]
  rfl

end Json

end ScriptBridge
