import ScriptBridge.Proofs.Results

/-!
# What a slot may hold

A frame does not keep the declared types of its parameters.  A write is compared
with the value that the slot holds at the moment, and only by kind.  Still every
slot keeps the kind of its type through all writes, so whether a write is accepted
depends on the declaration alone, and not on what was written before.

For all types but arrays the kind is the whole type.  The items of an array are
never looked at: an array slot holds a value of its type exactly if the last array
that was written to it is one.
-/

namespace ScriptBridge

/--
A value of a declared type; an array is one if all its items are.  Whether an
object or a class is a required one is not asked: a frame knows no classes.
-/
inductive NativeType.Has : NativeType -> NativeValue -> Prop where
  | bool (b : Bool) : Has .bool (.bool b)
  | int (n : Int64) : Has .int (.int n)
  | float (x : Double) : Has .float (.float x)
  | string (text : String) : Has .string (.string text)
  | object (required : Option ClassId) (r : Option ObjectRef) :
      Has (.object required) (.object r)
  | cls (required c : Option ClassId) : Has (.cls required) (.cls c)
  | array {element : NativeType} {items : List NativeValue} :
      (forall item, item ∈ items -> Has element item) ->
      Has (.array element) (.array items)

namespace NativeType

theorem has_blank (type : NativeType) : type.Has type.blank := by
  cases type with
  | bool => exact .bool false
  | int => exact .int 0
  | float => exact .float .zero
  | string => exact .string ""
  | object required => exact .object required none
  | cls required => exact .cls required none
  | array element =>
      apply Has.array
      intro item hmem
      cases hmem

theorem has_of_kind {type : NativeType} {v : NativeValue}
    (hscalar : type.kind ≠ .array) (hkind : v.kind = type.kind) :
    type.Has v := by
  cases type with
  | bool =>
      cases v with
      | bool b => exact .bool b
      | _ => cases hkind
  | int =>
      cases v with
      | int n => exact .int n
      | _ => cases hkind
  | float =>
      cases v with
      | float x => exact .float x
      | _ => cases hkind
  | string =>
      cases v with
      | string text => exact .string text
      | _ => cases hkind
  | object required =>
      cases v with
      | object r => exact .object required r
      | _ => cases hkind
  | cls required =>
      cases v with
      | cls c => exact .cls required c
      | _ => cases hkind
  | array element => exact absurd rfl hscalar

end NativeType

/-!
## Writes
-/

inductive SlotWrite where
  | slot (index : Nat) (v : NativeValue)
  | result (v : NativeValue)

namespace SlotWrite

def value : SlotWrite -> NativeValue
  | slot _ v => v
  | result v => v

def perform (f : Frame) : SlotWrite -> Except NativeError Unit × Frame
  | slot index v => f.set index v
  | result v => f.setReturn v

def place? (parameters : List Parameter) : SlotWrite -> Option Nat
  | slot index _ => some index
  | result _ => parameters.findIdx? (fun p => p.role.result)

/-- What the declaration says of a write: it is accepted, or why it is refused. -/
def verdict (parameters : List Parameter) (w : SlotWrite) :
    Except NativeError Unit :=
  match w.place? parameters with
  | none => .error .noReturn
  | some i =>
      match parameters[i]? with
      | none => .error (.indexOutOfBounds i parameters.length)
      | some p =>
          if p.type.kind = w.value.kind then .ok ()
          else .error (.wrongType i p.type.kind.name w.value.kind.name)

def written? (parameters : List Parameter) (i : Nat) (w : SlotWrite) :
    Option NativeValue :=
  match w.verdict parameters with
  | .ok () => if w.place? parameters = some i then some w.value else none
  | .error _ => none

def lastWritten? (parameters : List Parameter) (writes : List SlotWrite)
    (i : Nat) : Option NativeValue :=
  (writes.filterMap (written? parameters i)).getLast?

end SlotWrite

namespace Frame

/-!
## One write
-/

structure Keeps (f : Frame) (parameters : List Parameter) : Prop where
  carries : f.Carries parameters
  kinds : f.kinds = parameters.map (fun p => p.type.kind)

theorem keeps_ofParameters (parameters : List Parameter) :
    (ofParameters parameters).Keeps parameters :=
  ⟨List.map_map, kinds_ofParameters parameters⟩

namespace Keeps

variable {f : Frame} {parameters : List Parameter} (h : f.Keeps parameters)
include h

theorem width : f.width = parameters.length := by
  have hlength := congrArg List.length h.carries
  rw [List.length_map, List.length_map] at hlength
  exact hlength

theorem slot {i : Nat} {p : Parameter} (hp : parameters[i]? = some p) :
    exists v, f.slots[i]? = some ⟨p.role, v⟩ ∧ v.kind = p.type.kind := by
  have hrole := congrArg (fun roles => roles[i]?) h.carries
  have hkind := congrArg (fun kinds => kinds[i]?) h.kinds
  simp only [Frame.kinds, List.getElem?_map, hp, Option.map_some] at hrole hkind
  rcases Option.map_eq_some_iff.mp hrole with ⟨⟨role, v⟩, hslot, rfl⟩
  rw [hslot] at hkind
  exact ⟨v, hslot, Option.some.inj hkind⟩

theorem perform_eq (w : SlotWrite) :
    w.perform f =
      match w.place? parameters with
      | some index => f.set index w.value
      | none => (.error .noReturn, f) := by
  cases w with
  | slot index v => rfl
  | result v => exact h.carries.setReturn_eq v

/-- The answer to a write depends on the declaration alone. -/
theorem answer (w : SlotWrite) :
    (w.perform f).1 = w.verdict parameters := by
  rw [h.perform_eq, SlotWrite.verdict]
  cases w.place? parameters with
  | none => rfl
  | some index =>
      dsimp only
      rw [set]
      cases hp : parameters[index]? with
      | none =>
          have hslot : f.slots[index]? = none := by
            rw [List.getElem?_eq_none_iff] at hp ⊢
            exact Nat.le_trans (Nat.le_of_eq h.width) hp
          rw [hslot, h.width]
      | some p =>
          rcases h.slot hp with ⟨old, hslot, hkind⟩
          rw [hslot]
          dsimp only
          rw [hkind]
          split <;> rfl

theorem refused {w : SlotWrite} {cause : NativeError}
    (herror : (w.perform f).1 = .error cause) : (w.perform f).2 = f := by
  rw [h.perform_eq] at herror ⊢
  cases hplace : w.place? parameters with
  | none => rfl
  | some index =>
      rw [hplace] at herror
      exact set_of_error herror

theorem slots_perform (w : SlotWrite) (k : Nat) :
    (w.perform f).2.slots[k]? =
      f.slots[k]?.map (fun slot =>
        { slot with value := (w.written? parameters k).getD slot.value }) := by
  have hanswer := h.answer w
  rw [h.perform_eq] at hanswer ⊢
  rw [SlotWrite.written?]
  cases hplace : w.place? parameters with
  | none =>
      rw [hplace] at hanswer
      rw [← hanswer]
      simp only [Option.getD_none, Option.map_id_fun', id_eq]
  | some index =>
      rw [hplace] at hanswer
      dsimp only at hanswer ⊢
      rw [← hanswer]
      cases hset : (f.set index w.value).1 with
      | error cause =>
          rw [set_of_error hset]
          simp only [Option.getD_none, Option.map_id_fun', id_eq]
      | ok done =>
          rw [slots_set_of_ok hset]
          congr 1
          funext slot
          by_cases hk : index = k
          · simp only [hk, if_true, Option.getD_some]
          · simp only [if_neg hk, Option.some.injEq, Option.getD_none]

theorem perform (w : SlotWrite) : (w.perform f).2.Keeps parameters := by
  refine ⟨h.carries.of_slots (h.slots_perform w), ?_⟩
  rw [h.perform_eq]
  cases w.place? parameters with
  | none => exact h.kinds
  | some index => exact (kinds_set f index w.value).trans h.kinds

end Keeps

/-!
## All writes
-/

/-- Writes one after the other, whichever of them are refused. -/
def writeAll (f : Frame) : List SlotWrite -> Frame
  | [] => f
  | w :: rest => writeAll (w.perform f).2 rest

namespace Keeps

variable {f : Frame} {parameters : List Parameter}

theorem writeAll (h : f.Keeps parameters) (writes : List SlotWrite) :
    (f.writeAll writes).Keeps parameters := by
  induction writes generalizing f with
  | nil => exact h
  | cons w rest ih => exact ih (h.perform w)

theorem slots_writeAll (h : f.Keeps parameters) (writes : List SlotWrite)
    (k : Nat) :
    (f.writeAll writes).slots[k]? =
      f.slots[k]?.map (fun slot =>
        { slot with
          value := (SlotWrite.lastWritten? parameters writes k).getD
            slot.value }) := by
  induction writes generalizing f with
  | nil =>
      simp only [Frame.writeAll, SlotWrite.lastWritten?, List.filterMap_nil,
        List.getLast?_nil, Option.getD_none, Option.map_id_fun', id_eq]
  | cons w rest ih =>
      have hrest := ih (h.perform w)
      rw [Frame.writeAll, hrest, h.slots_perform, Option.map_map]
      congr 1
      funext slot
      dsimp only [Function.comp]
      rw [SlotWrite.lastWritten?, SlotWrite.lastWritten?,
        List.filterMap_cons]
      -- What the first write leaves is what the others fall back on.
      cases w.written? parameters k with
      | none => rfl
      | some v =>
          rw [List.getLast?_cons, Option.getD_some, Option.getD_some]

end Keeps

/-!
## The law
-/

/-- What holds of a frame after some writes to one that was made for the parameters. -/
structure KeptThrough (parameters : List Parameter)
    (writes : List SlotWrite) (f : Frame) : Prop where
  /-- As many slots as parameters, with their roles and in their order. -/
  carries : f.Carries parameters
  answer (w : SlotWrite) : (w.perform f).1 = w.verdict parameters
  refused {w : SlotWrite} {cause : NativeError} :
    (w.perform f).1 = .error cause -> (w.perform f).2 = f
  /-- A slot holds the last value that was accepted for it, or the blank one. -/
  holds {i : Nat} {p : Parameter} : parameters[i]? = some p ->
    f.slots[i]? = some ⟨p.role,
      (SlotWrite.lastWritten? parameters writes i).getD p.type.blank⟩
  kind {i : Nat} {p : Parameter} {slot : FrameSlot} :
    parameters[i]? = some p -> f.slots[i]? = some slot ->
    slot.value.kind = p.type.kind
  scalar {i : Nat} {p : Parameter} {slot : FrameSlot} :
    parameters[i]? = some p -> f.slots[i]? = some slot ->
    p.type.kind ≠ .array -> p.type.Has slot.value
  /-- What was accepted decides whether a slot holds a value of its type. -/
  has_iff {i : Nat} {p : Parameter} {slot : FrameSlot} :
    parameters[i]? = some p -> f.slots[i]? = some slot ->
    (p.type.Has slot.value ↔
      forall v, SlotWrite.lastWritten? parameters writes i = some v ->
        p.type.Has v)

/--
Through all writes the slots of a frame stay as many and carry the roles of their
parameters, refused writes change nothing, and every slot holds a value of the
kind of its type.  It holds a value of the type itself if that is not an array, and
else exactly if the last array that was accepted for it is one of the type, or none
was.
-/
theorem kept_through_writes (parameters : List Parameter)
    (writes : List SlotWrite) :
    KeptThrough parameters writes
      ((ofParameters parameters).writeAll writes) := by
  have hstart := keeps_ofParameters parameters
  have hkeeps := hstart.writeAll writes
  have hholds {i : Nat} {p : Parameter} (hp : parameters[i]? = some p) :
      ((ofParameters parameters).writeAll writes).slots[i]? = some ⟨p.role,
        (SlotWrite.lastWritten? parameters writes i).getD p.type.blank⟩ := by
    rw [hstart.slots_writeAll, TypeTable.slots_ofParameters hp]
    rfl
  have hkind {i : Nat} {p : Parameter} {slot : FrameSlot}
      (hp : parameters[i]? = some p)
      (hslot : ((ofParameters parameters).writeAll writes).slots[i]? =
        some slot) : slot.value.kind = p.type.kind := by
    rcases hkeeps.slot hp with ⟨v, hv, hkind⟩
    rw [hslot] at hv
    cases hv
    exact hkind
  refine ⟨hkeeps.carries, hkeeps.answer, hkeeps.refused, hholds, hkind,
    ?_, ?_⟩
  · intro i p slot hp hslot hscalar
    exact NativeType.has_of_kind hscalar (hkind hp hslot)
  · intro i p slot hp hslot
    rw [hholds hp, Option.some.injEq] at hslot
    rw [← hslot]
    cases SlotWrite.lastWritten? parameters writes i with
    | none =>
        constructor
        · intro _ v hv
          cases hv
        · intro _
          exact p.type.has_blank
    | some last => simp only [Option.getD_some, Option.some.injEq,
        forall_eq']

def tallying : List Parameter :=
  [.input "count" .int, .returns (.array .int)]

/-- A number, and a text among numbers. -/
def mixed : NativeValue :=
  .array [.int 1, .string "mixed"]

/-- An array of numbers takes a text among its items, and the text is handed back. -/
theorem mixed_array_is_kept :
    tallying[1]? = some (.returns (.array .int)) ∧
    ((SlotWrite.result mixed).perform (ofParameters tallying)).1 = .ok () ∧
    ((ofParameters tallying).writeAll [.result mixed]).slots[1]? =
      some ⟨.returned, mixed⟩ ∧
    ((ofParameters tallying).writeAll [.result mixed]).outputs =
      [(1, mixed)] ∧
    ¬ (NativeType.array .int).Has mixed := by
  refine ⟨rfl, rfl, rfl, rfl, ?_⟩
  intro hhas
  cases hhas with
  | array hitems =>
      have hitem := hitems (.string "mixed")
        (List.mem_cons_of_mem _ List.mem_cons_self)
      cases hitem

end Frame

end ScriptBridge
