import Mathlib.Data.List.Forall2
import ScriptBridge.Conversion
import ScriptBridge.Proofs.Resaving
import ScriptBridge.Proofs.Widening

/-!
# Values as host data, and back

Reading a value as data of a host type loses little: an integer that is read as a
number becomes a float, and a number that is read as a single is rounded.  The
value that is written back is read as the same data again.  Nil stands for the
missing data of every option, and so it is decisive that nothing else is ever
written back as nil.

A value that cannot be read has a first position, from left to right, that is of
the wrong type or out of range, and the error is the one of that position.
-/

namespace ScriptBridge

/-!
## Values that came back
-/

namespace Value

inductive Rounded : Value -> Value -> Prop where
  | float (x : Double) : Rounded (.float x) (.float x.toSingle.toDouble)
  | int (n : Int64) :
      Rounded (.int n) (.float (Single.ofInt n.toInt).toDouble)

inductive Floated : Value -> Value -> Prop where
  | float (x : Double) : Floated (.float x) (.float x)
  | int (n : Int64) : Floated (.int n) (.float (Double.ofInt n.toInt))

inductive NilOr (related : Value -> Value -> Prop) :
    Value -> Value -> Prop where
  | nil : NilOr related .nil .nil
  | other {v w : Value} (hv : v ≠ .nil) (hw : w ≠ .nil)
      (hrelated : related v w) : NilOr related v w

inductive Itemwise (related : Value -> Value -> Prop) :
    Value -> Value -> Prop where
  | array {before after : List Value}
      (hrelated : List.Forall₂ related before after) :
      Itemwise related (.array before) (.array after)

end Value

namespace HostType

/-- What a value has become when it was read as data of a type and written back. -/
def Settles : HostType -> Value -> Value -> Prop
  | .int _ => Eq
  | .single => Value.Rounded
  | .double => Value.Floated
  | .bool => Eq
  | .string => Eq
  | .handle => Eq
  | .value => Eq
  | .option t => Value.NilOr t.Settles
  | .list t => Value.Itemwise t.Settles

theorem Settles.ne_nil {t : HostType} {v w : Value}
    (hsettles : t.Settles v w) (hv : v ≠ .nil) : w ≠ .nil := by
  cases t with
  | single => cases hsettles <;> exact Value.noConfusion
  | double => cases hsettles <;> exact Value.noConfusion
  | option t =>
      cases hsettles with
      | nil => exact absurd rfl hv
      | other _ hw _ => exact hw
  | list t =>
      cases hsettles
      exact Value.noConfusion
  | _ =>
      cases hsettles
      exact hv

theorem read_option {t : HostType} {v : Value} (hv : v ≠ .nil) :
    (HostType.option t).read v = (t.read v).map some := by
  cases v with
  | nil => exact absurd rfl hv
  | _ => rfl

/-- Data of a value, written back, is the settled value and is read as the same data. -/
structure Returns (t : HostType) (v : Value) (data : t.Data) : Prop where
  settles : t.Settles v (t.toValue data)
  read_toValue : t.read (t.toValue data) = .ok data

theorem returns_items {t : HostType}
    (ih : forall {v data}, t.read v = .ok data -> t.Returns v data)
    {values : List Value} {items : List t.Data}
    (hread : values.mapM t.read = .ok items) :
    List.Forall₂ t.Settles values (items.map t.toValue) ∧
    (items.map t.toValue).mapM t.read = .ok items := by
  induction values generalizing items with
  | nil =>
      cases hread
      exact ⟨.nil, rfl⟩
  | cons v rest ihRest =>
      rw [List.mapM_cons] at hread
      rcases exists_of_bind_eq_ok hread with ⟨first, hfirst, hnext⟩
      rcases exists_of_bind_eq_ok hnext with ⟨more, hmore, heq⟩
      cases heq
      rcases ihRest hmore with ⟨hsettle, hback⟩
      have hv := ih hfirst
      refine ⟨.cons hv.settles hsettle, ?_⟩
      rw [List.map_cons, List.mapM_cons, hv.read_toValue, hback]
      rfl

theorem returns_of_read {t : HostType} {v : Value} {data : t.Data}
    (hread : t.read v = .ok data) : t.Returns v data := by
  induction t generalizing v with
  | int t =>
      cases v with
      | int n =>
          rw [read] at hread
          split at hread
          · next hholds =>
              cases hread
              exact ⟨rfl, dif_pos hholds⟩
          · cases hread
      | _ => cases hread
  | single =>
      cases v with
      | float x =>
          cases hread
          exact ⟨.float x, congrArg Except.ok x.toSingle.toSingle_toDouble⟩
      | int n =>
          cases hread
          exact ⟨.int n, congrArg Except.ok (Single.toSingle_toDouble _)⟩
      | _ => cases hread
  | double =>
      cases v with
      | float x =>
          cases hread
          exact ⟨.float _, rfl⟩
      | int n =>
          cases hread
          exact ⟨.int n, rfl⟩
      | _ => cases hread
  | bool =>
      cases v with
      | bool b =>
          cases hread
          exact ⟨rfl, rfl⟩
      | _ => cases hread
  | string =>
      cases v with
      | string text =>
          cases hread
          exact ⟨rfl, rfl⟩
      | _ => cases hread
  | handle =>
      cases v with
      | handle h =>
          cases hread
          exact ⟨rfl, rfl⟩
      | _ => cases hread
  | value =>
      cases hread
      exact ⟨rfl, rfl⟩
  | option t ih =>
      by_cases hnil : v = .nil
      · subst hnil
        cases hread
        exact ⟨.nil, rfl⟩
      · rw [read_option hnil] at hread
        rcases exists_of_map_eq_ok hread with ⟨found, hfound, rfl⟩
        have hreturns := ih hfound
        have hback : t.toValue found ≠ .nil :=
          hreturns.settles.ne_nil hnil
        refine ⟨.other hnil hback hreturns.settles, ?_⟩
        rw [toValue, read_option hback, hreturns.read_toValue]
        rfl
  | list t ih =>
      cases v with
      | array values =>
          rcases returns_items ih hread with ⟨hsettle, hback⟩
          exact ⟨.array hsettle, hback⟩
      | _ => cases hread

/-!
## What cannot be read
-/

def accepts : HostType -> Value -> Bool
  | .int _, .int _ => true
  | .single, .float _ => true
  | .single, .int _ => true
  | .double, .float _ => true
  | .double, .int _ => true
  | .bool, .bool _ => true
  | .string, .string _ => true
  | .handle, .handle _ => true
  | .value, _ => true
  | .option _, .nil => true
  | .option t, v => t.accepts v
  | .list _, .array _ => true
  | _, _ => false

def asked : HostType -> String
  | .int _ => "int"
  | .single => "float"
  | .double => "float"
  | .bool => "bool"
  | .string => "string"
  | .handle => "handle"
  | .value => "value"
  | .option t => t.asked
  | .list _ => "array"

end HostType

/-- A value inside of a value, and the type in which it is to be read. -/
structure Position where
  type : HostType
  value : Value

namespace Position

/-- What is wrong at a position: the type of its value, or the size of its integer. -/
def fault? : Position -> Option ConversionError
  | ⟨.int t, .int n⟩ =>
      if t.Holds n then none else some (.integerOverflow n t.name)
  | ⟨t, v⟩ =>
      if t.accepts v then none
      else some (.typeMismatch t.asked v.typeName)

end Position

namespace HostType

/-- The positions of a value that is to be read, from left to right. -/
def positions : HostType -> Value -> List Position
  | .option _, .nil => []
  | .option t, v => t.positions v
  | .list t, .array items => items.flatMap t.positions
  | t, v => [⟨t, v⟩]

theorem findSome?_flatMap {Item Part Found : Type} (items : List Item)
    (parts : Item -> List Part) (find : Part -> Option Found) :
    (items.flatMap parts).findSome? find =
      items.findSome? (fun item => (parts item).findSome? find) := by
  induction items with
  | nil => rfl
  | cons item rest ih =>
      rw [List.flatMap_cons, List.findSome?_append, ih, List.findSome?_cons]
      cases (parts item).findSome? find <;> rfl

def refusal? {Cause Result : Type} : Except Cause Result -> Option Cause
  | .ok _ => none
  | .error cause => some cause

theorem refusal?_map {Cause First Second : Type}
    (first : Except Cause First) (f : First -> Second) :
    refusal? (first.map f) = refusal? first := by
  cases first <;> rfl

theorem refusal?_mapM {Cause Item Other : Type}
    (f : Item -> Except Cause Other) (items : List Item) :
    refusal? (items.mapM f) =
      items.findSome? (fun item => refusal? (f item)) := by
  induction items with
  | nil => rfl
  | cons item rest ih =>
      rw [List.mapM_cons, List.findSome?_cons]
      cases f item with
      | error cause => rfl
      | ok other =>
          change refusal? (rest.mapM f >>= fun more => .ok (other :: more)) =
            rest.findSome? (fun item => refusal? (f item))
          rw [← ih]
          cases rest.mapM f <;> rfl

theorem refusal?_read (t : HostType) (v : Value) :
    refusal? (t.read v) = (t.positions v).findSome? Position.fault? := by
  induction t generalizing v with
  | int t =>
      cases v with
      | int n =>
          rw [read]
          split
          · next hholds => simp [positions, Position.fault?, refusal?, hholds]
          · next hholds => simp [positions, Position.fault?, refusal?, hholds]
      | _ => rfl
  | option t ih =>
      by_cases hnil : v = .nil
      · subst hnil
        rfl
      · rw [read_option hnil, refusal?_map, ih, positions]
        exact hnil
  | list t ih =>
      cases v with
      | array items =>
          rw [read, positions, refusal?_mapM, findSome?_flatMap]
          exact congrArg (fun f => items.findSome? f) (funext ih)
      | _ => rfl
  | _ => cases v <;> rfl

theorem read_eq_error_iff (t : HostType) (v : Value)
    (cause : ConversionError) :
    t.read v = .error cause ↔
      (t.positions v).findSome? Position.fault? = some cause := by
  rw [← refusal?_read]
  cases t.read v with
  | error found => simp [refusal?]
  | ok data => simp [refusal?]

/--
Data that was read is read again from the value that it is written back as.  A
value is refused for its first faulty position and for nothing else.
-/
theorem read_settled (t : HostType) (v : Value) :
    (forall data, t.read v = .ok data -> t.Returns v data) ∧
    forall cause, t.read v = .error cause ↔
      exists before p after, t.positions v = before ++ p :: after ∧
        p.fault? = some cause ∧
        forall earlier, earlier ∈ before -> earlier.fault? = none := by
  refine ⟨fun data hread => returns_of_read hread, ?_⟩
  intro cause
  rw [read_eq_error_iff, List.findSome?_eq_some_iff]

/-- The first of two faults is met before the array ends. -/
example :
    refusal? ((HostType.list (.option (.int .u8))).read
      (.array [.nil, .int 7, .int 256, .bool true])) =
      some (.integerOverflow 256 "u8") := by
  decide +kernel

end HostType

end ScriptBridge
