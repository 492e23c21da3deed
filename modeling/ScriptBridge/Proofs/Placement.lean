import ScriptBridge.Proofs.Fitting

/-!
# Where arguments land

Only inputs take arguments, each the next one, so two counts run at different
speeds through the declaration of a native function: the place of a parameter,
and the number of the inputs so far.  The frame of a call is described by both.
The slot of an input holds the converted argument of the input's number, every
other slot is blank, and the only refusal is that of the first input that cannot
convert its argument.
-/

namespace ScriptBridge

/-- The inputs among declared parameters, in order, each with its place. -/
def Parameter.inputs (parameters : List Parameter) :
    List (Parameter × Nat) :=
  parameters.zipIdx.filter (fun entry => entry.1.role.isInput)

namespace Frame

/-!
## Writes
-/

theorem slots_set_of_ok {f : Frame} {index : Nat} {value : NativeValue}
    (h : (f.set index value).1 = .ok ()) (i : Nat) :
    (f.set index value).2.slots[i]? =
      f.slots[i]?.map (fun slot =>
        if index = i then { slot with value := value } else slot) := by
  rw [set] at h ⊢
  cases hslot : f.slots[index]? with
  | none =>
      rw [hslot] at h
      cases h
  | some slot =>
      rw [hslot] at h
      dsimp only at h ⊢
      by_cases hkind : slot.value.kind = value.kind
      · rw [if_pos hkind]
        dsimp only
        rw [List.getElem?_set]
        by_cases hi : index = i
        · rw [if_pos hi, if_pos (List.getElem?_eq_some_iff.mp hslot).1, ← hi,
            hslot, Option.map_some, if_pos rfl]
        · rw [if_neg hi]
          simp only [if_neg hi, Option.map_id_fun', id_eq]
      · rw [if_neg hkind] at h
        cases h

theorem set_of_error {f : Frame} {index : Nat} {value : NativeValue}
    {cause : NativeError} (h : (f.set index value).1 = .error cause) :
    (f.set index value).2 = f := by
  rw [set] at h ⊢
  cases hslot : f.slots[index]? with
  | none => rfl
  | some slot =>
      rw [hslot] at h
      dsimp only at h ⊢
      by_cases hkind : slot.value.kind = value.kind
      · rw [if_pos hkind] at h
        cases h
      · rw [if_neg hkind]

end Frame

namespace TypeTable

/-!
## Filling the slots of inputs
-/

theorem fill_filter (t : TypeTable) (w : World)
    (parameters : List (Parameter × Nat)) (position : Nat)
    (args : List Value) (f : Frame) :
    t.fill w (parameters.filter (fun entry => entry.1.role.isInput)) position
        args f =
      t.fill w parameters position args f := by
  induction parameters generalizing position args f with
  | nil => rfl
  | cons entry rest ih =>
      obtain ⟨p, index⟩ := entry
      cases hrole : p.role.isInput with
      | false =>
          rw [fill_skipped hrole]
          rw [← ih position args f]
          simp only [List.filter_cons, hrole, Bool.false_eq_true, if_false]
      | true =>
          simp only [List.filter_cons, hrole, if_true, fill, ih]

theorem getD_tail (args : List Value) (k : Nat) :
    args.tail.getD k .nil = args.getD (k + 1) .nil := by
  cases args <;> rfl

section Inputs

variable {t : TypeTable} {w : World} {inputs : List (Parameter × Nat)}
  {position : Nat} {args : List Value} {f : Frame}

theorem refused_of_fill (hroles : forall p i, (p, i) ∈ inputs ->
      p.role.isInput = true)
    (hsuits : Suits f inputs) {cause : BridgeError}
    (h : t.fill w inputs position args f = .error cause) :
    exists k p i, inputs[k]? = some (p, i) ∧
      t.toNative w p.type (args.getD k .nil) = none ∧
      (forall j q i', j < k -> inputs[j]? = some (q, i') ->
        (t.toNative w q.type (args.getD j .nil)).isSome = true) ∧
      cause = .argumentMismatch (position + k) (t.describe p.type)
        (args.getD k .nil).typeName := by
  induction inputs generalizing position args f with
  | nil => cases h
  | cons entry rest ih =>
      obtain ⟨p, index⟩ := entry
      have hrole := hroles p index List.mem_cons_self
      cases hnative : t.toNative w p.type (args.headD .nil) with
      | none =>
          rw [fill_refused hrole hnative] at h
          cases h
          rw [List.headD_eq_getD] at hnative ⊢
          refine ⟨0, p, index, rfl, hnative, ?_, rfl⟩
          intro j q i' hj
          exact absurd hj (Nat.not_lt_zero j)
      | some native =>
          rw [fill_accepted hsuits hrole hnative] at h
          rcases ih (fun q i hmem => hroles q i (List.mem_cons_of_mem _ hmem))
              (hsuits.tail.set index native) h with
            ⟨k, q, i, hk, hnone, hbefore, hcause⟩
          rw [getD_tail] at hnone hcause
          refine ⟨k + 1, q, i, hk, hnone, ?_, ?_⟩
          · intro j r i' hj hget
            cases j with
            | zero =>
                cases hget
                rw [← List.headD_eq_getD, hnative]
                rfl
            | succ j =>
                rw [← getD_tail]
                exact hbefore j r i' (Nat.lt_of_succ_lt_succ hj) hget
          · rw [hcause, Nat.add_right_comm, Nat.add_assoc]

theorem slots_of_fill (hroles : forall p i, (p, i) ∈ inputs ->
      p.role.isInput = true)
    (hplaces : (inputs.map Prod.snd).Nodup) (hsuits : Suits f inputs)
    {filled : Frame} (h : t.fill w inputs position args f = .ok filled) :
    (forall k p i, inputs[k]? = some (p, i) ->
      exists native, t.toNative w p.type (args.getD k .nil) = some native ∧
        filled.slots[i]? =
          f.slots[i]?.map (fun slot => { slot with value := native })) ∧
    forall i, i ∉ inputs.map Prod.snd -> filled.slots[i]? = f.slots[i]? := by
  induction inputs generalizing position args f with
  | nil =>
      cases h
      refine ⟨?_, fun i _hi => rfl⟩
      intro k p i hk
      cases hk
  | cons entry rest ih =>
      obtain ⟨p, index⟩ := entry
      have hrole := hroles p index List.mem_cons_self
      rw [List.map_cons, List.nodup_cons] at hplaces
      cases hnative : t.toNative w p.type (args.headD .nil) with
      | none =>
          rw [fill_refused hrole hnative] at h
          cases h
      | some native =>
          have hset := Frame.slots_set_of_ok (hsuits.set_ok hnative)
          rw [fill_accepted hsuits hrole hnative] at h
          rcases ih (fun q i hmem => hroles q i (List.mem_cons_of_mem _ hmem))
              hplaces.2 (hsuits.tail.set index native) h with
            ⟨hinputs, hothers⟩
          constructor
          · intro k q i hk
            cases k with
            | zero =>
                cases hk
                refine ⟨native, by rw [← List.headD_eq_getD, hnative], ?_⟩
                rw [hothers index hplaces.1, hset]
                simp only [if_true]
            | succ k =>
                rcases hinputs k q i hk with ⟨more, hmore, hslot⟩
                refine ⟨more, by rw [← getD_tail, hmore], ?_⟩
                rw [hslot, hset, Option.map_map]
                congr 1
                funext slot
                dsimp only [Function.comp]
                split <;> rfl
          · intro i hi
            rw [List.map_cons, List.mem_cons, not_or] at hi
            rw [hothers i hi.2, hset]
            simp only [if_neg (Ne.symm hi.1), Option.map_id_fun', id_eq]

theorem fill_take (hroles : forall p i, (p, i) ∈ inputs ->
      p.role.isInput = true) :
    t.fill w inputs position (args.take inputs.length) f =
      t.fill w inputs position args f := by
  induction inputs generalizing position args f with
  | nil => rfl
  | cons entry rest ih =>
      obtain ⟨p, index⟩ := entry
      have hrole := hroles p index List.mem_cons_self
      have hrest : forall q i, (q, i) ∈ rest -> q.role.isInput = true :=
        fun q i hmem => hroles q i (List.mem_cons_of_mem _ hmem)
      cases args with
      | nil => rfl
      | cons v args =>
          rw [List.length_cons, List.take_succ_cons]
          simp only [fill, hrole, if_true, List.headD_cons, List.tail_cons,
            ih hrest]

end Inputs

end TypeTable

namespace Parameter

theorem getElem?_of_mem_inputs {parameters : List Parameter} {p : Parameter}
    {i : Nat} (h : (p, i) ∈ inputs parameters) :
    parameters[i]? = some p ∧ p.role.isInput = true := by
  rcases List.mem_filter.mp h with ⟨hmem, hrole⟩
  exact ⟨List.mem_zipIdx_iff_getElem?.mp hmem, hrole⟩

theorem nodup_places_inputs (parameters : List Parameter) :
    ((inputs parameters).map Prod.snd).Nodup := by
  have hsub : ((inputs parameters).map Prod.snd).Sublist
      (parameters.zipIdx.map Prod.snd) := List.filter_sublist.map Prod.snd
  apply hsub.nodup
  rw [List.zipIdx_map_snd]
  exact List.nodup_range'

end Parameter

namespace TypeTable

/-!
## The law
-/

structure FilledFrom (t : TypeTable) (w : World)
    (parameters : List Parameter) (args : List Value) (f : Frame) :
    Prop where
  width : f.width = parameters.length
  /-- The slot of each input has the converted argument of its number. -/
  input {k i : Nat} {p : Parameter} :
    (Parameter.inputs parameters)[k]? = some (p, i) ->
    exists native, t.toNative w p.type (args.getD k .nil) = some native ∧
      f.slots[i]? = some ⟨p.role, native⟩
  other {i : Nat} {p : Parameter} :
    parameters[i]? = some p -> p.role.isInput = false ->
    f.slots[i]? = some ⟨p.role, p.type.blank⟩

inductive RefusedBy (t : TypeTable) (w : World)
    (parameters : List Parameter) (args : List Value) :
    BridgeError -> Prop where
  | first {k i : Nat} {p : Parameter} :
      (Parameter.inputs parameters)[k]? = some (p, i) ->
      t.toNative w p.type (args.getD k .nil) = none ->
      (forall j q i', j < k ->
        (Parameter.inputs parameters)[j]? = some (q, i') ->
        (t.toNative w q.type (args.getD j .nil)).isSome = true) ->
      RefusedBy t w parameters args
        (.argumentMismatch (k + 1) (t.describe p.type)
          (args.getD k .nil).typeName)

section Frames

variable {t : TypeTable} {w : World} {parameters : List Parameter}
  {args : List Value}

theorem suits_inputs (parameters : List Parameter) :
    Suits (.ofParameters parameters) (Parameter.inputs parameters) := by
  intro p i hmem
  exact suits_ofParameters parameters p i (List.mem_filter.mp hmem).1

theorem isInput_of_mem_inputs (p : Parameter) (i : Nat)
    (h : (p, i) ∈ Parameter.inputs parameters) : p.role.isInput = true :=
  (Parameter.getElem?_of_mem_inputs h).2

theorem frame_eq_fill_inputs (t : TypeTable) (w : World)
    (parameters : List Parameter) (args : List Value) :
    t.frame w parameters args =
      t.fill w (Parameter.inputs parameters) 1 args
        (.ofParameters parameters) :=
  (t.fill_filter w parameters.zipIdx 1 args (.ofParameters parameters)).symm

theorem refusedBy_of_frame {cause : BridgeError}
    (h : t.frame w parameters args = .error cause) :
    t.RefusedBy w parameters args cause := by
  rw [frame_eq_fill_inputs] at h
  rcases refused_of_fill isInput_of_mem_inputs (suits_inputs parameters) h with
    ⟨k, p, i, hk, hnone, hbefore, rfl⟩
  rw [Nat.add_comm]
  exact RefusedBy.first hk hnone hbefore

theorem slots_ofParameters {i : Nat} {p : Parameter}
    (hp : parameters[i]? = some p) :
    (Frame.ofParameters parameters).slots[i]? =
      some ⟨p.role, p.type.blank⟩ := by
  rw [Frame.ofParameters, List.getElem?_map, hp]
  rfl

theorem filledFrom_of_frame {f : Frame}
    (h : t.frame w parameters args = .ok f) :
    t.FilledFrom w parameters args f := by
  have hwidth : f.width = parameters.length := (fitsFrame_of_frame h).width
  rw [frame_eq_fill_inputs] at h
  rcases slots_of_fill isInput_of_mem_inputs
      (Parameter.nodup_places_inputs parameters) (suits_inputs parameters)
      h with
    ⟨hinputs, hothers⟩
  refine ⟨hwidth, ?_, ?_⟩
  · intro k i p hk
    rcases hinputs k p i hk with ⟨native, hnative, hslot⟩
    have hp : parameters[i]? = some p :=
      (Parameter.getElem?_of_mem_inputs (List.mem_of_getElem? hk)).1
    rw [slots_ofParameters hp] at hslot
    exact ⟨native, hnative, hslot⟩
  · intro i p hp hrole
    rw [hothers i, slots_ofParameters hp]
    intro hmem
    rcases List.mem_map.mp hmem with ⟨⟨q, j⟩, hq, rfl⟩
    rcases Parameter.getElem?_of_mem_inputs hq with ⟨hget, hinput⟩
    rw [hp] at hget
    cases hget
    rw [hrole] at hinput
    cases hinput

/--
A frame is made exactly if every input can convert the argument of its number,
where missing arguments count as nil and surplus ones count for nothing.  The
frame has the converted arguments in the slots of their inputs and is blank
elsewhere.  If there is no frame, the error is that of the first input that
cannot convert its argument.
-/
theorem frame_exact (t : TypeTable) (w : World)
    (parameters : List Parameter) (args : List Value) :
    ((exists f, t.frame w parameters args = .ok f) ↔
      forall k p i, (Parameter.inputs parameters)[k]? = some (p, i) ->
        (t.toNative w p.type (args.getD k .nil)).isSome = true) ∧
    (forall f, t.frame w parameters args = .ok f ->
      t.FilledFrom w parameters args f) ∧
    (forall cause, t.frame w parameters args = .error cause ->
      t.RefusedBy w parameters args cause) ∧
    t.frame w parameters
        (args.take (Parameter.inputs parameters).length) =
      t.frame w parameters args := by
  refine ⟨⟨?_, ?_⟩, fun f h => filledFrom_of_frame h,
    fun cause h => refusedBy_of_frame h, ?_⟩
  · rintro ⟨f, hf⟩ k p i hk
    rcases (filledFrom_of_frame hf).input hk with ⟨native, hnative, _hslot⟩
    exact Option.isSome_of_mem hnative
  · intro hall
    cases hframe : t.frame w parameters args with
    | ok f => exact ⟨f, rfl⟩
    | error cause =>
        cases refusedBy_of_frame hframe with
        | first hk hnone _ =>
            have hsome := hall _ _ _ hk
            rw [hnone] at hsome
            cases hsome
  · rw [frame_eq_fill_inputs, frame_eq_fill_inputs]
    exact fill_take isInput_of_mem_inputs

end Frames

end TypeTable

end ScriptBridge
