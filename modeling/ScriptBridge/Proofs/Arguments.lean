import ScriptBridge.Native.Marshal

/-!
# Filling a frame from arguments

A slot of a frame keeps the kind of value that its declared type gave it, and a
converted argument is of the kind of its parameter.  So the check that a frame
makes of every write never stops the arguments of a call: if they are refused,
it is because one of them cannot be converted.  Arguments that are accepted
exist for every list of parameters.
-/

namespace ScriptBridge

/-!
## The kinds of slots
-/

theorem NativeType.kind_blank (type : NativeType) :
    type.blank.kind = type.kind := by
  cases type <;> rfl

namespace Frame

def kinds (f : Frame) : List NativeKind :=
  f.slots.map (fun slot => slot.value.kind)

theorem kinds_ofParameters (parameters : List Parameter) :
    (ofParameters parameters).kinds =
      parameters.map (fun p => p.type.kind) := by
  rw [kinds, ofParameters, List.map_map]
  apply List.map_congr_left
  intro p _hmem
  exact p.type.kind_blank

theorem kinds_set (f : Frame) (index : Nat) (value : NativeValue) :
    (f.set index value).2.kinds = f.kinds := by
  rw [set]
  cases hslot : f.slots[index]? with
  | none => rfl
  | some slot =>
      dsimp only
      by_cases hkind : slot.value.kind = value.kind
      · rw [if_pos hkind, kinds, List.map_set]
        change f.kinds.set index value.kind = f.kinds
        have hold : f.kinds[index]? = some value.kind := by
          rw [kinds, List.getElem?_map, hslot, ← hkind]
          rfl
        apply List.ext_getElem?
        intro other
        by_cases heq : index = other
        · subst heq
          rw [List.getElem?_set_self (List.getElem?_eq_some_iff.mp hold).choose,
            hold]
        · rw [List.getElem?_set_ne heq]
      · rw [if_neg hkind]

theorem set_of_kind {f : Frame} {index : Nat} {value : NativeValue}
    (h : f.kinds[index]? = some value.kind) :
    (f.set index value).1 = .ok () := by
  rw [kinds, List.getElem?_map] at h
  rcases Option.map_eq_some_iff.mp h with ⟨slot, hslot, hkind⟩
  rw [set, hslot]
  simp only [if_pos hkind]

end Frame

namespace TypeTable

/-!
## Converting one argument
-/

theorem kind_of_toNative {t : TypeTable} {w : World} {type : NativeType}
    {v : Value} {native : NativeValue}
    (h : t.toNative w type v = some native) :
    native.kind = type.kind := by
  unfold toNative at h
  split at h
  case h_7 required handle =>
    cases hobject : w.get? handle.path.target with
    | none =>
        rw [hobject] at h
        cases h
    | some object =>
        rw [hobject] at h
        dsimp only at h
        split at h
        · cases h
          rfl
        · cases h
  case h_9 required handle =>
    split at h
    · cases h
      rfl
    · cases h
  case h_10 element items =>
    rcases Option.map_eq_some_iff.mp h with ⟨natives, _hnatives, heq⟩
    rw [← heq]
    rfl
  all_goals
    cases h
    try rfl

end TypeTable

def NativeType.sample : NativeType -> Value
  | .bool => .bool false
  | .int => .int 0
  | .float => .float .zero
  | .string => .string ""
  | .object _ => .nil
  | .cls _ => .nil
  | .array _ => .array []

namespace TypeTable

theorem toNative_sample (t : TypeTable) (w : World) (type : NativeType) :
    t.toNative w type type.sample = some type.blank := by
  cases type <;> simp [NativeType.sample, NativeType.blank, toNative]

/-!
## Filling all slots
-/

/-- The slots of numbered parameters hold values of the declared kinds. -/
def Suits (f : Frame) (parameters : List (Parameter × Nat)) : Prop :=
  forall p index, (p, index) ∈ parameters ->
    f.kinds[index]? = some p.type.kind

theorem suits_ofParameters (parameters : List Parameter) :
    Suits (.ofParameters parameters) parameters.zipIdx := by
  intro p index hmem
  rw [Frame.kinds_ofParameters, List.getElem?_map,
    List.mem_zipIdx_iff_getElem?.mp hmem]
  rfl

theorem Suits.set {f : Frame} {parameters : List (Parameter × Nat)}
    (h : Suits f parameters) (index : Nat) (value : NativeValue) :
    Suits (f.set index value).2 parameters := by
  intro p other hmem
  rw [Frame.kinds_set]
  exact h p other hmem

theorem Suits.tail {f : Frame} {entry : Parameter × Nat}
    {rest : List (Parameter × Nat)} (h : Suits f (entry :: rest)) :
    Suits f rest := by
  intro p index hmem
  exact h p index (List.mem_cons_of_mem entry hmem)

section Fill

variable {t : TypeTable} {w : World} {p : Parameter} {index position : Nat}
  {rest : List (Parameter × Nat)} {args : List Value} {f : Frame}

theorem fill_skipped (hrole : p.role.isInput = false) :
    t.fill w ((p, index) :: rest) position args f =
      t.fill w rest position args f := by
  rw [fill, hrole, if_neg Bool.false_ne_true]

theorem fill_refused (hrole : p.role.isInput = true)
    (hnone : t.toNative w p.type (args.headD .nil) = none) :
    t.fill w ((p, index) :: rest) position args f =
      .error (.argumentMismatch position (t.describe p.type)
        (args.headD .nil).typeName) := by
  rw [fill, hrole, if_pos rfl]
  simp only [hnone]

theorem Suits.set_ok (hsuits : Suits f ((p, index) :: rest)) {v : Value}
    {native : NativeValue} (hnative : t.toNative w p.type v = some native) :
    (f.set index native).1 = .ok () := by
  apply Frame.set_of_kind
  rw [kind_of_toNative hnative]
  exact hsuits p index List.mem_cons_self

theorem fill_accepted {native : NativeValue}
    (hsuits : Suits f ((p, index) :: rest)) (hrole : p.role.isInput = true)
    (hnative : t.toNative w p.type (args.headD .nil) = some native) :
    t.fill w ((p, index) :: rest) position args f =
      t.fill w rest (position + 1) args.tail (f.set index native).2 := by
  have hset : (f.set index native).1 = .ok () := hsuits.set_ok hnative
  rw [fill, hrole, if_pos rfl]
  simp only [hnative]
  cases hresult : f.set index native with
  | mk outcome f' =>
      rw [hresult] at hset
      simp only at hset
      rw [hset]

end Fill

/-- Arguments are refused only for one of them that does not convert. -/
theorem argumentMismatch_of_fill {t : TypeTable} {w : World}
    {parameters : List (Parameter × Nat)} {position : Nat}
    {args : List Value} {f : Frame} {cause : BridgeError}
    (hsuits : Suits f parameters)
    (h : t.fill w parameters position args f = .error cause) :
    exists place expected actual,
      cause = .argumentMismatch place expected actual := by
  induction parameters generalizing position args f with
  | nil =>
      rw [fill] at h
      cases h
  | cons entry rest ih =>
      obtain ⟨p, index⟩ := entry
      cases hrole : p.role.isInput with
      | false =>
          rw [fill_skipped hrole] at h
          exact ih hsuits.tail h
      | true =>
          cases hnative : t.toNative w p.type (args.headD .nil) with
          | none =>
              rw [fill_refused hrole hnative] at h
              cases h
              exact ⟨_, _, _, rfl⟩
          | some native =>
              rw [fill_accepted hsuits hrole hnative] at h
              exact ih (hsuits.tail.set index native) h

theorem argumentMismatch_of_frame {t : TypeTable} {w : World}
    {parameters : List Parameter} {args : List Value} {cause : BridgeError}
    (h : t.frame w parameters args = .error cause) :
    exists place expected actual,
      cause = .argumentMismatch place expected actual :=
  argumentMismatch_of_fill (suits_ofParameters parameters) h

def samples : List (Parameter × Nat) -> List Value
  | [] => []
  | (p, _) :: rest =>
      if p.role.isInput then p.type.sample :: samples rest else samples rest

theorem fill_samples {t : TypeTable} {w : World}
    {parameters : List (Parameter × Nat)} (position : Nat) {f : Frame}
    (hsuits : Suits f parameters) :
    exists f', t.fill w parameters position (samples parameters) f =
      .ok f' := by
  induction parameters generalizing position f with
  | nil => exact ⟨f, rfl⟩
  | cons entry rest ih =>
      obtain ⟨p, index⟩ := entry
      cases hrole : p.role.isInput with
      | false =>
          rw [fill_skipped hrole, samples, hrole, if_neg Bool.false_ne_true]
          exact ih position hsuits.tail
      | true =>
          rw [samples, hrole, if_pos rfl,
            fill_accepted hsuits hrole (toNative_sample t w p.type)]
          exact ih (position + 1) (hsuits.tail.set index p.type.blank)

theorem frame_samples (t : TypeTable) (w : World)
    (parameters : List Parameter) :
    exists f, t.frame w parameters (samples parameters.zipIdx) = .ok f :=
  fill_samples 1 (suits_ofParameters parameters)

end TypeTable

end ScriptBridge
