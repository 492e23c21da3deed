import ScriptBridge.Json.Printer
import ScriptBridge.Proofs.Numerals

/-!
# Printed lexemes are scanned

Lexemes that were printed one after the other are scanned as they were.  The
claim is always made with what follows at hand, since only that ends a number:
a digit after a number would make it another one.  What follows a number in a
printed document is a comma, the end of an array or an object, or nothing.
-/

namespace ScriptBridge

namespace Scanning

/-- The text of lexemes is scanned as them, standing before a given text. -/
def Scans (lexemes : List JsonLexeme) (rest : List Char) : Prop :=
  blank.run (lexemes.flatMap JsonLexeme.characters ++ rest) =
    (blank.run rest).map (lexemes ++ ·)

inductive Ends : List Char -> Prop where
  | text : Ends []
  | comma (rest : List Char) : Ends (',' :: rest)
  | array (rest : List Char) : Ends (']' :: rest)
  | object (rest : List Char) : Ends ('\x7d' :: rest)

theorem Scans.nil (rest : List Char) : Scans [] rest := by
  unfold Scans
  simp

theorem Scans.append {lexemes more : List JsonLexeme} {rest : List Char}
    (h : Scans lexemes (more.flatMap JsonLexeme.characters ++ rest))
    (hmore : Scans more rest) : Scans (lexemes ++ more) rest := by
  unfold Scans at *
  rw [List.flatMap_append, List.append_assoc, h, hmore, Option.map_map]
  congr 1
  funext found
  exact (List.append_assoc lexemes more found).symm

theorem Scans.cons {lexeme : JsonLexeme} {more : List JsonLexeme}
    {rest : List Char}
    (h : Scans [lexeme] (more.flatMap JsonLexeme.characters ++ rest))
    (hmore : Scans more rest) : Scans (lexeme :: more) rest :=
  Scans.append h hmore

/-!
## Single steps
-/

theorem run_of_step {s s' : Scanning} {c : Char}
    (h : s.step c = some ([], s')) (rest : List Char) :
    s.run (c :: rest) = s'.run rest := by
  rw [run, h]
  simp

theorem run_of_step_lexeme {s s' : Scanning} {c : Char} {l : JsonLexeme}
    (h : s.step c = some ([l], s')) (rest : List Char) :
    s.run (c :: rest) = (s'.run rest).map ([l] ++ ·) := by
  rw [run, h]

theorem scans_mark {l : JsonLexeme} {c : Char}
    (hcharacters : l.characters = [c])
    (hstep : start c = some ([l], .blank)) (rest : List Char) :
    Scans [l] rest := by
  unfold Scans
  rw [List.flatMap_singleton, hcharacters]
  exact run_of_step_lexeme (s := .blank) hstep rest

/-!
## Words
-/

theorem run_word {letters : List Char} (hletters : letters ≠ [])
    (l : JsonLexeme) (rest : List Char) :
    (word letters l).run (letters ++ rest) =
      (blank.run rest).map ([l] ++ ·) := by
  induction letters with
  | nil => exact absurd rfl hletters
  | cons letter more ih =>
      cases more with
      | nil =>
          have hstep : (word [letter] l).step letter = some ([l], .blank) := by
            simp [step]
          exact run_of_step_lexeme hstep rest
      | cons next others =>
          have hstep : (word (letter :: next :: others) l).step letter =
              some ([], word (next :: others) l) := by
            simp [step]
          rw [List.cons_append, run_of_step hstep]
          exact ih (List.cons_ne_nil _ _)

theorem scans_null (rest : List Char) : Scans [.null] rest := by
  have hstep : step .blank 'n' = some ([], word ['u', 'l', 'l'] .null) := rfl
  exact (run_of_step hstep _).trans
    (run_word (List.cons_ne_nil _ _) .null rest)

theorem scans_bool (b : Bool) (rest : List Char) :
    Scans [.bool b] rest := by
  cases b with
  | true =>
      have hstep : step .blank 't' =
          some ([], word ['r', 'u', 'e'] (.bool true)) := rfl
      exact (run_of_step hstep _).trans
        (run_word (List.cons_ne_nil _ _) (.bool true) rest)
  | false =>
      have hstep : step .blank 'f' =
          some ([], word ['a', 'l', 's', 'e'] (.bool false)) := rfl
      exact (run_of_step hstep _).trans
        (run_word (List.cons_ne_nil _ _) (.bool false) rest)

/-!
## Numbers

The parts of a number are scanned one after the other: the sign with the whole
part, the fraction, the exponent.
-/

theorem run_digits {part : NumberPart} {g : List Char -> JsonNumber}
    (hg : forall digits c,
      addDigit (g digits) c part = some (part, g (digits ++ [c])))
    {more : List Char} (hmore : AllDigits more) (digits rest : List Char) :
    (number part (g digits)).run (more ++ rest) =
      (number part (g (digits ++ more))).run rest := by
  induction more generalizing digits with
  | nil => rw [List.append_nil, List.nil_append]
  | cons c others ih =>
      have hc : isDigit c = true := hmore c List.mem_cons_self
      have hothers : AllDigits others :=
        fun d hmem => hmore d (List.mem_cons_of_mem c hmem)
      have hstep : (number part (g digits)).step c =
          some ([], number part (g (digits ++ [c]))) := by
        rw [step, stepNumber, if_pos hc, hg]
        rfl
      rw [List.cons_append, run_of_step hstep, ih hothers,
        List.append_assoc, List.singleton_append]

theorem mem_digits_of_isDigit {c : Char} (hc : isDigit c = true) :
    c ∈ ['0', '1', '2', '3', '4', '5', '6', '7', '8', '9'] := by
  have hall : forall n : Nat, n < 58 -> 48 ≤ n ->
      Char.ofNat n ∈ ['0', '1', '2', '3', '4', '5', '6', '7', '8', '9'] := by
    decide
  have hbounds : 48 ≤ c.toNat ∧ c.toNat ≤ 57 := by
    have hands := Bool.and_eq_true_iff.mp hc
    exact ⟨of_decide_eq_true hands.1, of_decide_eq_true hands.2⟩
  have hmem := hall c.toNat (Nat.lt_succ_of_le hbounds.2) hbounds.1
  rw [Char.ofNat_toNat] at hmem
  exact hmem

theorem run_firstDigit (negative : Bool) {c : Char} (hc : isDigit c = true)
    (rest : List Char) :
    blank.run ((if negative then ['-'] else []) ++ c :: rest) =
      (number (if c = '0' then .zero else .whole)
        ⟨negative, [c], [], none⟩).run rest := by
  cases negative with
  | true =>
      have hsign : step .blank '-' =
          some ([], number .sign ⟨true, [], [], none⟩) := rfl
      have hdigit : (number .sign ⟨true, [], [], none⟩).step c =
          some ([], number (if c = '0' then .zero else .whole)
            ⟨true, [c], [], none⟩) := by
        rw [step, stepNumber, if_pos hc]
        rfl
      exact (run_of_step hsign _).trans (run_of_step hdigit rest)
  | false =>
      have hdigit : step .blank c =
          some ([], number (if c = '0' then .zero else .whole)
            ⟨false, [c], [], none⟩) := by
        have hmem := mem_digits_of_isDigit hc
        simp only [List.mem_cons, List.not_mem_nil, or_false] at hmem
        rcases hmem with rfl | rfl | rfl | rfl | rfl | rfl | rfl | rfl |
          rfl | rfl <;> rfl
      exact run_of_step hdigit rest

theorem run_whole (negative : Bool) {whole : List Char}
    (h : whole = ['0'] ∨ Leading whole) :
    exists part, (part = .zero ∨ part = .whole) ∧
      forall rest,
        blank.run ((if negative then ['-'] else []) ++ whole ++ rest) =
          (number part ⟨negative, whole, [], none⟩).run rest := by
  rcases h with rfl | hleading
  · refine ⟨.zero, Or.inl rfl, ?_⟩
    intro rest
    rw [List.append_assoc]
    exact run_firstDigit negative rfl rest
  · rcases hleading.head with ⟨c, more, rfl, hzero⟩
    have hc : isDigit c = true := hleading.all c List.mem_cons_self
    have hmore : AllDigits more :=
      fun d hmem => hleading.all d (List.mem_cons_of_mem c hmem)
    refine ⟨.whole, Or.inr rfl, ?_⟩
    intro rest
    rw [List.append_assoc, List.cons_append, run_firstDigit negative hc,
      if_neg hzero]
    exact run_digits (g := fun digits => ⟨negative, digits, [], none⟩)
      (fun _ _ => rfl) hmore [c] rest

structure TakesExponent (part : NumberPart) : Prop where
  isEnd : part.isEnd = true
  mark (n : JsonNumber) : addMark n 'e' part = some (.mark, n)

theorem run_fraction {part : NumberPart}
    (hpart : part = .zero ∨ part = .whole) (negative : Bool)
    (whole : List Char) {fraction : List Char} (h : AllDigits fraction) :
    exists part', TakesExponent part' ∧
      forall rest,
        (number part ⟨negative, whole, [], none⟩).run
            ((if fraction.isEmpty then [] else '.' :: fraction) ++ rest) =
          (number part' ⟨negative, whole, fraction, none⟩).run rest := by
  cases fraction with
  | nil =>
      refine ⟨part, ?_, fun rest => rfl⟩
      rcases hpart with rfl | rfl
      · exact ⟨rfl, fun n => rfl⟩
      · exact ⟨rfl, fun n => rfl⟩
  | cons c more =>
      have hc : isDigit c = true := h c List.mem_cons_self
      have hmore : AllDigits more :=
        fun d hmem => h d (List.mem_cons_of_mem c hmem)
      refine ⟨.fraction, ⟨rfl, fun n => rfl⟩, ?_⟩
      intro rest
      have hpoint : (number part ⟨negative, whole, [], none⟩).step '.' =
          some ([], number .point ⟨negative, whole, [], none⟩) := by
        rcases hpart with rfl | rfl <;> rfl
      have hdigit : (number .point ⟨negative, whole, [], none⟩).step c =
          some ([], number .fraction ⟨negative, whole, [c], none⟩) := by
        rw [step, stepNumber, if_pos hc]
        rfl
      rw [List.isEmpty_cons, if_neg Bool.false_ne_true, List.cons_append,
        run_of_step hpoint, List.cons_append, run_of_step hdigit]
      exact run_digits (g := fun digits => ⟨negative, whole, digits, none⟩)
        (fun _ _ => rfl) hmore [c] rest

theorem run_exponentDigits {part : NumberPart} {n : JsonNumber}
    {sign : ExponentSign}
    (hfirst : forall c, addDigit n c part =
      some (.exponent, { n with exponent := some (sign, [c]) }))
    {digits : List Char} (hne : digits ≠ []) (h : AllDigits digits)
    (rest : List Char) :
    (number part n).run (digits ++ rest) =
      (number .exponent { n with exponent := some (sign, digits) }).run
        rest := by
  cases digits with
  | nil => exact absurd rfl hne
  | cons c more =>
      have hc : isDigit c = true := h c List.mem_cons_self
      have hmore : AllDigits more :=
        fun d hmem => h d (List.mem_cons_of_mem c hmem)
      have hdigit : (number part n).step c = some ([],
          number .exponent { n with exponent := some (sign, [c]) }) := by
        rw [step, stepNumber, if_pos hc, hfirst]
        rfl
      rw [List.cons_append, run_of_step hdigit]
      exact run_digits
        (g := fun digits => { n with exponent := some (sign, digits) })
        (fun _ _ => rfl) hmore [c] rest

theorem run_exponent {part : NumberPart} (hpart : TakesExponent part)
    (negative : Bool) (whole fraction : List Char)
    {exponent : Option (ExponentSign × List Char)}
    (h : forall sign digits, exponent = some (sign, digits) ->
      digits ≠ [] ∧ AllDigits digits) :
    exists part', part'.isEnd = true ∧
      forall rest,
        (number part ⟨negative, whole, fraction, none⟩).run
            ((match exponent with
              | some (sign, digits) => 'e' :: sign.characters ++ digits
              | none => []) ++ rest) =
          (number part' ⟨negative, whole, fraction, exponent⟩).run rest := by
  cases exponent with
  | none => exact ⟨part, hpart.isEnd, fun rest => rfl⟩
  | some written =>
      obtain ⟨sign, digits⟩ := written
      rcases h sign digits rfl with ⟨hne, hdigits⟩
      refine ⟨.exponent, rfl, ?_⟩
      intro rest
      have hmark : (number part ⟨negative, whole, fraction, none⟩).step 'e' =
          some ([], number .mark ⟨negative, whole, fraction, none⟩) := by
        have hletter : isDigit 'e' = false := rfl
        rw [step, stepNumber, hletter, if_neg Bool.false_ne_true, hpart.mark]
      dsimp only
      rw [List.cons_append, List.cons_append, run_of_step hmark]
      cases sign with
      | none => exact run_exponentDigits (fun c => rfl) hne hdigits rest
      | plus =>
          have hsign :
              (number .mark ⟨negative, whole, fraction, none⟩).step '+' =
                some ([], number .markSign
                  ⟨negative, whole, fraction, some (.plus, [])⟩) :=
            rfl
          exact (run_of_step hsign _).trans
            (run_exponentDigits (fun c => rfl) hne hdigits rest)
      | minus =>
          have hsign :
              (number .mark ⟨negative, whole, fraction, none⟩).step '-' =
                some ([], number .markSign
                  ⟨negative, whole, fraction, some (.minus, [])⟩) :=
            rfl
          exact (run_of_step hsign _).trans
            (run_exponentDigits (fun c => rfl) hne hdigits rest)

theorem run_of_ends {part : NumberPart} (hpart : part.isEnd = true)
    (n : JsonNumber) {rest : List Char} (hends : Ends rest) :
    (number part n).run rest = (blank.run rest).map ([.number n] ++ ·) := by
  have hstep {c : Char} {l : JsonLexeme} {more : List Char}
      (hdigit : isDigit c = false) (hmark : addMark n c part = none)
      (hstart : start c = some ([l], .blank)) :
      (number part n).run (c :: more) =
        (blank.run (c :: more)).map ([.number n] ++ ·) := by
    have hblank : blank.run (c :: more) =
        (blank.run more).map ([l] ++ ·) :=
      run_of_step_lexeme (s := .blank) hstart more
    rw [hblank, run, step, stepNumber, hdigit, if_neg Bool.false_ne_true,
      hmark, if_pos hpart, hstart, Option.map_map]
    rfl
  cases hends with
  | text =>
      rw [run, finish, if_pos hpart]
      rfl
  | comma more =>
      apply hstep rfl _ rfl
      cases part <;> rfl
  | array more =>
      apply hstep rfl _ rfl
      cases part <;> rfl
  | object more =>
      apply hstep rfl _ rfl
      cases part <;> rfl

theorem scans_number {n : JsonNumber} (hn : n.Written) {rest : List Char}
    (hends : Ends rest) : Scans [.number n] rest := by
  rcases run_whole n.negative hn.whole with ⟨part, hpart, hwhole⟩
  rcases run_fraction hpart n.negative n.whole hn.fraction with
    ⟨part', hpart', hfraction⟩
  rcases run_exponent hpart' n.negative n.whole n.fraction
    (fun sign digits heq => hn.exponent heq) with ⟨part'', hend, hexponent⟩
  unfold Scans
  rw [List.flatMap_singleton, JsonLexeme.characters, JsonNumber.characters,
    List.append_assoc, List.append_assoc, hwhole, hfraction]
  exact (hexponent rest).trans (run_of_ends hend n hends)

/-!
## Texts
-/

def readSoFar (characters : List Char) : TextSoFar :=
  ⟨characters.reverse, true, none⟩

theorem push_readSoFar (characters : List Char) (c : Char) :
    (readSoFar characters).push c = readSoFar (characters ++ [c]) := by
  unfold readSoFar TextSoFar.push TextSoFar.settle
  rw [List.reverse_append]
  rfl

theorem finish_readSoFar (characters : List Char) :
    (readSoFar characters).finish = some (String.ofList characters) := by
  unfold readSoFar TextSoFar.finish TextSoFar.settle
  simp

theorem hexValue?_digitChar {n : Nat} (hn : n < 16) :
    hexValue? (Nat.digitChar n) = some n := by
  have hall : forall n : Nat, n < 16 ->
      hexValue? (Nat.digitChar n) = some n := by
    decide
  exact hall n hn

theorem run_control {c : Char} (hc : c.toNat < 0x20)
    (characters rest : List Char) :
    (string .plain (readSoFar characters)).run
        (['\\', 'u', '0', '0'] ++ lowHexDigits c ++ rest) =
      (string .plain (readSoFar (characters ++ [c]))).run rest := by
  have hescape : (string .plain (readSoFar characters)).step '\\' =
      some ([], string .escape (readSoFar characters)) := rfl
  have hnumber : (string .escape (readSoFar characters)).step 'u' =
      some ([], string (.hex 0 0) (readSoFar characters)) := rfl
  have hfirst : (string (.hex 0 0) (readSoFar characters)).step '0' =
      some ([], string (.hex 1 0) (readSoFar characters)) := rfl
  have hsecond : (string (.hex 1 0) (readSoFar characters)).step '0' =
      some ([], string (.hex 2 0) (readSoFar characters)) := rfl
  have hthird : (string (.hex 2 0) (readSoFar characters)).step
      (Nat.digitChar (c.toNat / 16 % 16)) =
        some ([], string (.hex 3 (c.toNat / 16 % 16))
          (readSoFar characters)) := by
    rw [step, stepString,
      hexValue?_digitChar (Nat.mod_lt _ (by decide))]
    simp
  have hcode : c.toNat / 16 % 16 * 16 + c.toNat % 16 = c.toNat := by
    omega
  have hpush : (readSoFar characters).pushCode c.toNat =
      readSoFar (characters ++ [c]) := by
    have hhigh : ¬ 0xD800 ≤ c.toNat := by omega
    have hlow : ¬ 0xDC00 ≤ c.toNat := by omega
    unfold TextSoFar.pushCode
    simp [hhigh, hlow, push_readSoFar]
  have hfourth : (string (.hex 3 (c.toNat / 16 % 16))
      (readSoFar characters)).step (Nat.digitChar (c.toNat % 16)) =
        some ([], string .plain (readSoFar (characters ++ [c]))) := by
    rw [step, stepString, hexValue?_digitChar (Nat.mod_lt _ (by decide)),
      Option.map_some, if_pos rfl, hcode, hpush]
  unfold lowHexDigits
  dsimp only [List.cons_append, List.nil_append]
  rw [run_of_step hescape, run_of_step hnumber, run_of_step hfirst,
    run_of_step hsecond, run_of_step hthird, run_of_step hfourth]

theorem escapeChar_cases (c : Char) :
    (exists letter, letter ≠ 'u' ∧ escaped? letter = some c ∧
      escapeChar c = ['\\', letter]) ∨
    (c.toNat < 0x20 ∧
      escapeChar c = ['\\', 'u', '0', '0'] ++ lowHexDigits c) ∨
    (c ≠ '"' ∧ c ≠ '\\' ∧ ¬ c.toNat < 0x20 ∧ escapeChar c = [c]) := by
  by_cases hletter : c ∈ ['"', '\\', '\x08', '\x0c', '\n', '\r', '\t']
  · apply Or.inl
    simp only [List.mem_cons, List.not_mem_nil, or_false] at hletter
    rcases hletter with rfl | rfl | rfl | rfl | rfl | rfl | rfl
    · exact ⟨'"', by decide, rfl, rfl⟩
    · exact ⟨'\\', by decide, rfl, rfl⟩
    · exact ⟨'b', by decide, rfl, rfl⟩
    · exact ⟨'f', by decide, rfl, rfl⟩
    · exact ⟨'n', by decide, rfl, rfl⟩
    · exact ⟨'r', by decide, rfl, rfl⟩
    · exact ⟨'t', by decide, rfl, rfl⟩
  · apply Or.inr
    simp only [List.mem_cons, List.not_mem_nil, or_false, not_or] at hletter
    obtain ⟨hquote, hslash, h08, h0c, hn, hr, ht⟩ := hletter
    unfold escapeChar
    by_cases hcontrol : c.toNat < 0x20
    · exact Or.inl ⟨hcontrol, by simp [*]⟩
    · exact Or.inr ⟨hquote, hslash, hcontrol, by simp [*]⟩

theorem run_escapeChar (c : Char) (characters rest : List Char) :
    (string .plain (readSoFar characters)).run (escapeChar c ++ rest) =
      (string .plain (readSoFar (characters ++ [c]))).run rest := by
  rcases escapeChar_cases c with
    ⟨letter, hu, hescaped, heq⟩ | ⟨hcontrol, heq⟩ |
      ⟨hquote, hslash, hcontrol, heq⟩
  · have hescape : (string .plain (readSoFar characters)).step '\\' =
        some ([], string .escape (readSoFar characters)) := rfl
    have hstep : (string .escape (readSoFar characters)).step letter =
        some ([], string .plain (readSoFar (characters ++ [c]))) := by
      rw [step, stepString, if_neg hu, hescaped, Option.map_some,
        push_readSoFar]
    rw [heq]
    exact (run_of_step hescape _).trans (run_of_step hstep rest)
  · rw [heq]
    exact run_control hcontrol characters rest
  · have hstep : (string .plain (readSoFar characters)).step c =
        some ([], string .plain (readSoFar (characters ++ [c]))) := by
      rw [step, stepString, if_neg hquote, if_neg hslash, if_neg hcontrol,
        push_readSoFar]
    rw [heq]
    exact run_of_step hstep rest

theorem run_escaped (text characters rest : List Char) :
    (string .plain (readSoFar characters)).run
        (text.flatMap escapeChar ++ rest) =
      (string .plain (readSoFar (characters ++ text))).run rest := by
  induction text generalizing characters with
  | nil => rw [List.append_nil, List.flatMap_nil, List.nil_append]
  | cons c more ih =>
      rw [List.flatMap_cons, List.append_assoc, run_escapeChar, ih,
        List.append_assoc, List.singleton_append]

theorem scans_text (text : String) (rest : List Char) :
    Scans [.string (some text)] rest := by
  have hopen : step .blank '"' = some ([], string .plain (readSoFar [])) :=
    rfl
  have hclose : (string .plain (readSoFar text.toList)).step '"' =
      some ([.string (some text)], .blank) := by
    rw [step, stepString, if_pos rfl, finish_readSoFar, String.ofList_toList]
  unfold Scans
  rw [List.flatMap_singleton, JsonLexeme.characters, writeText,
    List.cons_append, List.cons_append, List.append_assoc,
    run_of_step hopen, run_escaped, List.nil_append, List.singleton_append]
  exact run_of_step_lexeme hclose rest

end Scanning

end ScriptBridge
