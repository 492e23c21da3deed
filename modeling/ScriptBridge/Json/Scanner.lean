import ScriptBridge.Json.Basic

/-!
# Scanning JSON

Characters are taken one at a time.  Between lexemes blanks are skipped; a
character that cannot belong to the current lexeme either ends it, if it is a
number, or makes the text no JSON at all.
-/

namespace ScriptBridge

inductive NumberPart where
  | sign
  /-- The whole part is a single zero, which no digit may follow. -/
  | zero
  | whole
  | point
  | fraction
  | mark
  | markSign
  | exponent

def NumberPart.isEnd : NumberPart -> Bool
  | .zero | .whole | .fraction | .exponent => true
  | .sign | .point | .mark | .markSign => false

inductive StringPart where
  | plain
  | escape
  /-- Some digits of a character by number have been read. -/
  | hex (digits : Nat) (code : Nat)

/-- The text of a string as far as it has been read, last character first. -/
structure TextSoFar where
  reversed : List Char
  readable : Bool
  /-- The first half of a surrogate pair, if it was just read. -/
  half : Option Nat

inductive Scanning where
  | blank
  /-- A word of which some letters are still to come. -/
  | word (rest : List Char) (lexeme : JsonLexeme)
  | number (part : NumberPart) (n : JsonNumber)
  | string (part : StringPart) (text : TextSoFar)

namespace TextSoFar

def empty : TextSoFar :=
  ⟨[], true, none⟩

/-- A half that is not followed by its other half makes the text unreadable. -/
def settle (t : TextSoFar) : TextSoFar :=
  if t.half.isSome then ⟨t.reversed, false, none⟩ else t

def push (t : TextSoFar) (c : Char) : TextSoFar :=
  { t.settle with reversed := c :: t.settle.reversed }

/-- Take in a code unit written by number. -/
def pushCode (t : TextSoFar) (code : Nat) : TextSoFar :=
  if 0xD800 ≤ code && code < 0xDC00 then { t.settle with half := some code }
  else if 0xDC00 ≤ code && code < 0xE000 then
    match t.half with
    | some high =>
        let joined := 0x10000 + (high - 0xD800) * 0x400 + (code - 0xDC00)
        { t with reversed := Char.ofNat joined :: t.reversed, half := none }
    | none => { t with readable := false }
  else t.push (Char.ofNat code)

def finish (t : TextSoFar) : JsonText :=
  if t.settle.readable then some (String.ofList t.settle.reversed.reverse)
  else none

end TextSoFar

namespace Scanning

def isDigit (c : Char) : Bool :=
  '0' ≤ c && c ≤ '9'

def isBlank (c : Char) : Bool :=
  c = ' ' || c = '\n' || c = '\t' || c = '\r'

def hexValue? (c : Char) : Option Nat :=
  if '0' ≤ c && c ≤ '9' then some (c.toNat - 48)
  else if 'a' ≤ c && c ≤ 'f' then some (c.toNat - 87)
  else if 'A' ≤ c && c ≤ 'F' then some (c.toNat - 55)
  else none

/-- The character that a letter after a backslash stands for. -/
def escaped? (c : Char) : Option Char :=
  if c = '"' || c = '\\' || c = '/' then some c
  else if c = 'b' then some '\x08'
  else if c = 'f' then some '\x0c'
  else if c = 'n' then some '\n'
  else if c = 'r' then some '\r'
  else if c = 't' then some '\t'
  else none

/-- Begin a lexeme, or skip a blank. -/
def start (c : Char) : Option (List JsonLexeme × Scanning) :=
  if isBlank c then some ([], .blank)
  else if c = '\x7b' then some ([.openObject], .blank)
  else if c = '\x7d' then some ([.closeObject], .blank)
  else if c = '[' then some ([.openArray], .blank)
  else if c = ']' then some ([.closeArray], .blank)
  else if c = ',' then some ([.comma], .blank)
  else if c = ':' then some ([.colon], .blank)
  else if c = '"' then some ([], .string .plain .empty)
  else if c = 'n' then some ([], .word ['u', 'l', 'l'] .null)
  else if c = 't' then some ([], .word ['r', 'u', 'e'] (.bool true))
  else if c = 'f' then some ([], .word ['a', 'l', 's', 'e'] (.bool false))
  else if c = '-' then some ([], .number .sign ⟨true, [], [], none⟩)
  else if c = '0' then some ([], .number .zero ⟨false, ['0'], [], none⟩)
  else if isDigit c then some ([], .number .whole ⟨false, [c], [], none⟩)
  else none

def stepString (text : TextSoFar) (c : Char) :
    StringPart -> Option (List JsonLexeme × Scanning)
  | .plain =>
      if c = '"' then some ([.string text.finish], .blank)
      else if c = '\\' then some ([], .string .escape text)
      else if c.toNat < 0x20 then none
      else some ([], .string .plain (text.push c))
  | .escape =>
      if c = 'u' then some ([], .string (.hex 0 0) text)
      else (escaped? c).map (fun e => ([], .string .plain (text.push e)))
  | .hex digits code =>
      (hexValue? c).map (fun value =>
        let code' := code * 16 + value
        if digits = 3 then ([], .string .plain (text.pushCode code'))
        else ([], .string (.hex (digits + 1) code') text))

/-- One more digit of a number, where a digit may stand. -/
def addDigit (n : JsonNumber) (c : Char) :
    NumberPart -> Option (NumberPart × JsonNumber)
  | .sign =>
      some (if c = '0' then .zero else .whole, { n with whole := [c] })
  | .zero => none
  | .whole => some (.whole, { n with whole := n.whole ++ [c] })
  | .point => some (.fraction, { n with fraction := [c] })
  | .fraction => some (.fraction, { n with fraction := n.fraction ++ [c] })
  | .mark => some (.exponent, { n with exponent := some (.none, [c]) })
  | .markSign | .exponent =>
      let exponent := n.exponent.map (fun e => (e.1, e.2 ++ [c]))
      some (.exponent, { n with exponent := exponent })

/-- A sign, a point or an exponent mark within a number, where it may stand. -/
def addMark (n : JsonNumber) (c : Char) :
    NumberPart -> Option (NumberPart × JsonNumber)
  | .zero | .whole =>
      if c = '.' then some (.point, n)
      else if c = 'e' || c = 'E' then some (.mark, n)
      else none
  | .fraction =>
      if c = 'e' || c = 'E' then some (.mark, n) else none
  | .mark =>
      if c = '+' then
        some (.markSign, { n with exponent := some (.plus, []) })
      else if c = '-' then
        some (.markSign, { n with exponent := some (.minus, []) })
      else none
  | .sign | .point | .markSign | .exponent => none

/-- One character further in a number, or the first one behind it. -/
def stepNumber (part : NumberPart) (n : JsonNumber) (c : Char) :
    Option (List JsonLexeme × Scanning) :=
  if isDigit c then
    (addDigit n c part).map (fun next => ([], .number next.1 next.2))
  else
    match addMark n c part with
    | some next => some ([], .number next.1 next.2)
    | none =>
        if part.isEnd then
          (start c).map (fun next => (.number n :: next.1, next.2))
        else none

def step : Scanning -> Char -> Option (List JsonLexeme × Scanning)
  | .blank, c => start c
  | .word [] lexeme, c =>
      (start c).map (fun next => (lexeme :: next.1, next.2))
  | .word (letter :: rest) lexeme, c =>
      if c ≠ letter then none
      else if rest.isEmpty then some ([lexeme], .blank)
      else some ([], .word rest lexeme)
  | .number part n, c => stepNumber part n c
  | .string part text, c => stepString text c part

/-- The lexemes that are complete where the text ends. -/
def finish : Scanning -> Option (List JsonLexeme)
  | .blank => some []
  | .number part n => if part.isEnd then some [.number n] else none
  | .word _ _ => none
  | .string _ _ => none

def run : Scanning -> List Char -> Option (List JsonLexeme)
  | s, [] => s.finish
  | s, c :: rest =>
      match s.step c with
      | none => none
      | some (lexemes, s') => (run s' rest).map (lexemes ++ ·)

end Scanning

def scanJson (text : String) : Option (List JsonLexeme) :=
  Scanning.blank.run text.toList

end ScriptBridge
