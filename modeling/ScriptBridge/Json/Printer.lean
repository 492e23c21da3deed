import ScriptBridge.Json.Basic

/-!
# Printing JSON

Documents are printed without any blanks.  Inside strings only quotes,
backslashes and control characters are escaped, the usual ones by a letter and
the others by four hexadecimal digits.
-/

namespace ScriptBridge

/-- The last two digits of a character shown by number. -/
def lowHexDigits (c : Char) : List Char :=
  [Nat.digitChar (c.toNat / 16 % 16), Nat.digitChar (c.toNat % 16)]

def escapeChar (c : Char) : List Char :=
  if c = '"' || c = '\\' then ['\\', c]
  else if c = '\x08' then ['\\', 'b']
  else if c = '\x0c' then ['\\', 'f']
  else if c = '\n' then ['\\', 'n']
  else if c = '\r' then ['\\', 'r']
  else if c = '\t' then ['\\', 't']
  else if c.toNat < 0x20 then ['\\', 'u', '0', '0'] ++ lowHexDigits c
  else [c]

/-- A string with its quotes; unreadable text is written as half of a pair. -/
def writeText : JsonText -> List Char
  | some text => '"' :: text.toList.flatMap escapeChar ++ ['"']
  | none => ['"', '\\', 'u', 'd', '8', '0', '0', '"']

namespace ExponentSign

def characters : ExponentSign -> List Char
  | .none => []
  | .plus => ['+']
  | .minus => ['-']

end ExponentSign

namespace JsonNumber

def characters (n : JsonNumber) : List Char :=
  (if n.negative then ['-'] else []) ++ n.whole ++
    (if n.fraction.isEmpty then [] else '.' :: n.fraction) ++
      match n.exponent with
      | some (sign, digits) => 'e' :: sign.characters ++ digits
      | none => []

end JsonNumber

namespace JsonLexeme

def characters : JsonLexeme -> List Char
  | .openObject => ['\x7b']
  | .closeObject => ['\x7d']
  | .openArray => ['[']
  | .closeArray => [']']
  | .comma => [',']
  | .colon => [':']
  | .null => ['n', 'u', 'l', 'l']
  | .bool true => ['t', 'r', 'u', 'e']
  | .bool false => ['f', 'a', 'l', 's', 'e']
  | .number n => n.characters
  | .string text => writeText text

end JsonLexeme

namespace Json

def characters (j : Json) : List Char :=
  j.lexemes.flatMap JsonLexeme.characters

def print (j : Json) : String :=
  String.ofList j.characters

end Json

end ScriptBridge
