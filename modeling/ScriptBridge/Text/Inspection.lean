import ScriptBridge.Text.Hidden
import ScriptBridge.Number.Shortest

/-!
# Inspection texts

An inspection text shows a value with the names of its parts, for a person who
is looking for a mistake.  This module has the pieces that such texts are made
of: quoted text, numbers, lists, and records with named or unnamed parts.
-/

namespace ScriptBridge
namespace Inspection

/-- The hexadecimal digits of a number, padded with zeros to a width. -/
def hex (width n : Nat) : String :=
  let digits := Nat.toDigits 16 n
  String.ofList (List.replicate (width - digits.length) '0' ++ digits)

/-!
## Quoted text
-/

def quotedChar (c : Char) : List Char :=
  if c = '\x00' then ['\\', '0']
  else if c = '\t' then ['\\', 't']
  else if c = '\r' then ['\\', 'r']
  else if c = '\n' then ['\\', 'n']
  else if c = '\\' || c = '"' then ['\\', c]
  else if isHidden c then
    ['\\', 'u', '\x7b'] ++ Nat.toDigits 16 c.toNat ++ ['\x7d']
  else [c]

def quoted (text : String) : String :=
  String.ofList ('"' :: text.toList.flatMap quotedChar ++ ['"'])

/-!
## Numbers
-/

/-- A double in positional notation, with a point only if digits follow it. -/
def double (x : Double) : String :=
  if x.isNaN then "NaN"
  else
    let sign := if x.isNegative then "-" else ""
    if x.isInfinite then sign ++ "inf"
    else
      let decimal := x.shortest .up
      let fraction := decimal.fractionPart
      let point := if fraction.isEmpty then [] else '.' :: fraction
      sign ++ String.ofList (decimal.wholePart ++ point)

/-!
## Lists and records
-/

def commaSeparated (parts : List String) : String :=
  ", ".intercalate parts

def list (items : List String) : String :=
  "[" ++ commaSeparated items ++ "]"

def wrapped (name : String) (part : String) : String :=
  name ++ "(" ++ part ++ ")"

def optional : Option String -> String
  | none => "None"
  | some part => wrapped "Some" part

def field (label text : String) : String :=
  label ++ ": " ++ text

def record (name : String) (fields : List (String × String)) : String :=
  name ++ " \x7b " ++
    commaSeparated (fields.map (fun part => field part.1 part.2)) ++ " \x7d"

/-- A name with named parts, some of which are not shown. -/
def partialRecord (name : String) (fields : List (String × String)) :
    String :=
  name ++ " \x7b " ++
    commaSeparated
      (fields.map (fun part => field part.1 part.2) ++ [".."]) ++ " \x7d"

end Inspection
end ScriptBridge
