import ScriptBridge.Digest
import ScriptBridge.Text.Inspection

/-!
# Class identities

A native class is known by a 64-bit identity computed from its name alone.  The
same name gives the same identity in every program run, so a class can be named
before it is registered, and a saved reference to a class stays valid.
-/

namespace ScriptBridge

structure ClassId where
  word : UInt64
  deriving DecidableEq, Inhabited

namespace ClassId

/-- Keeps class identities apart from other digests of the same text. -/
def mark : UInt64 := 0x2fac10b63a6cc57c

def ofName (name : String) : ClassId :=
  ⟨mark ^^^ Digest.ofBytes 0 name.toUTF8.toList⟩

/-- The identity that stands for no class. -/
def empty : ClassId :=
  ⟨0⟩

def isEmpty (c : ClassId) : Bool :=
  c.word = 0

def text (c : ClassId) : String :=
  Inspection.hex 16 c.word.toNat

def inspect (c : ClassId) : String :=
  Inspection.wrapped "TypeHash" ("0x" ++ c.text)

end ClassId

end ScriptBridge
