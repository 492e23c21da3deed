/-!
# The 64-bit digest

Classes are identified, and handles are ordered, by the XXH64 digest of a few
bytes.  The digest mixes a seed with the input in four stages: whole blocks of
four words, then the words that are left, then the bytes that are left, and a
final scramble.  Words are read with the low byte first.
-/

namespace ScriptBridge
namespace Digest

/-!
## Mixing constants and rounds
-/

def prime1 : UInt64 := 0x9E3779B185EBCA87

def prime2 : UInt64 := 0xC2B2AE3D27D4EB4F

def prime3 : UInt64 := 0x165667B19E3779F9

def prime4 : UInt64 := 0x85EBCA77C2B2AE63

def prime5 : UInt64 := 0x27D4EB2F165667C5

def rotate (word : UInt64) (count : UInt64) : UInt64 :=
  word <<< count ||| word >>> (64 - count)

def mix (accumulator word : UInt64) : UInt64 :=
  rotate (accumulator + word * prime2) 31 * prime1

/-- Fold one of the four accumulators into the digest. -/
def fold (digest accumulator : UInt64) : UInt64 :=
  (digest ^^^ mix 0 accumulator) * prime1 + prime4

/-- Spread every input bit over the whole word. -/
def scramble (digest : UInt64) : UInt64 :=
  let first := (digest ^^^ digest >>> 33) * prime2
  let second := (first ^^^ first >>> 29) * prime3
  second ^^^ second >>> 32

/-!
## Cutting the input
-/

/-- The word spelled by bytes, the low byte first. -/
def word (bytes : List UInt8) : UInt64 :=
  bytes.foldr (fun byte above => byte.toUInt64 + above * 256) 0

/-- The whole words of an input, and the fewer than eight bytes behind them. -/
def split : List UInt8 -> List UInt64 × List UInt8
  | b0 :: b1 :: b2 :: b3 :: b4 :: b5 :: b6 :: b7 :: rest =>
      let (words, tail) := split rest
      (word [b0, b1, b2, b3, b4, b5, b6, b7] :: words, tail)
  | tail => ([], tail)

/-!
## The stages
-/

/-- The four accumulators after every whole block, and the words behind the last block. -/
def blocks (a b c d : UInt64) :
    List UInt64 -> (UInt64 × UInt64 × UInt64 × UInt64) × List UInt64
  | w0 :: w1 :: w2 :: w3 :: rest =>
      blocks (mix a w0) (mix b w1) (mix c w2) (mix d w3) rest
  | rest => ((a, b, c, d), rest)

/-- The digest of the whole blocks of an input that has at least one. -/
def ofBlocks (seed : UInt64) (words : List UInt64) : UInt64 × List UInt64 :=
  let ((a, b, c, d), rest) :=
    blocks (seed + prime1 + prime2) (seed + prime2) seed (seed - prime1) words
  let joined := rotate a 1 + rotate b 7 + rotate c 12 + rotate d 18
  (fold (fold (fold (fold joined a) b) c) d, rest)

def takeWord (digest w : UInt64) : UInt64 :=
  rotate (digest ^^^ mix 0 w) 27 * prime1 + prime4

def takeByte (digest : UInt64) (byte : UInt8) : UInt64 :=
  rotate (digest ^^^ byte.toUInt64 * prime5) 11 * prime1

/-- Take in the last bytes: four at once if there are as many, the others singly. -/
def takeTail (digest : UInt64) : List UInt8 -> UInt64
  | b0 :: b1 :: b2 :: b3 :: rest =>
      let half := word [b0, b1, b2, b3]
      rest.foldl takeByte
        (rotate (digest ^^^ half * prime1) 23 * prime2 + prime3)
  | bytes => bytes.foldl takeByte digest

def ofBytes (seed : UInt64) (bytes : List UInt8) : UInt64 :=
  let (words, tail) := split bytes
  let (start, rest) :=
    if words.length < 4 then (seed + prime5, words) else ofBlocks seed words
  let counted := start + UInt64.ofNat bytes.length
  scramble (takeTail (rest.foldl takeWord counted) tail)

end Digest
end ScriptBridge
