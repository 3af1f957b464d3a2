import JobLedger.Text.Utf8

/-!
# SipHash-1-3

The keyed hash with one round per word and three at the end, here with the
all-zero key. Row keys are spread over the parts of a text output by this
hash; nothing else depends on its values, and the laws of the output hold
for every function in its place.
-/

namespace JobLedger.SipHash

/-- The four words that a round mixes. -/
structure State where
  v0 : UInt64
  v1 : UInt64
  v2 : UInt64
  v3 : UInt64

def rotate (x : UInt64) (n : UInt64) : UInt64 := (x <<< n) ||| (x >>> (64 - n))

/-- The state of the all-zero key. -/
def start : State :=
  ⟨0x736f6d6570736575, 0x646f72616e646f6d, 0x6c7967656e657261, 0x7465646279746573⟩

def round (s : State) : State :=
  let v0 := s.v0 + s.v1
  let v1 := rotate s.v1 13 ^^^ v0
  let v0 := rotate v0 32
  let v2 := s.v2 + s.v3
  let v3 := rotate s.v3 16 ^^^ v2
  let v0 := v0 + v3
  let v3 := rotate v3 21 ^^^ v0
  let v2 := v2 + v1
  let v1 := rotate v1 17 ^^^ v2
  let v2 := rotate v2 32
  ⟨v0, v1, v2, v3⟩

/-- Mixes one word into the state. -/
def absorb (s : State) (m : UInt64) : State :=
  let s := round { s with v3 := s.v3 ^^^ m }
  { s with v0 := s.v0 ^^^ m }

/-- The word of up to eight bytes, the first lowest. -/
def word (bs : Bytes) : UInt64 :=
  bs.foldr (fun b w => (w <<< 8) ||| b.toUInt64) 0

/-- Absorbs the bytes eight at a time, the rest with the total length. -/
def absorbAll (length : Nat) : Nat → State → Bytes → State
  | 0, s, bs => absorb s ((UInt64.ofNat length <<< 56) ||| word bs)
  | blocks + 1, s, bs => absorbAll length blocks (absorb s (word (bs.take 8))) (bs.drop 8)

def hash (bs : Bytes) : UInt64 :=
  let s := absorbAll bs.length (bs.length / 8) start bs
  let s := round (round (round { s with v2 := s.v2 ^^^ 0xff }))
  s.v0 ^^^ s.v1 ^^^ s.v2 ^^^ s.v3

/-- The hash of a text: of its UTF-8 form, closed by a byte that no text
contains. -/
def ofText (s : String) : Nat := (hash (Utf8.bytes s ++ [0xff])).toNat

end JobLedger.SipHash
