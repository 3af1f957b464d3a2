/-!
# UTF-8

Cells hold bytes, keys and fields are text. `Utf8.encode` and
`Utf8.decode` go between the two; a decoding fault says where the first
bad sequence starts and how long it is, or that the text ends inside one.

A sequence is bad as soon as a byte cannot continue it, so its length is
the number of bytes before that byte. The second byte already rules out
overlong forms, surrogates and values above U+10FFFF.
-/

namespace JobLedger

/-- The content of a cell or a file. -/
abbrev Bytes := List UInt8

/-- The first fault of bytes that are not UTF-8. -/
inductive Utf8Fault
  /-- The sequence at `index` is bad after `length` bytes. -/
  | invalid (length index : Nat)
  /-- The bytes end inside the sequence at `index`. -/
  | incomplete (index : Nat)
deriving DecidableEq, Repr

def Utf8Fault.message : Utf8Fault → String
  | .invalid length index =>
      s!"invalid utf-8 sequence of {length} bytes from index {index}"
  | .incomplete index => s!"incomplete utf-8 byte sequence from index {index}"

namespace Utf8

def encode (cs : List Char) : Bytes := cs.flatMap String.utf8EncodeChar

/-- The encoding of a string. -/
def bytes (s : String) : Bytes := encode s.toList

/-- A byte that continues a sequence. -/
def isTail (b : UInt8) : Bool := 0x80 ≤ b && b ≤ 0xBF

/-- The second byte that a sequence of three starting with `b` may have. -/
def second3 (b c : UInt8) : Bool :=
  if b = 0xE0 then 0xA0 ≤ c && c ≤ 0xBF
  else if b = 0xED then 0x80 ≤ c && c ≤ 0x9F
  else isTail c

/-- The second byte that a sequence of four starting with `b` may have. -/
def second4 (b c : UInt8) : Bool :=
  if b = 0xF0 then 0x90 ≤ c && c ≤ 0xBF
  else if b = 0xF4 then 0x80 ≤ c && c ≤ 0x8F
  else isTail c

/-- The six bits that a continuing byte carries. -/
def tailBits (b : UInt8) : Nat := b.toNat - 0x80

/-- Decodes bytes of which the first has the given index. -/
def decodeFrom (i : Nat) : Bytes → Except Utf8Fault (List Char)
  | [] => .ok []
  | b :: r =>
      if b < 0x80 then
        (decodeFrom (i + 1) r).map (Char.ofNat b.toNat :: ·)
      else if 0xC2 ≤ b ∧ b ≤ 0xDF then
        match r with
        | [] => .error (.incomplete i)
        | c :: r =>
            if isTail c then
              (decodeFrom (i + 2) r).map
                (Char.ofNat ((b.toNat - 0xC0) * 64 + tailBits c) :: ·)
            else .error (.invalid 1 i)
      else if 0xE0 ≤ b ∧ b ≤ 0xEF then
        match r with
        | [] => .error (.incomplete i)
        | c :: r =>
            if second3 b c then
              match r with
              | [] => .error (.incomplete i)
              | d :: r =>
                  if isTail d then
                    (decodeFrom (i + 3) r).map
                      (Char.ofNat ((b.toNat - 0xE0) * 4096 + tailBits c * 64 + tailBits d) :: ·)
                  else .error (.invalid 2 i)
            else .error (.invalid 1 i)
      else if 0xF0 ≤ b ∧ b ≤ 0xF4 then
        match r with
        | [] => .error (.incomplete i)
        | c :: r =>
            if second4 b c then
              match r with
              | [] => .error (.incomplete i)
              | d :: r =>
                  if isTail d then
                    match r with
                    | [] => .error (.incomplete i)
                    | e :: r =>
                        if isTail e then
                          (decodeFrom (i + 4) r).map
                            (Char.ofNat ((b.toNat - 0xF0) * 262144 + tailBits c * 4096
                              + tailBits d * 64 + tailBits e) :: ·)
                        else .error (.invalid 3 i)
                  else .error (.invalid 2 i)
            else .error (.invalid 1 i)
      else .error (.invalid 1 i)

/-- The text that the bytes encode, or the first fault. -/
def decode (bs : Bytes) : Except Utf8Fault String :=
  (decodeFrom 0 bs).map String.ofList

/-- Decodes with `bad` in place of each bad sequence, and in place of a
sequence that the end cuts short. -/
def decodeWith (bad : List Char) (bs : Bytes) : List Char :=
  go bs.length bs
where
  go : Nat → Bytes → List Char
    | 0, _ => []
    | fuel + 1, bs =>
        match decodeFrom 0 bs with
        | .ok cs => cs
        | .error (.invalid length index) =>
            good index bs ++ bad ++ go fuel (bs.drop (index + length))
        | .error (.incomplete index) => good index bs ++ bad
  good (index : Nat) (bs : Bytes) : List Char :=
    match decodeFrom 0 (bs.take index) with
    | .ok cs => cs
    | .error _ => []

end Utf8

end JobLedger
