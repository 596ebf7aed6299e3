/-!
# UTF-8

Sources, settings and artifacts are bytes; their texts are UTF-8. `decode` reads bytes one at a time:
between characters it is idle, inside a character it knows how many bytes are missing and within
which limits the next one must lie. The first byte that does not fit stops it with a `Fault`, which
tells the bytes concerned and the reason. `encode` writes characters.
-/

namespace ApiOutline.Text

/-- The content of a file. -/
abbrev Bytes := List UInt8

namespace Utf8

/-- Why bytes are not UTF-8. -/
inductive Reason where
  /-- The byte starts no character. -/
  | badStart
  /-- The byte after the given ones cannot continue them. -/
  | badContinuation
  /-- The bytes end inside a character. -/
  | cutShort
deriving DecidableEq, Repr

/-- The first place where bytes stop being UTF-8: the positions `start ≤ i < stop`, of which `byte`
is the first. -/
structure Fault where
  start : Nat
  stop : Nat
  byte : UInt8
  reason : Reason
deriving DecidableEq, Repr

/-- A character of which some bytes are still missing. -/
structure Partial where
  /-- Position of its first byte. -/
  start : Nat
  /-- Its first byte. -/
  lead : UInt8
  /-- The code point read so far. -/
  value : Nat
  /-- How many bytes are missing, less one. -/
  more : Nat
  /-- Limits of the next byte. -/
  low : UInt8
  high : UInt8

/-- What a first byte announces: a whole character, a character to complete, or nothing. -/
def begin (pos : Nat) (b : UInt8) : Option (Char ⊕ Partial) :=
  let opened (value more : Nat) (low high : UInt8) := some (.inr ⟨pos, b, value, more, low, high⟩)
  if b < 0x80 then some (.inl (Char.ofNat b.toNat))
  else if b < 0xC2 then none
  else if b < 0xE0 then opened (b.toNat - 0xC0) 0 0x80 0xBF
  else if b < 0xF0 then
    opened (b.toNat - 0xE0) 1 (if b = 0xE0 then 0xA0 else 0x80) (if b = 0xED then 0x9F else 0xBF)
  else if b < 0xF5 then
    opened (b.toNat - 0xF0) 2 (if b = 0xF0 then 0x90 else 0x80) (if b = 0xF4 then 0x8F else 0xBF)
  else none

/-- Take the next byte into an open character, which it may complete. The byte fits its limits. -/
def Partial.extend (p : Partial) (b : UInt8) : Char ⊕ Partial :=
  let value := p.value * 64 + (b.toNat - 0x80)
  match p.more with
  | 0 => .inl (Char.ofNat value)
  | more + 1 => .inr ⟨p.start, p.lead, value, more, 0x80, 0xBF⟩

/-- Decode from a state: `pending` is the open character, if any, and `pos` the position of the next
byte. -/
def decodeFrom (pos : Nat) (pending : Option Partial) : Bytes → Except Fault (List Char)
  | [] =>
    match pending with
    | none => .ok []
    | some p => .error ⟨p.start, pos, p.lead, .cutShort⟩
  | b :: rest =>
    match pending with
    | none =>
      match begin pos b with
      | none => .error ⟨pos, pos + 1, b, .badStart⟩
      | some (.inl c) => (decodeFrom (pos + 1) none rest).map (c :: ·)
      | some (.inr p) => decodeFrom (pos + 1) (some p) rest
    | some p =>
      if p.low ≤ b ∧ b ≤ p.high then
        match p.extend b with
        | .inl c => (decodeFrom (pos + 1) none rest).map (c :: ·)
        | .inr q => decodeFrom (pos + 1) (some q) rest
      else .error ⟨p.start, pos, p.lead, .badContinuation⟩

/-- The characters that the bytes encode, or the first fault. -/
def decode (bytes : Bytes) : Except Fault (List Char) :=
  decodeFrom 0 none bytes

/-- The bytes of one character. -/
def encodeChar (c : Char) : Bytes :=
  let n := c.toNat
  let tail (shift : Nat) : UInt8 := (0x80 + n / shift % 64).toUInt8
  if n < 0x80 then [n.toUInt8]
  else if n < 0x800 then [(0xC0 + n / 64).toUInt8, tail 1]
  else if n < 0x10000 then [(0xE0 + n / 4096).toUInt8, tail 64, tail 1]
  else [(0xF0 + n / 262144).toUInt8, tail 4096, tail 64, tail 1]

/-- The bytes of a text. -/
def encode (cs : List Char) : Bytes :=
  cs.flatMap encodeChar

/-- The bytes of a string. -/
def ofString (s : String) : Bytes :=
  encode s.toList

/-- The string that the bytes encode. -/
def toString (bytes : Bytes) : Except Fault String :=
  (decode bytes).map String.ofList

/-- The byte order mark. -/
def byteOrderMark : Bytes := [0xEF, 0xBB, 0xBF]

/-- The bytes without one byte order mark at their start. -/
def dropMark (bytes : Bytes) : Bytes :=
  if byteOrderMark.isPrefixOf bytes then bytes.drop 3 else bytes

/-- The two hexadecimal digits of a byte. -/
def hexByte (b : UInt8) : String :=
  String.ofList [Nat.digitChar (b.toNat / 16), Nat.digitChar (b.toNat % 16)]

/-- The words for a reason. -/
def Reason.message : Reason → String
  | .badStart => "invalid start byte"
  | .badContinuation => "invalid continuation byte"
  | .cutShort => "unexpected end of data"

/-- The text of a fault. One byte is shown, several are given by their first and last position. -/
def Fault.message (f : Fault) : String :=
  let subject :=
    if f.stop = f.start + 1 then s!"byte 0x{hexByte f.byte} in position {f.start}"
    else s!"bytes in position {f.start}-{f.stop - 1}"
  s!"'utf-8' codec can't decode {subject}: {f.reason.message}"

end Utf8

end ApiOutline.Text
