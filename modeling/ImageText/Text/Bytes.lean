/-!
# Bytes and their UTF-8 reading

Paths, arguments and everything a child process writes are plain bytes. This file reads them as
UTF-8 one byte at a time: `Scan.step` is a small machine whose state is the character that is
under way. Bytes that cannot become a character are set apart at their longest well-formed
beginning, so `pieces` describes any byte string, valid or not, and keeps all of it:

* `decode?` succeeds exactly when every piece is a character;
* `lossy` puts the replacement character in the place of every broken piece;
* `validPrefix` counts the bytes before the first broken piece.
-/

namespace ImageText

/-- Raw bytes, with no promise about their encoding. -/
abbrev Bytes := List UInt8

namespace Text

/-- The UTF-8 form of one character. -/
def encodeChar (c : Char) : Bytes :=
  let n := c.toNat
  if n < 0x80 then [n.toUInt8]
  else if n < 0x800 then [(0xC0 + n / 0x40).toUInt8, (0x80 + n % 0x40).toUInt8]
  else if n < 0x10000 then
    [(0xE0 + n / 0x1000).toUInt8, (0x80 + n / 0x40 % 0x40).toUInt8, (0x80 + n % 0x40).toUInt8]
  else
    [(0xF0 + n / 0x40000).toUInt8, (0x80 + n / 0x1000 % 0x40).toUInt8,
      (0x80 + n / 0x40 % 0x40).toUInt8, (0x80 + n % 0x40).toUInt8]

/-- The UTF-8 form of a text. -/
def encode (s : List Char) : Bytes := s.flatMap encodeChar

/-- A part of a byte string: a character, or bytes that are not UTF-8. -/
inductive Piece where
  | char (c : Char)
  | broken (bytes : Bytes)
  deriving DecidableEq, Repr

/-- The character of a piece. -/
def Piece.char? : Piece → Option Char
  | char c => some c
  | broken _ => none

/-- A character whose first bytes have been read. -/
structure Partial where
  /-- The bytes read so far, last first. -/
  read : Bytes
  /-- How many bytes are still to come, at least one. -/
  missing : Nat
  /-- The bits read so far. -/
  value : Nat
  /-- The least next byte that continues the character. -/
  low : UInt8
  /-- The greatest next byte that continues the character. -/
  high : UInt8
  deriving DecidableEq, Repr

/-- The state between two bytes: what has been read, last first, and the character under way. -/
structure Scan where
  seen : List Piece
  pending : Option Partial
  deriving DecidableEq, Repr

namespace Scan

/-- Nothing has been read. -/
def start : Scan := ⟨[], none⟩

/-- A byte that begins something new: an ASCII character, a longer character, or a broken piece.
The bounds on the second byte keep out overlong forms, surrogates and values past `10FFFF`. -/
def begin (seen : List Piece) (b : UInt8) : Scan :=
  if b < 0x80 then ⟨.char (Char.ofNat b.toNat) :: seen, none⟩
  else if b < 0xC2 then ⟨.broken [b] :: seen, none⟩
  else if b < 0xE0 then ⟨seen, some ⟨[b], 1, b.toNat - 0xC0, 0x80, 0xBF⟩⟩
  else if b = 0xE0 then ⟨seen, some ⟨[b], 2, 0, 0xA0, 0xBF⟩⟩
  else if b = 0xED then ⟨seen, some ⟨[b], 2, 0xD, 0x80, 0x9F⟩⟩
  else if b < 0xF0 then ⟨seen, some ⟨[b], 2, b.toNat - 0xE0, 0x80, 0xBF⟩⟩
  else if b = 0xF0 then ⟨seen, some ⟨[b], 3, 0, 0x90, 0xBF⟩⟩
  else if b < 0xF4 then ⟨seen, some ⟨[b], 3, b.toNat - 0xF0, 0x80, 0xBF⟩⟩
  else if b = 0xF4 then ⟨seen, some ⟨[b], 3, 4, 0x80, 0x8F⟩⟩
  else ⟨.broken [b] :: seen, none⟩

/-- One more byte. A byte that does not continue the character under way breaks it off and then
begins something new. -/
def step (s : Scan) (b : UInt8) : Scan :=
  match s.pending with
  | none => begin s.seen b
  | some p =>
    if p.low ≤ b ∧ b ≤ p.high then
      let value := p.value * 0x40 + (b.toNat - 0x80)
      if p.missing ≤ 1 then ⟨.char (Char.ofNat value) :: s.seen, none⟩
      else ⟨s.seen, some ⟨b :: p.read, p.missing - 1, value, 0x80, 0xBF⟩⟩
    else begin (.broken p.read.reverse :: s.seen) b

/-- The end of the input breaks off a character under way. -/
def finish (s : Scan) : List Piece :=
  match s.pending with
  | none => s.seen.reverse
  | some p => (.broken p.read.reverse :: s.seen).reverse

end Scan

/-- A byte string cut into characters and broken pieces. -/
def pieces (bytes : Bytes) : List Piece :=
  (bytes.foldl Scan.step Scan.start).finish

/-- The text of a byte string that is UTF-8 throughout. -/
def decode? (bytes : Bytes) : Option (List Char) := (pieces bytes).mapM Piece.char?

/-- What stands for a piece that is not UTF-8. -/
def replacement : Char := '\uFFFD'

/-- The text of a byte string, with the replacement character for every broken piece. -/
def lossy (bytes : Bytes) : List Char :=
  (pieces bytes).map fun p => p.char?.getD replacement

/-- How many bytes stand before the first broken piece. -/
def validPrefix (bytes : Bytes) : Nat :=
  (encode ((((pieces bytes).map Piece.char?).takeWhile Option.isSome).filterMap id)).length

/-- The digits of `n` in base 16, at least `width` of them. -/
def hex (width n : Nat) : List Char :=
  let ds := Nat.toDigits 16 n
  List.replicate (width - ds.length) '0' ++ ds

end Text

/-- The UTF-8 bytes of a string. -/
def utf8 (s : String) : Bytes := Text.encode s.toList

/-- The string of a byte string, with the replacement character for every part that is not UTF-8. -/
def shown (bytes : Bytes) : String := String.ofList (Text.lossy bytes)

end ImageText
