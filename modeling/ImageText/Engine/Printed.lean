import ImageText.Engine.CodePoints

/-!
# What is printed

Text that the engine's interpreter prints to the error stream becomes bytes in the encoding that the
environment asks for. A code point that the encoding does not have is spelled out, so printing never
fails. `Noise` is what an engine writes besides its answer: text that the interpreter prints, or
bytes that are written beneath it.
-/

namespace ImageText.Engine

/-- How printed text becomes bytes. -/
inductive Encoding where
  | utf8
  | ascii
  | latin
  | windows
  /-- Two bytes for every code unit, the lower one first. -/
  | units
  deriving DecidableEq, Repr

namespace Encoding

/-- The code points of the bytes from `80` to `9F` in the `windows` encoding; a zero where there
is none. -/
def windowsPoints : List Nat :=
  [0x20AC, 0, 0x201A, 0x0192, 0x201E, 0x2026, 0x2020, 0x2021, 0x02C6, 0x2030, 0x0160, 0x2039,
    0x0152, 0, 0x017D, 0, 0, 0x2018, 0x2019, 0x201C, 0x201D, 0x2022, 0x2013, 0x2014, 0x02DC, 0x2122,
    0x0161, 0x203A, 0x0153, 0, 0x017E, 0x0178]

/-- The names that stand for each encoding. -/
def names : List (String × Encoding) :=
  [("utf_8", utf8), ("utf8", utf8), ("u8", utf8), ("utf", utf8),
    ("ascii", ascii), ("us_ascii", ascii), ("us", ascii), ("646", ascii),
    ("latin_1", latin), ("latin1", latin), ("latin", latin), ("l1", latin), ("8859", latin),
    ("iso_8859_1", latin), ("iso8859_1", latin), ("iso8859", latin), ("cp819", latin),
    ("cp1252", windows), ("windows_1252", windows), ("1252", windows),
    ("utf_16", units), ("utf16", units), ("u16", units), ("utf_16_le", units), ("utf_16le", units)]

/-- The encoding that a setting asks for: what stands before a colon names it, in any case. -/
def ofSetting (setting : Option Bytes) : Encoding :=
  let name := ((Text.lossy (setting.getD [])).takeWhile (· ≠ ':')).map fun c =>
    if c = '-' ∨ c = ' ' then '_' else c.toLower
  (names.lookup (String.ofList name)).getD utf8

/-- A code unit in two bytes. -/
def unitBytes (n : Nat) : Bytes := [n.toUInt8, (n / 0x100).toUInt8]

/-- The bytes of a code point, if the encoding has it. -/
def bytes? (e : Encoding) (n : Nat) : Option Bytes :=
  match e with
  | utf8 => if isSurrogate n then none else some (Text.encodeChar (Char.ofNat n))
  | ascii => if n < 0x80 then some [n.toUInt8] else none
  | latin => if n < 0x100 then some [n.toUInt8] else none
  | windows =>
    if n < 0x80 ∨ (0xA0 ≤ n ∧ n < 0x100) then some [n.toUInt8]
    else (windowsPoints.idxOf? n).map fun i => [(0x80 + i).toUInt8]
  | units =>
    if isSurrogate n then none
    else if n < 0x10000 then some (unitBytes n)
    else some (unitBytes (0xD800 + (n - 0x10000) / 0x400)
      ++ unitBytes (0xDC00 + (n - 0x10000) % 0x400))

/-- A code point spelled out in hexadecimal digits. -/
def spelled (n : Nat) : CodePoints :=
  ofChars (if n < 0x100 then '\\' :: 'x' :: Text.hex 2 n
    else if n < 0x10000 then '\\' :: 'u' :: Text.hex 4 n
    else '\\' :: 'U' :: Text.hex 8 n)

/-- Text as it is printed. -/
def printed (e : Encoding) (s : CodePoints) : Bytes :=
  s.flatMap fun n => (e.bytes? n).getD ((spelled n).flatMap fun d => (e.bytes? d).getD [])

end Encoding

/-- What an engine writes besides its answer. -/
inductive Noise where
  /-- Text that the interpreter prints. -/
  | text (s : CodePoints)
  /-- Bytes that are written beneath it. -/
  | raw (bytes : Bytes)
  deriving DecidableEq, Repr

namespace Noise

/-- A printed line. -/
def line (s : CodePoints) : Noise := text (s ++ [0x0A])

/-- The bytes that reach the error stream. -/
def bytes (e : Encoding) : Noise → Bytes
  | text s => e.printed s
  | raw bs => bs

end Noise

end ImageText.Engine
