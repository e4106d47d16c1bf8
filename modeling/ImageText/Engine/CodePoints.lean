import ImageText.Text.Bytes

/-!
# Text on the engine's side

The engine's interpreter keeps text as code points, surrogates included. An argument that is not
UTF-8 becomes text by giving every bad byte a surrogate of its own, so that no byte is lost.
-/

namespace ImageText.Engine

/-- Code points in a row; surrogates may be among them. -/
abbrev CodePoints := List Nat

/-- The code points of a text. -/
def ofChars (s : List Char) : CodePoints := s.map Char.toNat

/-- The code points of a string. -/
def ofString (s : String) : CodePoints := ofChars s.toList

/-- The surrogate that stands for a byte that is not UTF-8. -/
def byteSurrogate (b : UInt8) : Nat := 0xDC00 + b.toNat

/-- The code points of an argument. -/
def ofArgument (bytes : Bytes) : CodePoints :=
  (Text.pieces bytes).flatMap fun
    | .char c => [c.toNat]
    | .broken bs => bs.map byteSurrogate

/-- A surrogate. -/
def isSurrogate (n : Nat) : Bool := 0xD800 ≤ n && n ≤ 0xDFFF

end ImageText.Engine
