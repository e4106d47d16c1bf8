import ImageText.Text.Bytes
import ImageText.Text.Hidden

/-!
# Quoted text

How a text or a path is shown inside a message, between quotation marks and free of anything that
would not be seen. A backslash announces every escape, and a hidden character is spelled with its
code point in braces. A path is quoted like a text, and bytes that are not UTF-8 are spelled one by
one.
-/

namespace ImageText.Text

/-- The escape of one letter for a character, if it has one. -/
def letterEscape? (c : Char) : Option Char :=
  if c = '\x00' then some '0'
  else if c = '\t' then some 't'
  else if c = '\n' then some 'n'
  else if c = '\r' then some 'r'
  else if c = '"' then some '"'
  else if c = '\\' then some '\\'
  else none

/-- A code point in braces. -/
def bracedCode (c : Char) : List Char :=
  '\\' :: 'u' :: '\x7b' :: (hex 1 c.toNat ++ ['\x7d'])

/-- A character that would not be seen, or not in its own place. -/
def isUnseen (c : Char) : Bool := isHidden c.toNat || isExtender c.toNat || isFiller c.toNat

/-- A character of a quoted text. -/
def quotedChar (c : Char) : List Char :=
  match letterEscape? c with
  | some letter => ['\\', letter]
  | none => if isUnseen c then bracedCode c else [c]

/-- A text in quotation marks. -/
def quoted (s : List Char) : List Char := '"' :: (s.flatMap quotedChar ++ ['"'])

/-- A string in quotation marks. -/
def quotedString (s : String) : String := String.ofList (quoted s.toList)

/-- A byte that is not UTF-8. -/
def bareByte (b : UInt8) : List Char := '\\' :: 'x' :: (hex 2 b.toNat).map Char.toUpper

/-- A piece of a quoted path. -/
def quotedPiece : Piece → List Char
  | .char c => quotedChar c
  | .broken bytes => bytes.flatMap bareByte

/-- A path in quotation marks. -/
def quotedPath (path : Bytes) : List Char :=
  '"' :: ((pieces path).flatMap quotedPiece ++ ['"'])

end ImageText.Text
