import ImageText.Json.Value
import ImageText.Text.Bytes

/-!
# The compact form of a JSON value

`Value.chars` writes a value without a blank: members in the order of their keys, strings with the
escapes that JSON demands and no others, doubles with the fewest digits that read back.
-/

namespace ImageText.Json

/-- A double is positional from `1e-5` up to `1e16` and scientific outside, with a sign on every
positive exponent. -/
def numberLayout : Decimal.Layout := ⟨-5, 15, 1⟩

/-- One character of a string literal. -/
def escapeChar (c : Char) : List Char :=
  if c = '"' then ['\\', '"']
  else if c = '\\' then ['\\', '\\']
  else if c = '\x08' then ['\\', 'b']
  else if c = '\x0c' then ['\\', 'f']
  else if c = '\n' then ['\\', 'n']
  else if c = '\r' then ['\\', 'r']
  else if c = '\t' then ['\\', 't']
  else if c.toNat < 0x20 then '\\' :: 'u' :: Text.hex 4 c.toNat
  else [c]

/-- A string literal. -/
def literal (s : String) : List Char :=
  '"' :: (s.toList.flatMap escapeChar ++ ['"'])

/-- A whole number in decimal digits. -/
def wholeText (n : Int) : List Char :=
  (if n < 0 then ['-'] else []) ++ Nat.toDigits 10 n.natAbs

/-- The text of a number. -/
def Number.chars : Number → List Char
  | whole n => wholeText n
  | real x => numberLayout.text x

mutual

/-- The compact form of a value. -/
def Value.chars : Value → List Char
  | .null => ['n', 'u', 'l', 'l']
  | .bool true => ['t', 'r', 'u', 'e']
  | .bool false => ['f', 'a', 'l', 's', 'e']
  | .number n => n.chars
  | .string s => literal s
  | .array items => '[' :: (itemChars items ++ [']'])
  | .object members => '\x7b' :: (memberChars members ++ ['\x7d'])

/-- Values between commas. -/
def itemChars : List Value → List Char
  | [] => []
  | [v] => v.chars
  | v :: rest => v.chars ++ ',' :: itemChars rest

/-- Members between commas. -/
def memberChars : List (String × Value) → List Char
  | [] => []
  | [(k, v)] => literal k ++ ':' :: v.chars
  | (k, v) :: rest => literal k ++ ':' :: (v.chars ++ ',' :: memberChars rest)

end

/-- The compact form of a value as a string. -/
def Value.render (v : Value) : String := String.ofList v.chars

end ImageText.Json
