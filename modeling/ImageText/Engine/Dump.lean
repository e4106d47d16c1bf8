import ImageText.Engine.Spelling

/-!
# The written answer

Plain data is written as JSON in ASCII: a blank behind every comma and colon, every character
outside ASCII and every control spelled as code units of four digits, numbers in full. Floating-point
numbers beyond the reals have names of their own, which are no JSON. Every bracket that is open is a call
of the interpreter.
-/

namespace ImageText.Engine

namespace Datum

/-- A code unit of four digits. -/
def unitEscape (n : Nat) : List Char := '\\' :: 'u' :: Text.hex 4 n

/-- A code point of a string literal. -/
def dumpedPoint (n : Nat) : List Char :=
  if n = 0x22 then ['\\', '"']
  else if n = 0x5C then ['\\', '\\']
  else if n = 0x08 then ['\\', 'b']
  else if n = 0x0C then ['\\', 'f']
  else if n = 0x0A then ['\\', 'n']
  else if n = 0x0D then ['\\', 'r']
  else if n = 0x09 then ['\\', 't']
  else if 0x20 ≤ n ∧ n < 0x7F then [Char.ofNat n]
  else if n < 0x10000 then unitEscape n
  else unitEscape (0xD800 + (n - 0x10000) / 0x400) ++ unitEscape (0xDC00 + (n - 0x10000) % 0x400)

/-- A string literal. -/
def dumpedText (s : CodePoints) : List Char := '"' :: (s.flatMap dumpedPoint ++ ['"'])

/-- A floating-point number. -/
def dumpedReal : Real → List Char
  | .finite x => floatLayout.text x
  | .infinite false => ['I', 'n', 'f', 'i', 'n', 'i', 't', 'y']
  | .infinite true => ['-', 'I', 'n', 'f', 'i', 'n', 'i', 't', 'y']
  | .nan => ['N', 'a', 'N']

/-- A word of JSON for a scalar, if it is one. A number may be too long for it. -/
def dumpedScalar? : Datum → Option (Except Raised (List Char))
  | null => some (.ok ['n', 'u', 'l', 'l'])
  | bool true => some (.ok ['t', 'r', 'u', 'e'])
  | bool false => some (.ok ['f', 'a', 'l', 's', 'e'])
  | int n => some (intText n)
  | float x => some (.ok (dumpedReal x))
  | _ => none

/-- A key, which is a text or the text of a scalar. -/
def dumpedKey : Datum → Except Raised (List Char)
  | str s => .ok (dumpedText s)
  | x =>
    match x.dumpedScalar? with
    | some word => word.map fun word => '"' :: (word ++ ['"'])
    | none => .error (Raised.typeError
        ("keys must be str, int, float, bool or None, not " ++ x.typeName))

/-- The refusal of a value that is no data. It takes two calls. -/
def refused (room : Nat) (x : Datum) : Except Raised (List Char) :=
  calling room "" fun room =>
    calling room " while calling a Python object" fun _ =>
      .error (Raised.typeError ("Object of type " ++ x.typeName ++ " is not JSON serializable"))

/-- The inside of a bracket. -/
def encoding {α : Type} (room : Nat) (inside : Nat → Except Raised α) : Except Raised α :=
  calling room " while encoding a JSON object" inside

mutual

/-- Data as JSON, with room for more brackets. -/
def dump (room : Nat) : Datum → Except Raised (List Char)
  | str s => .ok (dumpedText s)
  | list items =>
    encoding room fun room => (dumpItems room items).map fun body => '[' :: (body ++ [']'])
  | tuple items =>
    encoding room fun room => (dumpItems room items).map fun body => '[' :: (body ++ [']'])
  | dict entries =>
    encoding room fun room =>
      (dumpEntries room entries).map fun body => '\x7b' :: (body ++ ['\x7d'])
  | x =>
    match x.dumpedScalar? with
    | some word => word
    | none => x.refused room

/-- Values between commas. -/
def dumpItems (room : Nat) : List Datum → Except Raised (List Char)
  | [] => .ok []
  | x :: rest =>
    (x.dump room).bind fun head =>
      match rest with
      | [] => .ok head
      | _ :: _ => (dumpItems room rest).map fun tail => head ++ ',' :: ' ' :: tail

/-- Entries between commas. -/
def dumpEntries (room : Nat) : List (Datum × Datum) → Except Raised (List Char)
  | [] => .ok []
  | (k, v) :: rest =>
    (dumpedKey k).bind fun key => (v.dump room).bind fun value =>
      let entry := key ++ ':' :: ' ' :: value
      match rest with
      | [] => .ok entry
      | _ :: _ => (dumpEntries room rest).map fun tail => entry ++ ',' :: ' ' :: tail

end

end Datum

end ImageText.Engine
