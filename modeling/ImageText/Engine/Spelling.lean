import ImageText.Engine.Limits

/-!
# How values are shown

`Datum.text` is what the interpreter prints for a value, and `Datum.spelling` is how it shows a value
inside another. A text is printed as it is and shown in quotation marks; everything else is printed as it
is shown. Every conversion is a call, so there may be no room for it, and a whole number inside may be
too long.
-/

namespace ImageText.Engine

namespace Datum

/-! ## Scalars -/

/-- A double is positional from `1e-4` up to `1e16` and scientific outside, with two digits in
every exponent. -/
def floatLayout : Decimal.Layout := ⟨-4, 15, 2⟩

/-- The text of a floating-point number. -/
def realText : Real → List Char
  | .finite x => floatLayout.text x
  | .infinite false => ['i', 'n', 'f']
  | .infinite true => ['-', 'i', 'n', 'f']
  | .nan => ['n', 'a', 'n']

/-- The quotation mark around a text: an apostrophe, unless the text holds one and no double
quote. -/
def quoteFor (s : List Nat) : Nat :=
  if 0x27 ∈ s ∧ 0x22 ∉ s then 0x22 else 0x27

/-- The escape of one letter for a code point, if it has one. -/
def letterFor? (quote n : Nat) : Option Char :=
  if n = quote then some (Char.ofNat quote)
  else if n = 0x5C then some '\\'
  else if n = 0x09 then some 't'
  else if n = 0x0A then some 'n'
  else if n = 0x0D then some 'r'
  else none

/-- A code point that is not shown as itself. -/
def numberedEscape (n : Nat) : List Char :=
  if n ≤ 0xFF then '\\' :: 'x' :: Text.hex 2 n
  else if n ≤ 0xFFFF then '\\' :: 'u' :: Text.hex 4 n
  else '\\' :: 'U' :: Text.hex 8 n

/-- A code point inside quotation marks. -/
def spelledPoint (quote n : Nat) : CodePoints :=
  match letterFor? quote n with
  | some letter => ofChars ['\\', letter]
  | none => if Text.isHiddenToEngine n then ofChars (numberedEscape n) else [n]

/-- A text in quotation marks. -/
def spelledText (s : CodePoints) : CodePoints :=
  let quote := quoteFor s
  quote :: (s.flatMap (spelledPoint quote) ++ [quote])

/-- A byte inside quotation marks. -/
def spelledByte (quote : Nat) (b : UInt8) : CodePoints :=
  match letterFor? quote b.toNat with
  | some letter => ofChars ['\\', letter]
  | none =>
    if 0x20 ≤ b && b < 0x7F then [b.toNat] else ofChars ('\\' :: 'x' :: Text.hex 2 b.toNat)

/-- Bytes in quotation marks. -/
def spelledBytes (bs : Bytes) : CodePoints :=
  let quote := quoteFor (bs.map UInt8.toNat)
  ofChars ['b'] ++ quote :: (bs.flatMap (spelledByte quote) ++ [quote])

/-! ## Values -/

/-- A value that is shown inside another. -/
def representing {α : Type} (room : Nat) (inside : Nat → Except Raised α) : Except Raised α :=
  calling room " while getting the repr of an object" inside

mutual

/-- How a value is shown, with room for more calls. -/
def shown (room : Nat) : Datum → Except Raised CodePoints
  | null => .ok (ofString "None")
  | bool true => .ok (ofString "True")
  | bool false => .ok (ofString "False")
  | int n => (intText n).map ofChars
  | float x => .ok (ofChars (realText x))
  | str s => .ok (spelledText s)
  | bytes bs => .ok (spelledBytes bs)
  | list items => (shownItems room items).map fun body => ofString "[" ++ body ++ ofString "]"
  | tuple items =>
    (shownItems room items).map fun body =>
      ofString "(" ++ body ++ ofString (if items.length = 1 then ",)" else ")")
  | dict entries =>
    (shownEntries room entries).map fun body => ofString "\x7b" ++ body ++ ofString "\x7d"
  | mapping _ => .ok (ofString "<Items object>")
  | array _ _ => .ok (ofString "<Array object>")
  | generator _ => .ok (ofString "<generator object>")
  | opaqueObject text => .ok text

/-- Values between commas. -/
def shownItems (room : Nat) : List Datum → Except Raised CodePoints
  | [] => .ok []
  | x :: rest =>
    (representing room fun room => x.shown room).bind fun head =>
      match rest with
      | [] => .ok head
      | _ :: _ => (shownItems room rest).map fun tail => head ++ ofString ", " ++ tail

/-- Entries between commas. -/
def shownEntries (room : Nat) : List (Datum × Datum) → Except Raised CodePoints
  | [] => .ok []
  | (k, v) :: rest =>
    (representing room fun room => k.shown room).bind fun key =>
      (representing room fun room => v.shown room).bind fun value =>
        let entry := key ++ ofString ": " ++ value
        match rest with
        | [] => .ok entry
        | _ :: _ => (shownEntries room rest).map fun tail => entry ++ ofString ", " ++ tail

end

/-- A value as it is shown inside another. -/
def spelling (room : Nat) (x : Datum) : Except Raised CodePoints :=
  representing room fun room => x.shown room

/-- A value as it is printed. -/
def text (room : Nat) : Datum → Except Raised CodePoints
  | str s => .ok s
  | x => calling room " while getting the str of an object" fun room => x.shown room

/-- The text that the program asks for by a call. -/
def asText (room : Nat) (x : Datum) : Except Raised CodePoints :=
  calling room " while calling a Python object" fun room => x.text room

end Datum

end ImageText.Engine
