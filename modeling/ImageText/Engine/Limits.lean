import ImageText.Engine.Raised

/-!
# Limits of the interpreter

The interpreter does not turn a whole number with very many digits into text, or read it from text, and
it does not open very many calls in one another. Both are ordinary exceptions, and every function on
values of the engine that could meet with one is told how many more calls there is room for.

Calls are those of the program and of its comprehensions, and whatever else the interpreter counts with
them: a look at a type, a conversion to text, a bracket that is written or read. What an engine's own
objects take on the way is left out. So is that the interpreter saves a call when it turns a key into a text
in a comprehension that has been run some times: what is nested so deeply that this tells is refused here
one call too early.
-/

namespace ImageText.Engine

/-! ## Digits -/

/-- The greatest number of digits of a whole number that is turned into text or read from it. -/
def maxDigits : Nat := 4300

/-- There are too many digits. The detail is what is known of their number. -/
def tooLong (detail : String) : Raised :=
  Raised.valueError ("Exceeds the limit (" ++ toString maxDigits
    ++ " digits) for integer string conversion" ++ detail
    ++ "; use sys.set_int_max_str_digits() to increase the limit")

/-- The text of a whole number. -/
def intText (n : Int) : Except Raised (List Char) :=
  let digits := Nat.toDigits 10 n.natAbs
  if maxDigits < digits.length then .error (tooLong "")
  else .ok ((if n < 0 then ['-'] else []) ++ digits)

/-! ## Calls -/

/-- How many calls can be open in one another. -/
def maxCalls : Nat := 1000

/-- The room for calls in the recognition: the program, its main function and the recognition itself
are open. -/
def programRoom : Nat := maxCalls - 3

/-- The room for brackets when a document is written or read: the interpreter opens four calls before
it comes to the first of them. -/
def documentRoom : Nat := programRoom - 4

/-- There is no room for one more call. -/
def tooDeep (doing : String) : Raised :=
  ⟨ofString "RecursionError", ofString ("maximum recursion depth exceeded" ++ doing), none⟩

/-- What comes of one more call, if there is room for it. What is done inside has the room that is then
left. -/
def calling {α : Type} (room : Nat) (doing : String) (inside : Nat → Except Raised α) :
    Except Raised α :=
  match room with
  | 0 => .error (tooDeep doing)
  | room + 1 => inside room

end ImageText.Engine
