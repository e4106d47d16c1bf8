import ImageText.Engine.Spelling

/-!
# Plain data

An answer of the engine is made plain before it is written down: mappings become dictionaries with
texts for keys, sequences become lists, arrays hand out their content, and whatever is unfamiliar
becomes its text. An array with very many elements is an image and not a result; it becomes null.

Two calls are open for every container: one for the value and one for the comprehension that goes through
what is in it. A look at the type of a value takes a call, too, and only for nothing there is no look.
-/

namespace ImageText.Engine

/-- The greatest size of an array that is a result. -/
def maxArraySize : Int := 4096

namespace Datum

/-- Put an entry into a dictionary with texts for keys. -/
def putText (key : CodePoints) (value : Datum) : List (Datum × Datum) → List (Datum × Datum) :=
  put (.str key) value

/-- A call with a value and a look at its type. Where the look was there is room for another call, and
`inside` says what comes of that one. -/
def looking {α : Type} (room : Nat) (inside : Nat → Except Raised α) : Except Raised α :=
  calling room "" fun room => calling room " in __instancecheck__" inside

mutual

/-- A value as plain data, with room for more calls. What an array hands out is taken as it is. -/
def plain (room : Nat) : Datum → Except Raised Datum
  | null => calling room "" fun _ => .ok null
  | bool b => looking room fun _ => .ok (bool b)
  | int n => looking room fun _ => .ok (int n)
  | float x => looking room fun _ => .ok (float x)
  | str s => looking room fun _ => .ok (str s)
  | array content size =>
    looking room fun _ => .ok (if maxArraySize < size.getD 0 then null else content)
  | dict entries => looking room fun room => (plainEntries room [] entries).map dict
  | mapping entries => looking room fun room => (plainEntries room [] entries).map dict
  | list items => looking room fun room => (plainItems room items).map list
  | tuple items => looking room fun room => (plainItems room items).map list
  | x@(bytes _) => looking room fun room => (x.asText (room + 1)).map str
  | x@(generator _) => looking room fun room => (x.asText (room + 1)).map str
  | x@(opaqueObject _) => looking room fun room => (x.asText (room + 1)).map str

/-- Values as plain data. -/
def plainItems (room : Nat) : List Datum → Except Raised (List Datum)
  | [] => .ok []
  | x :: rest => (x.plain room).bind fun head => (plainItems room rest).map fun tail => head :: tail

/-- Entries as plain data, put behind those in `acc`. -/
def plainEntries (room : Nat) (acc : List (Datum × Datum)) :
    List (Datum × Datum) → Except Raised (List (Datum × Datum))
  | [] => .ok acc
  | (k, v) :: rest =>
    (k.asText room).bind fun key => (v.plain room).bind fun value =>
      plainEntries room (putText key value acc) rest

end

/-- The values that a value yields one by one. -/
def iterate : Datum → Except Raised (List Datum)
  | str s => .ok (s.map fun n => str [n])
  | bytes bs => .ok (bs.map fun b => int b.toNat)
  | list items | tuple items | generator items => .ok items
  | dict entries | mapping entries => .ok (entries.map fun e => e.1)
  | array content _ => content.iterate
  | x => .error (Raised.typeError ("'" ++ x.typeName ++ "' object is not iterable"))

/-- An answer as a list: nothing and sequences stay as they are. -/
def listed : Datum → Except Raised Datum
  | null => .ok null
  | list items => .ok (list items)
  | tuple items => .ok (tuple items)
  | x => x.iterate.map list

end Datum

end ImageText.Engine
