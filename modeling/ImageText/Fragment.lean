import ImageText.Json.Printer
import ImageText.Text.Blank

/-!
# From the engine's answer to text

The engine answers with an array of records, one or more per page, in one of two shapes:

* a mapping whose member `rec_texts` lists the recognized texts;
* a list of lines, each of them `[box, [text, …], …]`.

`fragments` collects the recognized texts of both in their order and passes over everything that
has neither shape. `text` puts each fragment on a line of its own and trims the whole.
-/

namespace ImageText

open Json (Value)

namespace Fragment

/-- The member that lists the texts of a record. -/
def textsKey : String := "rec_texts"

/-- A recognized item as text: a string stands for itself, everything else for its compact JSON
form. -/
def chars : Value → List Char
  | .string s => s.toList
  | v => v.chars

/-- The recognized item of one line of a page. -/
def ofLine? : Value → Option Value
  | .array (_ :: .array (item :: _) :: _) => some item
  | _ => none

/-- The recognized items of one record, those that carry nothing included. -/
def ofRecord : Value → List Value
  | .array lines => lines.filterMap ofLine?
  | .object members =>
    match members.lookup textsKey with
    | some (.array items) => items
    | _ => []
  | _ => []

/-- The records of an answer. -/
def records : Value → List Value
  | .array rs => rs
  | _ => []

/-- All recognized items of an answer, in their order, without those that carry nothing. -/
def all (answer : Value) : List Value :=
  ((records answer).flatMap ofRecord).filter Value.isTruthy

/-- Texts with a line feed between them. -/
def joinLines (texts : List (List Char)) : List Char := List.intercalate ['\n'] texts

/-- The fragments of an answer, one per line, trimmed as a whole. -/
def text (answer : Value) : List Char :=
  Text.trim (joinLines ((all answer).map chars))

/-- The recognized text of an answer. -/
def flatten (answer : Value) : String := String.ofList (text answer)

end Fragment

end ImageText
