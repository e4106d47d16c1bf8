import ImageText.Json.Skip
import ImageText.Options
import ImageText.Text.Quoted

/-!
# Reading options

Options are read from an object with the four members in any order, or from an array of the four
values in the order of the declaration. Members under other keys are passed over. A member that is
given twice, a missing member and a value of the wrong kind are refused.

A fault that belongs to no byte is placed where the reader stands after an attempt to close the
bracket: behind the bracket if it comes next, and before the next token otherwise.
-/

namespace ImageText.Options

open Json

/-- The place of a fault that belongs to no byte, with `closing` as the bracket to be closed. -/
def stopAtClosing (fault : Fault) (closing : UInt8) (rest : Bytes) : Stop :=
  match skipGap rest with
  | [] => .before fault []
  | b :: more => if b = closing then .before fault more else .before fault (b :: more)

/-- What a scalar is called when it is of the wrong kind. -/
def found : Value → Found
  | .null => .null
  | .bool b => .bool b
  | .number (.whole n) => .whole (String.ofList (wholeText n))
  | .number (.real x) => .real (String.ofList (numberLayout.text x))
  | .string s => .string (Text.quotedString s)
  | .array _ => .array
  | .object _ => .object

/-- A value that should have been `expected`. A malformed one is refused for what is wrong with it;
of an array or an object only the opening bracket is looked at. -/
def refuseValue (expected : String) (b : UInt8) (rest : Bytes) : Stop :=
  if b = openArray then .before (.wrongType .array expected) (b :: rest)
  else if b = openObject then .before (.wrongType .object expected) (b :: rest)
  else match readScalar b rest with
    | .error stop => stop
    | .ok (v, rest) => .before (.wrongType (found v) expected) rest

/-- A string. -/
def readText (input : Bytes) : Step String :=
  match skipGap input with
  | [] => .error (.upon .endInValue [])
  | b :: rest =>
    if b = quoteByte then readLiteral rest else .error (refuseValue "a string" b rest)

/-- A truth value. -/
def readFlag (input : Bytes) : Step Bool :=
  match skipGap input with
  | [] => .error (.upon .endInValue [])
  | b :: rest =>
    match wordOf? b with
    | some (.bool flag, word) => (readWord word rest).map fun (_, rest) => (flag, rest)
    | _ => .error (refuseValue "a boolean" b rest)

/-- The members read so far. -/
structure Draft where
  lang : Option String := none
  orientation : Option Bool := none
  unwarping : Option Bool := none
  lineOrientation : Option Bool := none
  deriving DecidableEq, Repr

namespace Draft

/-- The value of a member that has not been given before. -/
def once {α : Type} (name : String) (given : Option α) (read : Bytes → Step α) (input : Bytes) :
    Step (Option α) :=
  if given.isSome then .error (stopAtClosing (.repeatedField name) closeObject input)
  else match readColon input with
    | .error stop => .error stop
    | .ok (_, rest) => (read rest).map fun (x, rest) => (some x, rest)

/-- One entry of the object, in a document of length `size`. -/
def entry (size : Nat) (d : Draft) (key : String) (input : Bytes) : Step Draft :=
  if key = langKey then
    (once langKey d.lang readText input).map fun (x, rest) => ({ d with lang := x }, rest)
  else if key = orientationKey then
    (once orientationKey d.orientation readFlag input).map
      fun (x, rest) => ({ d with orientation := x }, rest)
  else if key = unwarpingKey then
    (once unwarpingKey d.unwarping readFlag input).map
      fun (x, rest) => ({ d with unwarping := x }, rest)
  else if key = lineOrientationKey then
    (once lineOrientationKey d.lineOrientation readFlag input).map
      fun (x, rest) => ({ d with lineOrientation := x }, rest)
  else match readColon input with
    | .error stop => .error stop
    | .ok (_, rest) => (passValue size rest).map fun (_, rest) => (d, rest)

/-- All four members, or the first that is missing. -/
def complete (d : Draft) : Except Fault Options :=
  match d.lang with
  | none => .error (.missingField langKey)
  | some lang =>
    match d.orientation with
    | none => .error (.missingField orientationKey)
    | some orientation =>
      match d.unwarping with
      | none => .error (.missingField unwarpingKey)
      | some unwarping =>
        match d.lineOrientation with
        | none => .error (.missingField lineOrientationKey)
        | some lineOrientation => .ok ⟨lang, orientation, unwarping, lineOrientation⟩

end Draft

/-- Options from an object whose opening bracket has been read. -/
def readMembers (size : Nat) (input : Bytes) : Step Options :=
  match readObject size (Draft.entry size) {} input with
  | .error stop => .error stop
  | .ok (d, rest) =>
    match d.complete with
    | .error fault => .error (.before fault rest)
    | .ok o => .ok (o, rest)

/-- What the options are called. -/
def recordName : String := "struct RecognizerOptions"

/-- The step to the value at place `index` of an array: over the comma, unless it is the first. -/
def readNext {α : Type} (index : Nat) (read : Bytes → Step α) (input : Bytes) : Step α :=
  match skipGap input with
  | [] => .error (.upon .endInList [])
  | b :: rest =>
    if b = closeArray then
      .error (.before (.wrongLength index (recordName ++ " with 4 elements")) rest)
    else if index = 0 then read (b :: rest)
    else if b = commaByte then
      match skipGap rest with
      | [] => .error (.upon .endInValue [])
      | c :: next =>
        if c = closeArray then .error (.upon .trailingComma (c :: next)) else read (c :: next)
    else .error (.upon .listCommaExpected (b :: rest))

/-- The closing bracket behind the fourth value. -/
def closeValues (input : Bytes) : Step Unit :=
  match skipGap input with
  | [] => .error (.upon .endInList [])
  | b :: rest =>
    if b = closeArray then .ok ((), rest)
    else if b = commaByte then
      let next := skipGap rest
      if next.head? = some closeArray then .error (.upon .trailingComma next)
      else .error (.upon .trailingCharacters next)
    else .error (.upon .trailingCharacters (b :: rest))

/-- Options from an array whose opening bracket has been read. -/
def readValues (input : Bytes) : Except Stop (Options × Bytes) := do
  let (lang, rest) ← readNext 0 readText input
  let (orientation, rest) ← readNext 1 readFlag rest
  let (unwarping, rest) ← readNext 2 readFlag rest
  let (lineOrientation, rest) ← readNext 3 readFlag rest
  let (_, rest) ← closeValues rest
  return (⟨lang, orientation, unwarping, lineOrientation⟩, rest)

/-- The options at the head of the input, a document of length `size`. -/
def read (size : Nat) (input : Bytes) : Step Options :=
  match skipGap input with
  | [] => .error (.upon .endInValue [])
  | b :: rest =>
    if b = openArray then readValues rest
    else if b = openObject then readMembers size rest
    else .error (refuseValue recordName b rest)

/-- The options of a document. -/
def decode (input : Bytes) : Except Refusal Options := readDocumentWith read input

end ImageText.Options
