import ImageText.Json.Reader

/-!
# Passing over a value

A record may have members that nobody asked for. Their values are passed over without being built,
by a machine whose state is the list of open brackets and what is due next. It knows no limit on
the depth and is content with any well-formed numeral, and after a comma it asks for the next item
or key before it looks for a closing bracket.
-/

namespace ImageText.Json

/-- An open bracket. -/
inductive Bracket where
  | array
  | object
  deriving DecidableEq, Repr

namespace Bracket

/-- The byte that closes it. -/
def closing : Bracket → UInt8
  | array => closeArray
  | object => closeObject

/-- The input ended inside it. -/
def endFault : Bracket → Fault
  | array => .endInList
  | object => .endInObject

/-- Something else stood in the place of a comma. -/
def commaFault : Bracket → Fault
  | array => .listCommaExpected
  | object => .objectCommaExpected

end Bracket

/-- What is due next. -/
inductive Due where
  /-- A value. -/
  | value
  /-- A comma or a closing bracket. -/
  | separator
  /-- The first item or the closing bracket. -/
  | first
  /-- An item, or a key with its colon. -/
  | item
  deriving DecidableEq, Repr

/-- Pass over a value that is neither an array nor an object and begins with `b`. -/
def passScalar (b : UInt8) (rest : Bytes) : Step Unit :=
  match wordOf? b with
  | some (_, word) => readWord word rest
  | none =>
    if startsNumber b then passNumeral (b :: rest)
    else if b = quoteByte then passLiteral rest
    else .error (.upon .valueExpected (b :: rest))

/-- Pass over a key and its colon. -/
def passKey (input : Bytes) : Step Unit :=
  match skipGap input with
  | [] => .error (.upon .endInObject [])
  | b :: rest =>
    if b = quoteByte then
      match passLiteral rest with
      | .error stop => .error stop
      | .ok (_, rest) => readColon rest
    else .error (.upon .keyExpected (b :: rest))

/-- Go on until every bracket in `brackets` is closed. Two steps take at least one byte. -/
def passFrom : Nat → Due → List Bracket → Bytes → Step Unit
  | 0, _, _, input => .error (.before .endInValue input)
  | fuel + 1, .value, brackets, input =>
    match skipGap input with
    | [] => .error (.upon .endInValue [])
    | b :: rest =>
      if b = openArray then passFrom fuel .first (.array :: brackets) rest
      else if b = openObject then passFrom fuel .first (.object :: brackets) rest
      else match passScalar b rest with
        | .error stop => .error stop
        | .ok (_, rest) => passFrom fuel .separator brackets rest
  | _ + 1, .separator, [], input => .ok ((), input)
  | fuel + 1, .separator, bracket :: outer, input =>
    match skipGap input with
    | [] => .error (.upon bracket.endFault [])
    | b :: rest =>
      if b = commaByte then passFrom fuel .item (bracket :: outer) rest
      else if b = bracket.closing then passFrom fuel .separator outer rest
      else .error (.upon bracket.commaFault (b :: rest))
  | fuel + 1, .first, bracket :: outer, input =>
    match skipGap input with
    | [] => .error (.upon bracket.endFault [])
    | b :: rest =>
      if b = bracket.closing then passFrom fuel .separator outer rest
      else passFrom fuel .item (bracket :: outer) (b :: rest)
  | fuel + 1, .item, .object :: outer, input =>
    match passKey input with
    | .error stop => .error stop
    | .ok (_, rest) => passFrom fuel .value (.object :: outer) rest
  | fuel + 1, _, brackets, input => passFrom fuel .value brackets input

/-- Pass over the value at the head of the input, which is part of a document of length `size`. -/
def passValue (size : Nat) (input : Bytes) : Step Unit :=
  passFrom (3 * size + 3) .value [] input

end ImageText.Json
