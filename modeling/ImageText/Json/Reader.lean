import ImageText.Json.Literal
import ImageText.Json.Numeral

/-!
# Reading a document

`readValue` reads one value under a budget of brackets: every array or object that is opened
spends one, and the recursion is on the budget. Inside a bracket `readItems` and `readEntries`
walk from comma to comma; they are told how to read one item or one entry, so that the reader of
values and the reader of records share them. Their fuel, `size`, is measured once, on the whole
document: every item takes at least one byte, so the document's length is enough for every bracket
in it.

`readDocument` is the whole story: one value with blanks around it and nothing behind it.
-/

namespace ImageText.Json

/-- The four bytes that may stand between tokens. -/
def isGap (b : UInt8) : Bool := b == 0x20 || b == 0x09 || b == 0x0A || b == 0x0D

/-- The input from its next token on. -/
def skipGap (input : Bytes) : Bytes := input.dropWhile isGap

/-- The comma. -/
def commaByte : UInt8 := 0x2C

/-- The colon. -/
def colonByte : UInt8 := 0x3A

/-- The bracket that opens an array. -/
def openArray : UInt8 := 0x5B

/-- The bracket that closes an array. -/
def closeArray : UInt8 := 0x5D

/-- The bracket that opens an object. -/
def openObject : UInt8 := 0x7B

/-- The bracket that closes an object. -/
def closeObject : UInt8 := 0x7D

/-- A byte that a number begins with. -/
def startsNumber (b : UInt8) : Bool := b == minusByte || isDigit b

/-- The rest of a word whose first letter has been read. -/
def readWord : Bytes → Bytes → Step Unit
  | [], rest => .ok ((), rest)
  | _ :: _, [] => .error (.before .endInValue [])
  | w :: ws, b :: rest => if b = w then readWord ws rest else .error (.before .wordExpected rest)

/-- What stands behind the first letter of `null`, `true` and `false`, by that letter. -/
def wordOf? (b : UInt8) : Option (Value × Bytes) :=
  if b = 0x6E then some (.null, utf8 "ull")
  else if b = 0x74 then some (.bool true, utf8 "rue")
  else if b = 0x66 then some (.bool false, utf8 "alse")
  else none

/-- Items from the present one to the closing bracket; `acc` holds those before, last first. -/
def readItems {α : Type} (item : Bytes → Step α) : Nat → List α → Bytes → Step (List α)
  | 0, _, input => .error (.before .endInList input)
  | fuel + 1, acc, input =>
    match item input with
    | .error stop => .error stop
    | .ok (x, rest) =>
      match skipGap rest with
      | [] => .error (.upon .endInList [])
      | b :: more =>
        if b = closeArray then .ok ((x :: acc).reverse, more)
        else if b = commaByte then
          match skipGap more with
          | [] => .error (.upon .endInValue [])
          | c :: next =>
            if c = closeArray then .error (.upon .trailingComma (c :: next))
            else readItems item fuel (x :: acc) (c :: next)
        else .error (.upon .listCommaExpected (b :: more))

/-- The items of an array whose opening bracket has been read, at most `size` of them. -/
def readArray {α : Type} (size : Nat) (item : Bytes → Step α) (input : Bytes) : Step (List α) :=
  match skipGap input with
  | [] => .error (.upon .endInList [])
  | b :: rest =>
    if b = closeArray then .ok ([], rest)
    else readItems item size [] (b :: rest)

/-- The colon behind a key. -/
def readColon (input : Bytes) : Step Unit :=
  match skipGap input with
  | [] => .error (.upon .endInObject [])
  | b :: rest =>
    if b = colonByte then .ok ((), rest) else .error (.upon .colonExpected (b :: rest))

/-- Entries from the present one, whose opening quote has been read, to the closing bracket. What
an entry does to the state is told by `entry`, which gets the key and the input behind it. -/
def readEntries {σ : Type} (entry : σ → String → Bytes → Step σ) : Nat → σ → Bytes → Step σ
  | 0, _, input => .error (.before .endInObject input)
  | fuel + 1, state, input =>
    match readLiteral input with
    | .error stop => .error stop
    | .ok (key, behind) =>
      match entry state key behind with
      | .error stop => .error stop
      | .ok (state, rest) =>
        match skipGap rest with
        | [] => .error (.upon .endInObject [])
        | b :: more =>
          if b = closeObject then .ok (state, more)
          else if b = commaByte then
            match skipGap more with
            | [] => .error (.upon .endInValue [])
            | c :: next =>
              if c = quoteByte then readEntries entry fuel state next
              else if c = closeObject then .error (.upon .trailingComma (c :: next))
              else .error (.upon .keyExpected (c :: next))
          else .error (.upon .objectCommaExpected (b :: more))

/-- The entries of an object whose opening bracket has been read, at most `size` of them. -/
def readObject {σ : Type} (size : Nat) (entry : σ → String → Bytes → Step σ) (state : σ)
    (input : Bytes) : Step σ :=
  match skipGap input with
  | [] => .error (.upon .endInObject [])
  | b :: rest =>
    if b = closeObject then .ok (state, rest)
    else if b = quoteByte then readEntries entry size state rest
    else .error (.upon .keyExpected (b :: rest))

/-- An entry of a plain object: a later entry takes the place of an earlier one with its key. -/
def readMember (value : Bytes → Step Value) (members : List (String × Value)) (key : String)
    (input : Bytes) : Step (List (String × Value)) :=
  match readColon input with
  | .error stop => .error stop
  | .ok (_, rest) =>
    match value rest with
    | .error stop => .error stop
    | .ok (v, rest) => .ok (insert key v members, rest)

/-- A value that is neither an array nor an object; `input` begins with its first byte. -/
def readScalar (b : UInt8) (rest : Bytes) : Step Value :=
  match wordOf? b with
  | some (v, word) => (readWord word rest).map fun (_, rest) => (v, rest)
  | none =>
    if startsNumber b then (readNumber (b :: rest)).map fun (n, rest) => (.number n, rest)
    else if b = quoteByte then (readLiteral rest).map fun (s, rest) => (.string s, rest)
    else .error (.upon .valueExpected (b :: rest))

/-- The value at the head of the input, with fewer than `budget` brackets open at once and at most
`size` items in each. -/
def readValue (size : Nat) : Nat → Bytes → Step Value
  | 0, input => .error (.upon .tooDeep (skipGap input))
  | budget + 1, input =>
    match skipGap input with
    | [] => .error (.upon .endInValue [])
    | b :: rest =>
      if b = openArray then
        if budget = 0 then .error (.upon .tooDeep (b :: rest))
        else (readArray size (readValue size budget) rest).map fun (items, rest) => (.array items, rest)
      else if b = openObject then
        if budget = 0 then .error (.upon .tooDeep (b :: rest))
        else (readObject size (readMember (readValue size budget)) [] rest).map
          fun (members, rest) => (.object members, rest)
      else readScalar b rest

/-- One more than the greatest number of brackets that may be open at once. -/
def bracketBudget : Nat := 128

/-- Nothing but blanks may stand behind a document. -/
def endDocument {α : Type} (x : α) (rest : Bytes) : Except Stop α :=
  match skipGap rest with
  | [] => .ok x
  | b :: more => .error (.upon .trailingCharacters (b :: more))

/-- A whole input read by `read`, which is told its length, with the place of what is wrong. -/
def readDocumentWith {α : Type} (read : Nat → Bytes → Step α) (input : Bytes) : Except Refusal α :=
  match read input.length input with
  | .error stop => .error (locate input stop)
  | .ok (x, rest) =>
    match endDocument x rest with
    | .error stop => .error (locate input stop)
    | .ok x => .ok x

/-- The value of a document. -/
def readDocument (input : Bytes) : Except Refusal Value :=
  readDocumentWith (readValue · bracketBudget) input

end ImageText.Json
