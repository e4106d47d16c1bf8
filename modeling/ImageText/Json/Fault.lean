import ImageText.Text.Bytes

/-!
# What can be wrong with a document

A reader stops with a `Fault`, its cause, and the number of bytes that were left when it stopped.
`locate` turns that number into a line and a column: lines are counted by line feeds, and the
column is the number of bytes on the line up to the place, so a place just behind a line feed has
column 0.
-/

namespace ImageText.Json

/-- What was found where a document has a value of another kind. -/
inductive Found where
  | null
  | bool (b : Bool)
  | whole (text : String)
  | real (text : String)
  | string (quoted : String)
  | array
  | object
  deriving DecidableEq, Repr

/-- The causes for which a document is refused. The last four are about a document that is well
formed and is not the record that was asked for. -/
inductive Fault where
  | endInList
  | endInObject
  | endInString
  | endInValue
  | colonExpected
  | listCommaExpected
  | objectCommaExpected
  | wordExpected
  | valueExpected
  | badEscape
  | badNumber
  | numberTooLarge
  | badCodePoint
  | controlCharacter
  | keyExpected
  | loneSurrogate
  | trailingComma
  | trailingCharacters
  | endInEscape
  | tooDeep
  | wrongType (found : Found) (expected : String)
  | wrongLength (length : Nat) (expected : String)
  | missingField (name : String)
  | repeatedField (name : String)
  deriving DecidableEq, Repr

namespace Found

/-- The words for what was found. -/
def message : Found → String
  | null => "null"
  | bool true => "boolean `true`"
  | bool false => "boolean `false`"
  | whole text => "integer `" ++ text ++ "`"
  | real text => "floating point `" ++ text ++ "`"
  | string quoted => "string " ++ quoted
  | array => "sequence"
  | object => "map"

end Found

namespace Fault

/-- The words for a cause. -/
def message : Fault → String
  | endInList => "EOF while parsing a list"
  | endInObject => "EOF while parsing an object"
  | endInString => "EOF while parsing a string"
  | endInValue => "EOF while parsing a value"
  | colonExpected => "expected `:`"
  | listCommaExpected => "expected `,` or `]`"
  | objectCommaExpected => "expected `,` or `\x7d`"
  | wordExpected => "expected ident"
  | valueExpected => "expected value"
  | badEscape => "invalid escape"
  | badNumber => "invalid number"
  | numberTooLarge => "number out of range"
  | badCodePoint => "invalid unicode code point"
  | controlCharacter => "control character (\\u0000-\\u001F) found while parsing a string"
  | keyExpected => "key must be a string"
  | loneSurrogate => "lone leading surrogate in hex escape"
  | trailingComma => "trailing comma"
  | trailingCharacters => "trailing characters"
  | endInEscape => "unexpected end of hex escape"
  | tooDeep => "recursion limit exceeded"
  | wrongType found expected => "invalid type: " ++ found.message ++ ", expected " ++ expected
  | wrongLength length expected =>
    "invalid length " ++ toString length ++ ", expected " ++ expected
  | missingField name => "missing field `" ++ name ++ "`"
  | repeatedField name => "duplicate field `" ++ name ++ "`"

end Fault

/-- Why and where a reader stopped; the place is given by the bytes that were left. -/
structure Stop where
  fault : Fault
  left : Nat
  deriving DecidableEq, Repr

namespace Stop

/-- The reader has taken everything before `rest`. -/
def before (fault : Fault) (rest : Bytes) : Stop := ⟨fault, rest.length⟩

/-- The reader has looked at the first byte of `rest`, which counts as part of the place. -/
def upon (fault : Fault) (rest : Bytes) : Stop := ⟨fault, rest.length - 1⟩

end Stop

/-- A reader's result: what it read and the bytes behind it. -/
abbrev Step (α : Type) := Except Stop (α × Bytes)

/-- The refusal of a document. -/
structure Refusal where
  fault : Fault
  line : Nat
  column : Nat
  deriving DecidableEq, Repr

namespace Refusal

/-- The cause with its place. -/
def message (r : Refusal) : String :=
  r.fault.message ++ " at line " ++ toString r.line ++ " column " ++ toString r.column

end Refusal

/-- The line feed. -/
def lineFeed : UInt8 := 0x0A

/-- The refusal of `input` by a reader that stopped at `stop`. -/
def locate (input : Bytes) (stop : Stop) : Refusal :=
  let passed := input.take (input.length - stop.left)
  ⟨stop.fault, 1 + passed.count lineFeed,
    (passed.reverse.takeWhile (· ≠ lineFeed)).length⟩

end ImageText.Json
