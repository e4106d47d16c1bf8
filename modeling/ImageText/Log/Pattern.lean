import ImageText.Text.Alphanumeric

/-!
# Patterns

A directive of a log filter can ask for a value, with a number or with a regular expression. No
record is ever compared with it, but a filter that holds a malformed one cannot be read, so
`isPattern` says which expressions are well formed: groups and sets are closed, every repetition has
something to repeat, every escape is known, and no range in a set runs backwards.

An expression is read one character at a time, and `Phase` is what the next character means. A
repetition with a count never occurs, because a closing brace ends the directive's field before.

The expressions of a filter are built without tables of the whole character set. So classes that are
escapes, such as that of all digits, and word boundaries are refused like any unknown escape, and so is the
flag that ignores case, while a set may hold the classes of ASCII by their names. Expressions that ask for
ASCII alone, by the flag `u` behind a minus sign, could do without the tables; that is not looked at, and
such an expression is taken like any other.
-/

namespace ImageText.Log.Pattern

/-- What the next character of an expression is. -/
inductive Phase where
  /-- Text. Something stands before it that can be repeated, or nothing does. -/
  | text (operand : Bool)
  /-- What a backslash escapes. In a set it may be the end of a range that begins at `low`. -/
  | escaped (low : Option Char)
  /-- A hexadecimal digit, one of `missing` to come, of a character whose digits so far make
  `value`. -/
  | digit (low : Option Char) (missing value : Nat)
  /-- The first character of a group. -/
  | group
  /-- The character that says what kind of group it is. -/
  | kind
  /-- The bracket around the name of a group. -/
  | bracket
  /-- A character of the name of a group. -/
  | name (begun : Bool)
  /-- A flag. Those before it are known, last first. -/
  | flag (seen : List Char)
  /-- The first character of a set. A caret there makes it `negated`, once. -/
  | opening (negated : Bool)
  /-- One of the dashes at the beginning of a set, or what follows them. -/
  | dashes
  /-- A member of a set, or the dash behind the member `low`. -/
  | member (low : Option Char)
  /-- The end of a range. -/
  | upper (low : Char)
  /-- A character of the name of a class in a set, one of `missing` to come. -/
  | named (missing : Nat)
  deriving DecidableEq, Repr

/-- How far an expression has been read. -/
structure State where
  /-- The groups that are open. -/
  groups : Nat
  /-- The sets that are open, one inside another. -/
  sets : Nat
  phase : Phase
  deriving DecidableEq, Repr

/-- The characters that a backslash makes ordinary. -/
def isEscapable (c : Char) : Bool :=
  c.toNat < 0x80 && !c.isAlphanum && c ≠ '<' && c ≠ '>'

/-- What a letter behind a backslash stands for. -/
def control? (c : Char) : Option Char :=
  [('a', '\x07'), ('f', '\x0C'), ('t', '\t'), ('n', '\n'), ('r', '\r'), ('v', '\x0B')].lookup c

/-- How many hexadecimal digits follow a letter behind a backslash. -/
def digits? (c : Char) : Option Nat := [('x', 2), ('u', 4), ('U', 8)].lookup c

/-- The value of a hexadecimal digit. -/
def digitValue? (c : Char) : Option Nat :=
  if c.isDigit then some (c.toNat - '0'.toNat)
  else if 'a' ≤ c ∧ c ≤ 'f' then some (c.toNat - 'a'.toNat + 10)
  else if 'A' ≤ c ∧ c ≤ 'F' then some (c.toNat - 'A'.toNat + 10)
  else none

/-- The flags. -/
def flags : List Char := ['m', 's', 'U', 'u', 'x', 'R', '-']

/-- A character of a group's name. -/
def isNameChar (begun : Bool) (c : Char) : Bool :=
  if begun then c == '_' || c == '.' || c == '[' || c == ']' || Text.isAlphanumeric c
  else c == '_' || (Text.isAlphanumeric c && !c.isDigit)

/-- The classes of ASCII. -/
def classNames : List String :=
  ["alnum", "alpha", "ascii", "blank", "cntrl", "digit", "graph", "lower", "print", "punct", "space",
    "upper", "word", "xdigit"]

/-- How many characters behind an opening bracket name a class, with the colons, a caret and the closing
bracket. -/
def classLength? (behind : List Char) : Option Nat :=
  classNames.findSome? fun name =>
    let endings := [":", ":^"].map fun opening => opening.toList ++ name.toList ++ [':', ']']
    (endings.find? (·.isPrefixOf behind)).map List.length

namespace State

/-- The same groups and sets. -/
def go (s : State) (phase : Phase) : Option State := some { s with phase := phase }

/-- A character that stands for itself. -/
def literal (s : State) (low : Option Char) (c : Char) : Option State :=
  if s.sets = 0 then s.go (.text true)
  else match low with
    | none => s.go (.member (some c))
    | some l => if l ≤ c then s.go (.member none) else none

/-- A group is closed. -/
def closeGroup (s : State) (operand : Bool) : Option State :=
  if s.groups = 0 then none else some { s with groups := s.groups - 1, phase := .text operand }

/-- A set is opened. -/
def openSet (s : State) : Option State :=
  some { s with sets := s.sets + 1, phase := .opening false }

/-- A set is closed. -/
def closeSet (s : State) : Option State :=
  some { s with
    sets := s.sets - 1
    phase := if s.sets ≤ 1 then .text true else .member none }

/-- A character of text. -/
def text (s : State) (operand : Bool) (c : Char) : Option State :=
  if c = '(' then some { s with groups := s.groups + 1, phase := .group }
  else if c = ')' then s.closeGroup true
  else if c = '|' then s.go (.text false)
  else if c = '*' ∨ c = '+' ∨ c = '?' then (if operand then s.go (.text true) else none)
  else if c = '\x7b' then none
  else if c = '[' then s.openSet
  else if c = '\\' then s.go (.escaped none)
  else s.go (.text true)

/-- A character behind a backslash. -/
def escaped (s : State) (low : Option Char) (c : Char) : Option State :=
  if isEscapable c then s.literal low c
  else if (c = 'A' ∨ c = 'z') ∧ s.sets = 0 then s.go (.text true)
  else match control? c, digits? c with
    | some d, _ => s.literal low d
    | none, some n => s.go (.digit low n 0)
    | none, none => none

/-- A hexadecimal digit. The last one completes a character. -/
def digit (s : State) (low : Option Char) (missing value : Nat) (c : Char) : Option State :=
  (digitValue? c).bind fun d =>
    let value := value * 16 + d
    if 1 < missing then s.go (.digit low (missing - 1) value)
    else if value.isValidChar then s.literal low (Char.ofNat value) else none

/-- A flag, or the end of the flags. A minus sign must have a flag behind it. -/
def flag (s : State) (seen : List Char) (c : Char) : Option State :=
  if c ∈ flags ∧ c ∉ seen then s.go (.flag (c :: seen))
  else if seen.head? = some '-' then none
  else if c = ')' ∧ seen ≠ [] then s.closeGroup false
  else if c = ':' then s.go (.text false)
  else none

/-- A member of a set, with what stands behind it. -/
def member (s : State) (low : Option Char) (c : Char) (behind : List Char) : Option State :=
  if c = ']' then s.closeSet
  else if c = '[' then
    match classLength? behind with
    | some n => s.go (.named n)
    | none => s.openSet
  else if c = '\\' then s.go (.escaped none)
  else match c, low with
    | '-', some l => s.go (.upper l)
    | _, _ => s.go (.member (some c))

/-- One character, with what stands behind it. -/
def step (s : State) (c : Char) (behind : List Char) : Option State :=
  match s.phase with
  | .text operand => s.text operand c
  | .escaped low => s.escaped low c
  | .digit low missing value => s.digit low missing value c
  | .group => if c = '?' then s.go .kind else s.text false c
  | .kind =>
    if c = 'P' then s.go .bracket else if c = '<' then s.go (.name false) else s.flag [] c
  | .bracket => if c = '<' then s.go (.name false) else none
  | .name begun =>
    if c = '>' ∧ begun then s.go (.text false)
    else if isNameChar begun c then s.go (.name true)
    else none
  | .flag seen => s.flag seen c
  | .opening negated =>
    if c = '^' ∧ !negated then s.go (.opening true)
    else if c = '-' then s.go .dashes
    else if c = ']' then s.go (.member none)
    else s.member none c behind
  | .dashes => if c = '-' then s.go .dashes else s.member none c behind
  | .member low => s.member low c behind
  | .upper low =>
    if c = ']' then s.closeSet
    else if c = '-' then s.go (.member none)
    else if c = '\\' then s.go (.escaped (some low))
    else s.literal (some low) c
  | .named missing => if 1 < missing then s.go (.named (missing - 1)) else s.go (.member none)

/-- Some characters, one after the other. -/
def run (s : State) : List Char → Option State
  | [] => some s
  | c :: behind => (s.step c behind).bind fun next => run next behind

/-- Nothing is left open. -/
def isComplete (s : State) : Bool :=
  s.groups == 0 && s.sets == 0 && match s.phase with
    | .text _ => true
    | _ => false

end State

/-- Nothing has been read. -/
def start : State := ⟨0, 0, .text false⟩

/-- A text is a regular expression. -/
def isPattern (s : List Char) : Bool := (start.run s).any State.isComplete

/-- Without the decimal digits at the beginning. -/
def dropDigits (s : List Char) : List Char := s.dropWhile Char.isDigit

/-- A text is empty or the exponent of a number. -/
def isExponent : List Char → Bool
  | [] => true
  | c :: rest =>
    let ds := if rest.head? = some '+' ∨ rest.head? = some '-' then rest.drop 1 else rest
    (c == 'e' || c == 'E') && !ds.isEmpty && ds.all Char.isDigit

/-- A text is a number without a sign. -/
def isNumber (s : List Char) : Bool :=
  ["inf", "infinity", "nan"].any (fun w => w.toList == s.map Char.toLower) ||
    match dropDigits s with
    | '.' :: rest =>
      (s.length ≠ rest.length + 1 || (dropDigits rest).length ≠ rest.length)
        && isExponent (dropDigits rest)
    | rest => s.length ≠ rest.length && isExponent rest

/-- A value that a directive may ask for. A number needs a look of its own only behind a plus sign,
since every other number is an expression too. -/
def isValue (s : List Char) : Bool :=
  isPattern s || match s with
    | '+' :: rest => isNumber rest
    | _ => false

end ImageText.Log.Pattern
