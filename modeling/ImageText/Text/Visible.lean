import ImageText.Text.Bytes

/-!
# What a terminal would show of a text

A text that comes from outside may hold control characters and control sequences. `visible` leaves
them out and keeps the rest: blanks, and every character that a terminal shows. A control sequence
begins with the escape character, and `Mode` says how far it has got.

Inside of a sequence bytes are not put together to characters. So a character beyond ASCII is lost
there and changes nothing, unless one of its bytes is the `terminator` that a string for the device
waits for.

A blank breaks some sequences off and is shown. In a text that ends the sequence. A stream does not
forget it so soon: what follows is shown, but the next control character takes the sequence up
again, unless a character beyond ASCII has come in between. `visible` is for texts and `streamed`
for streams.
-/

namespace ImageText.Text

/-- Where in a control sequence a character stands. -/
inductive Mode where
  /-- Outside of one. -/
  | plain
  /-- Behind the escape character. -/
  | escape
  /-- Behind the escape character and marks such as an opening parenthesis. -/
  | marked
  /-- In a sequence with parameters, up to its final letter. -/
  | parameters
  /-- In a command to the system, up to a bell. -/
  | command
  /-- At the beginning of a command to the device. -/
  | device
  /-- In the parameters of a command to the device. -/
  | deviceParameters
  /-- Behind the marks that follow these parameters. -/
  | deviceMarked
  /-- In a string for the device, up to the terminator. -/
  | string
  deriving DecidableEq, Repr

/-- The control characters that count as blanks. -/
def isControlBlank (c : Char) : Bool := c == '\t' || c == '\n' || c == '\x0C' || c == '\r'

/-- A character that is shown outside of a sequence. -/
def isShown (c : Char) : Bool := isControlBlank c || (' ' ≤ c && c ≠ '\x7F')

/-- The byte that ends a string for the device. -/
def terminator : UInt8 := 0x9C

namespace Mode

/-- A blank breaks the sequence off. -/
def yieldsToBlank : Mode → Bool
  | escape | marked | parameters => true
  | _ => false

/-- What follows the escape character. -/
def afterEscape (c : Char) : Mode :=
  if c = '[' then parameters
  else if c = ']' then command
  else if c = 'P' then device
  else if c = 'X' ∨ c = '^' ∨ c = '_' then string
  else if c < '0' then marked
  else plain

/-- A printable ASCII character inside a sequence. Marks come before digits, digits before letters. -/
def printable (mode : Mode) (c : Char) : Mode :=
  match mode with
  | escape => afterEscape c
  | marked => if c < '0' then marked else plain
  | parameters => if c < '@' then parameters else plain
  | device => if c < '0' then deviceMarked else if c < '@' then deviceParameters else string
  | deviceParameters =>
    if c < '0' then deviceMarked else if c < '<' then deviceParameters else string
  | deviceMarked => if c < '0' then deviceMarked else string
  | plain | command | string => mode

/-- A character inside a sequence. -/
def next (mode : Mode) (c : Char) : Mode :=
  match mode with
  | command => if c = '\x07' then plain else command
  | string => if terminator ∈ encodeChar c then plain else string
  | _ => if ' ' ≤ c ∧ c < '\x7F' then mode.printable c else mode

/-- One character: the next mode, and whether the character is shown. After a blank that breaks a
sequence off, a stream is `showing` what follows, and it `resumes` the sequence when that ends. -/
def step (resumes : Bool) (mode : Mode) (showing : Bool) (c : Char) : Mode × Bool :=
  if c = '\x1B' then (escape, false)
  else if c = '\x18' ∨ c = '\x1A' then (plain, false)
  else if mode = plain ∨ showing then (if '\x7F' < c then plain else mode, isShown c)
  else if mode.yieldsToBlank ∧ isControlBlank c then (if resumes then mode else plain, true)
  else (mode.next c, false)

end Mode

/-- The characters that are shown, from a mode on. -/
def visibleFrom (resumes : Bool) (mode : Mode) (showing : Bool) : List Char → List Char
  | [] => []
  | c :: rest =>
    let (next, shown) := mode.step resumes showing c
    if shown then c :: visibleFrom resumes next shown rest else visibleFrom resumes next shown rest

/-- The part of a text that a terminal would show. -/
def visible (s : String) : String := String.ofList (visibleFrom false .plain true s.toList)

/-- The part of a text that goes into a stream that is no terminal. -/
def streamed (s : String) : String := String.ofList (visibleFrom true .plain true s.toList)

end ImageText.Text
