import ImageText.Text.Visible

/-!
# Styled text

A text in pieces, some of which are set off from the others. `paint` writes it for a terminal, with
a control sequence before and behind each piece that has a style. `plain` is what a terminal without
styles would show of it.

A piece may itself hold the beginning of a control sequence. It swallows what follows, but only up
to the next piece with a style, since that begins a sequence of its own. So both readings start from
what is painted.
-/

namespace ImageText.Text

/-- What a piece of a text is. -/
inductive Style where
  /-- Nothing special. -/
  | running
  /-- The head of a section. -/
  | heading
  /-- Words to be typed as they are. -/
  | literal
  /-- The announcement of an error. -/
  | alarm
  /-- Something that is wrong. -/
  | bad
  /-- Something that would be right. -/
  | good
  deriving DecidableEq, Repr

/-- What a terminal does for a style: a number for every effect. -/
def Style.effects : Style → List Nat
  | running => []
  | heading => [1, 4]
  | literal => [1]
  | alarm => [1, 31]
  | bad => [33]
  | good => [32]

/-- The control sequence for an effect. -/
def effect (n : Nat) : String := "\x1b[" ++ toString n ++ "m"

/-- A piece of a text. -/
structure Span where
  style : Style
  text : String
  deriving DecidableEq, Repr

/-- A piece between the sequences that begin and end its style. -/
def Span.paint (s : Span) : String :=
  String.join (s.style.effects.map effect) ++ s.text
    ++ (if s.style.effects.isEmpty then "" else effect 0)

/-- A text in pieces. -/
abbrev Styled := List Span

/-- A text of one piece. -/
def Style.apply (style : Style) (text : String) : Styled := [⟨style, text⟩]

namespace Styled

/-- A text without style. -/
def running (text : String) : Styled := Style.running.apply text

/-- Texts with one between each two of them. -/
def intercalate (separator : Styled) (texts : List Styled) : Styled :=
  (texts.intersperse separator).flatten

/-- The words alone, as they are. -/
def words (s : Styled) : String := String.join (s.map Span.text)

/-- The text with the control sequences of its styles. -/
def paint (s : Styled) : String := String.join (s.map Span.paint)

/-- What a terminal without styles would show of the text. -/
def plain (s : Styled) : String := visible s.paint

/-- The text for a stream, which is in colour or not. -/
def output (coloured : Bool) (s : Styled) : String := if coloured then s.paint else streamed s.paint

end Styled

end ImageText.Text
