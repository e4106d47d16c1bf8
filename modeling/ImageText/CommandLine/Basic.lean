import ImageText.Options
import ImageText.Path
import ImageText.Text.Styled

/-!
# The command line

What may be said on the command line, what comes of it, and the words with which it is refused. A
`Slot` is something that an argument can fill: the image, or one of the options. `Settings` is what
an accepted command line says; everything else is a `Refusal`, or a request for a text about the
program itself. These texts are styled, and they repeat words from outside as they are; what is
shown of them is decided when they are written.
-/

namespace ImageText.CommandLine

open Text (Style Styled)
open Text.Styled (running)

/-- The name of the program. -/
def programName : String := "ocrtext"

/-- The version of the program. -/
def programVersion : String := "0.1.0"

/-- The interpreter unless another is given. -/
def defaultInterpreter : Path := utf8 "python3"

/-- The environment variable that names the interpreter. -/
def interpreterVariable : String := "OCRTEXT_PYTHON"

/-- What an argument can fill. -/
inductive Slot where
  | input
  | lang
  | interpreter
  | bridge
  | log
  | help
  | version
  deriving DecidableEq, Repr

namespace Slot

/-- The name of an option behind its two dashes. -/
def name : Slot → String
  | input => "input"
  | lang => "lang"
  | interpreter => "python"
  | bridge => "bridge"
  | log => "log"
  | help => "help"
  | version => "version"

/-- The options. -/
def options : List Slot := [lang, interpreter, bridge, log, help, version]

/-- The option of a name. -/
def ofName? (name : List Char) : Option Slot := options.find? fun o => o.name.toList = name

/-- The option of a letter behind a single dash. -/
def ofLetter? (c : Char) : Option Slot :=
  if c = 'h' then some help else if c = 'V' then some version else none

/-- An option that is followed by a value. -/
def takesValue : Slot → Bool
  | lang | interpreter | bridge => true
  | _ => false

/-- What stands for the value of an option, or for the input. -/
def placeholder? : Slot → Option String
  | input => some "<INPUT>"
  | lang => some "<LANG>"
  | interpreter => some "<PYTHON>"
  | bridge => some "<BRIDGE>"
  | _ => none

/-- An option with its dashes. -/
def dashed (o : Slot) : String := "--" ++ o.name

/-- How a slot is shown. -/
def styled (o : Slot) : Styled :=
  (if o = input then [] else Style.literal.apply o.dashed)
    ++ (o.placeholder?.elim [] fun p => running (if o = input then p else " " ++ p))

/-- The words that show a slot. -/
def text (o : Slot) : String := o.styled.words

/-- What a run can be told. -/
def settable : List Slot := [input, lang, interpreter, bridge, log]

/-- A slot as one of several to choose from. -/
def choice (o : Slot) : String := if o = input then "INPUT" else o.text

end Slot

/-- What an accepted command line says. -/
structure Settings where
  input : Path
  lang : String
  interpreter : Path
  bridge : Option Path
  log : Bool
  deriving DecidableEq, Repr

/-- The usage line of a refusal. -/
inductive Usage where
  /-- All options, unnamed. -/
  | general
  /-- Certain options by name, and the input. -/
  | naming (options : List Slot)
  /-- Certain options by name, and one of the slots that can be set. -/
  | choosing (options : List Slot)
  deriving DecidableEq, Repr

namespace Usage

/-- The slots that can be set, as one to choose. -/
def choices : String := "<" ++ String.intercalate "|" (Slot.settable.map Slot.choice) ++ ">"

/-- What follows the name of the program. -/
def words : Usage → List Styled
  | general => [running "[OPTIONS]", Slot.input.styled]
  | naming options => options.map Slot.styled ++ [Slot.input.styled]
  | choosing options => options.map Slot.styled ++ [running choices]

/-- The usage line. -/
def styled (u : Usage) : Styled :=
  Style.heading.apply "Usage:" ++ running " "
    ++ Styled.intercalate (running " ") (Style.literal.apply programName :: u.words)

end Usage

/-- Advice about an argument that fits nowhere. -/
inductive Tip where
  | similar (option : Slot)
  | asValue
  deriving DecidableEq, Repr

/-- Why a command line is not accepted. -/
inductive Refusal where
  /-- A value is missing, or is empty where it must not be. -/
  | missingValue (slot : Slot)
  /-- A flag was given a value. -/
  | surplusValue (value : String) (option : Slot) (usage : Usage)
  /-- An option was given twice. -/
  | repeated (option : Slot)
  /-- An argument fits nowhere. -/
  | unknown (argument : String) (tip : Option Tip) (usage : Usage)
  /-- The language is not UTF-8. -/
  | notText
  /-- There is no input. -/
  | missingInput (usage : Usage)
  deriving DecidableEq, Repr

/-- What comes of a command line instead of a run. -/
inductive Answer where
  | help
  | version
  | refused (refusal : Refusal)
  deriving DecidableEq, Repr

namespace Tip

/-- The words for advice. -/
def styled (argument : String) : Tip → Styled
  | similar option =>
    running "a similar argument exists: '" ++ Style.good.apply option.dashed ++ running "'"
  | asValue =>
    running "to pass '" ++ Style.bad.apply argument ++ running "' as a value, use '"
      ++ Style.good.apply ("-- " ++ argument) ++ running "'"

/-- A paragraph of advice. -/
def paragraph (argument : String) (t : Tip) : Styled :=
  running "  " ++ Style.good.apply "tip:" ++ running " " ++ t.styled argument

end Tip

namespace Refusal

/-- The paragraphs of a refusal: what is wrong, advice, and usage. -/
def paragraphs : Refusal → List Styled
  | missingValue slot =>
    [running "a value is required for '" ++ Style.bad.apply slot.text
      ++ running "' but none was supplied"]
  | surplusValue value option usage =>
    [running "unexpected value '" ++ Style.bad.apply value ++ running "' for '"
      ++ Style.literal.apply option.text ++ running "' found; no more were expected", usage.styled]
  | repeated option =>
    [running "the argument '" ++ Style.bad.apply option.text
      ++ running "' cannot be used multiple times", Usage.general.styled]
  | unknown argument tip usage =>
    [running "unexpected argument '" ++ Style.bad.apply argument ++ running "' found"]
      ++ (tip.map (Tip.paragraph argument)).toList ++ [usage.styled]
  | notText =>
    [running "invalid UTF-8 was detected in one or more arguments", Usage.general.styled]
  | missingInput usage =>
    [running "the following required arguments were not provided:\n  "
      ++ Style.good.apply Slot.input.text, usage.styled]

/-- Where to look for help. -/
def closing : Styled :=
  running "For more information, try '" ++ Style.literal.apply Slot.help.dashed ++ running "'.\n"

/-- The words for a refusal. -/
def styled (r : Refusal) : Styled :=
  Style.alarm.apply "error:" ++ running " "
    ++ Styled.intercalate (running "\n\n") (r.paragraphs ++ [closing])

end Refusal

/-- The width of the left column of the help. -/
def leftWidth : Nat := 25

/-- A text inside the right column of the help, whose further lines are indented to the column. -/
def indented (text : String) : String :=
  String.ofList (text.toList.flatMap fun c =>
    if c = '\n' then c :: List.replicate leftWidth ' ' else [c])

/-- A line of the help: what stands in the left column, which is filled up, and in the right one. -/
def helpLine (left : Styled) (right : String) : Styled :=
  let gap := leftWidth - left.words.length
  left ++ running ("".pushn ' ' gap ++ indented right ++ "\n")

/-- A line of the help for an option, which may have a letter. -/
def optionLine (letter : Option Char) (o : Slot) (right : String) : Styled :=
  helpLine (running "  "
    ++ (letter.elim (running "    ") fun c =>
      Style.literal.apply ("-" ++ c.toString) ++ running ", ") ++ o.styled) right

/-- The help, which shows the value of the environment variable. -/
def help (environment : Option Bytes) : Styled :=
  running "Print the text recognized in an image\n\n" ++ Usage.general.styled ++ running "\n\n"
    ++ Style.heading.apply "Arguments:" ++ running "\n"
    ++ running "  <INPUT>  Image file to recognize\n\n"
    ++ Style.heading.apply "Options:" ++ running "\n"
    ++ optionLine none .lang
      ("Language code passed to the OCR engine [default: " ++ defaultLang ++ "]")
    ++ optionLine none .interpreter
      ("Python interpreter with paddleocr installed [env: " ++ interpreterVariable ++ "="
        ++ shown (environment.getD []) ++ "] [default: " ++ shown defaultInterpreter ++ "]")
    ++ optionLine none .bridge "Bridge script to run instead of the built-in one"
    ++ optionLine none .log "Enable logging (to stderr)"
    ++ optionLine (some 'h') .help "Print help"
    ++ optionLine (some 'V') .version "Print version"

namespace Answer

/-- The words of an answer. -/
def styled (environment : Option Bytes) : Answer → Styled
  | help => CommandLine.help environment
  | version => running (programName ++ " " ++ programVersion ++ "\n")
  | refused refusal => refusal.styled

/-- The text of an answer. -/
def text (environment : Option Bytes) (a : Answer) : String := (a.styled environment).plain

/-- The exit code of an answer. -/
def exitCode : Answer → UInt8
  | refused _ => 2
  | _ => 0

/-- A refusal is for the error stream, a requested text for the output. -/
def isError : Answer → Bool
  | refused _ => true
  | _ => false

end Answer

end ImageText.CommandLine
