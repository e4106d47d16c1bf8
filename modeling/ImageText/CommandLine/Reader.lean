import ImageText.CommandLine.Basic
import ImageText.CommandLine.Similarity

/-!
# Reading the command line

Arguments are read from left to right. A value is checked only when the next argument that is no
value comes, or the arguments end; so until then it is `pending`, and an argument that fits nowhere
is reported before a pending value that is bad. Behind `--` every argument is an input.

`settle` checks the pending value, `give` fills a slot, and `step` reads one argument. The
environment is asked for the interpreter when the arguments have said nothing about it.
-/

namespace ImageText.CommandLine

/-- What has been read so far. -/
structure Progress where
  /-- The options given, in their order. -/
  given : List Slot := []
  /-- Some slot has been filled, were it with a bad value. -/
  begun : Bool := false
  /-- A slot whose value is missing yet, or has not been checked. -/
  pending : Option (Slot × Option Bytes) := none
  /-- Behind `--`. -/
  trailing : Bool := false
  /-- An input has been read. -/
  inputSeen : Bool := false
  input : Option Path := none
  lang : Option String := none
  interpreter : Option Path := none
  bridge : Option Path := none
  log : Bool := false
  deriving Repr

namespace Progress

/-- The slot is taken: it counts as given even if its value turns out to be bad. -/
def claim (p : Progress) (slot : Slot) : Progress :=
  { p with given := p.given ++ [slot], begun := true }

/-- Check a value and keep it. -/
def keep (p : Progress) (slot : Slot) (value : Bytes) : Except Refusal Progress :=
  match slot with
  | .lang =>
    match Text.decode? value with
    | some s => .ok { p with lang := some (String.ofList s) }
    | none => .error .notText
  | .input => if value.isEmpty then .error (.missingValue slot) else .ok { p with input := some value }
  | .interpreter =>
    if value.isEmpty then .error (.missingValue slot) else .ok { p with interpreter := some value }
  | .bridge =>
    if value.isEmpty then .error (.missingValue slot) else .ok { p with bridge := some value }
  | .log => .ok { p with log := true }
  | .help | .version => .ok p

/-- Fill a slot. What has been read stays known when the value is refused. -/
def fill (p : Progress) (slot : Slot) : Option Bytes → Progress × Option Refusal
  | none => (p, some (.missingValue slot))
  | some value =>
    if slot ∈ p.given then
      ({ p with given := p.given.filter (· ≠ slot) }, some (.repeated slot))
    else
      let p := p.claim slot
      match p.keep slot value with
      | .ok p => (p, none)
      | .error refusal => (p, some refusal)

/-- Check the pending value. -/
def settle (p : Progress) : Progress × Option Refusal :=
  match p.pending with
  | none => (p, none)
  | some (slot, value) => { p with pending := none }.fill slot value

/-- Check the pending value and go on. -/
def settled (p : Progress) : Except Answer Progress :=
  match p.settle with
  | (p, none) => .ok p
  | (_, some refusal) => .error (.refused refusal)

/-- Check the pending value, then fill a slot. -/
def give (p : Progress) (slot : Slot) (value : Bytes) : Except Answer Progress :=
  match p.settled with
  | .error answer => .error answer
  | .ok p =>
    match p.fill slot (some value) with
    | (p, none) => .ok p
    | (_, some refusal) => .error (.refused refusal)

/-- An option or flag without a value of its own. -/
def raise (p : Progress) (slot : Slot) : Except Answer Progress :=
  match slot with
  | .help => p.settled.bind fun _ => .error .help
  | .version => p.settled.bind fun _ => .error .version
  | .log => p.give .log []
  | _ => p.settled.map fun p => { p with pending := some (slot, none) }

/-- The options given, and one more unless it is among them. -/
def naming (p : Progress) (extra : List Slot) : Usage :=
  .naming ((p.given ++ extra.filter (· ∉ p.given)).filter (· ≠ .input))

/-- The usage when an option was given a value that it does not take. As soon as something has been
set, everything that can be set is one choice. -/
def surplusUsage (p : Progress) (option : Slot) : Usage :=
  if p.begun then .choosing ([option].filter (· ∉ Slot.settable)) else .naming [option]

/-- A word with two dashes that names no option. -/
def unknownName (p : Progress) (name : List Char) : Refusal :=
  let p := p.settle.1
  let argument := String.ofList ('-' :: '-' :: name)
  match mostSimilar? name (fun o : Slot => o.name.toList) Slot.options with
  | some option => .unknown argument (some (.similar option)) (p.naming [option])
  | none => .unknown argument (some .asValue) (if p.begun then p.naming [] else .general)

/-- An option by name, perhaps with a value behind an equals sign. -/
def stepName (p : Progress) (name : Bytes) (value : Option Bytes) : Except Answer Progress :=
  match (Text.decode? name).bind Slot.ofName? with
  | none => .error (.refused (p.unknownName (Text.lossy name)))
  | some option =>
    match value with
    | none => p.raise option
    | some value =>
      if option.takesValue then p.give option value
      else .error (.refused (.surplusValue (shown value) option (p.surplusUsage option)))

/-- The pieces behind a single dash: letters, and what is not UTF-8 from its first byte on. -/
def letters (word : Bytes) : List (List Char) :=
  let valid := Text.validPrefix word
  let rest := word.drop valid
  (Text.lossy (word.take valid)).map (fun c => [c])
    ++ (if rest.isEmpty then [] else [Text.lossy rest])

/-- Flags by letter, in their order. -/
def stepLetters (p : Progress) : List (List Char) → Except Answer Progress
  | [] => .ok p
  | piece :: rest =>
    match piece.head?.bind Slot.ofLetter? with
    | some option => (p.raise option).bind fun p => p.stepLetters rest
    | none =>
      .error (.refused (.unknown (String.ofList ('-' :: piece)) (some .asValue) .general))

/-- An input. There is room for one. -/
def stepInput (p : Progress) (word : Bytes) : Except Answer Progress :=
  if p.inputSeen then .error (.refused (.unknown (shown word) none .general))
  else p.settled.map fun p => { p with inputSeen := true, pending := some (.input, some word) }

/-- The dash. -/
def dash : UInt8 := 0x2D

/-- The equals sign. -/
def equals : UInt8 := 0x3D

/-- One argument. -/
def step (p : Progress) (word : Bytes) : Except Answer Progress :=
  if p.trailing then p.stepInput word
  else if word = [dash, dash] then .ok { p with trailing := true }
  else if word.take 2 = [dash, dash] then
    let body := word.drop 2
    let name := body.takeWhile (· ≠ equals)
    p.stepName name (if name.length < body.length then some (body.drop (name.length + 1)) else none)
  else if word.take 1 = [dash] ∧ word ≠ [dash] then p.stepLetters (letters (word.drop 1))
  else match p.pending with
    | some (slot, none) => .ok { p with pending := some (slot, some word) }
    | _ => p.stepInput word

/-- All arguments. -/
def steps (p : Progress) : List Bytes → Except Answer Progress
  | [] => p.settled
  | word :: rest => (p.step word).bind fun p => p.steps rest

/-- Let the environment name the interpreter unless the arguments did. -/
def consult (environment : Option Bytes) (p : Progress) : Except Answer Progress :=
  match environment with
  | none => .ok p
  | some value => if .interpreter ∈ p.given then .ok p else p.give .interpreter value

/-- The settings that have been read, with defaults for those that have not. -/
def settings (p : Progress) : Except Answer Settings :=
  match p.input with
  | none => .error (.refused (.missingInput (p.naming [])))
  | some input =>
    .ok ⟨input, p.lang.getD defaultLang, p.interpreter.getD defaultInterpreter, p.bridge, p.log⟩

end Progress

/-- The settings of a command line, under the value of the environment variable. -/
def read (arguments : List Bytes) (environment : Option Bytes) : Except Answer Settings :=
  ((Progress.steps {} arguments).bind (Progress.consult environment)).bind Progress.settings

end ImageText.CommandLine
