import ImageText.Bridge
import ImageText.Engine.Serve
import ImageText.Sink
import ImageText.Stage.Files

/-!
# A system in memory

A stage is all that the program can meet: files, the programs on the search path, an engine that may
or may not be installed, and a script that plays the bridge and does as it is told. Child processes
run on the stage without delay, so `Stage.host` makes a host of it.
-/

namespace ImageText

/-- What the script that plays the bridge does in one mode. -/
structure Stage.Scene where
  stdout : Bytes := []
  stderr : Bytes := []
  exit : Exit := .code 0
  deriving Repr

/-- A system in memory. -/
structure Stage where
  files : Stage.Files
  /-- The installed engine. -/
  engine : Option Engine := none
  /-- The script in mode `probe`. -/
  probe : Stage.Scene := {}
  /-- The script in mode `recognize`. -/
  recognize : Stage.Scene := { stdout := utf8 "[]" }
  /-- The environment. -/
  environment : List (String × Bytes) := []
  /-- The arguments with which the script was called, last call first. -/
  calls : List (List Bytes) := []
  /-- The output of the program. -/
  out : Sink := {}
  /-- The error stream of the program. -/
  err : Sink := {}

namespace Stage

/-- The directory in which everything happens. -/
def home : Place := [utf8 "stage"]

/-- The directory of the programs on the search path. -/
def programs : Place := [utf8 "bin"]

/-- The files of a fresh stage. -/
def freshFiles : Files :=
  [(home, .directory),
    (home ++ [utf8 "scan.png"], .file (utf8 "png")),
    (home ++ [utf8 "dir"], .directory),
    (home ++ [utf8 "noexec"], .file []),
    (home ++ [utf8 "bridge.sh"], .script),
    ([utf8 "dev"], .directory),
    ([utf8 "dev", utf8 "null"], .device),
    ([utf8 "usr"], .directory),
    ([utf8 "usr", utf8 "bin"], .link (utf8 "/bin")),
    (programs, .directory),
    (programs ++ [utf8 "sh"], .tool .shell),
    (programs ++ [utf8 "true"], .tool .succeed),
    (programs ++ [utf8 "false"], .tool .fail),
    (programs ++ [utf8 "echo"], .tool .echo),
    (programs ++ [utf8 "dir"], .tool .dir),
    (programs ++ [utf8 "python3"], .tool .interpreter),
    (programs ++ [utf8 "python"], .tool .interpreter)]

/-- A fresh stage. -/
def fresh : Stage := { files := freshFiles }

/-- The value of an environment variable. -/
def setting? (s : Stage) (name : String) : Option Bytes := s.environment.lookup name

/-- The environment variable that names the encoding of the engine's error stream. -/
def encodingVariable : String := "PYTHONIOENCODING"

/-- A time that stands for all times. -/
def someTime : String := "TIME"

/-- How long every child runs. -/
def someDuration : String := "DURATION"

/-- A child that ended. -/
def ended (stdout stderr : Bytes) (exit : Exit) : Finished := ⟨stdout, stderr, exit, someDuration⟩

/-- Permission was denied. -/
def denied : Int := 13

/-- The arguments take too much room. -/
def tooLong : Int := 7

/-- The room for one argument. -/
def maxArgument : Nat := 131071

/-- The program that a name on the command line of a child stands for: a path if it holds a slash,
and otherwise a name on the search path. -/
def tool (s : Stage) (name : Bytes) : Except Int Tool :=
  let found :=
    if Path.slash ∈ name then s.files.find home name
    else if name.isEmpty then .error Files.notFound
    else s.files.find programs name
  match found with
  | .error n => .error n
  | .ok (.tool t) => .ok t
  | .ok _ => .error denied

/-- The words of the command interpreter for a script that cannot be opened. -/
def openFailure (n : Int) : String :=
  if n = Files.notFound ∨ n = Files.notDirectory then "No such file" else SystemError.textOf n

/-- The first word of a script. -/
def firstWord (data : Bytes) : Bytes :=
  (data.dropWhile Json.isGap).takeWhile fun b => !Json.isGap b

/-- The script that plays the bridge, in the mode of its first argument. -/
def play (s : Stage) (arguments : List Bytes) : Finished :=
  let scene := if arguments.head? = some (utf8 "probe") then s.probe else s.recognize
  ended scene.stdout scene.stderr scene.exit

/-- The command interpreter. It cannot make sense of the built-in program, which is written for
another interpreter, and of other scripts it knows the first word only. -/
def runShell (s : Stage) (script : Option Path) (arguments : List Bytes) : Finished × Stage :=
  match script with
  | none =>
    (ended [] (arguments.headD [] ++ utf8 ": 22: Syntax error: \"(\" unexpected\n") (.code 2), s)
  | some path =>
    match s.files.find home path with
    | .ok .script => (s.play arguments, { s with calls := arguments :: s.calls })
    | .ok (.file data) =>
      let word := firstWord data
      if word.isEmpty then (ended [] [] (.code 0), s)
      else (ended [] (path ++ utf8 ": 1: " ++ word ++ utf8 ": not found\n") (.code 127), s)
    | .ok _ => (ended [] [] (.code 0), s)
    | .error n =>
      (ended [] (utf8 "sh: 0: cannot open " ++ path ++ utf8 (": " ++ openFailure n ++ "\n"))
        (.code 2), s)

/-- The engine's interpreter. It runs the built-in program, and cannot make sense of a script that
was written for another interpreter. -/
def runInterpreter (s : Stage) (name : Bytes) (script : Option Path) (arguments : List Bytes) :
    Finished :=
  match script with
  | none =>
    { Engine.serve (.ofSetting (s.setting? encodingVariable)) s.engine arguments with
      elapsed := someDuration }
  | some path =>
    match s.files.find home path with
    | .ok (.file data) =>
      if (firstWord data).isEmpty then ended [] [] (.code 0)
      else ended [] (utf8 "SyntaxError: invalid syntax\n") (.code 1)
    | .ok .directory =>
      ended [] (name ++ utf8 ": can't find '__main__' module in '" ++ path ++ utf8 "'\n") (.code 1)
    | .ok _ => ended [] (utf8 "SyntaxError: invalid syntax\n") (.code 1)
    | .error n =>
      ended [] (name ++ utf8 ": can't open file '" ++ path
        ++ utf8 ("': [Errno " ++ toString n ++ "] " ++ SystemError.textOf n ++ "\n")) (.code 2)

/-- Arguments with blanks between them. -/
def spaced : List Bytes → Bytes
  | [] => []
  | [a] => a
  | a :: rest => a ++ utf8 " " ++ spaced rest

/-- A name between apostrophes; an apostrophe inside is put between two quoted parts. -/
def apostrophed (name : Bytes) : Bytes :=
  utf8 "'" ++ name.flatMap (fun b => if b = 0x27 then utf8 "'\\''" else [b]) ++ utf8 "'"

/-- The lister of files: a complaint about every name that leads nowhere. The built-in program is no
name of a file at all. -/
def runDir (s : Stage) (script : Option Path) (arguments : List Bytes) : Finished :=
  let first := if script.isNone then utf8 "dir: File name too long\n" else []
  let complaints := first ++ (script.toList ++ arguments).flatMap fun name =>
    match s.files.find home name with
    | .ok _ => []
    | .error n =>
      utf8 "dir: cannot access " ++ apostrophed name ++ utf8 (": " ++ SystemError.textOf n ++ "\n")
  ended [] complaints (.code (if complaints.isEmpty then 0 else 2))

/-- Run a child process. -/
def launch (c : Command) : StateM Stage (Except SystemError Finished) := fun s =>
  let words := c.interpreter :: c.script.toList ++ c.arguments
  if words.any fun w => (0 : UInt8) ∈ w then (.error .zeroByte, s)
  else match s.tool c.interpreter with
    | .error n => (.error (.number n), s)
    | .ok t =>
      if words.any fun w => maxArgument < w.length then (.error (.number tooLong), s)
      else match t with
        | .shell => let (f, s) := s.runShell c.script c.arguments; (.ok f, s)
        | .interpreter => (.ok (s.runInterpreter c.interpreter c.script c.arguments), s)
        | .succeed => (.ok (ended [] [] (.code 0)), s)
        | .fail => (.ok (ended [] [] (.code 1)), s)
        | .echo =>
          let words := c.script.elim [utf8 "-c"] (fun p => [p]) ++ c.arguments
          (.ok (ended (spaced words ++ utf8 "\n") [] (.code 0)), s)
        | .dir => (.ok (s.runDir c.script c.arguments), s)

/-- The stage as a host. -/
def host : Host (StateM Stage) where
  isFile path := fun s => (s.files.isFile home path, s)
  launch := launch

/-- The output of the program. -/
def output : Outlet (StateM Stage) :=
  .ofDevice Sink.device fun act s => let (x, out) := act s.out; (x, { s with out := out })

/-- The error stream of the program. -/
def errors : Outlet (StateM Stage) :=
  .ofDevice Sink.device fun act s => let (x, err) := act s.err; (x, { s with err := err })

end Stage

end ImageText
