import ImageText.Engine.Spelling

/-!
# Classes of exceptions

An engine raises an exception by a class and arguments. `Raised.ofArguments` gives it the name and the
message that the interpreter would show, and sorts it by what becomes of it when nobody handles it.
-/

namespace ImageText.Engine

namespace Raised

/-- The class of a system error by its number. -/
def systemClasses : List (Int × String) :=
  [(1, "PermissionError"), (2, "FileNotFoundError"), (3, "ProcessLookupError"),
    (4, "InterruptedError"), (10, "ChildProcessError"), (11, "BlockingIOError"),
    (13, "PermissionError"), (17, "FileExistsError"), (20, "NotADirectoryError"),
    (21, "IsADirectoryError"), (32, "BrokenPipeError"), (103, "ConnectionAbortedError"),
    (104, "ConnectionResetError"), (108, "BrokenPipeError"), (110, "TimeoutError"),
    (111, "ConnectionRefusedError"), (114, "BlockingIOError"), (115, "BlockingIOError")]

/-- The class of system errors and its other names. -/
def systemNames : List String := ["OSError", "IOError", "EnvironmentError"]

/-- The classes of particular system errors. -/
def systemKinds : List String :=
  ["PermissionError", "FileNotFoundError", "ProcessLookupError", "InterruptedError",
    "ChildProcessError", "BlockingIOError", "FileExistsError", "NotADirectoryError",
    "IsADirectoryError", "BrokenPipeError", "ConnectionAbortedError", "ConnectionResetError",
    "TimeoutError", "ConnectionRefusedError", "ConnectionError"]

/-- The number of arguments that a class insists on. -/
def arities : List (String × Nat) :=
  [("UnicodeDecodeError", 5), ("UnicodeEncodeError", 5), ("UnicodeTranslateError", 4)]

/-- The classes of syntax errors. -/
def syntaxNames : List String := ["SyntaxError", "IndentationError", "TabError"]

/-- The classes of groups of exceptions. -/
def groupNames : List String := ["BaseExceptionGroup", "ExceptionGroup"]

/-- The room for the text of an exception: a handler that prints it opens two calls before it comes to
the arguments. -/
def messageRoom : Nat := programRoom - 2

/-- The text of an exception's arguments: nothing, the only one, or all of them in a row. -/
def plainMessage : List Datum → Except Raised CodePoints
  | [] => .ok []
  | [x] => x.text messageRoom
  | args => (Datum.tuple args).text messageRoom

/-- The text of a system error: its number and reason, with a file and perhaps a second one. -/
def systemMessage (name : String) (args : List Datum) : Except Raised CodePoints :=
  let head (number reason : Datum) : Except Raised CodePoints := do
    return ofString "[Errno " ++ (← number.text messageRoom) ++ ofString "] "
      ++ (← reason.text messageRoom)
  match args with
  | [number, reason] => head number reason
  | number :: reason :: file :: more =>
    if 2 < more.length then plainMessage args
    else
      let counted := match file with
        | .int _ | .bool _ => name == "BlockingIOError"
        | _ => false
      match file with
      | .null => head number reason
      | _ =>
        if counted then head number reason
        else do
          let first ← head number reason
          let second ← file.spelling messageRoom
          let third ← match more with
            | [_, .null] => .ok []
            | [_, other] => (other.spelling messageRoom).map fun text => ofString " -> " ++ text
            | _ => .ok []
          return first ++ ofString ": " ++ second ++ third
  | _ => plainMessage args

/-- The class of a system error: its number chooses it when there are two to five arguments. -/
def systemName (args : List Datum) : String :=
  match args with
  | number :: _ :: more =>
    if 3 < more.length then "OSError"
    else match number with
      | .int n => (systemClasses.lookup n).getD "OSError"
      | .bool b => (systemClasses.lookup (if b then 1 else 0)).getD "OSError"
      | _ => "OSError"
  | _ => "OSError"

/-- Why a group of exceptions cannot be built of arguments that are no exceptions. -/
def groupRefusal : List Datum → Raised
  | [message, members] =>
    match message with
    | .str _ =>
      match members with
      | .list [] | .tuple [] | .str [] | .bytes [] =>
        valueError "second argument (exceptions) must be a non-empty sequence"
      | .list _ | .tuple _ | .str _ | .bytes _ =>
        valueError "Item 0 of second argument (exceptions) is not an exception"
      | _ => typeError "second argument (exceptions) must be a sequence"
    | other =>
      typeError ("BaseExceptionGroup.__new__() argument 1 must be str, not " ++ other.typeName)
  | args =>
    typeError ("BaseExceptionGroup.__new__() takes exactly 2 arguments (" ++ toString args.length
      ++ " given)")

/-- What becomes of an exception of a class, if the class is not an ordinary one. -/
def escapeOf? (name : String) (args : List Datum) : Option Escape :=
  if name = "SystemExit" then
    some (.exit (match args with
      | [] => .null
      | [x] => x
      | _ => .tuple args))
  else if name = "KeyboardInterrupt" then some .interrupt
  else if name = "GeneratorExit" ∨ name = "BaseException" then some .failure
  else none

/-- An exception with its text. If it has none, a handler for ordinary exceptions raises another one
when it prints it. -/
def telling (name : String) (message : Except Raised CodePoints) (escape : Option Escape) : Raised :=
  match message, escape with
  | .ok text, _ => ⟨ofString name, text, escape⟩
  | .error raised, none => { raised with escape := some .failure }
  | .error _, some e => ⟨ofString name, ofString "<exception str() failed>", some e⟩

/-- The exception that comes of raising a class with arguments. A class that does not take the
arguments raises another one. -/
def ofArguments (name : String) (args : List Datum) : Raised :=
  if name ∈ systemNames then
    let kind := systemName args
    telling kind (systemMessage kind args) none
  else if name ∈ systemKinds then telling name (systemMessage name args) none
  else if name ∈ groupNames then groupRefusal args
  else match arities.lookup name with
    | some n =>
      if args.length = n then telling name (plainMessage args) none
      else typeError ("function takes exactly " ++ toString n ++ " arguments ("
        ++ toString args.length ++ " given)")
    | none =>
      if name ∈ syntaxNames then telling name ((args.headD .null).text messageRoom) none
      else if name = "KeyError" then
        match args with
        | [x] => telling name (x.spelling messageRoom) none
        | _ => telling name (plainMessage args) none
      else telling name (plainMessage args) (escapeOf? name args)

end Raised

end ImageText.Engine
