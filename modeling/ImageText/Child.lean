import ImageText.Path

/-!
# Child processes

What it takes to start a child process and what is left of it. The streams of a child are read to
their end while it runs, so a finished child is no more than its two outputs and the way it ended.
-/

namespace ImageText

/-- A child process to be started: an interpreter, what it runs, and the arguments of that. -/
structure Command where
  interpreter : Path
  /-- A script; without one the interpreter runs the built-in program. -/
  script : Option Path
  arguments : List Bytes
  deriving DecidableEq, Repr

/-- A signal that a process died of. -/
structure Signal where
  number : Nat
  /-- The system has kept the memory of the process. -/
  dumped : Bool := false
  deriving DecidableEq, Repr

namespace Signal

instance : Coe Nat Signal := ⟨fun number => { number }⟩

instance (number : Nat) : OfNat Signal number := ⟨{ number }⟩

instance : Coe Signal Nat := ⟨Signal.number⟩

/-- The names of the signals, by number. -/
def names : List (Nat × String) :=
  [(1, "SIGHUP"), (2, "SIGINT"), (3, "SIGQUIT"), (4, "SIGILL"), (5, "SIGTRAP"), (6, "SIGABRT"),
    (7, "SIGBUS"), (8, "SIGFPE"), (9, "SIGKILL"), (10, "SIGUSR1"), (11, "SIGSEGV"),
    (12, "SIGUSR2"), (13, "SIGPIPE"), (14, "SIGALRM"), (15, "SIGTERM"), (16, "SIGSTKFLT"),
    (17, "SIGCHLD"), (18, "SIGCONT"), (19, "SIGSTOP"), (20, "SIGTSTP"), (21, "SIGTTIN"),
    (22, "SIGTTOU"), (23, "SIGURG"), (24, "SIGXCPU"), (25, "SIGXFSZ"), (26, "SIGVTALRM"),
    (27, "SIGPROF"), (28, "SIGWINCH"), (29, "SIGIO"), (30, "SIGPWR"), (31, "SIGSYS")]

/-- The name of a signal behind its number, if it has one. -/
def named (s : Signal) : String :=
  (names.lookup s.number).elim "" fun name => " (" ++ name ++ ")"

/-- What is said of the memory. -/
def remains (s : Signal) : String := if s.dumped then " (core dumped)" else ""

/-- The words for a signal. -/
def text (s : Signal) : String := "signal: " ++ toString s.number ++ s.named ++ s.remains

end Signal

/-- How a child process ended. -/
inductive Exit where
  | code (n : Nat)
  | signal (s : Signal)
  deriving DecidableEq, Repr

namespace Exit

/-- The words for an end. -/
def text : Exit → String
  | code n => "exit status: " ++ toString n
  | signal s => s.text

/-- The child says that all went well. -/
def success : Exit → Bool
  | code 0 => true
  | _ => false

end Exit

/-- What is left of a child process. -/
structure Finished where
  stdout : Bytes
  stderr : Bytes
  exit : Exit
  /-- How long it ran, in words. -/
  elapsed : String
  deriving DecidableEq, Repr

end ImageText
