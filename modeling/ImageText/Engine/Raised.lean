import ImageText.Engine.Datum
import ImageText.Engine.Printed

/-!
# Exceptions

What fails in the interpreter raises an exception, which has a name and a message that the interpreter
would show. What becomes of it when nobody handles it is a part of it: an ordinary exception can be
handled like any other, but a request to exit, an interrupt and a few more pass by every handler for
ordinary ones.
-/

namespace ImageText.Engine

/-- What becomes of an exception that no handler for ordinary ones takes. -/
inductive Escape where
  /-- The interpreter ends as the value says. -/
  | exit (value : Datum)
  /-- The interpreter dies of an interrupt. -/
  | interrupt
  /-- The interpreter reports it and fails. So it does for an exception that has no text to print,
  because a handler that prints it raises another one. -/
  | failure
  deriving Repr

/-- An exception that was raised. -/
structure Raised where
  /-- The name of its class. -/
  name : CodePoints
  /-- The text it prints. -/
  message : CodePoints
  /-- `none` for an ordinary exception. -/
  escape : Option Escape := none
  deriving Repr

namespace Raised

/-- A type error. -/
def typeError (message : String) : Raised := ⟨ofString "TypeError", ofString message, none⟩

/-- A value error. -/
def valueError (message : String) : Raised := ⟨ofString "ValueError", ofString message, none⟩

end Raised

/-- What part of an engine's work comes to: what it wrote meanwhile, and its value or an
exception. -/
structure Turn (α : Type) where
  noise : List Noise
  result : Except Raised α

end ImageText.Engine
