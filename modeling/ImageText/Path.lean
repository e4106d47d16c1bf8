import ImageText.Text.Bytes

/-!
# Paths

A path is its bytes. Two spellings mean the same path when they have the same `Form`: slashes that
follow each other count once, a slash at the end counts nothing, and neither does a dot between
slashes; a dot at the beginning and every `..` count.
-/

namespace ImageText

/-- A path to a file, in the bytes in which it was given. -/
abbrev Path := Bytes

namespace Path

/-- The slash. -/
def slash : UInt8 := 0x2F

/-- The name of the directory that a path starts in. -/
def dot : Bytes := [0x2E]

/-- The parts of a path between its slashes; a path with `n` slashes has `n + 1`. -/
def split (path : Path) : List Bytes :=
  path.foldr (fun b parts =>
    if b = slash then [] :: parts
    else match parts with
      | [] => [[b]]
      | part :: rest => (b :: part) :: rest) [[]]

/-- What a spelling says. -/
structure Form where
  /-- It begins at the root. -/
  rooted : Bool
  /-- It begins with a dot. -/
  dotted : Bool
  /-- The names that follow each other. -/
  names : List Bytes
  deriving DecidableEq, Repr

/-- The form of a path. -/
def form (path : Path) : Form :=
  let parts := split path
  ⟨path.head? == some slash, parts.head? == some dot,
    parts.filter fun part => !part.isEmpty && part != dot⟩

/-- Two spellings of one path. -/
def same (a b : Path) : Bool := form a == form b

end Path

end ImageText
