import ImageText.Path

/-!
# Files in memory

A file system small enough to look through: entries by the names that lead to them from the root.
`resolve` follows a path as a system does, name by name. A name other than the first needs a
directory to stand in, a link is replaced by the path it holds, and only so many links are followed.
Errors are given by their numbers.
-/

namespace ImageText.Stage

/-- The programs that stand on the search path. -/
inductive Tool where
  /-- The command interpreter. -/
  | shell
  /-- The engine's interpreter. -/
  | interpreter
  /-- Succeeds and writes nothing. -/
  | succeed
  /-- Fails and writes nothing. -/
  | fail
  /-- Writes its arguments. -/
  | echo
  /-- Lists files. -/
  | dir
  deriving DecidableEq, Repr

/-- What a name leads to. -/
inductive Entry where
  | file (data : Bytes)
  /-- The script that plays the bridge. -/
  | script
  | tool (t : Tool)
  | device
  | directory
  | link (target : Path)
  deriving DecidableEq, Repr

/-- Names that lead to an entry. -/
abbrev Place := List Bytes

/-- A file system. -/
abbrev Files := List (Place × Entry)

namespace Files

/-- There is no such file. -/
def notFound : Int := 2

/-- Something in the way is no directory. -/
def notDirectory : Int := 20

/-- A name is too long. -/
def nameTooLong : Int := 36

/-- Too many links. -/
def tooManyLinks : Int := 40

/-- The greatest length of a name. -/
def maxName : Nat := 255

/-- The greatest length of a path. -/
def maxPath : Nat := 4095

/-- How many links are followed. -/
def maxLinks : Nat := 40

/-- The name of the directory above. -/
def up : Bytes := [0x2E, 0x2E]

/-- A name that stays in place. -/
def stays (name : Bytes) : Bool := name.isEmpty || name == Path.dot

/-- The entry at a place; the root is a directory. -/
def at? (files : Files) (place : Place) : Option Entry :=
  if place.isEmpty then some .directory else files.lookup place

/-- The place that names lead to, from a place on. -/
def walk (files : Files) : Nat → Place → List Bytes → Except Int Place
  | _, here, [] => .ok here
  | links, here, name :: rest =>
    if files.at? here ≠ some .directory then .error notDirectory
    else if stays name then walk files links here rest
    else if name = up then walk files links here.dropLast rest
    else if maxName < name.length then .error nameTooLong
    else match files.at? (here ++ [name]) with
      | none => .error notFound
      | some (.link target) =>
        match links with
        | 0 => .error tooManyLinks
        | links + 1 =>
          walk files links (if target.head? = some Path.slash then [] else here)
            (Path.split target ++ rest)
      | some _ => walk files links (here ++ [name]) rest
termination_by links _ names => (links, names.length)

/-- The place that a path leads to, from a directory on. -/
def resolve (files : Files) (here : Place) (path : Path) : Except Int Place :=
  if path.isEmpty then .error notFound
  else if maxPath < path.length then .error nameTooLong
  else walk files maxLinks (if path.head? = some Path.slash then [] else here) (Path.split path)

/-- The entry that a path leads to. -/
def find (files : Files) (here : Place) (path : Path) : Except Int Entry :=
  match files.resolve here path with
  | .error n => .error n
  | .ok place =>
    match files.at? place with
    | some entry => .ok entry
    | none => .error notFound

/-- A path without a zero byte that leads to a regular file. -/
def isFile (files : Files) (here : Place) (path : Path) : Bool :=
  if (0 : UInt8) ∈ path then false
  else match files.find here path with
    | .ok (.file _) | .ok .script | .ok (.tool _) => true
    | _ => false

/-- The place for a new entry: where the path leads if it leads anywhere, and otherwise its last
name in the directory before it. -/
def placeFor? (files : Files) (here : Place) (path : Path) : Option Place :=
  match files.resolve here path with
  | .ok place => some place
  | .error _ =>
    let names := (Path.split path).filter fun name => !stays name
    match names.getLast? with
    | none => none
    | some last =>
      let start := if path.head? = some Path.slash then [] else here
      match files.walk maxLinks start names.dropLast with
      | .ok parent => some (parent ++ [last])
      | .error _ => none

/-- Without the entry at a place and those below it. -/
def without (files : Files) (place : Place) : Files :=
  files.filter fun e => !place.isPrefixOf e.1

/-- With an entry at a place. -/
def put (files : Files) (place : Place) (entry : Entry) : Files :=
  (place, entry) :: files.filter fun e => e.1 ≠ place

/-- With a file at a path. -/
def write (files : Files) (here : Place) (path : Path) (data : Bytes) : Files :=
  match files.placeFor? here path with
  | some place => files.put place (.file data)
  | none => files

/-- With a directory at a path. -/
def makeDirectory (files : Files) (here : Place) (path : Path) : Files :=
  match files.placeFor? here path with
  | some place => files.put place .directory
  | none => files

/-- The place of a path's last name, which is not followed if it is a link. -/
def ownPlace? (files : Files) (here : Place) (path : Path) : Option Place :=
  let names := (Path.split path).filter fun name => !stays name
  match names.getLast? with
  | none => none
  | some last =>
    match files.walk maxLinks (if path.head? = some Path.slash then [] else here)
        names.dropLast with
    | .ok parent => some (parent ++ [last])
    | .error _ => none

/-- With a link at a path. -/
def makeLink (files : Files) (here : Place) (path target : Path) : Files :=
  match files.ownPlace? here path with
  | some place => files.put place (.link target)
  | none => files

/-- Without what is at a path. -/
def remove (files : Files) (here : Place) (path : Path) : Files :=
  match files.ownPlace? here path with
  | some place => files.without place
  | none => files

end Files

end ImageText.Stage
