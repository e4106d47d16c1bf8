import ImageText.Log.Directive
import ImageText.Text.Bytes

/-!
# Which records are kept

A filter is a list of directives between commas. Among those that are about a record the one with
the longest target decides, of two with one target the one with a field, and of two alike the later.
Without any a record is dropped. A filter that cannot be read counts as the filter `debug`.
-/

namespace ImageText.Log

/-- The directives of a filter. -/
abbrev Filter := List Directive

namespace Filter

/-- The filter that stands for one that cannot be read. -/
def fallback : Filter := [⟨[], none, Level.debug.rank⟩]

/-- The parts of a text between commas that are not empty. -/
def parts (s : List Char) : List (List Char) :=
  (s.foldr (fun c ps =>
    if c = ',' then [] :: ps
    else match ps with
      | [] => [[c]]
      | p :: rest => (c :: p) :: rest) [[]]).filter fun p => !p.isEmpty

/-- The filter in a text. Without a directive only errors are kept. -/
def read? (s : List Char) : Option Filter :=
  if (parts s).isEmpty then some [⟨[], none, Level.error.rank⟩]
  else ((parts s).mapM Directive.read?).map fun ds => ds.filterMap id

/-- The filter in an environment variable. -/
def ofVariable (value : Option Bytes) : Filter :=
  ((value.bind Text.decode?).bind read?).getD fallback

/-- The directive that decides about a record: among those that fit, the last of the closest. -/
def deciding? (f : Filter) (r : Record) : Option Directive :=
  (f.filter fun d => d.fits r).foldl (fun best d =>
    match best with
    | some b => if d.closeness < b.closeness then best else some d
    | none => some d) none

/-- A record is kept. -/
def admits (f : Filter) (r : Record) : Bool :=
  (f.deciding? r).any fun d => r.level.rank ≤ d.most

end Filter

/-- A character of a message that a terminal would act on, spelled out. -/
def harmlessChar (c : Char) : List Char :=
  let n := c.toNat
  if n = 0x1B ∨ n = 0x07 ∨ n = 0x08 ∨ n = 0x0C ∨ n = 0x7F then '\\' :: 'x' :: Text.hex 2 n
  else if 0x80 ≤ n ∧ n ≤ 0x9F then '\\' :: 'u' :: '\x7b' :: (Text.hex 2 n ++ ['\x7d'])
  else [c]

/-- The line of a record, with a time in front. -/
def line (time : String) (r : Record) : String :=
  let level := r.level.name
  time ++ " " ++ String.ofList (List.replicate (5 - level.length) ' ') ++ level ++ " " ++ r.target
    ++ ": " ++ String.ofList (r.message.toList.flatMap harmlessChar) ++ "\n"

end ImageText.Log
