import ImageText.Log
import ImageText.Log.Pattern
import ImageText.Text.Blank

/-!
# Directives

A directive says up to which level records are kept: every record, those of a target, those that
have a field, or both. A level alone is for every record; a target, a field, or both together may be
followed by a level, and admit everything without one. A field stands in braces between brackets.

A directive may also name a span between its brackets, or ask for the value of a field. Such a
directive is read, but no record belongs to a span, so nothing comes of it.
-/

namespace ImageText.Log

/-- Some records, and which of them are kept. -/
structure Directive where
  /-- What the target of a record begins with. -/
  target : List Char
  /-- A field that a record has. -/
  field : Option (List Char)
  /-- The greatest rank that is kept. -/
  most : Nat
  deriving DecidableEq, Repr

/-- The rank of everything. -/
def everything : Nat := Level.trace.rank

/-- A number in decimal digits, perhaps behind a plus sign. -/
def number? (s : List Char) : Option Nat :=
  let ds := if s.head? = some '+' then s.drop 1 else s
  if ds.isEmpty ∨ !ds.all Char.isDigit then none
  else some (ds.foldl (fun n c => n * 10 + (c.toNat - '0'.toNat)) 0)

/-- The names of the levels, from none to all. -/
def levelNames : List String := ["off", "error", "warn", "info", "debug", "trace"]

/-- The rank of a level, by number or by name in any case. -/
def rank? (s : List Char) : Option Nat :=
  match (number? s).filter (· ≤ everything) with
  | some n => some n
  | none => levelNames.findIdx? fun name => name.toList = s.map Char.toLower

/-- The rank behind an equals sign, everything if nothing is there. -/
def rankBehind? (s : List Char) : Option Nat := if s.isEmpty then some everything else rank? s

namespace Directive

/-- A character that a target may begin with. -/
def startsTarget (c : Char) : Bool :=
  c == '-' || c == ':' || c == '_' || Text.isAlphanumeric c

/-- What stands between the brackets of a directive. -/
structure Inside where
  /-- A span is named. -/
  named : Bool
  /-- How much of the text is left at the beginning of the field and at its end. -/
  field : Option (Nat × Nat)
  /-- The text behind the closing bracket. -/
  rest : List Char
  deriving DecidableEq, Repr

/-- Read from an opening bracket on: the name of a span, or a field in braces, or both. -/
def inside? (s : List Char) : Option Inside :=
  let name := s.takeWhile fun c => c ≠ ']' && c ≠ '\x7b'
  match s.drop name.length with
  | ']' :: rest => some ⟨true, none, rest⟩
  | '\x7b' :: field =>
    match field.dropWhile (· ≠ '\x7d') with
    | '\x7d' :: ']' :: rest =>
      if field.length = rest.length + 2 then none
      else some ⟨!name.isEmpty, some (field.length, rest.length + 2), rest⟩
    | _ => none
  | _ => none

/-- The name of a field, and the value that it shall have. -/
def fieldParts (s : List Char) : List Char × Option (List Char) :=
  let name := s.takeWhile (· ≠ '=')
  (name, match s.drop name.length with
    | [] => none
    | _ :: value => some (value.takeWhile (· ≠ '=')))

/-- A directive with brackets, `some none` if nothing comes of it. -/
def bracketed? (target : List Char) (field : Option (List Char)) (named : Bool) (most : Nat) :
    Option (Option Directive) :=
  match field.map fieldParts with
  | none => some (if named then none else some ⟨target, none, most⟩)
  | some (name, value) =>
    if !value.all Pattern.isValue then none
    else some (if named || value.isSome then none else some ⟨target, some name, most⟩)

/-- The directive in a text, `some none` if nothing comes of it. The blanks around a directive are
not counted when its parts are looked for, and are counted when the parts are cut out. -/
def read? (s : List Char) : Option (Option Directive) :=
  let core := Text.trim s
  match core with
  | [] => none
  | c :: _ =>
    if c ≠ '[' ∧ !startsTarget c then none
    else
      let head := core.takeWhile fun c => c ≠ '=' && c ≠ '['
      let behind (left : Nat) := s.drop (core.length - left)
      match core.drop head.length with
      | '=' :: level =>
        (rankBehind? (behind level.length)).map fun n => some ⟨s.take head.length, none, n⟩
      | '[' :: rest =>
        (inside? rest).bind fun i =>
          let field := i.field.map fun (first, last) => (behind first).take (first - last)
          match i.rest with
          | [] => bracketed? (s.take head.length) field i.named everything
          | '=' :: level =>
            (rankBehind? (behind level.length)).bind
              (bracketed? (s.take head.length) field i.named)
          | _ => none
      | _ =>
        match rank? s with
        | some n => some (some ⟨[], none, n⟩)
        | none => some (some ⟨s, none, everything⟩)

/-- A directive is about a record. -/
def fits (d : Directive) (r : Record) : Bool :=
  d.target.isPrefixOf r.target.toList && d.field.all (· ∈ Record.fields.map String.toList)

/-- How closely a directive describes a record. A longer target counts for more than a field. -/
def closeness (d : Directive) : Nat := 2 * d.target.length + d.field.toList.length

end Directive

end ImageText.Log
