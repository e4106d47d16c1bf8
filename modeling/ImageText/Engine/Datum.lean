import ImageText.Decimal.Shortest
import ImageText.Engine.CodePoints
import ImageText.Text.Hidden

/-!
# What an engine can answer

An engine hands back a value of its interpreter: scalars, containers, and objects that are known
only by what can be asked of them.

A dictionary keeps its keys in the order in which they came. Keys are compared by value, and a
truth value counts as the number 0 or 1; when a key comes again its first spelling and its last
value stay.
-/

namespace ImageText.Engine

/-- A floating-point number. -/
inductive Real where
  | finite (x : Decimal.Binary64)
  | infinite (negative : Bool)
  | nan
  deriving DecidableEq, Repr

/-- A value of the engine's interpreter. -/
inductive Datum where
  | null
  | bool (b : Bool)
  | int (n : Int)
  | float (x : Real)
  | str (s : CodePoints)
  | bytes (bs : Bytes)
  | list (items : List Datum)
  | tuple (items : List Datum)
  | dict (entries : List (Datum × Datum))
  /-- An object that lists pairs when asked for its items. -/
  | mapping (entries : List (Datum × Datum))
  /-- An object that hands out its content when asked for a list, and that may have a size. -/
  | array (content : Datum) (size : Option Int)
  /-- A source of values that can be read once. -/
  | generator (items : List Datum)
  /-- Any other object, known by the text it prints. -/
  | opaqueObject (text : CodePoints)
  deriving Repr, Inhabited

namespace Datum

/-- What the interpreter calls the type of a value. -/
def typeName : Datum → String
  | null => "NoneType"
  | bool _ => "bool"
  | int _ => "int"
  | float _ => "float"
  | str _ => "str"
  | bytes _ => "bytes"
  | list _ => "list"
  | tuple _ => "tuple"
  | dict _ => "dict"
  | mapping _ => "Items"
  | array _ _ => "Array"
  | generator _ => "generator"
  | opaqueObject _ => "Opaque"

/-- The whole number that a value is equal to, if any. -/
def whole? : Datum → Option Int
  | bool b => some (if b then 1 else 0)
  | int n => some n
  | float (.finite x) =>
    let (num, den) := Decimal.Magnitude.scale x.size.mantissa 1 (-x.size.exponent)
    if num % den = 0 then
      some (if x.negative then -((num / den : Nat) : Int) else ((num / den : Nat) : Int))
    else none
  | _ => none

mutual

/-- Two keys are one. -/
def sameKey : Datum → Datum → Bool
  | null, null => true
  | str s, str t => s == t
  | bytes a, bytes b => a == b
  | tuple xs, tuple ys => sameKeys xs ys
  | float (.infinite a), float (.infinite b) => a == b
  | float (.finite x), float (.finite y) =>
    (x.isZero && y.isZero) || x == y
  | x, y =>
    match x.whole?, y.whole? with
    | some m, some n => m == n
    | _, _ => false

/-- Two rows of keys are one. -/
def sameKeys : List Datum → List Datum → Bool
  | [], [] => true
  | x :: xs, y :: ys => sameKey x y && sameKeys xs ys
  | _, _ => false

end

/-- Put an entry into a dictionary. -/
def put (key value : Datum) : List (Datum × Datum) → List (Datum × Datum)
  | [] => [(key, value)]
  | (k, v) :: rest =>
    if sameKey k key then (k, value) :: rest else (k, v) :: put key value rest

/-- The dictionary of some entries. -/
def collect (entries : List (Datum × Datum)) : List (Datum × Datum) :=
  entries.foldl (fun acc e => put e.1 e.2 acc) []

mutual

/-- A value can be a key of a dictionary. -/
def isKey : Datum → Bool
  | list _ | dict _ => false
  | tuple items => areKeys items
  | _ => true

/-- All of some values can be keys. -/
def areKeys : List Datum → Bool
  | [] => true
  | x :: rest => x.isKey && areKeys rest

end

end Datum

end ImageText.Engine
