import ImageText.Decimal.Shortest

/-!
# JSON values

What the engine answers, as a tree. An object is the list of its members in strictly ascending
order of their keys, so two documents that list the same members in another order are the same
value; `insert` keeps that order and lets the later of two members with one key win. Strings are
compared by code point, which is also the order of their UTF-8 bytes.
-/

namespace ImageText.Json

/-- A JSON number: a whole number that was written as one, or a double. -/
inductive Number where
  | whole (n : Int)
  | real (x : Decimal.Binary64)
  deriving DecidableEq, Repr, Inhabited

namespace Number

/-- Zero in any form, the negative one included. -/
def isZero : Number → Bool
  | whole n => n == 0
  | real x => x.isZero

end Number

/-- A JSON document. -/
inductive Value where
  | null
  | bool (b : Bool)
  | number (n : Number)
  | string (s : String)
  | array (items : List Value)
  | object (members : List (String × Value))
  deriving Repr, Inhabited

/-- Put a member into a list of members in ascending order of keys, in the place of a member with
the same key. -/
def insert {α : Type} (key : String) (x : α) : List (String × α) → List (String × α)
  | [] => [(key, x)]
  | (k, y) :: rest =>
    if key < k then (key, x) :: (k, y) :: rest
    else if key = k then (k, x) :: rest
    else (k, y) :: insert key x rest

namespace Value

/-- The member of an object under a key. -/
def member? (key : String) : Value → Option Value
  | object members => members.lookup key
  | _ => none

/-- Empty strings, arrays and objects, zero, `false` and `null` carry nothing. -/
def isTruthy : Value → Bool
  | null => false
  | bool b => b
  | number n => !n.isZero
  | string s => !s.isEmpty
  | array items => !items.isEmpty
  | object members => !members.isEmpty

end Value

end ImageText.Json
