import ImageText.Decimal.Binary64

/-!
# Similar words

The Jaro similarity of two words looks at the characters that they have in common at nearly the
same place: how large a part of either word they are, and how many of them stand in the same order.
It is computed in double precision, with one rounding for every operation, because the words it is
compared with may be as similar as makes no difference but the last bit.
-/

namespace ImageText.CommandLine

open Decimal (Magnitude)

/-- A character of a word and whether it has found its partner. -/
abbrev Marked := Char × Bool

/-- Find a partner for `c` among the unmarked characters at the places from `low` up to `high`,
counted from `place`. -/
def markPartner (c : Char) (low high : Nat) : Nat → List Marked → Option (List Marked)
  | _, [] => none
  | place, (d, marked) :: rest =>
    if high ≤ place then none
    else if low ≤ place ∧ c = d ∧ !marked then some ((d, true) :: rest)
    else (markPartner c low high (place + 1) rest).map ((d, marked) :: ·)

/-- Find partners for the characters of a word, from `place` on: the characters that found one, and
the other word with its marks. -/
def findPartners (reach : Nat) : Nat → List Char → List Marked → List Char × List Marked
  | _, [], other => ([], other)
  | place, c :: rest, other =>
    match markPartner c (place - reach) (place + reach + 1) 0 other with
    | some other =>
      let (found, other) := findPartners reach (place + 1) rest other
      (c :: found, other)
    | none => findPartners reach (place + 1) rest other

/-- The places at which two words of one length differ. -/
def differences (a b : List Char) : Nat := ((a.zip b).filter fun (c, d) => c ≠ d).length

/-- A quotient of naturals. -/
def ratio (a b : Nat) : Magnitude := (Magnitude.round a b).getD .zero

/-- The Jaro similarity of two words. -/
def similarity (a b : List Char) : Magnitude :=
  if a.isEmpty ∧ b.isEmpty then ratio 1 1
  else
    let reach := max a.length b.length / 2 - 1
    let (found, marked) := findPartners reach 0 a (b.map fun c => (c, false))
    let matching := found.length
    if matching = 0 then .zero
    else
      let partners := (marked.filter fun m => m.2).map fun m => m.1
      let swaps := differences found partners / 2
      let parts := ((ratio matching a.length).plus (ratio matching b.length)).bind
        fun s => s.plus (ratio (matching - swaps) matching)
      ((parts.bind fun s => s.dividedBy (ratio 3 1))).getD .zero

/-- A word is similar to another if their similarity exceeds seven tenths. -/
def similarityBound : Magnitude := ratio 7 10

/-- The candidate most similar to a word, the last of several, if one is similar at all. -/
def mostSimilar? {α : Type} (word : List Char) (name : α → List Char) (candidates : List α) :
    Option α :=
  (candidates.foldl (fun best x =>
    let s := similarity word (name x)
    match best with
    | some (_, t) => if s.less t then best else some (x, s)
    | none => if similarityBound.less s then some (x, s) else none) none).map fun b => b.1

end ImageText.CommandLine
