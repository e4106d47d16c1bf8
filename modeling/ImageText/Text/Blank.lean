/-!
# White space

`isBlank` is the Unicode property White_Space; `trim` removes it from both ends of a text. Both
work on character lists, so that what they do to a text is a statement about `List.dropWhile`.
-/

namespace ImageText.Text

/-- The Unicode property White_Space. -/
def isBlank (c : Char) : Bool :=
  let n := c.toNat
  (0x9 ≤ n && n ≤ 0xD) || n == 0x20 || n == 0x85 || n == 0xA0 || n == 0x1680
    || (0x2000 ≤ n && n ≤ 0x200A) || n == 0x2028 || n == 0x2029 || n == 0x202F || n == 0x205F
    || n == 0x3000

/-- Without the white space at the beginning. -/
def trimStart (s : List Char) : List Char := s.dropWhile isBlank

/-- Without the white space at the end. -/
def trimEnd (s : List Char) : List Char := (s.reverse.dropWhile isBlank).reverse

/-- Without the white space at both ends. -/
def trim (s : List Char) : List Char := trimEnd (trimStart s)

/-- The parts of a text between its line feeds; a text with `n` of them has `n + 1` lines. -/
def lines (s : List Char) : List (List Char) :=
  s.foldr (fun c ls =>
    if c = '\n' then [] :: ls
    else match ls with
      | [] => [[c]]
      | l :: rest => (c :: l) :: rest) [[]]

/-- The last line that is more than white space, trimmed. -/
def lastLine? (s : List Char) : Option (List Char) :=
  ((lines s).reverse.map trim).find? (fun l => !l.isEmpty)

end ImageText.Text
