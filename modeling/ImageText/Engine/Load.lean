import ImageText.Engine.Limits

/-!
# Reading the options on the engine's side

The engine's interpreter reads JSON with a reader of its own. It works on code points, leaves a lone
surrogate alone, knows the names of the numbers beyond the reals, reads every number exactly, and
finds fault with other words and at other places than the reader on this side: a place is a line, a
column and a number of characters, all of them up to the character that is at fault.
-/

namespace ImageText.Engine

/-- What is wrong with a document. -/
inductive LoadFault where
  | valueExpected
  | nameExpected
  | colonExpected
  | commaExpected
  | extraData
  | unterminated
  | controlCharacter
  | badEscape
  | badUnit
  | byteOrderMark
  deriving DecidableEq, Repr

/-- The words for what is wrong. -/
def LoadFault.message : LoadFault → String
  | valueExpected => "Expecting value"
  | nameExpected => "Expecting property name enclosed in double quotes"
  | colonExpected => "Expecting ':' delimiter"
  | commaExpected => "Expecting ',' delimiter"
  | extraData => "Extra data"
  | unterminated => "Unterminated string starting at"
  | controlCharacter => "Invalid control character at"
  | badEscape => "Invalid \\escape"
  | badUnit => "Invalid \\uXXXX escape"
  | byteOrderMark => "Unexpected UTF-8 BOM (decode using utf-8-sig)"

/-- Why reading stopped. -/
inductive LoadStop where
  /-- At a fault with so many characters left. -/
  | fault (what : LoadFault) (left : Nat)
  /-- For another reason. -/
  | raised (r : Raised)
  deriving Repr

/-- A reader's result: what it read and the characters behind it. -/
abbrev LoadStep (α : Type) := Except LoadStop (α × CodePoints)

namespace Load

/-- A character that may stand between tokens. -/
def isGap (n : Nat) : Bool := n == 0x20 || n == 0x09 || n == 0x0A || n == 0x0D

/-- The text from its next token on. -/
def skipGap (s : CodePoints) : CodePoints := s.dropWhile isGap

/-- An ASCII digit. -/
def isDigit (n : Nat) : Bool := 0x30 ≤ n && n ≤ 0x39

/-- A fault at the first character of `rest`. -/
def stopAt {α : Type} (what : LoadFault) (rest : CodePoints) : LoadStep α :=
  .error (.fault what rest.length)

/-- The value of a hexadecimal digit. -/
def hexValue? (n : Nat) : Option Nat :=
  if 0x30 ≤ n ∧ n ≤ 0x39 then some (n - 0x30)
  else if 0x41 ≤ n ∧ n ≤ 0x46 then some (n - 0x41 + 10)
  else if 0x61 ≤ n ∧ n ≤ 0x66 then some (n - 0x61 + 10)
  else none

/-- The value of four hexadecimal digits. -/
def unit? (a b c d : Nat) : Option Nat :=
  match hexValue? a, hexValue? b, hexValue? c, hexValue? d with
  | some a, some b, some c, some d => some (((a * 16 + b) * 16 + c) * 16 + d)
  | _, _, _, _ => none

/-- What an escape of one letter stands for. -/
def shortEscape? (n : Nat) : Option Nat :=
  if n = 0x22 ∨ n = 0x5C ∨ n = 0x2F then some n
  else if n = 0x62 then some 0x08
  else if n = 0x66 then some 0x0C
  else if n = 0x6E then some 0x0A
  else if n = 0x72 then some 0x0D
  else if n = 0x74 then some 0x09
  else none

/-- The first half of a surrogate pair. -/
def isLead (n : Nat) : Bool := 0xD800 ≤ n && n ≤ 0xDBFF

/-- The second half of a surrogate pair. -/
def isTrail (n : Nat) : Bool := 0xDC00 ≤ n && n ≤ 0xDFFF

/-- The escaped code unit at the head of a text, if anything follows it; `some none` if its digits
are none. -/
def unitAhead? (s : CodePoints) : Option (Option Nat) :=
  match s with
  | 0x5C :: 0x75 :: a :: b :: c :: d :: _ :: _ => some (unit? a b c d)
  | _ => none

/-- The rest of a string. `start` is the text from its opening quote on, and `acc` holds the
characters so far, last first. Two escaped surrogates that make a pair are one character if anything
follows them. -/
def readText (start acc : CodePoints) : CodePoints → LoadStep CodePoints
  | [] => .error (.fault .unterminated start.length)
  | n :: rest =>
    if n = 0x22 then .ok (acc.reverse, rest)
    else if n = 0x5C then
      match rest with
      | [] => .error (.fault .unterminated start.length)
      | c :: more =>
        if c = 0x75 then
          match unitAhead? (n :: rest) with
          | some (some lead) =>
            let behind := more.drop 4
            match if isLead lead then unitAhead? behind else none with
            | some none => .error (.fault .badUnit (behind.length - 1))
            | some (some trail) =>
              if isTrail trail then
                readText start ((0x10000 + (lead - 0xD800) * 0x400 + (trail - 0xDC00)) :: acc)
                  (behind.drop 6)
              else readText start (lead :: acc) behind
            | none => readText start (lead :: acc) behind
          | _ => .error (.fault .badUnit rest.length)
        else match shortEscape? c with
          | some x => readText start (x :: acc) more
          | none => .error (.fault .badEscape (rest.length + 1))
    else if n ≤ 0x1F then .error (.fault .controlCharacter (rest.length + 1))
    else readText start (n :: acc) rest
termination_by s => s.length
decreasing_by
  all_goals simp_all only [List.length_cons, List.length_drop]
  all_goals omega

/-- The digits at the head of a text, and the rest. -/
def digitRun (s : CodePoints) : List Nat × CodePoints :=
  ((s.takeWhile isDigit).map (· - 0x30), s.dropWhile isDigit)

/-- The number that digits denote. -/
def natOf (ds : List Nat) : Nat := ds.foldl (fun n d => n * 10 + d) 0

/-- The digits before the point: a single zero, or digits that do not begin with one. -/
def wholeRun? (s : CodePoints) : Option (List Nat × CodePoints) :=
  match s with
  | 0x30 :: rest => some ([0], rest)
  | n :: _ => if isDigit n then some (digitRun s) else none
  | [] => none

/-- The digits behind a point, if a point with digits follows. -/
def fractionRun (s : CodePoints) : List Nat × CodePoints :=
  match s with
  | 0x2E :: rest =>
    match digitRun rest with
    | ([], _) => ([], s)
    | found => found
  | _ => ([], s)

/-- An exponent, if one with digits follows. -/
def exponentRun (s : CodePoints) : Option Int × CodePoints :=
  match s with
  | e :: rest =>
    if e = 0x65 ∨ e = 0x45 then
      let signed := match rest with
        | 0x2D :: more => (true, more)
        | 0x2B :: more => (false, more)
        | _ => (false, rest)
      match digitRun signed.2 with
      | ([], _) => (none, s)
      | (ds, more) => (some (if signed.1 then -(natOf ds : Int) else natOf ds), more)
    else (none, s)
  | [] => (none, [])

/-- A whole number from its digits. -/
def intOf (negative : Bool) (ds : List Nat) : Except Raised Datum :=
  if maxDigits < ds.length then
    .error (tooLong (": value has " ++ toString ds.length ++ " digits"))
  else .ok (.int (if negative then -(natOf ds : Int) else natOf ds))

/-- The double nearest to a decimal. -/
def realOf (negative : Bool) (significand : Nat) (exponent : Int) : Real :=
  match Decimal.Magnitude.ofDecimal significand exponent with
  | some size => .finite ⟨negative, size⟩
  | none => .infinite negative

/-- A number in one of the forms in which a floating-point number is given by its text: a decimal
in which one side of the point may be empty, or a name of a number beyond the reals. -/
def realOfText? (s : List Char) : Option Real :=
  let s := ofChars s
  let negative := s.head? == some 0x2D
  let body := if negative ∨ s.head? = some 0x2B then s.drop 1 else s
  let name := body.map fun n => if 0x41 ≤ n ∧ n ≤ 0x5A then n + 0x20 else n
  if name = ofString "nan" then some .nan
  else if name = ofString "inf" ∨ name = ofString "infinity" then some (.infinite negative)
  else
    let (whole, rest) := digitRun body
    let (fraction, rest) := match rest with
      | 0x2E :: more => digitRun more
      | _ => ([], rest)
    if whole.isEmpty ∧ fraction.isEmpty then none
    else
      let (exponent, rest) := exponentRun rest
      if rest.isEmpty then
        some (realOf negative (natOf (whole ++ fraction)) (exponent.getD 0 - fraction.length))
      else none

/-- The number at the head of a text. Without a point and an exponent it is whole. -/
def readNumber (s : CodePoints) : LoadStep Datum :=
  let negative := s.head? == some 0x2D
  match wholeRun? (if negative then s.drop 1 else s) with
  | none => stopAt .valueExpected s
  | some (whole, rest) =>
    let (fraction, rest) := fractionRun rest
    let (exponent, rest) := exponentRun rest
    if fraction.isEmpty ∧ exponent.isNone then
      match intOf negative whole with
      | .ok n => .ok (n, rest)
      | .error raised => .error (.raised raised)
    else
      .ok (.float (realOf negative (natOf (whole ++ fraction))
        (exponent.getD 0 - fraction.length)), rest)

/-- The words that stand for values. -/
def words : List (CodePoints × Datum) :=
  [(ofString "null", .null), (ofString "true", .bool true), (ofString "false", .bool false),
    (ofString "NaN", .float .nan), (ofString "Infinity", .float (.infinite false)),
    (ofString "-Infinity", .float (.infinite true))]

/-- A value that is neither a list nor a dictionary. -/
def readScalar (s : CodePoints) : LoadStep Datum :=
  match words.find? fun w => w.1.isPrefixOf s with
  | some (word, x) => .ok (x, s.drop word.length)
  | none =>
    match s with
    | 0x22 :: rest => (readText s [] rest).map fun (t, rest) => (.str t, rest)
    | _ => readNumber s

/-- Items from the present one to the closing bracket. -/
def readItems (item : CodePoints → LoadStep Datum) :
    Nat → List Datum → CodePoints → LoadStep (List Datum)
  | 0, _, s => stopAt .valueExpected s
  | fuel + 1, acc, s =>
    match item s with
    | .error stop => .error stop
    | .ok (x, rest) =>
      match skipGap rest with
      | 0x5D :: more => .ok ((x :: acc).reverse, more)
      | 0x2C :: more => readItems item fuel (x :: acc) (skipGap more)
      | rest => stopAt .commaExpected rest

/-- Entries from the present one to the closing bracket. -/
def readEntries (value : CodePoints → LoadStep Datum) :
    Nat → List (Datum × Datum) → CodePoints → LoadStep (List (Datum × Datum))
  | 0, _, s => stopAt .nameExpected s
  | fuel + 1, acc, s =>
    match s with
    | 0x22 :: rest =>
      match readText s [] rest with
      | .error stop => .error stop
      | .ok (key, rest) =>
        match skipGap rest with
        | 0x3A :: rest =>
          match value (skipGap rest) with
          | .error stop => .error stop
          | .ok (x, rest) =>
            let acc := Datum.put (.str key) x acc
            match skipGap rest with
            | 0x7D :: more => .ok (acc, more)
            | 0x2C :: more => readEntries value fuel acc (skipGap more)
            | rest => stopAt .commaExpected rest
        | rest => stopAt .colonExpected rest
    | _ => stopAt .nameExpected s

/-- The interpreter has no room for another bracket. -/
def noRoom {α : Type} (what : String) : LoadStep α :=
  .error (.raised (tooDeep (" while decoding a JSON " ++ what ++ " from a unicode string")))

/-- The value at the head of a text, with room for `room` brackets inside each other and fewer than
`size` items in each. -/
def readValue (size room : Nat) (s : CodePoints) : LoadStep Datum :=
  match s with
  | 0x5B :: rest =>
    match room with
    | 0 => noRoom "array"
    | room + 1 =>
      match skipGap rest with
      | 0x5D :: more => .ok (.list [], more)
      | inner =>
        (readItems (readValue size room) size [] inner).map
          fun (items, rest) => (.list items, rest)
  | 0x7B :: rest =>
    match room with
    | 0 => noRoom "object"
    | room + 1 =>
      match skipGap rest with
      | 0x7D :: more => .ok (.dict [], more)
      | inner =>
        (readEntries (readValue size room) size [] inner).map
          fun (entries, rest) => (.dict entries, rest)
  | _ => readScalar s

/-- The place of a fault in words. -/
def place (s : CodePoints) (left : Nat) : String :=
  let passed := s.take (s.length - left)
  "line " ++ toString (1 + passed.count 0x0A) ++ " column "
    ++ toString (1 + (passed.reverse.takeWhile (· ≠ 0x0A)).length) ++ " (char "
    ++ toString passed.length ++ ")"

/-- The exception for a stop. -/
def refusal (s : CodePoints) : LoadStop → Raised
  | .raised r => r
  | .fault what left =>
    ⟨ofString "JSONDecodeError", ofString (what.message ++ ": " ++ place s left), none⟩

/-- The value of a document. -/
def document (s : CodePoints) : LoadStep Datum :=
  if s.head? = some 0xFEFF then stopAt .byteOrderMark s
  else match readValue (s.length + 1) documentRoom (skipGap s) with
    | .error stop => .error stop
    | .ok (x, rest) =>
      match skipGap rest with
      | [] => .ok (x, [])
      | rest => stopAt .extraData rest

end Load

/-- The value of a document, or the exception that reading it raises. -/
def load (s : CodePoints) : Except Raised Datum :=
  match Load.document s with
  | .ok (x, _) => .ok x
  | .error stop => .error (Load.refusal s stop)

end ImageText.Engine
