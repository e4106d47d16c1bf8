import ImageText.Json.Fault

/-!
# String literals

A string literal is read one byte at a time. `Phase` is what the bytes so far call for: more text,
the letter of an escape, the digits of a code unit, or the second half of a surrogate pair. The
text is collected as UTF-8 bytes, escapes already resolved, and is checked only when the closing
quote is reached; an escape always contributes whole characters, so the text is well formed exactly
when the bytes between the quotes are.
-/

namespace ImageText.Json

/-- The quotation mark. -/
def quoteByte : UInt8 := 0x22

/-- The backslash. -/
def slashByte : UInt8 := 0x5C

/-- The value of a hexadecimal digit. -/
def hexValue? (b : UInt8) : Option Nat :=
  if 0x30 ≤ b ∧ b ≤ 0x39 then some (b.toNat - 0x30)
  else if 0x41 ≤ b ∧ b ≤ 0x46 then some (b.toNat - 0x41 + 10)
  else if 0x61 ≤ b ∧ b ≤ 0x66 then some (b.toNat - 0x61 + 10)
  else none

/-- What an escape of one letter stands for. -/
def shortEscape? (b : UInt8) : Option UInt8 :=
  if b = 0x22 then some 0x22
  else if b = 0x5C then some 0x5C
  else if b = 0x2F then some 0x2F
  else if b = 0x62 then some 0x08
  else if b = 0x66 then some 0x0C
  else if b = 0x6E then some 0x0A
  else if b = 0x72 then some 0x0D
  else if b = 0x74 then some 0x09
  else none

/-- The letter that announces a code unit in hexadecimal. -/
def unitLetter : UInt8 := 0x75

/-- The first half of a surrogate pair. -/
def isLead (n : Nat) : Bool := 0xD800 ≤ n && n ≤ 0xDBFF

/-- The second half of a surrogate pair. -/
def isTrail (n : Nat) : Bool := 0xDC00 ≤ n && n ≤ 0xDFFF

/-- What the next byte of a literal is. -/
inductive Phase where
  /-- Text, the beginning of an escape, or the closing quote. -/
  | text
  /-- The letter of an escape. -/
  | letter
  /-- A hexadecimal digit: how many have been read, their value unless one was no digit, and the
  first half of the pair that they complete, if any. -/
  | digits (lead : Option Nat) (count : Nat) (value : Option Nat)
  /-- The backslash of the second half of a pair. -/
  | pairSlash (lead : Nat)
  /-- The letter of the second half of a pair. -/
  | pairLetter (lead : Nat)
  deriving DecidableEq, Repr

/-- A code unit is complete. -/
def closeUnit (acc : Bytes) : Option Nat → Nat → Except Fault (Phase × Bytes)
  | none, n =>
    if isTrail n then .error .loneSurrogate
    else if isLead n then .ok (.pairSlash n, acc)
    else .ok (.text, (Text.encodeChar (Char.ofNat n)).reverse ++ acc)
  | some lead, n =>
    if isTrail n then
      let c := Char.ofNat (0x10000 + (lead - 0xD800) * 0x400 + (n - 0xDC00))
      .ok (.text, (Text.encodeChar c).reverse ++ acc)
    else .error .loneSurrogate

/-- One byte of a literal, the closing quote apart. `acc` is the text so far, last byte first. -/
def advance (acc : Bytes) (b : UInt8) : Phase → Except Fault (Phase × Bytes)
  | .text =>
    if b = slashByte then .ok (.letter, acc)
    else if b < 0x20 then .error .controlCharacter
    else .ok (.text, b :: acc)
  | .letter =>
    match shortEscape? b with
    | some c => .ok (.text, c :: acc)
    | none => if b = unitLetter then .ok (.digits none 0 (some 0), acc) else .error .badEscape
  | .digits lead count value =>
    let value := value.bind fun v => (hexValue? b).map fun d => v * 16 + d
    if count < 3 then .ok (.digits lead (count + 1) value, acc)
    else match value with
      | none => .error .badEscape
      | some n => closeUnit acc lead n
  | .pairSlash lead =>
    if b = slashByte then .ok (.pairLetter lead, acc) else .error .endInEscape
  | .pairLetter lead =>
    if b = unitLetter then .ok (.digits (some lead) 0 (some 0), acc) else .error .endInEscape

/-- The rest of a literal. A text that is not UTF-8 is refused as many bytes before the end of the
literal as there are in the text from its first bad byte on: at that byte, unless an escape behind it
stands for fewer bytes than it takes. -/
def literalFrom : Phase → Bytes → Bytes → Step String
  | _, _, [] => .error (.before .endInString [])
  | phase, acc, b :: rest =>
    if phase = .text ∧ b = quoteByte then
      let text := acc.reverse
      match Text.decode? text with
      | some s => .ok (String.ofList s, rest)
      | none => .error (.before .badCodePoint (text.drop (Text.validPrefix text) ++ rest))
    else match advance acc b phase with
      | .error fault => .error (.before fault rest)
      | .ok (phase, acc) => literalFrom phase acc rest

/-- The literal whose opening quote has been read. -/
def readLiteral (input : Bytes) : Step String := literalFrom .text [] input

/-- Pass over the rest of a literal. Its text is not wanted, so neither its encoding nor the
pairing of its surrogates is checked, and a control character is refused where it stands. -/
def passLiteralFrom : Phase → Bytes → Step Unit
  | _, [] => .error (.before .endInString [])
  | .text, b :: rest =>
    if b = quoteByte then .ok ((), rest)
    else if b = slashByte then passLiteralFrom .letter rest
    else if b < 0x20 then .error (.before .controlCharacter (b :: rest))
    else passLiteralFrom .text rest
  | .digits lead count value, b :: rest =>
    let value := value.bind fun v => (hexValue? b).map fun d => v * 16 + d
    if count < 3 then passLiteralFrom (.digits lead (count + 1) value) rest
    else match value with
      | none => .error (.before .badEscape rest)
      | some _ => passLiteralFrom .text rest
  | _, b :: rest =>
    if (shortEscape? b).isSome then passLiteralFrom .text rest
    else if b = unitLetter then passLiteralFrom (.digits none 0 (some 0)) rest
    else .error (.before .badEscape rest)

/-- Pass over the literal whose opening quote has been read. -/
def passLiteral (input : Bytes) : Step Unit := passLiteralFrom .text input

end ImageText.Json
