import ImageText.Json.Literal
import ImageText.Proofs.Text.Scan

/-!
# What a string literal spells

Between its quotes a literal is a row of `Atom`s: characters that stand for themselves, escapes of
one letter, and code units in hexadecimal. `Atom.text?` says which text a row spells, if any: a code
unit that is half of a surrogate pair needs its other half right behind it. The reader knows nothing
of rows. It goes byte by byte and checks the encoding of the whole text at the closing quote, and
this file shows that it comes to the same:

> `literalFrom_atoms`: on a row of atoms and a closing quote the reader answers with the text that
> the row spells, and refuses the row if it spells none.

Whoever writes a literal only has to say which atoms it consists of.
-/

namespace ImageText.Json

open Text (encode encodeChar)

/-! ## Atoms -/

/-- The value of four hexadecimal digits. -/
def unitValue? (a b c d : UInt8) : Option Nat :=
  match hexValue? a, hexValue? b, hexValue? c, hexValue? d with
  | some a, some b, some c, some d => some (((a * 16 + b) * 16 + c) * 16 + d)
  | _, _, _, _ => none

/-- A part of a string literal. -/
inductive Atom where
  /-- A character that stands for itself. -/
  | raw (c : Char) (h : c ≠ '"' ∧ c ≠ '\\' ∧ 0x20 ≤ c.toNat)
  /-- An escape of one letter, and the character that it stands for. -/
  | short (letter b : UInt8) (h : shortEscape? letter = some b)
  /-- A code unit of four digits, and its value. -/
  | unit (a b c d : UInt8) (n : Nat) (h : unitValue? a b c d = some n)

namespace Atom

/-- An atom as it is written. -/
def bytes : Atom → Bytes
  | raw c _ => encodeChar c
  | short letter _ _ => [slashByte, letter]
  | unit a b c d _ _ => [slashByte, unitLetter, a, b, c, d]

/-- The character that a surrogate pair stands for. -/
def pairChar (lead trail : Nat) : Char :=
  Char.ofNat (0x10000 + (lead - 0xD800) * 0x400 + (trail - 0xDC00))

/-- The text that a row of atoms spells. Half of a surrogate pair spells nothing by itself. -/
def text? : List Atom → Option (List Char)
  | [] => some []
  | raw c _ :: rest => (text? rest).map (c :: ·)
  | short _ b _ :: rest => (text? rest).map (Char.ofNat b.toNat :: ·)
  | unit _ _ _ _ n _ :: rest =>
    if isTrail n then none
    else if isLead n then
      match rest with
      | unit _ _ _ _ m _ :: more =>
        if isTrail m then (text? more).map (pairChar n m :: ·) else none
      | _ => none
    else (text? rest).map (Char.ofNat n :: ·)

section Units

variable {a b c d : UInt8} {n : Nat} (h : unitValue? a b c d = some n)

theorem text?_unit (htrail : ¬ isTrail n = true) (hlead : ¬ isLead n = true) (rest : List Atom) :
    text? (unit a b c d n h :: rest) = (text? rest).map (Char.ofNat n :: ·) := by
  rw [text?.eq_def]
  simp only [if_neg htrail, if_neg hlead]

theorem text?_trail (htrail : isTrail n = true) (rest : List Atom) :
    text? (unit a b c d n h :: rest) = none := by
  rw [text?.eq_def]
  simp only [if_pos htrail]

theorem text?_pair (hlead : isLead n = true) {a' b' c' d' : UInt8} {m : Nat}
    (h' : unitValue? a' b' c' d' = some m) (htrail : isTrail m = true) (rest : List Atom) :
    text? (unit a b c d n h :: unit a' b' c' d' m h' :: rest)
      = (text? rest).map (pairChar n m :: ·) := by
  have hfirst : ¬ isTrail n = true := by
    simp only [isTrail, isLead, Bool.and_eq_true, decide_eq_true_eq] at hlead ⊢
    omega
  rw [text?.eq_def]
  simp only [if_neg hfirst, if_pos hlead, if_pos htrail]

/-- The first half of a pair spells nothing unless the second stands right behind it. -/
theorem text?_lead (hlead : isLead n = true) (rest : List Atom)
    (hrest : ∀ a' b' c' d' m h' more, rest = unit a' b' c' d' m h' :: more → ¬ isTrail m = true) :
    text? (unit a b c d n h :: rest) = none := by
  have hfirst : ¬ isTrail n = true := by
    simp only [isTrail, isLead, Bool.and_eq_true, decide_eq_true_eq] at hlead ⊢
    omega
  rw [text?.eq_def]
  simp only [if_neg hfirst, if_pos hlead]
  split
  next a' b' c' d' m h' more =>
    rw [if_neg (hrest a' b' c' d' m h' more rfl)]
  next => rfl

end Units

end Atom

/-! ## One atom under the reader -/

/-- The reader takes the bytes of a character that stands for itself as they come. -/
theorem literalFrom_plain (bs : Bytes) (h : ∀ b ∈ bs, b ≠ quoteByte ∧ b ≠ slashByte ∧ ¬ b < 0x20)
    (acc rest : Bytes) :
    literalFrom .text acc (bs ++ rest) = literalFrom .text (bs.reverse ++ acc) rest := by
  induction bs generalizing acc with
  | nil => rfl
  | cons b bs ih =>
    obtain ⟨hquote, hslash, hctrl⟩ := h b (List.mem_cons_self ..)
    rw [List.cons_append, literalFrom, if_neg (fun hb => hquote hb.2)]
    simp only [advance, if_neg hslash, if_neg hctrl]
    rw [ih (fun b' hb' => h b' (List.mem_cons_of_mem _ hb')), List.reverse_cons,
      List.append_assoc]
    rfl

/-- No byte of a character that stands for itself is a quote, a backslash or a control. -/
theorem encodeChar_plain {c : Char} (h : c ≠ '"' ∧ c ≠ '\\' ∧ 0x20 ≤ c.toNat) :
    ∀ b ∈ encodeChar c, b ≠ quoteByte ∧ b ≠ slashByte ∧ ¬ b < 0x20 := by
  have hc : Char.ofNat c.toNat = c := Char.ofNat_toNat c
  have hq : c.toNat ≠ 0x22 := fun e => h.1 (by rw [← hc, e])
  have hs : c.toNat ≠ 0x5C := fun e => h.2.1 (by rw [← hc, e])
  have hctrl := h.2.2
  have hmax := Text.toNat_scalar c
  -- every byte is a number from `20` on that is neither the quote's nor the backslash's
  have key : ∀ n : Nat, n < 0x100 → 0x20 ≤ n → n ≠ 0x22 → n ≠ 0x5C →
      n.toUInt8 ≠ quoteByte ∧ n.toUInt8 ≠ slashByte ∧ ¬ n.toUInt8 < 0x20 := by
    intro n hn h1 h2 h3
    rw [ne_eq, ne_eq, ← UInt8.toNat_inj, ← UInt8.toNat_inj, UInt8.lt_iff_toNat_lt,
      Text.toNat_toUInt8 hn]
    simp only [quoteByte, slashByte, UInt8.toNat_ofNat, Nat.reducePow, Nat.reduceMod]
    omega
  intro b hb
  unfold encodeChar at hb
  generalize c.toNat = n at *
  dsimp only at hb
  split at hb
  -- one byte is the character itself; of several each is `80` or greater
  next => rw [List.mem_singleton] at hb; subst hb; exact key n (by omega) hctrl hq hs
  next =>
    split at hb
    next =>
      simp only [List.mem_cons, List.not_mem_nil, or_false] at hb
      rcases hb with rfl | rfl <;> exact key _ (by omega) (by omega) (by omega) (by omega)
    next =>
      split at hb
      next =>
        simp only [List.mem_cons, List.not_mem_nil, or_false] at hb
        rcases hb with rfl | rfl | rfl <;>
          exact key _ (by omega) (by omega) (by omega) (by omega)
      next =>
        simp only [List.mem_cons, List.not_mem_nil, or_false] at hb
        rcases hb with rfl | rfl | rfl | rfl <;>
          exact key _ (by omega) (by omega) (by omega) (by omega)

/-- What an escape of one letter stands for is an ASCII character. -/
theorem shortEscape?_ascii {letter b : UInt8} (h : shortEscape? letter = some b) :
    [b] = encodeChar (Char.ofNat b.toNat) ∧ letter ≠ unitLetter := by
  revert letter
  intro letter h
  unfold shortEscape? at h
  repeat' split at h
  all_goals first
    | (simp only [Option.some.injEq] at h; subst h; subst_vars; decide)
    | cases h

theorem literalFrom_short {letter b : UInt8} (h : shortEscape? letter = some b)
    (acc rest : Bytes) :
    literalFrom .text acc (slashByte :: letter :: rest) = literalFrom .text (b :: acc) rest := by
  rw [literalFrom, if_neg (by decide)]
  simp only [advance, if_true]
  rw [literalFrom, if_neg (by simp)]
  simp only [advance, h]

/-- The reader collects four digits and then closes the code unit. -/
theorem literalFrom_digits {a b c d : UInt8} {n : Nat} (h : unitValue? a b c d = some n)
    (lead : Option Nat) (acc rest : Bytes) :
    literalFrom (.digits lead 0 (some 0)) acc (a :: b :: c :: d :: rest)
      = match closeUnit acc lead n with
        | .error fault => .error (.before fault rest)
        | .ok (phase, acc) => literalFrom phase acc rest := by
  unfold unitValue? at h
  split at h
  next va vb vc vd ha hb hc hd =>
    simp only [Option.some.injEq] at h
    -- one step of the reader for each digit, and the fourth closes the unit
    rw [literalFrom, if_neg (by simp)]
    simp only [advance, ha, Option.bind_some, Option.map_some, Nat.zero_mul, Nat.zero_add,
      if_pos (show 0 < 3 by decide)]
    rw [literalFrom, if_neg (by simp)]
    simp only [advance, hb, Option.bind_some, Option.map_some, if_pos (show 1 < 3 by decide)]
    rw [literalFrom, if_neg (by simp)]
    simp only [advance, hc, Option.bind_some, Option.map_some, if_pos (show 2 < 3 by decide)]
    rw [literalFrom, if_neg (by simp)]
    simp only [advance, hd, Option.bind_some, Option.map_some, if_neg (show ¬ 3 < 3 by decide)]
    subst h
    rfl
  next => cases h

/-- The reader takes a code unit from its backslash to its last digit. -/
theorem literalFrom_unit {a b c d : UInt8} {n : Nat} (h : unitValue? a b c d = some n)
    (acc rest : Bytes) :
    literalFrom .text acc (slashByte :: unitLetter :: a :: b :: c :: d :: rest)
      = match closeUnit acc none n with
        | .error fault => .error (.before fault rest)
        | .ok (phase, acc) => literalFrom phase acc rest := by
  rw [literalFrom, if_neg (by decide)]
  simp only [advance, if_true]
  rw [literalFrom, if_neg (by simp)]
  have hletter : shortEscape? unitLetter = none := by decide
  simp only [advance, hletter, if_true]
  exact literalFrom_digits h none acc rest

/-- Behind the first half of a surrogate pair the reader takes a code unit as its second half. -/
theorem literalFrom_pairUnit {a b c d : UInt8} {n : Nat} (h : unitValue? a b c d = some n)
    (lead : Nat) (acc rest : Bytes) :
    literalFrom (.pairSlash lead) acc (slashByte :: unitLetter :: a :: b :: c :: d :: rest)
      = match closeUnit acc (some lead) n with
        | .error fault => .error (.before fault rest)
        | .ok (phase, acc) => literalFrom phase acc rest := by
  rw [literalFrom, if_neg (by simp)]
  simp only [advance, if_true]
  rw [literalFrom, if_neg (by simp)]
  simp only [advance, if_true]
  exact literalFrom_digits h (some lead) acc rest

/-- Behind the first half of a surrogate pair nothing but a code unit will do. -/
theorem literalFrom_pairOther (atoms : List Atom)
    (h : ∀ a b c d n hn more, atoms ≠ .unit a b c d n hn :: more) (lead : Nat) (acc rest : Bytes) :
    (literalFrom (.pairSlash lead) acc (atoms.flatMap Atom.bytes ++ quoteByte :: rest)).toOption
      = none := by
  cases atoms with
  | nil =>
    rw [List.flatMap_nil, List.nil_append, literalFrom, if_neg (by simp)]
    simp only [advance, if_neg (show ¬ quoteByte = slashByte by decide)]
    rfl
  | cons atom more =>
    cases atom with
    | raw x hx =>
      -- a character is written with one byte at least, and that is no backslash
      have hplain := encodeChar_plain hx
      rw [List.flatMap_cons, Atom.bytes]
      cases hb : encodeChar x with
      | nil =>
        have hread := Text.decode?_encode [x]
        rw [Text.encode_singleton, hb] at hread
        cases hread
      | cons b bs =>
        rw [hb] at hplain
        rw [List.cons_append, List.cons_append, literalFrom, if_neg (by simp)]
        simp only [advance, if_neg (hplain b (List.mem_cons_self ..)).2.1]
        rfl
    | short letter b hb =>
      -- the backslash will do, the letter behind it will not
      rw [List.flatMap_cons, Atom.bytes]
      simp only [List.cons_append, List.nil_append]
      rw [literalFrom, if_neg (by simp)]
      simp only [advance, if_true]
      rw [literalFrom, if_neg (by simp)]
      simp only [advance, if_neg (shortEscape?_ascii hb).2]
      rfl
    | unit a b c d n hn => exact absurd rfl (h a b c d n hn more)

/-! ## A row of atoms -/

/-- The closing quote: what has been collected is the encoding of a text, so it is that text. -/
theorem literalFrom_quote (s : List Char) (rest : Bytes) :
    literalFrom .text (encode s).reverse (quoteByte :: rest) = .ok (String.ofList s, rest) := by
  rw [literalFrom, if_pos ⟨rfl, rfl⟩]
  simp only [List.reverse_reverse, Text.decode?_encode]

theorem reverse_encode_concat (s : List Char) (c : Char) :
    (encodeChar c).reverse ++ (encode s).reverse = (encode (s ++ [c])).reverse := by
  rw [Text.encode_append, List.reverse_append, Text.encode_singleton]

/-- What a text is mapped to with one more character before it. -/
theorem map_concat (seen : List Char) (c : Char) (found : Option (List Char)) (rest : Bytes) :
    (found.map fun cs => (String.ofList ((seen ++ [c]) ++ cs), rest))
      = (found.map (c :: ·)).map fun cs => (String.ofList (seen ++ cs), rest) := by
  cases found with
  | none => rfl
  | some cs => rw [Option.map_some, Option.map_some, Option.map_some, List.append_assoc]; rfl

/-- **The reader and the row agree.** In the middle of a literal, with the encoding of `seen`
collected, the reader answers with what the rest of the row spells. -/
theorem literalFrom_atoms (atoms : List Atom) (seen : List Char) (rest : Bytes) :
    (literalFrom .text (encode seen).reverse
        (atoms.flatMap Atom.bytes ++ quoteByte :: rest)).toOption
      = (Atom.text? atoms).map fun cs => (String.ofList (seen ++ cs), rest) := by
  fun_induction Atom.text? atoms generalizing seen with
  | case1 =>
    rw [List.flatMap_nil, List.nil_append, literalFrom_quote, Option.map_some, List.append_nil]
    rfl
  | case2 c h more ih =>
    rw [List.flatMap_cons, Atom.bytes, List.append_assoc,
      literalFrom_plain _ (encodeChar_plain h), reverse_encode_concat, ih, map_concat]
  | case3 letter b h more ih =>
    obtain ⟨hb, -⟩ := shortEscape?_ascii h
    rw [List.flatMap_cons, Atom.bytes]
    simp only [List.cons_append, List.nil_append]
    rw [literalFrom_short h, ← List.singleton_append]
    rw [show [b] = [b].reverse from rfl, hb, reverse_encode_concat, ih, map_concat]
  | case4 a b c d n h more htrail =>
    -- a second half without the first
    rw [List.flatMap_cons, Atom.bytes]
    simp only [List.cons_append, List.nil_append]
    rw [literalFrom_unit h]
    simp only [closeUnit, if_pos htrail]
    rfl
  | case5 a b c d n h htrail hlead a' b' c' d' m h' more htrail' ih =>
    -- both halves
    rw [List.flatMap_cons, List.flatMap_cons, Atom.bytes, Atom.bytes]
    simp only [List.cons_append, List.nil_append]
    rw [literalFrom_unit h]
    simp only [closeUnit, if_neg htrail, if_pos hlead]
    rw [literalFrom_pairUnit h']
    simp only [closeUnit, if_pos htrail']
    rw [show Char.ofNat (0x10000 + (n - 0xD800) * 0x400 + (m - 0xDC00)) = Atom.pairChar n m from
      rfl, reverse_encode_concat, ih, map_concat]
  | case6 a b c d n h htrail hlead a' b' c' d' m h' more htrail' =>
    -- a first half before another unit
    rw [List.flatMap_cons, List.flatMap_cons, Atom.bytes, Atom.bytes]
    simp only [List.cons_append, List.nil_append]
    rw [literalFrom_unit h]
    simp only [closeUnit, if_neg htrail, if_pos hlead]
    rw [literalFrom_pairUnit h']
    simp only [closeUnit, if_neg htrail']
    rfl
  | case7 a b c d n h more htrail hlead hother =>
    -- a first half before anything else
    rw [List.flatMap_cons, Atom.bytes]
    simp only [List.cons_append, List.nil_append]
    rw [literalFrom_unit h]
    simp only [closeUnit, if_neg htrail, if_pos hlead]
    exact literalFrom_pairOther more hother n _ rest
  | case8 a b c d n h more htrail hlead ih =>
    -- a unit that is a character
    rw [List.flatMap_cons, Atom.bytes]
    simp only [List.cons_append, List.nil_append]
    rw [literalFrom_unit h]
    simp only [closeUnit, if_neg htrail, if_neg hlead]
    rw [reverse_encode_concat, ih, map_concat]

theorem readLiteral_atoms (atoms : List Atom) (rest : Bytes) :
    (readLiteral (atoms.flatMap Atom.bytes ++ quoteByte :: rest)).toOption
      = (Atom.text? atoms).map fun cs => (String.ofList cs, rest) :=
  literalFrom_atoms atoms [] rest

end ImageText.Json
