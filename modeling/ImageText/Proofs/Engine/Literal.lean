import ImageText.Engine.Dump
import ImageText.Proofs.Json.Literal

/-!
# The engine's literals

The engine's side writes a string literal in ASCII: one of seven short escapes, a printable character
as itself, and code units of four digits for everything else, two of them for a code point beyond
`FFFF`. Here that is put as a row of atoms, so that what the reader on this side makes of a literal
follows from what the row spells. Code points of the engine may be surrogates, and then the row spells
a text only if they come in pairs:

> `text?_rowOf`: a text of scalar values is spelled as itself,
> `isSome_text?_rowOf`: a text is spelled at all exactly if its surrogates are `paired`.
-/

namespace ImageText.Engine

open Json (Atom unitValue? hexValue? slashByte unitLetter isLead isTrail)
open Text (encode encodeChar)

/-! ## Four hexadecimal digits -/

/-- A hexadecimal digit as it is written. -/
def hexByte (d : Nat) : UInt8 := ((Nat.digitChar d).toNat).toUInt8

theorem hexByte_spec : ∀ d < 16,
    encodeChar (Nat.digitChar d) = [hexByte d] ∧ hexValue? (hexByte d) = some d := by
  decide

/-- One digit more stands for sixteen times as much. -/
theorem hex_succ {width : Nat} (hwidth : 0 < width) (n : Nat) :
    Text.hex (width + 1) n = Text.hex width (n / 16) ++ [Nat.digitChar (n % 16)] := by
  rw [Text.hex, Text.hex]
  rcases Nat.lt_or_ge n 16 with hlt | hge
  · rw [Nat.toDigits_of_lt_base hlt, show n / 16 = 0 by omega, show n % 16 = n by omega,
      Nat.toDigits_zero]
    obtain ⟨w, rfl⟩ : ∃ w, width = w + 1 := ⟨width - 1, by omega⟩
    simp only [List.length_singleton, Nat.add_sub_cancel]
    rw [← List.replicate_succ']
  · rw [Nat.toDigits_of_base_le (by decide) hge, List.length_append, List.length_singleton,
      Nat.add_sub_add_right, List.append_assoc]

theorem encode_hex {n : Nat} (h : n < 0x10000) :
    encode (Text.hex 4 n)
      = [hexByte (n / 0x1000 % 16), hexByte (n / 0x100 % 16), hexByte (n / 0x10 % 16),
          hexByte (n % 16)] := by
  have hlast : Text.hex 1 (n / 16 / 16 / 16) = [Nat.digitChar (n / 16 / 16 / 16)] := by
    rw [Text.hex, Nat.toDigits_of_lt_base (by omega)]
    rfl
  rw [hex_succ (by decide), hex_succ (by decide), hex_succ (by decide), hlast]
  simp only [Text.encode_append, Text.encode_singleton]
  rw [(hexByte_spec _ (by omega)).1, (hexByte_spec _ (by omega)).1, (hexByte_spec _ (by omega)).1,
    (hexByte_spec _ (by omega)).1]
  rw [show n / 16 / 16 / 16 = n / 0x1000 % 16 by omega, show n / 16 / 16 % 16 = n / 0x100 % 16 by
    omega, show n / 16 % 16 = n / 0x10 % 16 by omega]
  rfl

/-- Four digits are read as the number that they were written for. -/
theorem unitValue?_hexByte (n : Nat) :
    unitValue? (hexByte (n / 0x1000 % 16)) (hexByte (n / 0x100 % 16)) (hexByte (n / 0x10 % 16))
      (hexByte (n % 16)) = some (n % 0x10000) := by
  rw [unitValue?, (hexByte_spec _ (by omega)).2, (hexByte_spec _ (by omega)).2,
    (hexByte_spec _ (by omega)).2, (hexByte_spec _ (by omega)).2]
  simp only [Option.some.injEq]
  omega

/-! ## The row of a text -/

/-- A code unit as an atom. -/
def unitAtom (n : Nat) : Atom :=
  .unit (hexByte (n / 0x1000 % 16)) (hexByte (n / 0x100 % 16)) (hexByte (n / 0x10 % 16))
    (hexByte (n % 16)) (n % 0x10000) (unitValue?_hexByte n)

theorem bytes_unitAtom {n : Nat} (h : n < 0x10000) :
    (unitAtom n).bytes = encode (Datum.unitEscape n) := by
  show _ = encode (['\\', 'u'] ++ Text.hex 4 n)
  rw [Text.encode_append, encode_hex h]
  rfl

/-- A printable character that is neither the quote nor the backslash stands for itself. -/
theorem plain_ofNat {n : Nat} (hquote : n ≠ 0x22) (hslash : n ≠ 0x5C) (h : 0x20 ≤ n ∧ n < 0x7F) :
    Char.ofNat n ≠ '"' ∧ Char.ofNat n ≠ '\\' ∧ 0x20 ≤ (Char.ofNat n).toNat := by
  have hn : (Char.ofNat n).toNat = n := Text.toNat_ofNat (Or.inl (by omega))
  refine ⟨?_, ?_, by rw [hn]; exact h.1⟩
  · intro e
    rw [e] at hn
    exact hquote hn.symm
  · intro e
    rw [e] at hn
    exact hslash hn.symm

/-- The atoms of a code point. -/
def pointAtoms (n : Nat) : List Atom :=
  if hquote : n = 0x22 then [.short 0x22 0x22 rfl]
  else if hslash : n = 0x5C then [.short 0x5C 0x5C rfl]
  else if n = 0x08 then [.short 0x62 0x08 rfl]
  else if n = 0x0C then [.short 0x66 0x0C rfl]
  else if n = 0x0A then [.short 0x6E 0x0A rfl]
  else if n = 0x0D then [.short 0x72 0x0D rfl]
  else if n = 0x09 then [.short 0x74 0x09 rfl]
  else if h : 0x20 ≤ n ∧ n < 0x7F then [.raw (Char.ofNat n) (plain_ofNat hquote hslash h)]
  else if n < 0x10000 then [unitAtom n]
  else [unitAtom (0xD800 + (n - 0x10000) / 0x400), unitAtom (0xDC00 + (n - 0x10000) % 0x400)]

/-- The atoms of a text. -/
def rowOf (s : CodePoints) : List Atom := s.flatMap pointAtoms

/-- The code points that there are. -/
def pointBound : Nat := 0x110000

/-- The four forms of a code point: its atoms beside the characters that are written for it. -/
inductive PointForm (n : Nat) : List Atom → List Char → Prop
  | short (letter byte : UInt8) (h) (c : Char) (hc : c.toNat < 0x80)
      (hletter : encode ['\\', c] = [slashByte, letter]) (hbyte : byte.toNat = n) :
      PointForm n [.short letter byte h] ['\\', c]
  | raw (hn : n < 0x7F) (h) : PointForm n [.raw (Char.ofNat n) h] [Char.ofNat n]
  | unit (h : n < 0x10000) : PointForm n [unitAtom n] (Datum.unitEscape n)
  | pair (h : ¬ n < 0x10000) :
      PointForm n [unitAtom (0xD800 + (n - 0x10000) / 0x400), unitAtom (0xDC00 + (n - 0x10000) % 0x400)]
        (Datum.unitEscape (0xD800 + (n - 0x10000) / 0x400)
          ++ Datum.unitEscape (0xDC00 + (n - 0x10000) % 0x400))

/-- Every code point has one of the four forms. -/
theorem form_pointAtoms (n : Nat) : PointForm n (pointAtoms n) (Datum.dumpedPoint n) := by
  unfold pointAtoms Datum.dumpedPoint
  -- the seven short escapes come first
  by_cases hquote : n = 0x22
  · rw [dif_pos hquote, if_pos hquote]
    exact .short _ _ _ _ (by decide) rfl hquote.symm
  rw [dif_neg hquote, if_neg hquote]
  by_cases hslash : n = 0x5C
  · rw [dif_pos hslash, if_pos hslash]
    exact .short _ _ _ _ (by decide) rfl hslash.symm
  rw [dif_neg hslash, if_neg hslash]
  by_cases hback : n = 0x08
  · rw [if_pos hback, if_pos hback]
    exact .short _ _ _ _ (by decide) rfl hback.symm
  rw [if_neg hback, if_neg hback]
  by_cases hfeed : n = 0x0C
  · rw [if_pos hfeed, if_pos hfeed]
    exact .short _ _ _ _ (by decide) rfl hfeed.symm
  rw [if_neg hfeed, if_neg hfeed]
  by_cases hline : n = 0x0A
  · rw [if_pos hline, if_pos hline]
    exact .short _ _ _ _ (by decide) rfl hline.symm
  rw [if_neg hline, if_neg hline]
  by_cases hreturn : n = 0x0D
  · rw [if_pos hreturn, if_pos hreturn]
    exact .short _ _ _ _ (by decide) rfl hreturn.symm
  rw [if_neg hreturn, if_neg hreturn]
  by_cases htab : n = 0x09
  · rw [if_pos htab, if_pos htab]
    exact .short _ _ _ _ (by decide) rfl htab.symm
  rw [if_neg htab, if_neg htab]
  by_cases hraw : 0x20 ≤ n ∧ n < 0x7F
  · rw [dif_pos hraw, if_pos hraw]
    exact .raw hraw.2 _
  rw [dif_neg hraw, if_neg hraw]
  by_cases hunit : n < 0x10000
  · rw [if_pos hunit, if_pos hunit]
    exact .unit hunit
  · rw [if_neg hunit, if_neg hunit]
    exact .pair hunit

/-- The atoms of a code point are written as the engine writes it. -/
theorem PointForm.bytes {n : Nat} {atoms : List Atom} {cs : List Char} (h : PointForm n atoms cs)
    (hn : n < pointBound) : atoms.flatMap Atom.bytes = encode cs := by
  rw [pointBound] at hn
  cases h with
  | short letter byte h c hc hletter hbyte => exact hletter.symm
  | raw hn h =>
    rw [List.flatMap_cons, List.flatMap_nil, List.append_nil, Text.encode_singleton]
    rfl
  | unit h => rw [List.flatMap_cons, List.flatMap_nil, List.append_nil, bytes_unitAtom h]
  | pair h =>
    rw [List.flatMap_cons, List.flatMap_cons, List.flatMap_nil, List.append_nil,
      bytes_unitAtom (by omega), bytes_unitAtom (by omega), Text.encode_append]

theorem bytes_rowOf {s : CodePoints} (h : ∀ n ∈ s, n < pointBound) :
    (rowOf s).flatMap Atom.bytes = encode (s.flatMap Datum.dumpedPoint) := by
  induction s with
  | nil => rfl
  | cons n s ih =>
    rw [rowOf, List.flatMap_cons, List.flatMap_append, 
      (form_pointAtoms n).bytes (h n (List.mem_cons_self ..)),
      ← rowOf, ih fun m hm => h m (List.mem_cons_of_mem _ hm), List.flatMap_cons,
      Text.encode_append]

/-! ## What a row spells -/

/-- The text of code points that are scalar values. -/
def charsOf (s : CodePoints) : List Char := s.map Char.ofNat

/-- A code point that is no half of a pair. -/
def isScalar (n : Nat) : Bool := !isTrail n && !isLead n && n < pointBound

/-- Every first half of a surrogate pair has its second half right behind it, and there are no other
second halves. -/
def paired : CodePoints → Bool
  | [] => true
  | n :: rest =>
    if isTrail n then false
    else if isLead n then
      match rest with
      | m :: more => isTrail m && paired more
      | [] => false
    else paired rest

theorem isTrail_iff (n : Nat) : isTrail n = true ↔ 0xDC00 ≤ n ∧ n ≤ 0xDFFF := by
  rw [isTrail, Bool.and_eq_true, decide_eq_true_eq, decide_eq_true_eq]

theorem isLead_iff (n : Nat) : isLead n = true ↔ 0xD800 ≤ n ∧ n ≤ 0xDBFF := by
  rw [isLead, Bool.and_eq_true, decide_eq_true_eq, decide_eq_true_eq]

theorem isScalar_iff (n : Nat) :
    isScalar n = true ↔ n < 0xD800 ∨ (0xDFFF < n ∧ n < 0x110000) := by
  have htrail := isTrail_iff n
  have hlead := isLead_iff n
  rw [isScalar, Bool.and_eq_true, Bool.and_eq_true, Bool.not_eq_true', Bool.not_eq_true',
    ← Bool.not_eq_true, ← Bool.not_eq_true, htrail, hlead, decide_eq_true_eq, pointBound]
  omega

theorem unitAtom_eq {n : Nat} (h : n < 0x10000) :
    ∃ a b c d, ∃ hv : unitValue? a b c d = some n, unitAtom n = .unit a b c d n hv := by
  have hv := unitValue?_hexByte n
  refine ⟨_, _, _, _, by rw [hv, Nat.mod_eq_of_lt h], ?_⟩
  rw [unitAtom]
  congr 1
  exact Nat.mod_eq_of_lt h

/-- The two code units of a code point beyond `FFFF` are the halves of a pair that stands for it. -/
theorem pair_halves {n : Nat} (hlow : ¬ n < 0x10000) (hn : n < 0x110000) :
    ∃ lead trail, lead = 0xD800 + (n - 0x10000) / 0x400 ∧ trail = 0xDC00 + (n - 0x10000) % 0x400
      ∧ isLead lead = true ∧ isTrail trail = true ∧ Atom.pairChar lead trail = Char.ofNat n := by
  refine ⟨_, _, rfl, rfl, (isLead_iff _).mpr (by omega), (isTrail_iff _).mpr (by omega), ?_⟩
  have hvalue : 0x10000 + (0xD800 + (n - 0x10000) / 0x400 - 0xD800) * 0x400
      + (0xDC00 + (n - 0x10000) % 0x400 - 0xDC00) = n := by omega
  rw [Atom.pairChar, hvalue]

theorem lt_of_surrogate {n : Nat} (h : isTrail n = true ∨ isLead n = true) : n < 0x10000 := by
  rw [isTrail_iff, isLead_iff] at h
  omega

theorem PointForm.text? {n : Nat} {atoms : List Atom} {cs : List Char} (h : PointForm n atoms cs)
    (hn : n < pointBound) (htrail : ¬ isTrail n = true) (hlead : ¬ isLead n = true)
    (more : List Atom) :
    Atom.text? (atoms ++ more) = (Atom.text? more).map (Char.ofNat n :: ·) := by
  rw [pointBound] at hn
  cases h with
  | short letter byte h c hc hletter hbyte =>
    subst hbyte
    rfl
  | raw hn h => rfl
  | unit h =>
    obtain ⟨a, b, c, d, hv, hu⟩ := unitAtom_eq h
    rw [List.singleton_append, hu, Atom.text?_unit hv htrail hlead]
  | pair h =>
    obtain ⟨lead, trail, hl, ht, hlead, htrail, hpair⟩ := pair_halves h hn
    obtain ⟨a, b, c, d, hv, hu⟩ := unitAtom_eq (lt_of_surrogate (Or.inr hlead))
    obtain ⟨a', b', c', d', hv', hu'⟩ := unitAtom_eq (lt_of_surrogate (Or.inl htrail))
    rw [← hl, ← ht, List.cons_append, List.singleton_append, hu, hu',
      Atom.text?_pair hv hlead hv' htrail, hpair]

theorem pointAtoms_surrogate {n : Nat} (h : isTrail n = true ∨ isLead n = true) :
    pointAtoms n = [unitAtom n] := by
  have hrange : 0xD800 ≤ n ∧ n ≤ 0xDFFF := by
    rw [isTrail_iff, isLead_iff] at h
    omega
  unfold pointAtoms
  rw [dif_neg (by omega), dif_neg (by omega), if_neg (by omega), if_neg (by omega),
    if_neg (by omega), if_neg (by omega), if_neg (by omega), dif_neg (by omega), if_pos (by omega)]

/-- Unless a code point completes a pair, its atoms do not begin with a unit that does. -/
theorem PointForm.other {m : Nat} {atoms : List Atom} {cs : List Char} (hform : PointForm m atoms cs)
    (hm : m < pointBound) (htrail : ¬ isTrail m = true) (more : List Atom) :
    ∀ a b c d k h rest, atoms ++ more = .unit a b c d k h :: rest → ¬ isTrail k = true := by
  rw [pointBound] at hm
  intro a b c d k hk rest e
  cases hform with
  | short letter byte h c hc hletter hbyte => cases e
  | raw hn h => cases e
  | unit h =>
    obtain ⟨_, _, _, _, hv, hu⟩ := unitAtom_eq h
    rw [List.singleton_append, hu] at e
    cases e
    exact htrail
  | pair h =>
    -- the first unit of a pair is a lead, so it is no trail
    obtain ⟨lead, trail, hl, -, hlead, -⟩ := pair_halves h hm
    obtain ⟨_, _, _, _, hv, hu⟩ := unitAtom_eq (lt_of_surrogate (Or.inr hlead))
    rw [← hl, List.cons_append, hu] at e
    cases e
    rw [isLead_iff] at hlead
    rw [isTrail_iff]
    omega

/-- Two surrogates that make a pair spell its character. -/
theorem text?_surrogates {n m : Nat} (hlead : isLead n = true) (htrail : isTrail m = true)
    (more : List Atom) :
    Atom.text? (pointAtoms n ++ (pointAtoms m ++ more))
      = (Atom.text? more).map (Atom.pairChar n m :: ·) := by
  obtain ⟨a, b, c, d, hv, hu⟩ := unitAtom_eq (lt_of_surrogate (Or.inr hlead))
  obtain ⟨a', b', c', d', hv', hu'⟩ := unitAtom_eq (lt_of_surrogate (Or.inl htrail))
  rw [pointAtoms_surrogate (Or.inr hlead), pointAtoms_surrogate (Or.inl htrail),
    List.singleton_append, List.singleton_append, hu, hu', Atom.text?_pair hv hlead hv' htrail]

/-- **A text of scalar values is spelled as itself.** -/
theorem text?_rowOf {s : CodePoints} (h : ∀ n ∈ s, isScalar n = true) :
    Atom.text? (rowOf s) = some (charsOf s) := by
  induction s with
  | nil => rfl
  | cons n s ih =>
    have hn := h n (List.mem_cons_self ..)
    rw [isScalar, Bool.and_eq_true, Bool.and_eq_true, Bool.not_eq_true', Bool.not_eq_true',
      decide_eq_true_eq] at hn
    obtain ⟨⟨htrail, hlead⟩, hbound⟩ := hn
    rw [rowOf, List.flatMap_cons, (form_pointAtoms n).text? hbound (Bool.not_eq_true _ ▸ htrail)
      (Bool.not_eq_true _ ▸ hlead), ← rowOf, ih fun m hm => h m (List.mem_cons_of_mem _ hm)]
    rfl

/-- **A text is spelled exactly if its surrogates come in pairs.** -/
theorem isSome_text?_rowOf {s : CodePoints} (h : ∀ n ∈ s, n < pointBound) :
    (Atom.text? (rowOf s)).isSome = paired s := by
  fun_induction paired s with
  | case1 => rfl
  | case2 n rest htrail =>
    -- a second half without the first
    obtain ⟨a, b, c, d, hv, hu⟩ := unitAtom_eq (lt_of_surrogate (Or.inl htrail))
    rw [rowOf, List.flatMap_cons, pointAtoms_surrogate (Or.inl htrail), List.singleton_append, hu,
      Atom.text?_trail hv htrail]
    rfl
  | case3 n htrail hlead m more ih =>
    -- a first half, and the next code point decides
    have hmore := ih fun k hk => h k (List.mem_cons_of_mem _ (List.mem_cons_of_mem _ hk))
    have hm := h m (List.mem_cons_of_mem _ (List.mem_cons_self ..))
    rw [rowOf, List.flatMap_cons, List.flatMap_cons]
    by_cases htrail' : isTrail m = true
    · rw [text?_surrogates hlead htrail', Option.isSome_map, ← rowOf, hmore, htrail',
        Bool.true_and]
    · obtain ⟨a, b, c, d, hv, hu⟩ := unitAtom_eq (lt_of_surrogate (Or.inr hlead))
      rw [pointAtoms_surrogate (Or.inr hlead), List.singleton_append, hu,
        Atom.text?_lead hv hlead _ ((form_pointAtoms m).other hm htrail' _)]
      rw [Bool.not_eq_true] at htrail'
      rw [htrail']
      rfl
  | case4 n htrail hlead =>
    -- a first half at the end
    obtain ⟨a, b, c, d, hv, hu⟩ := unitAtom_eq (lt_of_surrogate (Or.inr hlead))
    rw [rowOf, List.flatMap_cons, pointAtoms_surrogate (Or.inr hlead), List.flatMap_nil,
      List.append_nil, hu, Atom.text?_lead hv hlead _ (fun _ _ _ _ _ _ _ e => by cases e)]
    rfl
  | case5 n rest htrail hlead ih =>
    rw [rowOf, List.flatMap_cons,
      (form_pointAtoms n).text? (h n (List.mem_cons_self ..)) htrail hlead, Option.isSome_map, ← rowOf, ih fun m hm => h m (List.mem_cons_of_mem _ hm)]

end ImageText.Engine
