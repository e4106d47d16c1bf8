import ImageText.Engine.Load
import ImageText.Options
import ImageText.Proofs.Json.Whole

/-!
# The options on the engine's side

The options travel to the engine as a compact JSON object in UTF-8. The engine's interpreter decodes
the argument and reads it with its own reader:

> `load_options`: what it reads are the members of the options, each under its key, with the language
> as it was.
-/

namespace ImageText.Engine

open Text (encode)

/-- An argument that is UTF-8 is decoded as the text that it encodes. -/
theorem ofArgument_encode (s : List Char) : ofArgument (encode s) = ofChars s := by
  rw [ofArgument, Text.pieces_encode]
  induction s with
  | nil => rfl
  | cons c s ih =>
    rw [List.map_cons, List.flatMap_cons, ih]
    rfl

theorem ofChars_append (s t : List Char) : ofChars (s ++ t) = ofChars s ++ ofChars t :=
  List.map_append

namespace Load

/-! ## String literals -/

theorem readText_quote (start acc rest : CodePoints) :
    readText start acc (0x22 :: rest) = .ok (acc.reverse, rest) := by
  rw [readText.eq_def]
  simp only [if_true]

theorem readText_plain {n : Nat} (hquote : n ≠ 0x22) (hslash : n ≠ 0x5C) (hctrl : ¬ n ≤ 0x1F)
    (start acc rest : CodePoints) :
    readText start acc (n :: rest) = readText start (n :: acc) rest := by
  rw [readText.eq_def]
  simp only [if_neg hquote, if_neg hslash, if_neg hctrl]

theorem readText_short {letter n : Nat} (hunit : letter ≠ 0x75) (h : shortEscape? letter = some n)
    (start acc rest : CodePoints) :
    readText start acc (0x5C :: letter :: rest) = readText start (n :: acc) rest := by
  rw [readText, if_neg (by decide), if_pos rfl]
  simp only [if_neg hunit, h]

theorem readText_unit {n : Nat} {more : CodePoints}
    (h : unitAhead? (0x5C :: 0x75 :: more) = some (some n)) (hlead : isLead n = false)
    (start acc : CodePoints) :
    readText start acc (0x5C :: 0x75 :: more) = readText start (n :: acc) (more.drop 4) := by
  rw [readText, if_neg (by decide), if_pos rfl]
  simp only [if_true, h, hlead, Bool.false_eq_true, if_false]

/-- The four digits of a control character have its value. -/
theorem digits_control : ∀ n < 0x20, (match ofChars (Text.hex 4 n) with
    | [a, b, c, d] => unit? a b c d == some n
    | _ => false) = true := by
  decide

/-- A control character is read from its four digits, if anything follows them. -/
theorem unitAhead?_control {n : Nat} (h : n < 0x20) {rest : CodePoints} (hrest : rest ≠ []) :
    unitAhead? (0x5C :: 0x75 :: (ofChars (Text.hex 4 n) ++ rest)) = some (some n)
      ∧ (ofChars (Text.hex 4 n) ++ rest).drop 4 = rest := by
  have hdigits := digits_control n h
  split at hdigits
  next a b c d heq =>
    rw [beq_iff_eq] at hdigits
    rw [heq]
    cases rest with
    | nil => exact absurd rfl hrest
    | cons r more => exact ⟨by rw [← hdigits]; rfl, rfl⟩
  next => cases hdigits

/-- A character of a literal is read as itself, whichever escape it was written with. -/
theorem readText_escapeChar (c : Char) (start acc : CodePoints) {rest : CodePoints} (h : rest ≠ []) :
    readText start acc (ofChars (Json.escapeChar c) ++ rest)
      = readText start (c.toNat :: acc) rest := by
  -- seven characters have escapes of one letter
  unfold Json.escapeChar
  split
  next hc => subst hc; exact readText_short (by decide) rfl ..
  split
  next hc => subst hc; exact readText_short (by decide) rfl ..
  split
  next hc => subst hc; exact readText_short (by decide) rfl ..
  split
  next hc => subst hc; exact readText_short (by decide) rfl ..
  split
  next hc => subst hc; exact readText_short (by decide) rfl ..
  split
  next hc => subst hc; exact readText_short (by decide) rfl ..
  split
  next hc => subst hc; exact readText_short (by decide) rfl ..
  split
  next hctrl =>
    -- other controls are written in four digits
    obtain ⟨hunit, hdrop⟩ := unitAhead?_control hctrl h
    have hlead : isLead c.toNat = false := by
      rw [isLead, Bool.and_eq_false_iff, decide_eq_false_iff_not]
      exact Or.inl (by omega)
    have hread := readText_unit hunit hlead start acc
    rw [hdrop] at hread
    exact hread
  next hquote hslash _ _ _ _ _ hctrl =>
    -- and the rest as themselves
    have hne : ∀ d : Char, c ≠ d → c.toNat ≠ d.toNat := by
      intro d hd e
      exact hd (by rw [← Char.ofNat_toNat c, e, Char.ofNat_toNat])
    exact readText_plain (hne '"' hquote) (hne '\\' hslash) (by omega) ..

theorem readText_chars (s : List Char) (start acc rest : CodePoints) :
    readText start acc (ofChars (s.flatMap Json.escapeChar) ++ 0x22 :: rest)
      = .ok (acc.reverse ++ ofChars s, rest) := by
  induction s generalizing acc with
  | nil =>
    rw [List.flatMap_nil]
    show readText start acc (0x22 :: rest) = _
    rw [readText_quote, ofChars, List.map_nil, List.append_nil]
  | cons c s ih =>
    rw [List.flatMap_cons, ofChars_append, List.append_assoc,
      readText_escapeChar c start acc (by simp), ih, List.reverse_cons, List.append_assoc]
    rfl

theorem readText_literal (s : String) (start rest : CodePoints) :
    ∃ behind, ofChars (Json.literal s) ++ rest = 0x22 :: behind
      ∧ readText start [] behind = .ok (ofString s, rest) := by
  refine ⟨ofChars (s.toList.flatMap Json.escapeChar) ++ 0x22 :: rest, ?_, ?_⟩
  · rw [Json.literal, ← List.singleton_append, ofChars_append, ofChars_append, List.append_assoc,
      List.append_assoc]
    rfl
  · rw [readText_chars]
    rfl

/-! ## Members -/

/-- A value of the options as the engine's side reads it. -/
def optionDatum : Json.Value → Datum
  | .string s => .str (ofString s)
  | .bool b => .bool b
  | _ => .null

/-- A value of the options is read as itself. -/
theorem readValue_option {v : Json.Value} (h : (∃ s, v = .string s) ∨ ∃ b, v = .bool b)
    (size room : Nat) (rest : CodePoints) :
    readValue size room (ofChars v.chars ++ rest) = .ok (optionDatum v, rest) := by
  rcases h with ⟨s, rfl⟩ | ⟨b, rfl⟩
  · obtain ⟨behind, hshape, hread⟩ := readText_literal s (ofChars (Json.literal s) ++ rest) rest
    rw [Json.Value.chars, hshape]
    rw [hshape] at hread
    have hscalar : readScalar (0x22 :: behind)
        = (readText (0x22 :: behind) [] behind).map fun p => (.str p.1, p.2) := rfl
    have hvalue : readValue size room (0x22 :: behind) = readScalar (0x22 :: behind) := by
      rw [readValue.eq_def]
      rfl
    rw [hvalue, hscalar, hread]
    rfl
  · have hvalue : readValue size room (ofChars (Json.Value.bool b).chars ++ rest)
        = readScalar (ofChars (Json.Value.bool b).chars ++ rest) := by
      cases b <;> rw [readValue.eq_def] <;> rfl
    rw [hvalue]
    cases b <;> rfl

theorem skipGap_option {v : Json.Value} (h : (∃ s, v = .string s) ∨ ∃ b, v = .bool b)
    (rest : CodePoints) : skipGap (ofChars v.chars ++ rest) = ofChars v.chars ++ rest := by
  rcases h with ⟨s, rfl⟩ | ⟨b, rfl⟩
  · obtain ⟨behind, hshape, -⟩ := readText_literal s [] rest
    rw [Json.Value.chars, hshape]
    rfl
  · cases b <;> rfl

theorem member_shape (key : String) (v : Json.Value) (rest : CodePoints) :
    ∃ behind, ofChars (Json.literal key ++ ':' :: v.chars) ++ rest = 0x22 :: behind
      ∧ readText (0x22 :: behind) [] behind
        = .ok (ofString key, 0x3A :: (ofChars v.chars ++ rest)) := by
  have hsplit : ofChars (Json.literal key ++ ':' :: v.chars) ++ rest
      = ofChars (Json.literal key) ++ 0x3A :: (ofChars v.chars ++ rest) := by
    rw [ofChars_append, List.append_assoc]
    rfl
  obtain ⟨behind, hshape, hread⟩ := readText_literal key
    (ofChars (Json.literal key) ++ 0x3A :: (ofChars v.chars ++ rest))
    (0x3A :: (ofChars v.chars ++ rest))
  rw [hshape] at hread
  exact ⟨behind, hsplit.trans hshape, hread⟩

section Members

variable {key : String} {v : Json.Value} (h : (∃ s, v = .string s) ∨ ∃ b, v = .bool b)
  (size room fuel : Nat) (acc : List (Datum × Datum)) (more : CodePoints)

include h

theorem readEntries_next :
    readEntries (readValue size room) (fuel + 1) acc
        (ofChars (Json.literal key ++ ':' :: v.chars) ++ 0x2C :: more)
      = readEntries (readValue size room) fuel
          (Datum.put (.str (ofString key)) (optionDatum v) acc) (skipGap more) := by
  obtain ⟨behind, hshape, hread⟩ := member_shape key v (0x2C :: more)
  have hcolon : ∀ s, skipGap (0x3A :: s) = 0x3A :: s := fun _ => rfl
  have hcomma : skipGap (0x2C :: more) = 0x2C :: more := rfl
  rw [hshape, readEntries.eq_def]
  simp only [hread, hcolon, skipGap_option h, readValue_option h, hcomma]

theorem readEntries_last :
    readEntries (readValue size room) (fuel + 1) acc
        (ofChars (Json.literal key ++ ':' :: v.chars) ++ 0x7D :: more)
      = .ok (Datum.put (.str (ofString key)) (optionDatum v) acc, more) := by
  obtain ⟨behind, hshape, hread⟩ := member_shape key v (0x7D :: more)
  have hcolon : ∀ s, skipGap (0x3A :: s) = 0x3A :: s := fun _ => rfl
  have hclose : skipGap (0x7D :: more) = 0x7D :: more := rfl
  rw [hshape, readEntries.eq_def]
  simp only [hread, hcolon, skipGap_option h, readValue_option h, hclose]

end Members

theorem members_quote (m : String × Json.Value) (ms : List (String × Json.Value)) :
    ∃ cs, Json.memberChars (m :: ms) = '"' :: cs := by
  cases ms with
  | nil => exact ⟨_, rfl⟩
  | cons n ms => exact ⟨_, rfl⟩

theorem skipGap_members (m : String × Json.Value) (ms : List (String × Json.Value))
    (rest : CodePoints) :
    skipGap (ofChars (Json.memberChars (m :: ms)) ++ rest)
      = ofChars (Json.memberChars (m :: ms)) ++ rest := by
  obtain ⟨cs, hcs⟩ := members_quote m ms
  rw [hcs]
  rfl

/-- Every member takes some room. -/
theorem length_le_members (ms : List (String × Json.Value)) :
    ms.length ≤ (Json.memberChars ms).length := by
  induction ms with
  | nil => exact Nat.zero_le _
  | cons m ms ih =>
    cases ms with
    | nil =>
      obtain ⟨cs, hcs⟩ := members_quote m []
      rw [hcs, List.length_cons, List.length_cons]
      exact Nat.succ_le_succ (Nat.zero_le _)
    | cons n ms =>
      rw [Json.memberChars]
      · simp only [List.length_append, List.length_cons] at ih ⊢
        omega
      · intro e
        cases e

/-- All members, in their order. The induction follows the commas. -/
theorem readEntries_members (m : String × Json.Value) (ms : List (String × Json.Value))
    (h : ∀ n ∈ m :: ms, (∃ s, n.2 = .string s) ∨ ∃ b, n.2 = .bool b) (size room fuel : Nat)
    (hfuel : ms.length < fuel) (acc : List (Datum × Datum)) (more : CodePoints) :
    readEntries (readValue size room) fuel acc
        (ofChars (Json.memberChars (m :: ms)) ++ 0x7D :: more)
      = .ok ((m :: ms).foldl
          (fun acc n => Datum.put (.str (ofString n.1)) (optionDatum n.2) acc) acc, more) := by
  induction ms generalizing m fuel acc with
  | nil =>
    obtain ⟨fuel, rfl⟩ : ∃ n, fuel = n + 1 := ⟨fuel - 1, by simp at hfuel; omega⟩
    exact readEntries_last (h m (List.mem_cons_self ..)) size room fuel acc more
  | cons n ms ih =>
    obtain ⟨fuel, rfl⟩ : ∃ n, fuel = n + 1 := ⟨fuel - 1, by simp at hfuel; omega⟩
    have hsplit : ofChars (Json.memberChars (m :: n :: ms)) ++ 0x7D :: more
        = ofChars (Json.literal m.1 ++ ':' :: m.2.chars)
          ++ 0x2C :: (ofChars (Json.memberChars (n :: ms)) ++ 0x7D :: more) := by
      rw [Json.memberChars]
      · simp only [ofChars, List.map_append, List.map_cons, List.append_assoc, List.cons_append]
        rfl
      · intro e
        cases e
    rw [hsplit, readEntries_next (h m (List.mem_cons_self ..)), skipGap_members n ms,
      ih n (fun k hk => h k (List.mem_cons_of_mem _ hk)) fuel
        (by rw [List.length_cons] at hfuel; omega)]
    rfl

/-- An object of members is read as the dictionary that they make. -/
theorem document_members (m : String × Json.Value) (ms : List (String × Json.Value))
    (h : ∀ n ∈ m :: ms, (∃ s, n.2 = .string s) ∨ ∃ b, n.2 = .bool b) :
    document (ofChars ('\x7b' :: (Json.memberChars (m :: ms) ++ ['\x7d'])))
      = .ok (.dict ((m :: ms).foldl
          (fun acc n => Datum.put (.str (ofString n.1)) (optionDatum n.2) acc) []), []) := by
  have hshape : ofChars ('\x7b' :: (Json.memberChars (m :: ms) ++ ['\x7d']))
      = 0x7B :: (ofChars (Json.memberChars (m :: ms)) ++ [0x7D]) := by
    rw [← List.singleton_append, ofChars_append, ofChars_append]
    rfl
  rw [hshape]
  generalize hs : ofChars (Json.memberChars (m :: ms)) ++ [0x7D] = s
  -- there is room for more entries than there are
  have hfuel : ms.length < (0x7B :: s).length + 1 := by
    have hroom := length_le_members (m :: ms)
    rw [← hs, List.length_cons, List.length_append, ofChars, List.length_map]
    rw [List.length_cons] at hroom
    omega
  have hread := readEntries_members m ms h ((0x7B :: s).length + 1) 992 _ hfuel [] []
  rw [hs] at hread
  obtain ⟨cs, hquote⟩ := members_quote m ms
  have hinner : ∃ rest, s = 0x22 :: rest := by
    rw [← hs, hquote]
    exact ⟨_, rfl⟩
  obtain ⟨rest, rfl⟩ := hinner
  have hvalue : readValue ((0x7B :: 0x22 :: rest).length + 1) documentRoom (0x7B :: 0x22 :: rest)
      = (readEntries (readValue ((0x7B :: 0x22 :: rest).length + 1) 992)
          ((0x7B :: 0x22 :: rest).length + 1) [] (0x22 :: rest)).map
            fun p => (.dict p.1, p.2) := by
    rw [readValue.eq_def]
    rfl
  have hmark : (0x7B :: 0x22 :: rest : CodePoints).head? ≠ some 0xFEFF := by simp
  rw [document, if_neg hmark]
  rw [show skipGap (0x7B :: 0x22 :: rest) = 0x7B :: 0x22 :: rest from rfl, hvalue, hread]
  rfl

end Load

/-! ## The options -/

theorem options_keys :
    (ofString Options.langKey == ofString Options.orientationKey) = false
      ∧ (ofString Options.langKey == ofString Options.unwarpingKey) = false
      ∧ (ofString Options.langKey == ofString Options.lineOrientationKey) = false
      ∧ (ofString Options.orientationKey == ofString Options.unwarpingKey) = false
      ∧ (ofString Options.orientationKey == ofString Options.lineOrientationKey) = false
      ∧ (ofString Options.unwarpingKey == ofString Options.lineOrientationKey) = false := by
  decide

/-- The named options that an engine is built with. -/
def namedOptions (o : Options) : List (Datum × Datum) :=
  o.members.map fun m => (.str (ofString m.1), Load.optionDatum m.2)

/-- **The engine's side reads the options as they are.** -/
theorem load_options (o : Options) : load (ofArgument o.encode) = .ok (.dict (namedOptions o)) := by
  have hmembers : ∀ n ∈ o.members, (∃ s, n.2 = .string s) ∨ ∃ b, n.2 = .bool b := by
    intro n hn
    simp only [Options.members, List.mem_cons, List.not_mem_nil, or_false] at hn
    rcases hn with rfl | rfl | rfl | rfl
    · exact Or.inl ⟨_, rfl⟩
    · exact Or.inr ⟨_, rfl⟩
    · exact Or.inr ⟨_, rfl⟩
    · exact Or.inr ⟨_, rfl⟩
  rw [Options.encode, ofArgument_encode, load, Options.chars, Options.members,
    Load.document_members _ _ hmembers]
  obtain ⟨h₁, h₂, h₃, h₄, h₅, h₆⟩ := options_keys
  simp only [List.foldl_cons, List.foldl_nil, Datum.put, Datum.sameKey, h₁, h₂, h₃, h₄, h₅, h₆,
    Bool.false_eq_true, if_false]
  rfl

end ImageText.Engine
