import ImageText.Text.Bytes

/-!
# Reading back what was encoded

`encodeChar` writes a character in one to four bytes and `Scan.step` reads bytes one at a time. This
file follows the machine through each of the four lengths: the lead byte opens a `Partial` whose
bounds admit exactly the second byte that the encoder writes, every further byte adds six bits, and
the last one hands over the character. From one character it is an induction to a whole text:

> `pieces_encode`: the pieces of an encoded text are its characters,
> `decode?_encode`: so reading it gives the text back.
-/

namespace ImageText.Text

/-! ## Bytes as numbers -/

theorem toNat_toUInt8 {n : Nat} (h : n < 0x100) : n.toUInt8.toNat = n := by
  rw [Nat.toUInt8_eq, UInt8.toNat_ofNat']
  omega

theorem toNat_scalar (c : Char) : c.toNat < 0xD800 ∨ (0xDFFF < c.toNat ∧ c.toNat < 0x110000) :=
  c.valid

theorem toNat_ofNat {n : Nat} (h : n < 0xD800 ∨ (0xDFFF < n ∧ n < 0x110000)) :
    (Char.ofNat n).toNat = n := by
  rw [Char.ofNat, dif_pos h]
  rfl

namespace Scan

/-! ## The lead byte -/

theorem step_none (seen : List Piece) (b : UInt8) : step ⟨seen, none⟩ b = begin seen b := rfl

theorem begin_ascii (seen : List Piece) {n : Nat} (h : n < 0x80) :
    begin seen n.toUInt8 = ⟨.char (Char.ofNat n) :: seen, none⟩ := by
  have hb : n.toUInt8.toNat = n := toNat_toUInt8 (by omega)
  generalize n.toUInt8 = b at hb
  have h1 : b < 0x80 := by rw [UInt8.lt_iff_toNat_lt, hb]; exact h
  rw [begin, if_pos h1, hb]

/-- The lead byte of a character of two bytes. -/
theorem begin_two (seen : List Piece) {a : Nat} (h : 2 ≤ a) (h' : a < 0x20) :
    begin seen (0xC0 + a).toUInt8 = ⟨seen, some ⟨[(0xC0 + a).toUInt8], 1, a, 0x80, 0xBF⟩⟩ := by
  have hb : (0xC0 + a).toUInt8.toNat = 0xC0 + a := toNat_toUInt8 (by omega)
  generalize (0xC0 + a).toUInt8 = b at hb
  have h1 : ¬ b < 0x80 := by rw [UInt8.lt_iff_toNat_lt, hb]; simp; omega
  have h2 : ¬ b < 0xC2 := by rw [UInt8.lt_iff_toNat_lt, hb]; simp; omega
  have h3 : b < 0xE0 := by rw [UInt8.lt_iff_toNat_lt, hb]; simp; omega
  rw [begin, if_neg h1, if_neg h2, if_pos h3, hb, Nat.add_sub_cancel_left]

/-- The lead byte of a character of three bytes; the bounds keep out overlong forms and
surrogates. -/
theorem begin_three (seen : List Piece) {a : Nat} (h : a < 0x10) :
    begin seen (0xE0 + a).toUInt8
      = ⟨seen, some ⟨[(0xE0 + a).toUInt8], 2, a, if a = 0 then 0xA0 else 0x80,
          if a = 0xD then 0x9F else 0xBF⟩⟩ := by
  have hb : (0xE0 + a).toUInt8.toNat = 0xE0 + a := toNat_toUInt8 (by omega)
  generalize (0xE0 + a).toUInt8 = b at hb
  -- every comparison of the byte is one of its four bits
  have h1 : ¬ b < 0x80 := by rw [UInt8.lt_iff_toNat_lt, hb]; simp; omega
  have h2 : ¬ b < 0xC2 := by rw [UInt8.lt_iff_toNat_lt, hb]; simp; omega
  have h3 : ¬ b < 0xE0 := by rw [UInt8.lt_iff_toNat_lt, hb]; simp
  have h4 : b = 0xE0 ↔ a = 0 := by rw [← UInt8.toNat_inj, hb]; simp
  have h5 : b = 0xED ↔ a = 0xD := by rw [← UInt8.toNat_inj, hb]; simp; omega
  have h6 : b < 0xF0 := by rw [UInt8.lt_iff_toNat_lt, hb]; simp; omega
  rw [begin, if_neg h1, if_neg h2, if_neg h3]
  by_cases h0 : a = 0
  · subst h0
    rw [if_pos (h4.mpr rfl)]
    rfl
  · rw [if_neg (mt h4.mp h0)]
    by_cases hd : a = 0xD
    · subst hd
      rw [if_pos (h5.mpr rfl)]
      rfl
    · rw [if_neg (mt h5.mp hd), if_pos h6, if_neg h0, if_neg hd, hb, Nat.add_sub_cancel_left]

/-- The lead byte of a character of four bytes; the bounds keep out overlong forms and values past
`10FFFF`. -/
theorem begin_four (seen : List Piece) {a : Nat} (h : a ≤ 4) :
    begin seen (0xF0 + a).toUInt8
      = ⟨seen, some ⟨[(0xF0 + a).toUInt8], 3, a, if a = 0 then 0x90 else 0x80,
          if a = 4 then 0x8F else 0xBF⟩⟩ := by
  have hb : (0xF0 + a).toUInt8.toNat = 0xF0 + a := toNat_toUInt8 (by omega)
  generalize (0xF0 + a).toUInt8 = b at hb
  -- every comparison of the byte is one of its three bits
  have h1 : ¬ b < 0x80 := by rw [UInt8.lt_iff_toNat_lt, hb]; simp; omega
  have h2 : ¬ b < 0xC2 := by rw [UInt8.lt_iff_toNat_lt, hb]; simp; omega
  have h3 : ¬ b < 0xE0 := by rw [UInt8.lt_iff_toNat_lt, hb]; simp; omega
  have h4 : ¬ b = 0xE0 := by rw [← UInt8.toNat_inj, hb]; simp; omega
  have h5 : ¬ b = 0xED := by rw [← UInt8.toNat_inj, hb]; simp; omega
  have h6 : ¬ b < 0xF0 := by rw [UInt8.lt_iff_toNat_lt, hb]; simp
  have h7 : b = 0xF0 ↔ a = 0 := by rw [← UInt8.toNat_inj, hb]; simp
  have h8 : b < 0xF4 ↔ a < 4 := by rw [UInt8.lt_iff_toNat_lt, hb]; simp; omega
  have h9 : b = 0xF4 ↔ a = 4 := by rw [← UInt8.toNat_inj, hb]; simp; omega
  rw [begin, if_neg h1, if_neg h2, if_neg h3, if_neg h4, if_neg h5, if_neg h6]
  by_cases h0 : a = 0
  · subst h0
    rw [if_pos (h7.mpr rfl)]
    rfl
  · rw [if_neg (mt h7.mp h0)]
    by_cases hf : a = 4
    · subst hf
      rw [if_neg (mt h8.mp (by omega)), if_pos (h9.mpr rfl)]
      rfl
    · rw [if_pos (h8.mpr (by omega)), if_neg h0, if_neg hf, hb, Nat.add_sub_cancel_left]

/-! ## The bytes behind it -/

/-- A byte within the bounds that is not the last adds its six bits. -/
theorem step_more (seen : List Piece) (p : Partial) {d : Nat} (hd : d < 0x40)
    (hlow : p.low.toNat ≤ 0x80 + d) (hhigh : 0x80 + d ≤ p.high.toNat) (hm : 1 < p.missing) :
    step ⟨seen, some p⟩ (0x80 + d).toUInt8
      = ⟨seen, some ⟨(0x80 + d).toUInt8 :: p.read, p.missing - 1, p.value * 0x40 + d,
          0x80, 0xBF⟩⟩ := by
  have hb : (0x80 + d).toUInt8.toNat = 0x80 + d := toNat_toUInt8 (by omega)
  have hin : p.low ≤ (0x80 + d).toUInt8 ∧ (0x80 + d).toUInt8 ≤ p.high := by
    rw [UInt8.le_iff_toNat_le, UInt8.le_iff_toNat_le, hb]
    exact ⟨hlow, hhigh⟩
  simp only [step, if_pos hin, if_neg (Nat.not_le.mpr hm), hb, Nat.add_sub_cancel_left]

/-- The last byte completes the character. -/
theorem step_last (seen : List Piece) (p : Partial) {d : Nat} (hd : d < 0x40)
    (hlow : p.low.toNat ≤ 0x80 + d) (hhigh : 0x80 + d ≤ p.high.toNat) (hm : p.missing = 1) :
    step ⟨seen, some p⟩ (0x80 + d).toUInt8
      = ⟨.char (Char.ofNat (p.value * 0x40 + d)) :: seen, none⟩ := by
  have hb : (0x80 + d).toUInt8.toNat = 0x80 + d := toNat_toUInt8 (by omega)
  have hin : p.low ≤ (0x80 + d).toUInt8 ∧ (0x80 + d).toUInt8 ≤ p.high := by
    rw [UInt8.le_iff_toNat_le, UInt8.le_iff_toNat_le, hb]
    exact ⟨hlow, hhigh⟩
  simp only [step, if_pos hin, if_pos (Nat.le_of_eq hm), hb, Nat.add_sub_cancel_left]

/-! ## One character, and many -/

/-- Between two characters, the bytes of one character are read as that character. -/
theorem foldl_step_encodeChar (seen : List Piece) (c : Char) :
    (encodeChar c).foldl step ⟨seen, none⟩ = ⟨.char c :: seen, none⟩ := by
  have hc : Char.ofNat c.toNat = c := Char.ofNat_toNat c
  have hs := toNat_scalar c
  unfold encodeChar
  generalize c.toNat = n at hc hs ⊢
  dsimp only
  split
  next h =>
    -- one byte
    rw [List.foldl_cons, List.foldl_nil, step_none, begin_ascii seen h, hc]
  next h1 =>
    split
    next h =>
      -- two bytes, of five and six bits
      rw [List.foldl_cons, List.foldl_cons, List.foldl_nil, step_none,
        begin_two seen (a := n / 0x40) (by omega) (by omega),
        step_last _ _ (by omega) (by simp) (by simp; omega) rfl]
      rw [show n / 0x40 * 0x40 + n % 0x40 = n by omega, hc]
    next h2 =>
      split
      next h =>
        -- three bytes, of four bits and twice six
        have hlow : (if n / 0x1000 = 0 then 0xA0 else 0x80 : UInt8).toNat ≤ 0x80 + n / 0x40 % 0x40 := by
          split
          · simp
            omega
          · simp
        have hhigh : 0x80 + n / 0x40 % 0x40
            ≤ (if n / 0x1000 = 0xD then 0x9F else 0xBF : UInt8).toNat := by
          split
          · simp
            omega
          · simp
            omega
        rw [List.foldl_cons, List.foldl_cons, List.foldl_cons, List.foldl_nil, step_none,
          begin_three seen (a := n / 0x1000) (by omega),
          step_more _ _ (by omega) hlow hhigh (by simp),
          step_last _ _ (by omega) (by simp) (by simp; omega) rfl]
        rw [show (n / 0x1000 * 0x40 + n / 0x40 % 0x40) * 0x40 + n % 0x40 = n by omega, hc]
      next h3 =>
        -- four bytes, of three bits and three times six
        have hlow : (if n / 0x40000 = 0 then 0x90 else 0x80 : UInt8).toNat
            ≤ 0x80 + n / 0x1000 % 0x40 := by
          split
          · simp
            omega
          · simp
        have hhigh : 0x80 + n / 0x1000 % 0x40
            ≤ (if n / 0x40000 = 4 then 0x8F else 0xBF : UInt8).toNat := by
          split
          · simp
            omega
          · simp
            omega
        rw [List.foldl_cons, List.foldl_cons, List.foldl_cons, List.foldl_cons, List.foldl_nil,
          step_none, begin_four seen (a := n / 0x40000) (by omega),
          step_more _ _ (by omega) hlow hhigh (by simp),
          step_more _ _ (by omega) (by simp) (by simp; omega) (by simp),
          step_last _ _ (by omega) (by simp) (by simp; omega) rfl]
        rw [show ((n / 0x40000 * 0x40 + n / 0x1000 % 0x40) * 0x40 + n / 0x40 % 0x40) * 0x40
          + n % 0x40 = n by omega, hc]

theorem foldl_step_encode (s : List Char) (seen : List Piece) :
    (encode s).foldl step ⟨seen, none⟩ = ⟨(s.map Piece.char).reverse ++ seen, none⟩ := by
  induction s generalizing seen with
  | nil => rfl
  | cons c s ih =>
    rw [encode, List.flatMap_cons, List.foldl_append, foldl_step_encodeChar]
    rw [← encode, ih, List.map_cons, List.reverse_cons, List.append_assoc]
    rfl

end Scan

/-- The pieces of an encoded text are its characters. -/
theorem pieces_encode (s : List Char) : pieces (encode s) = s.map Piece.char := by
  rw [pieces, Scan.start, Scan.foldl_step_encode, List.append_nil]
  show ((s.map Piece.char).reverse).reverse = _
  rw [List.reverse_reverse]

theorem decode?_encode (s : List Char) : decode? (encode s) = some s := by
  rw [decode?, pieces_encode]
  induction s with
  | nil => rfl
  | cons c s ih =>
    rw [List.map_cons, List.mapM_cons, ih]
    rfl

theorem encode_singleton (c : Char) : encode [c] = encodeChar c := by
  rw [encode, List.flatMap_cons, List.flatMap_nil, List.append_nil]

theorem encode_append (s t : List Char) : encode (s ++ t) = encode s ++ encode t :=
  List.flatMap_append

theorem utf8_append (s t : String) : utf8 (s ++ t) = utf8 s ++ utf8 t := by
  rw [utf8, String.toList_append, encode_append]
  rfl

end ImageText.Text
