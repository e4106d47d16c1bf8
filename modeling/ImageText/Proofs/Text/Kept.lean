import ImageText.Proofs.Text.Scan

/-!
# Reading keeps every byte

Cutting a byte string into characters and broken pieces loses nothing: the characters, written again,
and the broken pieces as they are give the bytes back. For a character of several bytes this rests on
what the machine has promised with the bytes read so far. A `Partial` is `Sound` if whatever bytes
within its bounds come next, they complete a character that is written with exactly these bytes; every
lead byte opens a sound one, and every byte that continues it leaves a sound one.

> `pieces_bytes`: the bytes of the pieces are the bytes that were read,
> `decode?_eq_some_iff`: a byte string reads as a text exactly if it is the text's UTF-8 form.
-/

namespace ImageText.Text

/-- The bytes of a piece. -/
def Piece.bytes : Piece → Bytes
  | char c => encodeChar c
  | broken bytes => bytes

/-! ## Characters by their bytes -/

theorem toUInt8_eq {n : Nat} {b : UInt8} (h : n = b.toNat) : n.toUInt8 = b := by
  rw [h, ← UInt8.toNat_inj, toNat_toUInt8 b.toNat_lt]

theorem encodeChar_ofNat {n : Nat} (h : n < 0xD800 ∨ (0xDFFF < n ∧ n < 0x110000)) :
    encodeChar (Char.ofNat n) =
      if n < 0x80 then [n.toUInt8]
      else if n < 0x800 then [(0xC0 + n / 0x40).toUInt8, (0x80 + n % 0x40).toUInt8]
      else if n < 0x10000 then
        [(0xE0 + n / 0x1000).toUInt8, (0x80 + n / 0x40 % 0x40).toUInt8, (0x80 + n % 0x40).toUInt8]
      else
        [(0xF0 + n / 0x40000).toUInt8, (0x80 + n / 0x1000 % 0x40).toUInt8,
          (0x80 + n / 0x40 % 0x40).toUInt8, (0x80 + n % 0x40).toUInt8] := by
  rw [encodeChar, toNat_ofNat h]

theorem encodeChar_one {b : UInt8} (hb : b.toNat < 0x80) : encodeChar (Char.ofNat b.toNat) = [b] := by
  rw [encodeChar_ofNat (by omega), if_pos hb, toUInt8_eq rfl]

theorem encodeChar_two {b c : UInt8} (hb : 0xC2 ≤ b.toNat) (hb' : b.toNat < 0xE0)
    (hc : 0x80 ≤ c.toNat) (hc' : c.toNat ≤ 0xBF) :
    encodeChar (Char.ofNat ((b.toNat - 0xC0) * 0x40 + (c.toNat - 0x80))) = [b, c] := by
  rw [encodeChar_ofNat (by omega), if_neg (by omega), if_pos (by omega)]
  rw [toUInt8_eq (b := b) (by omega), toUInt8_eq (b := c) (by omega)]

/-- The bound on the second byte keeps out overlong forms and surrogates. -/
theorem encodeChar_three {b c d : UInt8} (hb : 0xE0 ≤ b.toNat) (hb' : b.toNat < 0xF0)
    (hc : 0x80 ≤ c.toNat) (hc' : c.toNat ≤ 0xBF) (hlow : b.toNat = 0xE0 → 0xA0 ≤ c.toNat)
    (hhigh : b.toNat = 0xED → c.toNat ≤ 0x9F) (hd : 0x80 ≤ d.toNat) (hd' : d.toNat ≤ 0xBF) :
    encodeChar (Char.ofNat (((b.toNat - 0xE0) * 0x40 + (c.toNat - 0x80)) * 0x40 + (d.toNat - 0x80)))
      = [b, c, d] := by
  rw [encodeChar_ofNat (by omega), if_neg (by omega), if_neg (by omega), if_pos (by omega)]
  rw [toUInt8_eq (b := b) (by omega), toUInt8_eq (b := c) (by omega), toUInt8_eq (b := d) (by omega)]

/-- The bound on the second byte keeps out overlong forms and values past `10FFFF`. -/
theorem encodeChar_four {b c d e : UInt8} (hb : 0xF0 ≤ b.toNat) (hb' : b.toNat ≤ 0xF4)
    (hc : 0x80 ≤ c.toNat) (hc' : c.toNat ≤ 0xBF) (hlow : b.toNat = 0xF0 → 0x90 ≤ c.toNat)
    (hhigh : b.toNat = 0xF4 → c.toNat ≤ 0x8F) (hd : 0x80 ≤ d.toNat) (hd' : d.toNat ≤ 0xBF)
    (he : 0x80 ≤ e.toNat) (he' : e.toNat ≤ 0xBF) :
    encodeChar (Char.ofNat ((((b.toNat - 0xF0) * 0x40 + (c.toNat - 0x80)) * 0x40
      + (d.toNat - 0x80)) * 0x40 + (e.toNat - 0x80))) = [b, c, d, e] := by
  rw [encodeChar_ofNat (by omega), if_neg (by omega), if_neg (by omega), if_neg (by omega)]
  rw [toUInt8_eq (b := b) (by omega), toUInt8_eq (b := c) (by omega), toUInt8_eq (b := d) (by omega),
    toUInt8_eq (b := e) (by omega)]

/-! ## What has been promised -/

/-- The value of a character when the bytes that were missing are there. -/
def Partial.completed (p : Partial) (tail : Bytes) : Nat :=
  tail.foldl (fun n b => n * 0x40 + (b.toNat - 0x80)) p.value

/-- Bytes that can complete a character: the first within its bounds, the others within the bounds of
all of them. -/
def Partial.Takes (p : Partial) : Bytes → Prop
  | [] => False
  | b :: rest => (p.low ≤ b ∧ b ≤ p.high) ∧ rest.length + 1 = p.missing
      ∧ ∀ c ∈ rest, 0x80 ≤ c.toNat ∧ c.toNat ≤ 0xBF

/-- Something is missing, and whatever completes the character, it is written with the bytes read. -/
structure Partial.Sound (p : Partial) : Prop where
  missing : 0 < p.missing
  completes : ∀ tail, p.Takes tail →
    encodeChar (Char.ofNat (p.completed tail)) = p.read.reverse ++ tail

namespace Scan

/-- A reading that has kept some bytes. -/
structure Keeps (s : Scan) (bytes : Bytes) : Prop where
  kept : s.seen.reverse.flatMap Piece.bytes ++ (s.pending.elim [] fun p => p.read.reverse) = bytes
  sound : ∀ p, s.pending = some p → p.Sound

section Begin

variable {seen : List Piece} {b : UInt8}

theorem keeps_piece {piece : Piece} {bytes : Bytes}
    (h : seen.reverse.flatMap Piece.bytes ++ piece.bytes = bytes) :
    Keeps ⟨piece :: seen, none⟩ bytes := by
  refine ⟨?_, fun p hp => nomatch hp⟩
  show (piece :: seen).reverse.flatMap Piece.bytes ++ [] = bytes
  rw [List.append_nil, List.reverse_cons, List.flatMap_append, ← h, List.flatMap_cons,
    List.flatMap_nil, List.append_nil]

theorem keeps_partial {p : Partial} (h : p.Sound) :
    Keeps ⟨seen, some p⟩ (seen.reverse.flatMap Piece.bytes ++ p.read.reverse) := by
  refine ⟨rfl, ?_⟩
  rintro _ ⟨⟩
  exact h

theorem sound_two (hb : 0xC2 ≤ b.toNat) (hb' : b.toNat < 0xE0) :
    Partial.Sound ⟨[b], 1, b.toNat - 0xC0, 0x80, 0xBF⟩ := by
  refine ⟨Nat.one_pos, ?_⟩
  rintro (_ | ⟨c, _ | ⟨d, rest⟩⟩) htakes
  · exact htakes.elim
  · obtain ⟨⟨hc, hc'⟩, -⟩ := htakes
    exact encodeChar_two hb hb' hc hc'
  · obtain ⟨-, hlength, -⟩ := htakes
    simp at hlength

theorem sound_three {n : Nat} {low high : UInt8} (hb : 0xE0 ≤ b.toNat) (hb' : b.toNat < 0xF0)
    (hn : n = b.toNat - 0xE0) (hlow : 0x80 ≤ low.toNat) (hhigh : high.toNat ≤ 0xBF)
    (hlow' : b.toNat = 0xE0 → 0xA0 ≤ low.toNat) (hhigh' : b.toNat = 0xED → high.toNat ≤ 0x9F) :
    Partial.Sound ⟨[b], 2, n, low, high⟩ := by
  refine ⟨Nat.two_pos, ?_⟩
  rintro (_ | ⟨c, _ | ⟨d, _ | ⟨e, rest⟩⟩⟩) htakes
  · exact htakes.elim
  · obtain ⟨-, hlength, -⟩ := htakes
    simp at hlength
  · obtain ⟨⟨hc, hc'⟩, -, hrest⟩ := htakes
    obtain ⟨hd, hd'⟩ := hrest d (List.mem_singleton.mpr rfl)
    rw [UInt8.le_iff_toNat_le] at hc hc'
    dsimp only at hc hc'
    rw [Partial.completed, List.foldl_cons, List.foldl_cons, List.foldl_nil, hn]
    exact encodeChar_three hb hb' (by omega) (by omega) (by omega) (by omega) hd hd'
  · obtain ⟨-, hlength, -⟩ := htakes
    simp at hlength

theorem sound_four {n : Nat} {low high : UInt8} (hb : 0xF0 ≤ b.toNat) (hb' : b.toNat ≤ 0xF4)
    (hn : n = b.toNat - 0xF0) (hlow : 0x80 ≤ low.toNat) (hhigh : high.toNat ≤ 0xBF)
    (hlow' : b.toNat = 0xF0 → 0x90 ≤ low.toNat) (hhigh' : b.toNat = 0xF4 → high.toNat ≤ 0x8F) :
    Partial.Sound ⟨[b], 3, n, low, high⟩ := by
  refine ⟨Nat.succ_pos 2, ?_⟩
  rintro (_ | ⟨c, _ | ⟨d, _ | ⟨e, _ | ⟨f, rest⟩⟩⟩⟩) htakes
  · exact htakes.elim
  · obtain ⟨-, hlength, -⟩ := htakes
    simp at hlength
  · obtain ⟨-, hlength, -⟩ := htakes
    simp at hlength
  · obtain ⟨⟨hc, hc'⟩, -, hrest⟩ := htakes
    obtain ⟨hd, hd'⟩ := hrest d (List.mem_cons_self ..)
    obtain ⟨he, he'⟩ := hrest e (List.mem_cons_of_mem _ (List.mem_singleton.mpr rfl))
    rw [UInt8.le_iff_toNat_le] at hc hc'
    dsimp only at hc hc'
    rw [Partial.completed, List.foldl_cons, List.foldl_cons, List.foldl_cons, List.foldl_nil, hn]
    exact encodeChar_four hb hb' (by omega) (by omega) (by omega) (by omega) hd hd' he he'
  · obtain ⟨-, hlength, -⟩ := htakes
    simp at hlength

/-- A byte that begins something new is kept: as a character, as a broken piece, or as the lead byte of
a longer character. -/
theorem keeps_begin (seen : List Piece) (b : UInt8) :
    Keeps (begin seen b) (seen.reverse.flatMap Piece.bytes ++ [b]) := by
  unfold begin
  -- the comparisons as comparisons of numbers
  simp only [UInt8.lt_iff_toNat_lt, ← UInt8.toNat_inj, UInt8.reduceToNat]
  split
  next h => exact keeps_piece (by rw [Piece.bytes, encodeChar_one h])
  next =>
    split
    next => exact keeps_piece rfl
    next h1 =>
      split
      next h2 => exact keeps_partial (sound_two (by omega) h2)
      next h2 =>
        split
        next h3 =>
          exact keeps_partial (sound_three (by omega) (by omega) (by omega) (by decide) (by decide)
            (fun _ => by decide) (fun _ => by omega))
        next h3 =>
          split
          next h4 =>
            exact keeps_partial (sound_three (by omega) (by omega) (by omega) (by decide) (by decide)
              (fun _ => by omega) (fun _ => by decide))
          next h4 =>
            split
            next h5 =>
              exact keeps_partial (sound_three (by omega) h5 rfl (by decide) (by decide)
                (fun _ => by omega) (fun _ => by omega))
            next h5 =>
              split
              next h6 =>
                exact keeps_partial (sound_four (by omega) (by omega) (by omega) (by decide)
                  (by decide) (fun _ => by decide) (fun _ => by omega))
              next h6 =>
                split
                next h7 =>
                  exact keeps_partial (sound_four (by omega) (by omega) rfl (by decide) (by decide)
                    (fun _ => by omega) (fun _ => by omega))
                next h7 =>
                  split
                  next h8 =>
                    exact keeps_partial (sound_four (by omega) (by omega) (by omega) (by decide)
                      (by decide) (fun _ => by omega) (fun _ => by decide))
                  next => exact keeps_piece rfl

end Begin

/-- A byte that continues a character leaves less to promise. -/
theorem sound_continued {p : Partial} (h : p.Sound) {b : UInt8} (hb : p.low ≤ b ∧ b ≤ p.high)
    (hm : 1 < p.missing) :
    Partial.Sound ⟨b :: p.read, p.missing - 1, p.value * 0x40 + (b.toNat - 0x80), 0x80, 0xBF⟩ := by
  refine ⟨by dsimp only; omega, ?_⟩
  rintro (_ | ⟨c, rest⟩) htakes
  · exact htakes.elim
  · obtain ⟨hc, hlength, hrest⟩ := htakes
    have htail : p.Takes (b :: c :: rest) := by
      refine ⟨hb, ?_, List.forall_mem_cons.mpr ⟨hc, hrest⟩⟩
      rw [List.length_cons]
      dsimp only at hlength
      omega
    have hwritten := h.completes _ htail
    rw [Partial.completed, List.foldl_cons] at hwritten
    rw [Partial.completed, hwritten]
    simp

theorem keeps_step {s : Scan} {bytes : Bytes} (h : Keeps s bytes) (b : UInt8) :
    Keeps (step s b) (bytes ++ [b]) := by
  obtain ⟨seen, pending⟩ := s
  cases pending with
  | none =>
    have hkept := h.kept
    rw [show (none : Option Partial).elim [] _ = ([] : Bytes) from rfl, List.append_nil] at hkept
    rw [step_none, ← hkept]
    exact keeps_begin seen b
  | some p =>
    have hsound := h.sound p rfl
    have hkept : seen.reverse.flatMap Piece.bytes ++ p.read.reverse = bytes := h.kept
    simp only [step]
    by_cases hin : p.low ≤ b ∧ b ≤ p.high
    · rw [if_pos hin]
      by_cases hm : p.missing ≤ 1
      · -- the character is complete
        have hlength := hsound.missing
        have hwritten := hsound.completes [b] ⟨hin, by simp; omega, fun c hc => absurd hc List.not_mem_nil⟩
        rw [if_pos hm, ← hkept]
        refine keeps_piece ?_
        rw [List.append_assoc]
        exact congrArg _ hwritten
      · rw [if_neg hm, ← hkept, List.append_assoc]
        have hread : p.read.reverse ++ [b] = (b :: p.read).reverse := (List.reverse_cons ..).symm
        rw [hread]
        exact keeps_partial (sound_continued hsound hin (by omega))
    · -- the character is broken off
      rw [if_neg hin]
      have hbroken := keeps_begin (.broken p.read.reverse :: seen) b
      rw [List.reverse_cons, List.flatMap_append] at hbroken
      rw [← hkept]
      simpa [Piece.bytes] using hbroken

theorem keeps_foldl (more : Bytes) {s : Scan} {bytes : Bytes} (h : Keeps s bytes) :
    Keeps (more.foldl step s) (bytes ++ more) := by
  induction more generalizing s bytes with
  | nil =>
    rw [List.append_nil]
    exact h
  | cons b rest ih =>
    have hnext := ih (keeps_step h b)
    rw [List.append_assoc] at hnext
    exact hnext

theorem Keeps.finish {s : Scan} {bytes : Bytes} (h : Keeps s bytes) :
    s.finish.flatMap Piece.bytes = bytes := by
  obtain ⟨seen, pending⟩ := s
  rw [← h.kept]
  cases pending with
  | none => exact (List.append_nil _).symm
  | some p =>
    show (.broken p.read.reverse :: seen).reverse.flatMap Piece.bytes = _
    rw [List.reverse_cons, List.flatMap_append, List.flatMap_cons, List.flatMap_nil,
      List.append_nil]
    rfl

end Scan

/-- **Reading keeps every byte.** -/
theorem pieces_bytes (bytes : Bytes) : (pieces bytes).flatMap Piece.bytes = bytes := by
  have hstart : Scan.Keeps Scan.start [] := ⟨rfl, fun _ hp => nomatch hp⟩
  exact (Scan.keeps_foldl bytes hstart).finish

theorem pieces_eq_nil_iff {bytes : Bytes} : pieces bytes = [] ↔ bytes = [] := by
  constructor
  · intro h
    rw [← pieces_bytes bytes, h, List.flatMap_nil]
  · rintro rfl
    rfl

/-- What reads as characters throughout is the UTF-8 form of these characters. -/
theorem encode_of_decode? {bytes : Bytes} {s : List Char} (h : decode? bytes = some s) :
    encode s = bytes := by
  have hall : ∀ {ps : List Piece} {s : List Char}, ps.mapM Piece.char? = some s →
      encode s = ps.flatMap Piece.bytes := by
    intro ps
    induction ps with
    | nil =>
      rintro s ⟨⟩
      rfl
    | cons piece rest ih =>
      intro s hs
      rw [List.mapM_cons] at hs
      cases piece with
      | broken bad => cases hs
      | char c =>
        cases hr : rest.mapM Piece.char? with
        | none => rw [hr] at hs; cases hs
        | some t =>
          rw [hr] at hs
          cases hs
          rw [encode, List.flatMap_cons, ← encode, ih hr, List.flatMap_cons]
          rfl
  rw [hall h, pieces_bytes]

/-- **A byte string reads as a text exactly if it is the UTF-8 form of the text.** -/
theorem decode?_eq_some_iff {bytes : Bytes} {s : List Char} :
    decode? bytes = some s ↔ bytes = encode s := by
  constructor
  · exact fun h => (encode_of_decode? h).symm
  · rintro rfl
    exact decode?_encode s

theorem utf8_injective {s t : String} (h : utf8 s = utf8 t) : s = t := by
  have hread := decode?_encode s.toList
  rw [show encode s.toList = encode t.toList from h, decode?_encode] at hread
  exact String.toList_inj.mp (Option.some.inj hread).symm

end ImageText.Text
