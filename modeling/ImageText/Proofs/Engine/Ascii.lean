import ImageText.Proofs.Engine.Layout

/-!
# Written answers are ASCII

Whatever the texts of an answer hold, it is written with the characters of ASCII alone, so that no
encoding of the stream between the two sides can change it: a character is one byte.

> `ascii_dump`, `encode_ascii`.
-/

namespace ImageText.Engine

open Text (encode)

/-- A text of ASCII. -/
abbrev Ascii (cs : List Char) : Prop := ∀ c ∈ cs, c.toNat < 0x80

/-- What stands between two characters of ASCII. -/
theorem ascii_enclosed {a z : Char} {cs : List Char} (h : Ascii cs) (ha : a.toNat < 0x80)
    (hz : z.toNat < 0x80) : Ascii (a :: (cs ++ [z])) :=
  List.forall_mem_cons.mpr ⟨ha, List.forall_mem_append.mpr ⟨h, List.forall_mem_singleton.mpr hz⟩⟩

/-- What stands before and behind a mark with its blank. -/
theorem ascii_marked {mark : Char} {cs ds : List Char} (hcs : Ascii cs) (hds : Ascii ds)
    (hmark : mark.toNat < 0x80) : Ascii (cs ++ mark :: ' ' :: ds) :=
  List.forall_mem_append.mpr
    ⟨hcs, List.forall_mem_cons.mpr ⟨hmark, List.forall_mem_cons.mpr ⟨by decide, hds⟩⟩⟩

/-- A character of ASCII is one byte. -/
theorem encode_ascii {cs : List Char} (h : Ascii cs) :
    encode cs = cs.map fun c => c.toNat.toUInt8 := by
  induction cs with
  | nil => rfl
  | cons c cs ih =>
    have hc := h c (List.mem_cons_self ..)
    rw [encode, List.flatMap_cons, ← encode, ih fun d hd => h d (List.mem_cons_of_mem _ hd),
      Text.encodeChar]
    simp only [if_pos hc]
    rfl

theorem lt_of_mem_encode {cs : List Char} (h : Ascii cs) {b : UInt8} (hb : b ∈ encode cs) :
    b < 0x80 := by
  rw [encode_ascii h] at hb
  obtain ⟨c, hc, rfl⟩ := List.mem_map.mp hb
  have hlt := h c hc
  rw [UInt8.lt_iff_toNat_lt, Text.toNat_toUInt8 (by omega)]
  exact hlt

/-! ## Literals -/

theorem ascii_digitChar : ∀ d < 16, (Nat.digitChar d).toNat < 0x80 := by decide

theorem ascii_hexDigits (n : Nat) : Ascii (Nat.toDigits 16 n) := by
  induction n using Nat.strongRecOn with
  | ind n ih =>
    by_cases hn : n < 16
    · rw [Nat.toDigits_of_lt_base hn]
      exact List.forall_mem_singleton.mpr (ascii_digitChar n hn)
    · rw [Nat.toDigits_of_base_le (by decide) (by omega)]
      exact List.forall_mem_append.mpr ⟨ih (n / 16) (by omega),
        List.forall_mem_singleton.mpr (ascii_digitChar _ (by omega))⟩

theorem ascii_unitEscape (n : Nat) : Ascii (Datum.unitEscape n) := by
  have hzeros : ∀ c ∈ List.replicate (4 - (Nat.toDigits 16 n).length) '0', c.toNat < 0x80 := by
    intro c hc
    rw [List.eq_of_mem_replicate hc]
    decide
  exact List.forall_mem_cons.mpr ⟨by decide, List.forall_mem_cons.mpr
    ⟨by decide, List.forall_mem_append.mpr ⟨hzeros, ascii_hexDigits n⟩⟩⟩

namespace Datum

theorem ascii_dumpedPoint (n : Nat) : Ascii (dumpedPoint n) := by
  have hform := form_pointAtoms n
  generalize pointAtoms n = atoms at hform
  generalize dumpedPoint n = cs at hform ⊢
  cases hform with
  | short letter byte h c hc hletter hbyte => exact List.forall_mem_cons.mpr ⟨by decide, List.forall_mem_singleton.mpr hc⟩
  | raw hn h =>
    refine List.forall_mem_singleton.mpr ?_
    rw [Text.toNat_ofNat (by omega)]
    omega
  | unit h => exact ascii_unitEscape n
  | pair h => exact List.forall_mem_append.mpr ⟨ascii_unitEscape _, ascii_unitEscape _⟩

theorem ascii_dumpedText (s : CodePoints) : Ascii (dumpedText s) := by
  refine ascii_enclosed ?_ (by decide) (by decide)
  intro c hc
  obtain ⟨n, -, hn⟩ := List.mem_flatMap.mp hc
  exact ascii_dumpedPoint n c hn

theorem ascii_dumpedScalar {d : Datum} {word : List Char} (h : d.dumpedScalar? = some (.ok word)) :
    Ascii word := by
  intro c hc
  have := (plain_dumpedScalar h c hc).2.2.2
  omega

theorem ascii_dumpedKey {k : Datum} {cs : List Char} (h : dumpedKey k = .ok cs) : Ascii cs := by
  rcases dumpedKey_ok h with ⟨s, rfl, rfl⟩ | ⟨word, hword, rfl⟩
  · exact ascii_dumpedText s
  · exact ascii_enclosed (ascii_dumpedScalar hword) (by decide) (by decide)

/-! ## Values -/

mutual

/-- **A value is written in ASCII.** -/
theorem ascii_dump (d : Datum) {room : Nat} {cs : List Char} (h : d.dump room = .ok cs) :
    Ascii cs := by
  cases d with
  | str s =>
    cases h
    exact ascii_dumpedText s
  | list items =>
    obtain ⟨left, body, -, hbody, rfl⟩ := encoding_ok h
    exact ascii_enclosed (ascii_dumpItems items hbody) (by decide) (by decide)
  | tuple items =>
    obtain ⟨left, body, -, hbody, rfl⟩ := encoding_ok h
    exact ascii_enclosed (ascii_dumpItems items hbody) (by decide) (by decide)
  | dict entries =>
    obtain ⟨left, body, -, hbody, rfl⟩ := encoding_ok h
    exact ascii_enclosed (ascii_dumpEntries entries hbody) (by decide) (by decide)
  | _ =>
    -- a scalar is written as its word, and anything else is raised
    unfold dump at h
    split at h
    next hword =>
      subst h
      exact ascii_dumpedScalar hword
    next => exact absurd h (refused_ne_ok _ _ _)

theorem ascii_dumpItems (items : List Datum) {room : Nat} {cs : List Char}
    (h : dumpItems room items = .ok cs) : Ascii cs := by
  cases items with
  | nil =>
    cases h
    exact List.forall_mem_nil _
  | cons x rest =>
    obtain ⟨head, hhead, htail⟩ := dumpItems_cons_ok h
    have hx := ascii_dump x hhead
    rcases htail with ⟨-, rfl⟩ | ⟨tail, -, htail, rfl⟩
    · exact hx
    · exact ascii_marked hx (ascii_dumpItems rest htail) (by decide)

theorem ascii_dumpEntries (entries : List (Datum × Datum)) {room : Nat} {cs : List Char}
    (h : dumpEntries room entries = .ok cs) : Ascii cs := by
  cases entries with
  | nil =>
    cases h
    exact List.forall_mem_nil _
  | cons e rest =>
    obtain ⟨k, v⟩ := e
    obtain ⟨key, value, hkey, hvalue, htail⟩ := dumpEntries_cons_ok h
    have hentry : Ascii (key ++ ':' :: ' ' :: value) :=
      ascii_marked (ascii_dumpedKey hkey) (ascii_dump v hvalue) (by decide)
    rcases htail with ⟨-, rfl⟩ | ⟨tail, -, htail, rfl⟩
    · exact hentry
    · exact ascii_marked hentry (ascii_dumpEntries rest htail) (by decide)

end

end Datum

end ImageText.Engine
