import ImageText.Proofs.Text.Scan
import ImageText.Text.Blank
import Mathlib.Data.List.TakeWhile

/-!
# The last line of an error stream

An error stream is any bytes. It is decoded as a whole and then cut at its line feeds, and the last
line that is more than white space is what a failed process has to say. Decoding does not disturb the
cuts: a byte of ASCII continues no longer character, so whatever comes before it, it stands for itself
and what comes behind it is read afresh.

> `pieces_ascii`: the bytes around a byte of ASCII are decoded on their own,
> `lastLine?_eq_some_iff`: `lastLine?` finds the line that `LastLine` describes by its surroundings,
> `lastLine?_lineFeed`: what comes before a line feed matters only if nothing behind it is visible.
-/

namespace ImageText.Text

namespace Scan

/-! ## A byte of ASCII -/

/-- No byte of ASCII continues the character under way. -/
def Closed (s : Scan) : Prop := ∀ p, s.pending = some p → 0x80 ≤ p.low

theorem closed_none (seen : List Piece) : Closed ⟨seen, none⟩ := fun _ hp => nomatch hp

theorem closed_some (seen : List Piece) {p : Partial} (h : 0x80 ≤ p.low) : Closed ⟨seen, some p⟩ := by
  rintro _ ⟨⟩
  exact h

theorem closed_ite {c : Prop} [Decidable c] {s t : Scan} (hs : Closed s) (ht : Closed t) :
    Closed (if c then s else t) := by
  by_cases h : c
  · rw [if_pos h]
    exact hs
  · rw [if_neg h]
    exact ht

theorem closed_begin (seen : List Piece) (b : UInt8) : Closed (begin seen b) := by
  -- each kind of lead byte has a bound of its own for what follows
  have h80 : (0x80 : UInt8) ≤ 0x80 := by decide
  have h90 : (0x80 : UInt8) ≤ 0x90 := by decide
  have hA0 : (0x80 : UInt8) ≤ 0xA0 := by decide
  exact closed_ite (closed_none _) <| closed_ite (closed_none _) <| closed_ite (closed_some _ h80) <|
    closed_ite (closed_some _ hA0) <| closed_ite (closed_some _ h80) <|
    closed_ite (closed_some _ h80) <| closed_ite (closed_some _ h90) <|
    closed_ite (closed_some _ h80) <| closed_ite (closed_some _ h80) (closed_none _)

theorem closed_step (s : Scan) (b : UInt8) : Closed (step s b) := by
  unfold step
  split
  · exact closed_begin _ _
  · split
    · dsimp only
      exact closed_ite (closed_none _) (closed_some _ (UInt8.le_refl _))
    · exact closed_begin _ _

theorem closed_foldl (bytes : Bytes) {s : Scan} (h : Closed s) : Closed (bytes.foldl step s) := by
  induction bytes generalizing s with
  | nil => exact h
  | cons b rest ih => exact ih (closed_step s b)

/-- A byte of ASCII breaks off the character under way and stands for itself. -/
theorem step_ascii {s : Scan} (h : Closed s) {b : UInt8} (hb : b < 0x80) :
    step s b = ⟨.char (Char.ofNat b.toNat) :: s.finish.reverse, none⟩ := by
  obtain ⟨seen, pending⟩ := s
  cases pending with
  | none =>
    rw [step_none, begin, if_pos hb, finish, List.reverse_reverse]
  | some p =>
    have hout : ¬ (p.low ≤ b ∧ b ≤ p.high) := by
      rintro ⟨hlow, -⟩
      have hp := h p rfl
      rw [UInt8.le_iff_toNat_le] at hp hlow
      rw [UInt8.lt_iff_toNat_lt] at hb
      omega
    rw [step]
    dsimp only
    rw [if_neg hout, begin, if_pos hb, finish, List.reverse_reverse]

/-! ## What was read before -/

/-- The same reading after other pieces. -/
def after (older : List Piece) (s : Scan) : Scan := ⟨s.seen ++ older, s.pending⟩

theorem begin_after (older seen : List Piece) (b : UInt8) :
    begin (seen ++ older) b = (begin seen b).after older := by
  unfold begin
  simp only [apply_ite (after older)]
  rfl

theorem step_after (older : List Piece) (s : Scan) (b : UInt8) :
    step (s.after older) b = (step s b).after older := by
  obtain ⟨seen, pending⟩ := s
  cases pending with
  | none => exact begin_after older seen b
  | some p =>
    simp only [step, after]
    split
    · split <;> rfl
    · exact begin_after older (.broken p.read.reverse :: seen) b

theorem foldl_after (older : List Piece) (bytes : Bytes) (s : Scan) :
    bytes.foldl step (s.after older) = (bytes.foldl step s).after older := by
  induction bytes generalizing s with
  | nil => rfl
  | cons b rest ih => rw [List.foldl_cons, step_after, ih, List.foldl_cons]

theorem finish_after (older : List Piece) (s : Scan) :
    (s.after older).finish = older.reverse ++ s.finish := by
  obtain ⟨seen, pending⟩ := s
  cases pending with
  | none => exact List.reverse_append
  | some p =>
    show (.broken p.read.reverse :: (seen ++ older)).reverse
      = older.reverse ++ (.broken p.read.reverse :: seen).reverse
    rw [← List.cons_append, List.reverse_append]

end Scan

/-- **The bytes around a byte of ASCII are decoded on their own.** -/
theorem pieces_ascii (a : Bytes) {b : UInt8} (hb : b < 0x80) (c : Bytes) :
    pieces (a ++ b :: c) = pieces a ++ .char (Char.ofNat b.toNat) :: pieces c := by
  have hclosed : (a.foldl Scan.step Scan.start).Closed := Scan.closed_foldl a (Scan.closed_none [])
  have hfresh : (⟨.char (Char.ofNat b.toNat) :: (a.foldl Scan.step Scan.start).finish.reverse, none⟩
      : Scan) = Scan.start.after
        (.char (Char.ofNat b.toNat) :: (a.foldl Scan.step Scan.start).finish.reverse) := rfl
  rw [pieces, List.foldl_append, List.foldl_cons, Scan.step_ascii hclosed hb, hfresh,
    Scan.foldl_after, Scan.finish_after, List.reverse_cons, List.reverse_reverse, List.append_assoc]
  rfl

theorem lossy_ascii (a : Bytes) {b : UInt8} (hb : b < 0x80) (c : Bytes) :
    lossy (a ++ b :: c) = lossy a ++ Char.ofNat b.toNat :: lossy c := by
  rw [lossy, pieces_ascii a hb c, List.map_append, List.map_cons]
  rfl

/-- Decoding does not disturb a line feed. -/
theorem lossy_lineFeed (a c : Bytes) : lossy (a ++ 0x0A :: c) = lossy a ++ '\n' :: lossy c :=
  lossy_ascii a (by decide) c

/-- A byte of ASCII is seen wherever it stands. -/
theorem mem_lossy_of_ascii {bytes : Bytes} {b : UInt8} (hb : b < 0x80) (h : b ∈ bytes) :
    Char.ofNat b.toNat ∈ lossy bytes := by
  obtain ⟨a, c, rfl⟩ := List.append_of_mem h
  rw [lossy_ascii a hb c]
  exact List.mem_append_right _ (List.mem_cons_self ..)

theorem lossy_encode (s : List Char) : lossy (encode s) = s := by
  rw [lossy, pieces_encode, List.map_map]
  exact List.map_id s

/-! ## Lines -/

theorem lines_ne_nil (s : List Char) : lines s ≠ [] := by
  cases s with
  | nil => exact List.cons_ne_nil _ _
  | cons c s =>
    rw [lines, List.foldr_cons]
    split
    · exact List.cons_ne_nil _ _
    · split <;> exact List.cons_ne_nil _ _

/-- The first line grows by a character that is no line feed. -/
theorem lines_cons {c : Char} (hc : c ≠ '\n') {s l : List Char} {rest : List (List Char)}
    (h : lines s = l :: rest) : lines (c :: s) = (c :: l) :: rest := by
  rw [lines] at h
  rw [lines, List.foldr_cons, if_neg hc, h]

/-- A line feed cuts a text in two. -/
theorem lines_lineFeed (s t : List Char) : lines (s ++ '\n' :: t) = lines s ++ lines t := by
  induction s with
  | nil => rfl
  | cons c s ih =>
    by_cases hc : c = '\n'
    · subst hc
      show [] :: lines (s ++ '\n' :: t) = ([] :: lines s) ++ lines t
      rw [ih, List.cons_append]
    · obtain ⟨l, rest, hl⟩ := List.exists_cons_of_ne_nil (lines_ne_nil s)
      rw [hl, List.cons_append] at ih
      rw [lines_cons hc hl, List.cons_append, lines_cons hc ih, List.cons_append]

theorem lines_single {s : List Char} (h : '\n' ∉ s) : lines s = [s] := by
  induction s with
  | nil => rfl
  | cons c s ih =>
    rw [List.mem_cons, not_or] at h
    exact lines_cons (Ne.symm h.1) (ih h.2)

/-- A text is a single line, or a line and a text behind a line feed. -/
theorem line_induction {P : List Char → Prop} (single : ∀ s, '\n' ∉ s → P s)
    (cut : ∀ s t, '\n' ∉ s → P t → P (s ++ '\n' :: t)) (s : List Char) : P s := by
  by_cases h : '\n' ∈ s
  · obtain ⟨a, b, hs, ha⟩ := List.eq_append_cons_of_mem h
    have hshort : b.length < s.length := by
      rw [hs, List.length_append, List.length_cons]
      omega
    rw [hs]
    exact cut a b ha (line_induction single cut b)
  · exact single s h
termination_by s.length

/-! ## What can be seen of a text -/

/-- Something in a text is more than white space. -/
def Visible (s : List Char) : Prop := ∃ c ∈ s, isBlank c = false

theorem visible_append {s t : List Char} : Visible (s ++ t) ↔ Visible s ∨ Visible t := by
  constructor
  · rintro ⟨c, hc, hblank⟩
    rcases List.mem_append.mp hc with hc | hc
    · exact Or.inl ⟨c, hc, hblank⟩
    · exact Or.inr ⟨c, hc, hblank⟩
  · rintro (⟨c, hc, hblank⟩ | ⟨c, hc, hblank⟩)
    · exact ⟨c, List.mem_append_left _ hc, hblank⟩
    · exact ⟨c, List.mem_append_right _ hc, hblank⟩

theorem visible_cons {c : Char} {s : List Char} :
    Visible (c :: s) ↔ isBlank c = false ∨ Visible s := by
  rw [← List.singleton_append, visible_append]
  exact or_congr_left ⟨fun ⟨d, hd, hblank⟩ => List.mem_singleton.mp hd ▸ hblank,
    fun h => ⟨c, List.mem_singleton_self c, h⟩⟩

theorem not_visible_nil : ¬ Visible [] := fun ⟨_, hc, _⟩ => nomatch hc

/-- A line feed cannot be seen. -/
theorem visible_lineFeed {s t : List Char} :
    Visible (s ++ '\n' :: t) ↔ Visible s ∨ Visible t := by
  rw [visible_append, visible_cons]
  exact or_congr_right ⟨fun h => h.resolve_left (by decide), Or.inr⟩

theorem not_visible_iff {s : List Char} : ¬ Visible s ↔ ∀ c ∈ s, isBlank c = true := by
  constructor
  · intro h c hc
    cases hblank : isBlank c with
    | true => rfl
    | false => exact absurd ⟨c, hc, hblank⟩ h
  · rintro h ⟨c, hc, hblank⟩
    rw [h c hc] at hblank
    cases hblank

theorem trim_eq_nil_iff {s : List Char} : trim s = [] ↔ ¬ Visible s := by
  rw [not_visible_iff, trim, trimEnd, trimStart, List.reverse_eq_nil_iff, List.dropWhile_eq_nil_iff]
  constructor
  · intro h
    refine List.dropWhile_eq_nil_iff.mp ?_
    cases hrest : s.dropWhile isBlank with
    | nil => rfl
    | cons c rest =>
      -- the first character that is left is visible
      have hhead := List.head_dropWhile_not isBlank (hrest ▸ List.cons_ne_nil c rest)
      rw [h _ (List.mem_reverse.mpr (List.head_mem _))] at hhead
      cases hhead
  · intro h c hc
    exact h c ((List.dropWhile_sublist _).subset (List.mem_reverse.mp hc))

/-! ## The last visible line -/

/-- The last line of a text that is more than white space, trimmed: between the beginning or a line
feed before it and the end or a line feed behind it, and with nothing but white space further on. -/
def LastLine (s line : List Char) : Prop :=
  ∃ before middle after, s = before ++ (middle ++ after)
    ∧ (before = [] ∨ ∃ earlier, before = earlier ++ ['\n'])
    ∧ '\n' ∉ middle ∧ Visible middle
    ∧ (after = [] ∨ ∃ later, after = '\n' :: later) ∧ ¬ Visible after
    ∧ line = trim middle

/-- What is found behind a line feed, or else before it. -/
theorem lastLine?_cut (s t : List Char) :
    lastLine? (s ++ '\n' :: t) = (lastLine? t).or (lastLine? s) := by
  rw [lastLine?, lines_lineFeed, List.reverse_append, List.map_append, List.find?_append]
  rfl

theorem lastLine?_single {s : List Char} (h : '\n' ∉ s) :
    lastLine? s = [trim s].find? fun l => !l.isEmpty := by
  rw [lastLine?, lines_single h]
  rfl

theorem lastLine?_visible {s : List Char} (h : '\n' ∉ s) (hv : Visible s) :
    lastLine? s = some (trim s) := by
  have hne : (trim s).isEmpty = false :=
    List.isEmpty_eq_false_iff.mpr fun e => trim_eq_nil_iff.mp e hv
  rw [lastLine?_single h, List.find?_cons, hne]
  rfl

theorem lastLine?_single_eq_none {s : List Char} (h : '\n' ∉ s) :
    lastLine? s = none ↔ ¬ Visible s := by
  constructor
  · intro hnone hv
    rw [lastLine?_visible h hv] at hnone
    cases hnone
  · intro hv
    rw [lastLine?_single h, trim_eq_nil_iff.mpr hv]
    rfl

/-- Nothing is found exactly if nothing is visible. -/
theorem lastLine?_eq_none_iff {s : List Char} : lastLine? s = none ↔ ¬ Visible s := by
  induction s using line_induction with
  | single s h => exact lastLine?_single_eq_none h
  | cut s t h ih =>
    rw [lastLine?_cut, Option.or_eq_none_iff, ih, lastLine?_single_eq_none h, visible_lineFeed,
      not_or, and_comm]

theorem visible_of_eq_some {s line : List Char} (h : lastLine? s = some line) : Visible s := by
  by_contra hv
  rw [lastLine?_eq_none_iff.mpr hv] at h
  cases h

theorem exists_lastLine {s : List Char} (h : Visible s) : ∃ line, lastLine? s = some line := by
  cases hl : lastLine? s with
  | none => exact absurd h (lastLine?_eq_none_iff.mp hl)
  | some line => exact ⟨line, rfl⟩

/-- **What comes before a line feed matters only if nothing behind it is visible.** -/
theorem lastLine?_lineFeed (s : List Char) {t : List Char} (h : Visible t) :
    lastLine? (s ++ '\n' :: t) = lastLine? t := by
  obtain ⟨line, hline⟩ := exists_lastLine h
  rw [lastLine?_cut, hline]
  rfl

/-- What cannot be seen behind a line feed does not matter. -/
theorem lastLine?_blank (s : List Char) {t : List Char} (h : ¬ Visible t) :
    lastLine? (s ++ '\n' :: t) = lastLine? s := by
  rw [lastLine?_cut, lastLine?_eq_none_iff.mpr h]
  rfl

theorem lastLine_of_eq_some {s line : List Char} (h : lastLine? s = some line) :
    LastLine s line := by
  induction s using line_induction with
  | single s hs =>
    have hv := visible_of_eq_some h
    rw [lastLine?_visible hs hv] at h
    cases h
    exact ⟨[], s, [], by simp, Or.inl rfl, hs, hv, Or.inl rfl, not_visible_nil, rfl⟩
  | cut s t hs ih =>
    by_cases ht : Visible t
    · rw [lastLine?_lineFeed s ht] at h
      obtain ⟨before, middle, after, rfl, hbefore, hrest⟩ := ih h
      refine ⟨s ++ '\n' :: before, middle, after, by simp, Or.inr ?_, hrest⟩
      rcases hbefore with rfl | ⟨earlier, rfl⟩
      · exact ⟨s, rfl⟩
      · exact ⟨s ++ '\n' :: earlier, by simp⟩
    · rw [lastLine?_blank s ht] at h
      have hv := visible_of_eq_some h
      rw [lastLine?_visible hs hv] at h
      cases h
      refine ⟨[], s, '\n' :: t, rfl, Or.inl rfl, hs, hv, Or.inr ⟨t, rfl⟩, ?_, rfl⟩
      rw [visible_cons]
      exact not_or.mpr ⟨by decide, ht⟩

theorem lastLine?_of_lastLine {s line : List Char} (h : LastLine s line) :
    lastLine? s = some line := by
  obtain ⟨before, middle, after, rfl, hbefore, hline, hv, hafter, hblank, rfl⟩ := h
  have hrest : lastLine? (middle ++ after) = some (trim middle) := by
    rcases hafter with rfl | ⟨later, rfl⟩
    · rw [List.append_nil]
      exact lastLine?_visible hline hv
    · rw [visible_cons, not_or] at hblank
      rw [lastLine?_blank middle hblank.2]
      exact lastLine?_visible hline hv
  rcases hbefore with rfl | ⟨earlier, rfl⟩
  · exact hrest
  · have hvisible : Visible (middle ++ after) := visible_append.mpr (Or.inl hv)
    rw [List.append_assoc, List.singleton_append, lastLine?_lineFeed earlier hvisible]
    exact hrest

/-- **The line that is found is the last line.** -/
theorem lastLine?_eq_some_iff {s line : List Char} :
    lastLine? s = some line ↔ LastLine s line :=
  ⟨lastLine_of_eq_some, lastLine?_of_lastLine⟩

end ImageText.Text
