import ImageText.Engine.Serve
import ImageText.Proofs.Text.Lines
import Mathlib.Data.List.Induction

/-!
# Noise before a report

What an engine writes besides its answer lands on the error stream, and behind it the process reports
an exception, if there was one. Whoever reads the last visible line of the stream is not to be misled
by the noise: if it consists of whole lines, then the report begins on a line of its own, and what is
visible in it comes last.

> `lastLine?_wholeLines`: behind whole lines, the report is read as if there were nothing before it,
> `lastLine?_apart`: two streams that differ in whole lines have the same last line behind them.

In an encoding of one byte for each character of ASCII, a line that is printed ends in the byte of a
line feed. With two bytes for every code unit it ends in a zero behind that byte, which is a visible
line in itself: there the last line is always this zero, and says nothing.
-/

namespace ImageText.Engine

open Text (Visible lastLine? lossy)

/-! ## Encodings -/

namespace Encoding

variable {e : Encoding}

/-- A character of ASCII is one byte, unless every code unit has two. -/
theorem bytes?_ascii (he : e ≠ units) {n : Nat} (hn : n < 0x80) : e.bytes? n = some [n.toUInt8] := by
  have hsurrogate : isSurrogate n = false := by
    rw [isSurrogate, Bool.and_eq_false_iff, decide_eq_false_iff_not]
    exact Or.inl (by omega)
  cases e with
  | utf8 =>
    have hchar : (Char.ofNat n).toNat = n := Text.toNat_ofNat (Or.inl (by omega))
    rw [bytes?, hsurrogate, if_neg Bool.false_ne_true, Text.encodeChar, hchar, if_pos hn]
  | ascii => exact if_pos hn
  | latin => exact if_pos (by omega)
  | windows => exact if_pos (Or.inl hn)
  | units => exact absurd rfl he

theorem printed_append (e : Encoding) (s t : CodePoints) :
    e.printed (s ++ t) = e.printed s ++ e.printed t :=
  List.flatMap_append

theorem printed_ascii (he : e ≠ units) {n : Nat} (hn : n < 0x80) : e.printed [n] = [n.toUInt8] := by
  rw [printed, List.flatMap_singleton, bytes?_ascii he hn]
  rfl

theorem printed_line (he : e ≠ units) (s : CodePoints) :
    e.printed (s ++ [0x0A]) = e.printed s ++ [0x0A] := by
  rw [printed_append, printed_ascii he (by decide)]
  rfl

/-- A character of ASCII that is printed can be found among the bytes. -/
theorem mem_printed (he : e ≠ units) {n : Nat} (hn : n < 0x80) {s : CodePoints} (h : n ∈ s) :
    n.toUInt8 ∈ e.printed s := by
  obtain ⟨s, t, rfl⟩ := List.append_of_mem h
  rw [← List.singleton_append, printed_append, printed_append, printed_ascii he hn]
  simp

/-- With two bytes for every code unit, a printed line ends in a zero. -/
theorem printed_units (s : CodePoints) :
    units.printed (s ++ [0x0A]) = units.printed s ++ 0x0A :: [0] := by
  rw [printed_append]
  rfl

/-- Text without surrogates is printed in UTF-8 as it is. -/
theorem printed_chars (s : List Char) : utf8.printed (ofChars s) = Text.encode s := by
  induction s with
  | nil => rfl
  | cons c s ih =>
    have hsurrogate : isSurrogate c.toNat = false := by
      have hscalar := Text.toNat_scalar c
      rw [isSurrogate, Bool.and_eq_false_iff, decide_eq_false_iff_not, decide_eq_false_iff_not]
      omega
    have hpoint : utf8.bytes? c.toNat = some (Text.encodeChar c) := by
      rw [bytes?, hsurrogate, if_neg Bool.false_ne_true, Char.ofNat_toNat]
    show utf8.printed (c.toNat :: ofChars s) = Text.encodeChar c ++ Text.encode s
    rw [← ih, printed, List.flatMap_cons, hpoint]
    rfl

end Encoding

/-! ## Whole lines -/

namespace Noise

/-- What is written, whether it is printed or not: code points, or the bytes themselves. -/
def points : Noise → List Nat
  | text s => s
  | raw bytes => bytes.map UInt8.toNat

end Noise

/-- The bytes of an error stream. -/
abbrev stream (errors : Encoding) (noise : List Noise) : Bytes := noise.flatMap (Noise.bytes errors)

/-- Noise that is nothing, or ends where a line ends. -/
def WholeLines (noise : List Noise) : Prop :=
  noise.flatMap Noise.points = [] ∨ ∃ earlier, noise.flatMap Noise.points = earlier ++ [0x0A]

theorem wholeLines_nil : WholeLines [] := Or.inl rfl

theorem wholeLines_line (s : CodePoints) : WholeLines [.line s] :=
  Or.inr ⟨s, List.flatMap_singleton ..⟩

theorem wholeLines_append {xs ys : List Noise} (hxs : WholeLines xs) (hys : WholeLines ys) :
    WholeLines (xs ++ ys) := by
  unfold WholeLines
  rw [List.flatMap_append]
  rcases hys with hys | ⟨earlier, hys⟩
  · rw [hys, List.append_nil]
    exact hxs
  · rw [hys, ← List.append_assoc]
    exact Or.inr ⟨_, rfl⟩

theorem wholeLines_raw (bytes : Bytes) : WholeLines [.raw (bytes ++ [0x0A])] :=
  Or.inr ⟨bytes.map UInt8.toNat, by rw [List.flatMap_singleton, Noise.points, List.map_append]; rfl⟩

theorem wholeLines_all {noise : List Noise} (h : ∀ n ∈ noise, WholeLines [n]) : WholeLines noise := by
  induction noise with
  | nil => exact wholeLines_nil
  | cons n noise ih =>
    exact wholeLines_append (h n (List.mem_cons_self ..))
      (ih fun m hm => h m (List.mem_cons_of_mem _ hm))

/-- Lines that are printed are whole. -/
theorem wholeLines_printed (lines : List String) :
    WholeLines (lines.map fun l => .line (ofString l)) := by
  refine wholeLines_all fun n hn => ?_
  obtain ⟨l, -, rfl⟩ := List.mem_map.mp hn
  exact wholeLines_line _

/-- So are lines that are written beneath the interpreter. -/
theorem wholeLines_native (lines : List String) :
    WholeLines (lines.map fun l => .raw (utf8 (l ++ "\n"))) := by
  refine wholeLines_all fun n hn => ?_
  obtain ⟨l, -, rfl⟩ := List.mem_map.mp hn
  rw [Text.utf8_append]
  exact wholeLines_raw _

section Stream

variable {errors : Encoding}

theorem stream_append (errors : Encoding) (xs ys : List Noise) :
    stream errors (xs ++ ys) = stream errors xs ++ stream errors ys :=
  List.flatMap_append

theorem bytes_eq_nil (errors : Encoding) {n : Noise} (h : n.points = []) : n.bytes errors = [] := by
  cases n with
  | text s =>
    cases h
    rfl
  | raw bytes => exact List.map_eq_nil_iff.mp h

theorem bytes_of_points (he : errors ≠ .units) {n : Noise} {earlier : List Nat}
    (h : n.points = earlier ++ [0x0A]) : ∃ before, n.bytes errors = before ++ [0x0A] := by
  cases n with
  | text s =>
    cases h
    exact ⟨_, Encoding.printed_line he earlier⟩
  | raw bytes =>
    obtain ⟨before, last, rfl, -, hlast⟩ := List.map_eq_append_iff.mp h
    obtain ⟨b, rest, rfl, hb, hrest⟩ := List.map_eq_cons_iff.mp hlast
    cases List.map_eq_nil_iff.mp hrest
    refine ⟨before, ?_⟩
    show before ++ [b] = before ++ [0x0A]
    rw [UInt8.toNat_inj.mp (show b.toNat = (0x0A : UInt8).toNat from hb)]

/-- What ends an appended list ends its last part, unless that is empty. -/
theorem ends_of_append {xs ys before : List Nat} {last : Nat} (hys : ys ≠ [])
    (h : xs ++ ys = before ++ [last]) : ∃ earlier, ys = earlier ++ [last] := by
  rw [← List.dropLast_concat_getLast hys, ← List.append_assoc] at h
  obtain ⟨-, hlast⟩ := List.append_inj' h rfl
  exact ⟨ys.dropLast, by rw [← hlast, List.dropLast_concat_getLast hys]⟩

/-- Whole lines are whole lines in the stream, whatever writes them. The induction goes back from the
end until something was written. -/
theorem stream_wholeLines (he : errors ≠ .units) {noise : List Noise} (h : WholeLines noise) :
    stream errors noise = [] ∨ ∃ before, stream errors noise = before ++ [0x0A] := by
  induction noise using List.reverseRecOn with
  | nil => exact Or.inl rfl
  | append_singleton noise n ih =>
    rw [stream_append]
    unfold WholeLines at h
    rw [List.flatMap_append, List.flatMap_singleton] at h
    by_cases hn : n.points = []
    · rw [hn, List.append_nil] at h
      rw [show stream errors [n] = [] by simp [stream, bytes_eq_nil errors hn], List.append_nil]
      exact ih h
    · obtain ⟨earlier, hearlier⟩ : ∃ earlier, n.points = earlier ++ [0x0A] := by
        rcases h with h | ⟨earlier, h⟩
        · exact absurd (List.append_eq_nil_iff.mp h).2 hn
        · exact ends_of_append hn h
      obtain ⟨before, hbefore⟩ := bytes_of_points he hearlier
      refine Or.inr ⟨stream errors noise ++ before, ?_⟩
      rw [show stream errors [n] = before ++ [0x0A] by simp [stream, hbefore], List.append_assoc]

/-- **Whole lines do not matter to a report behind them that can be seen.** -/
theorem lastLine?_wholeLines (he : errors ≠ .units) {noise : List Noise} (h : WholeLines noise)
    {report : List Noise} (hreport : Visible (lossy (stream errors report))) :
    lastLine? (lossy (stream errors (noise ++ report))) = lastLine? (lossy (stream errors report)) := by
  rw [stream_append]
  rcases stream_wholeLines he h with hnone | ⟨before, hlines⟩
  · rw [hnone, List.nil_append]
  · rw [hlines, List.append_assoc, List.singleton_append, Text.lossy_lineFeed,
      Text.lastLine?_lineFeed _ hreport]

/-! ## Two streams -/

/-- Noise that differs in whole lines: what follows them is the same. -/
def Apart (xs ys : List Noise) : Prop :=
  ∃ ls ms shared, WholeLines ls ∧ WholeLines ms ∧ xs = ls ++ shared ∧ ys = ms ++ shared

theorem apart_wholeLines {xs ys : List Noise} (hxs : WholeLines xs) (hys : WholeLines ys) :
    Apart xs ys :=
  ⟨xs, ys, [], hxs, hys, (List.append_nil _).symm, (List.append_nil _).symm⟩

/-- What is written on behalf of an exception: it ends with a line, and a colon can be seen in it. -/
def Spoken (report : List Noise) : Prop :=
  (∃ earlier s, report = earlier ++ [.line s]) ∧ ∃ s, .text s ∈ report ∧ 0x3A ∈ s

theorem visible_spoken (he : errors ≠ .units) {report : List Noise} (h : Spoken report)
    (before : List Noise) : Visible (lossy (stream errors (before ++ report))) := by
  obtain ⟨-, s, hs, hcolon⟩ := h
  have hbyte : (0x3A : UInt8) ∈ stream errors (before ++ report) :=
    List.mem_flatMap.mpr ⟨.text s, List.mem_append_right _ hs,
      Encoding.mem_printed he (n := 0x3A) (by decide) hcolon⟩
  exact ⟨':', Text.mem_lossy_of_ascii (b := 0x3A) (by decide) hbyte, by decide⟩

/-- **Behind noise that differs in whole lines, a report has the same last line.** -/
theorem lastLine?_apart (errors : Encoding) {xs ys report : List Noise} (h : Apart xs ys)
    (hreport : Spoken report) :
    lastLine? (lossy (stream errors (xs ++ report)))
      = lastLine? (lossy (stream errors (ys ++ report))) := by
  by_cases he : errors = .units
  · -- the zero at the end is the last line of both
    subst he
    obtain ⟨⟨earlier, s, rfl⟩, -⟩ := hreport
    have hzero : ∀ noise : List Noise, lastLine? (lossy (stream .units
        (noise ++ (earlier ++ [.line s])))) = lastLine? (lossy [0]) := by
      intro noise
      rw [← List.append_assoc, stream_append,
        show stream .units [.line s] = Encoding.units.printed s ++ 0x0A :: [0] by
          simp [stream, Noise.line, Noise.bytes, Encoding.printed_units],
        ← List.append_assoc, Text.lossy_lineFeed,
        Text.lastLine?_lineFeed _ ⟨'\x00', by decide, by decide⟩]
    rw [hzero, hzero]
  · obtain ⟨ls, ms, shared, hls, hms, rfl, rfl⟩ := h
    have hvisible := visible_spoken he hreport shared
    rw [List.append_assoc, List.append_assoc, lastLine?_wholeLines he hls hvisible,
      lastLine?_wholeLines he hms hvisible]

end Stream

end ImageText.Engine
