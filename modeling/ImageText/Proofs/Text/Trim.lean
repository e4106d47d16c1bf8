import ImageText.Proofs.Text.Lines
import Mathlib.Data.List.DropRight

/-!
# What trimming takes away

White space is taken off the two ends of a text, and how far this goes depends on what is visible. A
visible part stops it, so that everything behind the part is safe from the front and everything before
it from the back. A part of which nothing is visible is gone with the end it stands at. Each of the two
facts is stated for the front and for the back, and the back is the front of the reversed text.

> `trim_seam`: between two visible parts nothing is taken away,
> `trim_around`: nothing of a part with visible edges,
> `ink_trim`: nothing that is visible is ever taken away.
-/

namespace ImageText.Text

theorem visible_reverse {s : List Char} : Visible s.reverse ↔ Visible s := by
  constructor
  · rintro ⟨c, hc, hblank⟩
    exact ⟨c, List.mem_reverse.mp hc, hblank⟩
  · rintro ⟨c, hc, hblank⟩
    exact ⟨c, List.mem_reverse.mpr hc, hblank⟩

/-! ## The front -/

/-- What is taken off at the front cannot be seen. -/
theorem not_visible_takeWhile (s : List Char) : ¬ Visible (s.takeWhile isBlank) :=
  not_visible_iff.mpr fun _ hc => List.mem_takeWhile_imp hc

theorem takeWhile_append_trimStart (s : List Char) : s.takeWhile isBlank ++ trimStart s = s :=
  List.takeWhile_append_dropWhile

theorem visible_trimStart {s : List Char} : Visible (trimStart s) ↔ Visible s := by
  have hsplit := visible_append (s := s.takeWhile isBlank) (t := trimStart s)
  rw [takeWhile_append_trimStart] at hsplit
  rw [hsplit, or_iff_right (not_visible_takeWhile s)]

theorem trimStart_of_visible {s : List Char} (h : Visible s) (t : List Char) :
    trimStart (s ++ t) = trimStart s ++ t := by
  have hne : (s.dropWhile isBlank).isEmpty = false := by
    rw [List.isEmpty_eq_false_iff]
    intro hnil
    exact not_visible_iff.mpr (List.dropWhile_eq_nil_iff.mp hnil) h
  rw [trimStart, List.dropWhile_append, hne]
  rfl

theorem trimStart_of_not_visible {s : List Char} (h : ¬ Visible s) (t : List Char) :
    trimStart (s ++ t) = trimStart t :=
  List.dropWhile_append_of_pos (not_visible_iff.mp h)

/-! ## The back -/

theorem trimEnd_eq (s : List Char) : trimEnd s = (trimStart s.reverse).reverse := rfl

theorem trimEnd_of_visible (s : List Char) {t : List Char} (h : Visible t) :
    trimEnd (s ++ t) = s ++ trimEnd t := by
  rw [trimEnd_eq, List.reverse_append, trimStart_of_visible (visible_reverse.mpr h),
    List.reverse_append, List.reverse_reverse]
  rfl

theorem trimEnd_of_not_visible (s : List Char) {t : List Char} (h : ¬ Visible t) :
    trimEnd (s ++ t) = trimEnd s := by
  rw [trimEnd_eq, List.reverse_append, trimStart_of_not_visible (mt visible_reverse.mp h)]
  rfl

/-! ## Both ends -/

theorem trim_of_not_visible_left {s : List Char} (h : ¬ Visible s) (t : List Char) :
    trim (s ++ t) = trim t := by
  rw [trim, trimStart_of_not_visible h]
  rfl

theorem trim_of_not_visible_right (s : List Char) {t : List Char} (h : ¬ Visible t) :
    trim (s ++ t) = trim s := by
  by_cases hs : Visible s
  · rw [trim, trimStart_of_visible hs, trimEnd_of_not_visible _ h]
    rfl
  · -- nothing is left of either
    have hboth : ¬ Visible (s ++ t) := fun hst => (visible_append.mp hst).elim hs h
    rw [trim_eq_nil_iff.mpr hboth, trim_eq_nil_iff.mpr hs]

/-- A line feed goes with the text before it if nothing of that is visible. -/
theorem trim_lineFeed_left {s : List Char} (h : ¬ Visible s) (t : List Char) :
    trim (s ++ '\n' :: t) = trim t := by
  have hline : ¬ Visible (s ++ ['\n']) := by
    rw [visible_lineFeed]
    exact not_or.mpr ⟨h, not_visible_nil⟩
  rw [List.append_cons, trim_of_not_visible_left hline]

/-- A line feed goes with the text behind it if nothing of that is visible. -/
theorem trim_lineFeed_right (s : List Char) {t : List Char} (h : ¬ Visible t) :
    trim (s ++ '\n' :: t) = trim s := by
  have hline : ¬ Visible ('\n' :: t) := by
    rw [visible_cons]
    exact not_or.mpr ⟨by decide, h⟩
  exact trim_of_not_visible_right s hline

/-- What is taken off at the back of a text stands behind the trimmed text. -/
theorem trimStart_eq (s : List Char) : trimStart s = trim s ++ (trimStart s).rtakeWhile isBlank :=
  List.rdropWhile_append_rtakeWhile.symm

/-- What is taken off at the front of a text stands before the trimmed text. -/
theorem trimEnd_eq_append_trim {t : List Char} (h : Visible t) :
    trimEnd t = t.takeWhile isBlank ++ trim t := by
  have hback := trimEnd_of_visible (t.takeWhile isBlank) (visible_trimStart.mpr h)
  rw [takeWhile_append_trimStart] at hback
  exact hback

/-- **Between two visible parts nothing is taken away.** What stands between the two trimmed parts is
what stood between them, with the white space that each of them had on that side. -/
theorem trim_seam {s t : List Char} (hs : Visible s) (ht : Visible t) (gap : List Char) :
    ∃ before after, ¬ Visible before ∧ ¬ Visible after
      ∧ trim (s ++ (gap ++ t)) = trim s ++ (before ++ (gap ++ after)) ++ trim t := by
  have hbefore : ¬ Visible ((trimStart s).rtakeWhile isBlank) :=
    not_visible_iff.mpr fun _ hc => List.mem_rtakeWhile_imp hc
  have hgap : Visible (gap ++ t) := visible_append.mpr (Or.inr ht)
  refine ⟨_, _, hbefore, not_visible_takeWhile t, ?_⟩
  calc trim (s ++ (gap ++ t))
      = trimStart s ++ (gap ++ trimEnd t) := by
        rw [trim, trimStart_of_visible hs, trimEnd_of_visible _ hgap, trimEnd_of_visible _ ht]
    _ = trim s ++ (trimStart s).rtakeWhile isBlank ++ (gap ++ (t.takeWhile isBlank ++ trim t)) := by
        rw [← trimStart_eq, trimEnd_eq_append_trim ht]
    _ = _ := by
        simp only [List.append_assoc]

/-! ## Visible edges -/

/-- Neither end of a text is white space. -/
def Tight (s : List Char) : Prop :=
  ∀ c, s.head? = some c ∨ s.getLast? = some c → isBlank c = false

theorem tight_of_forall {s : List Char} (h : ∀ c ∈ s, isBlank c = false) : Tight s :=
  fun c hc => h c (hc.elim List.mem_of_head? List.mem_of_getLast?)

theorem tight_of_all {s : List Char} (h : s.all (fun c => !isBlank c) = true) : Tight s :=
  tight_of_forall fun c hc => (Bool.not_eq_true' _).mp (List.all_eq_true.mp h c hc)

theorem tight_enclosed {first last : Char} (hfirst : isBlank first = false) (s : List Char)
    (hlast : isBlank last = false) : Tight (first :: (s ++ [last])) := by
  rintro c (hc | hc)
  · cases hc
    exact hfirst
  · rw [← List.cons_append, List.getLast?_concat] at hc
    cases hc
    exact hlast

theorem tight_reverse {s : List Char} (h : Tight s) : Tight s.reverse := by
  intro c hc
  rw [List.head?_reverse, List.getLast?_reverse] at hc
  exact h c hc.symm

theorem head?_trimStart {s : List Char} {c : Char} (h : (trimStart s).head? = some c) :
    isBlank c = false := by
  have hhead := List.head?_dropWhile_not isBlank s
  rw [show s.dropWhile isBlank = trimStart s from rfl, h] at hhead
  exact hhead

theorem tight_trim (s : List Char) : Tight (trim s) := by
  intro c hc
  rcases hc with hhead | hlast
  · -- what is trimmed at the back is a beginning of what was trimmed at the front
    obtain ⟨rest, hrest⟩ := List.rdropWhile_prefix isBlank (trimStart s)
    refine head?_trimStart (s := s) ?_
    rw [← hrest, List.head?_append]
    rw [trim] at hhead
    rw [show (trimStart s).rdropWhile isBlank = trimEnd (trimStart s) from rfl, hhead]
    rfl
  · rw [trim, trimEnd_eq, List.getLast?_reverse] at hlast
    exact head?_trimStart hlast

/-- Trimming at the front ends where a part begins with something visible. -/
theorem trimStart_before {s : List Char} (hne : s ≠ []) (h : Tight s) (before behind : List Char) :
    trimStart (before ++ (s ++ behind)) = trimStart before ++ (s ++ behind) := by
  by_cases hbefore : Visible before
  · exact trimStart_of_visible hbefore _
  · obtain ⟨c, rest, rfl⟩ := List.exists_cons_of_ne_nil hne
    have hgone : trimStart before = [] := List.dropWhile_eq_nil_iff.mpr (not_visible_iff.mp hbefore)
    have hc : ¬ isBlank c = true := by
      rw [h c (Or.inl rfl)]
      exact Bool.false_ne_true
    rw [trimStart_of_not_visible hbefore, hgone]
    exact List.dropWhile_cons_of_neg hc

/-- Trimming at the back ends where a part ends with something visible. -/
theorem trimEnd_behind {s : List Char} (hne : s ≠ []) (h : Tight s) (before behind : List Char) :
    trimEnd (before ++ (s ++ behind)) = before ++ (s ++ trimEnd behind) := by
  have hfront := trimStart_before (mt List.reverse_eq_nil_iff.mp hne) (tight_reverse h)
    behind.reverse before.reverse
  rw [trimEnd_eq, List.reverse_append, List.reverse_append, List.append_assoc, hfront]
  simp only [List.reverse_append, List.reverse_reverse, List.append_assoc]
  rfl

/-- **A part with visible edges is not touched.** What stands before it is trimmed at its beginning, and
what stands behind it at its end. -/
theorem trim_around {s : List Char} (hne : s ≠ []) (h : Tight s) (before behind : List Char) :
    trim (before ++ (s ++ behind)) = trimStart before ++ (s ++ trimEnd behind) := by
  rw [trim, trimStart_before hne h, trimEnd_behind hne h]

/-! ## What is visible -/

theorem isBlank_digit {c : Char} (h : c.isDigit = true) : isBlank c = false := by
  rw [Char.isDigit, Bool.and_eq_true, decide_eq_true_eq, decide_eq_true_eq] at h
  have hlow : 0x30 ≤ c.toNat := h.1
  have hhigh : c.toNat ≤ 0x39 := h.2
  simp only [isBlank, Bool.or_eq_false_iff, Bool.and_eq_false_iff, decide_eq_false_iff_not,
    beq_eq_false_iff_ne]
  omega

/-- A text without its white space. -/
def ink (s : List Char) : List Char := s.filter fun c => !isBlank c

theorem ink_append (s t : List Char) : ink (s ++ t) = ink s ++ ink t := List.filter_append ..

theorem ink_eq_nil_iff {s : List Char} : ink s = [] ↔ ¬ Visible s := by
  rw [ink, List.filter_eq_nil_iff, not_visible_iff]
  simp only [Bool.not_eq_true', Bool.not_eq_false]

theorem ink_reverse (s : List Char) : ink s.reverse = (ink s).reverse := List.filter_reverse ..

theorem ink_trimStart (s : List Char) : ink (trimStart s) = ink s := by
  have hink := ink_append (s.takeWhile isBlank) (trimStart s)
  rw [takeWhile_append_trimStart, ink_eq_nil_iff.mpr (not_visible_takeWhile s), List.nil_append] at hink
  exact hink.symm

theorem ink_trimEnd (s : List Char) : ink (trimEnd s) = ink s := by
  rw [trimEnd_eq, ink_reverse, ink_trimStart, ink_reverse, List.reverse_reverse]

/-- **Trimming takes nothing away that is visible.** -/
theorem ink_trim (s : List Char) : ink (trim s) = ink s := by
  rw [trim, ink_trimEnd, ink_trimStart]

end ImageText.Text
