import ImageText.Proofs.Fragment.Seams
import ImageText.Proofs.Json.Printer
import Mathlib.Data.List.ModifyLast

/-!
# One fragment per line

A reader of the output takes it for a list of lines and a line for a fragment. This is right as long as
no string fragment has a line feed of its own; every other fragment is shown in a form that has none,
whatever the strings in it hold. But the trimming is done on the whole text, and at its two ends it takes
more than white space from a line: fragments that are nothing else are gone with their lines. What is
left are the lines from the first visible one to the last, and of these only the two outermost lose
something. Inside, a fragment of white space keeps its line.

> `trim_joinLines`: trimming joined lines trims the outermost visible ones on their outer sides,
> `fragment_per_line`: the lines of a text are its fragments.
-/

namespace ImageText.Fragment

open Json (Value)
open Text (Visible isBlank trim trimStart trimEnd)

/-! ## Trimming lines -/

/-- A line of white space. -/
def isBlankLine (line : List Char) : Bool := line.all isBlank

/-- The lines from the first visible one to the last. -/
def visibleSpan (lines : List (List Char)) : List (List Char) :=
  (lines.dropWhile isBlankLine).rdropWhile isBlankLine

/-- The first line without the white space at its beginning, and the last without that at its end. -/
def trimEnds (lines : List (List Char)) : List (List Char) :=
  (lines.modifyHead trimStart).modifyLast trimEnd

theorem isBlankLine_iff {line : List Char} : isBlankLine line = true ↔ ¬ Visible line := by
  rw [isBlankLine, List.all_eq_true, Text.not_visible_iff]

theorem not_visible_blankLines {lines : List (List Char)} (h : ∀ l ∈ lines, isBlankLine l = true) :
    ¬ Visible (joinLines lines) := by
  rw [visible_joinLines]
  rintro ⟨line, hline, hvisible⟩
  exact isBlankLine_iff.mp (h line hline) hvisible

/-- Lines of white space at the beginning are gone. -/
theorem trim_blank_append {lines : List (List Char)} (h : ∀ l ∈ lines, isBlankLine l = true)
    (more : List (List Char)) : trim (joinLines (lines ++ more)) = trim (joinLines more) := by
  rw [trim_joinLines_append, Text.trim_lineFeed_left (not_visible_blankLines h)]

/-- Lines of white space at the end are gone. -/
theorem trim_append_blank (lines : List (List Char)) {more : List (List Char)}
    (h : ∀ l ∈ more, isBlankLine l = true) :
    trim (joinLines (lines ++ more)) = trim (joinLines lines) := by
  rw [trim_joinLines_append, Text.trim_lineFeed_right _ (not_visible_blankLines h)]

theorem trim_visibleSpan (lines : List (List Char)) :
    trim (joinLines (visibleSpan lines)) = trim (joinLines lines) := by
  calc trim (joinLines (visibleSpan lines))
      = trim (joinLines (lines.dropWhile isBlankLine)) := by
        rw [← trim_append_blank _ fun _ hl => List.mem_rtakeWhile_imp hl, visibleSpan,
          List.rdropWhile_append_rtakeWhile]
    _ = trim (joinLines lines) := by
        rw [← trim_blank_append fun _ hl => List.mem_takeWhile_imp hl,
          List.takeWhile_append_dropWhile]

/-- A visible first line keeps all that stands behind it. -/
theorem trimStart_joinLines {line : List Char} (h : Visible line) (rest : List (List Char)) :
    trimStart (joinLines (line :: rest)) = joinLines (trimStart line :: rest) := by
  by_cases hrest : rest = []
  · rw [hrest, joinLines_singleton, joinLines_singleton]
  · rw [joinLines_cons line hrest, joinLines_cons _ hrest, Text.trimStart_of_visible h]

/-- A visible last line keeps all that stands before it. -/
theorem trimEnd_joinLines (before : List (List Char)) {line : List Char} (h : Visible line) :
    trimEnd (joinLines (before ++ [line])) = joinLines (before ++ [trimEnd line]) := by
  by_cases hbefore : before = []
  · rw [hbefore, List.nil_append, List.nil_append, joinLines_singleton, joinLines_singleton]
  · rw [joinLines_append hbefore (List.cons_ne_nil _ _), joinLines_append hbefore (List.cons_ne_nil _ _),
      joinLines_singleton, joinLines_singleton, List.append_cons, Text.trimEnd_of_visible _ h,
      ← List.append_cons]

/-- Lines of which the outermost are visible. -/
structure Framed (lines : List (List Char)) : Prop where
  first : ∀ hne : lines ≠ [], Visible (lines.head hne)
  last : ∀ hne : lines ≠ [], Visible (lines.getLast hne)

theorem framed_visibleSpan (lines : List (List Char)) : Framed (visibleSpan lines) := by
  have hvisible : ∀ line, ¬ isBlankLine line = true → Visible line := fun line h =>
    not_not.mp (mt isBlankLine_iff.mpr h)
  refine ⟨fun hne => hvisible _ ?_, fun hne => hvisible _ (List.rdropWhile_last_not _ _ hne)⟩
  -- the span begins where the blank lines at the beginning end
  have hspan : visibleSpan lines <+: lines.dropWhile isBlankLine := List.rdropWhile_prefix ..
  rw [hspan.head hne, Bool.not_eq_true]
  exact List.head_dropWhile_not isBlankLine _

/-! ## The two ends

A list of lines has no end, one line at both, or a first and a last line with others between them. -/

theorem trimEnds_singleton (line : List Char) : trimEnds [line] = [trim line] :=
  List.modifyLast_concat trimEnd (trimStart line) []

theorem trimEnds_outer (first : List Char) (between : List (List Char)) (last : List Char) :
    trimEnds (first :: (between ++ [last])) = trimStart first :: (between ++ [trimEnd last]) :=
  List.modifyLast_concat trimEnd last (trimStart first :: between)

theorem length_trimEnds (lines : List (List Char)) : (trimEnds lines).length = lines.length := by
  induction lines using List.bidirectionalRec with
  | nil => rfl
  | singleton line => rw [trimEnds_singleton, List.length_singleton, List.length_singleton]
  | cons_append first between last _ =>
    simp only [trimEnds_outer, List.length_cons, List.length_append]

/-- Trimming lines of which the outermost are visible. -/
theorem Framed.trim_joinLines {lines : List (List Char)} (h : Framed lines) :
    trim (joinLines lines) = joinLines (trimEnds lines) := by
  induction lines using List.bidirectionalRec with
  | nil => rfl
  | singleton line => rw [trimEnds_singleton, joinLines_singleton, joinLines_singleton]
  | cons_append first between last _ =>
    have hfirst : Visible first := h.first (List.cons_ne_nil _ _)
    have hlast : Visible last := by simpa using h.last (List.cons_ne_nil _ _)
    rw [trimEnds_outer, trim, trimStart_joinLines hfirst, ← List.cons_append,
      trimEnd_joinLines _ hlast, List.cons_append]

/-- **Trimming joined lines** drops the lines of white space at both ends and trims what is then the
first line and the last. -/
theorem trim_joinLines (lines : List (List Char)) :
    trim (joinLines lines) = joinLines (trimEnds (visibleSpan lines)) := by
  rw [← trim_visibleSpan, (framed_visibleSpan lines).trim_joinLines]

/-! ## Lines without a line feed -/

/-- No line has a line feed of its own. -/
def Unbroken (lines : List (List Char)) : Prop := ∀ line ∈ lines, '\n' ∉ line

theorem unbroken_cons {line : List Char} {lines : List (List Char)} :
    Unbroken (line :: lines) ↔ '\n' ∉ line ∧ Unbroken lines :=
  List.forall_mem_cons

theorem unbroken_concat {lines : List (List Char)} {line : List Char} :
    Unbroken (lines ++ [line]) ↔ Unbroken lines ∧ '\n' ∉ line := by
  rw [Unbroken, List.forall_mem_append, List.forall_mem_singleton]
  rfl

theorem Unbroken.visibleSpan {lines : List (List Char)} (h : Unbroken lines) :
    Unbroken (visibleSpan lines) := fun line hline =>
  h line ((List.dropWhile_sublist _).subset ((List.rdropWhile_prefix _ _).subset hline))

theorem Unbroken.trimEnds {lines : List (List Char)} (h : Unbroken lines) :
    Unbroken (trimEnds lines) := by
  have hstart : ∀ {line : List Char}, '\n' ∉ line → '\n' ∉ trimStart line :=
    mt fun hmem => (List.dropWhile_sublist _).subset hmem
  have hend : ∀ {line : List Char}, '\n' ∉ line → '\n' ∉ trimEnd line :=
    mt fun hmem => (List.rdropWhile_prefix _ _).subset hmem
  induction lines using List.bidirectionalRec with
  | nil => exact h
  | singleton line =>
    obtain ⟨hline, hnil⟩ := unbroken_cons.mp h
    rw [trimEnds_singleton, unbroken_cons]
    exact ⟨hend (hstart hline), hnil⟩
  | cons_append first between last _ =>
    obtain ⟨hfirst, hrest⟩ := unbroken_cons.mp h
    obtain ⟨hbetween, hlast⟩ := unbroken_concat.mp hrest
    rw [trimEnds_outer, unbroken_cons, unbroken_concat]
    exact ⟨hstart hfirst, hbetween, hend hlast⟩

/-- What is not a string is shown without a line feed. -/
theorem lineFeed_not_mem_chars {item : Value} (h : ∀ s, item ≠ .string s) : '\n' ∉ chars item := by
  have hprinted : chars item = item.chars := by
    cases item with
    | string s => exact absurd rfl (h s)
    | _ => rfl
  rw [hprinted]
  exact fun hmem => absurd (Json.printable_chars item '\n' hmem) (by decide)

theorem unbroken_chars {fragments : List Value}
    (h : ∀ s, Value.string s ∈ fragments → '\n' ∉ s.toList) : Unbroken (fragments.map chars) := by
  intro line hline
  obtain ⟨fragment, hfragment, rfl⟩ := List.mem_map.mp hline
  by_cases hstring : ∃ s, fragment = .string s
  · obtain ⟨s, rfl⟩ := hstring
    exact h s hfragment
  · exact lineFeed_not_mem_chars fun s hs => hstring ⟨s, hs⟩

/-! ## The lines of a text -/

/-- **One fragment per line.** Let no string fragment have a line feed of its own. Then the text has as
many lines as there are fragments from the first visible one to the last, and the lines are these
fragments as they are shown, but for the white space at the outer sides of the first and the last. If
there are none, the text is empty. A fragment that is not a string is shown on one line, whatever
strings are in it. -/
theorem fragment_per_line {answer : Value} {fragments : List Value} (hyields : Yields answer fragments)
    (hstrings : ∀ s, Value.string s ∈ fragments → '\n' ∉ s.toList) :
    let shown := visibleSpan (fragments.map chars)
    let lines := (flatten answer).toList.splitOn '\n'
    (shown = [] → flatten answer = "")
      ∧ (shown ≠ [] → lines.length = shown.length ∧ lines = trimEnds shown)
      ∧ ∀ fragment ∈ fragments, (∀ s, fragment ≠ .string s) → '\n' ∉ chars fragment := by
  intro shown lines
  obtain rfl := yields_iff.mp hyields
  have htext : (flatten answer).toList = joinLines (trimEnds shown) := by
    rw [toList_flatten, joined, trim_joinLines]
  refine ⟨fun hnil => ?_, fun hne => ?_, fun fragment _ => lineFeed_not_mem_chars⟩
  · rw [← String.toList_eq_nil_iff, htext, hnil]
    rfl
  · have hunbroken : Unbroken (trimEnds shown) := (unbroken_chars hstrings).visibleSpan.trimEnds
    have hends : trimEnds shown ≠ [] := by
      rw [ne_eq, ← List.length_eq_zero_iff, length_trimEnds, List.length_eq_zero_iff]
      exact hne
    have hlines : lines = trimEnds shown := by
      rw [show lines = (flatten answer).toList.splitOn '\n' from rfl, htext]
      exact List.splitOn_intercalate '\n' hunbroken hends
    exact ⟨by rw [hlines, length_trimEnds], hlines⟩

/-- A fragment of white space is dropped at the beginning and keeps its line in the middle, and the line
feed in a nested string is shown by two characters. -/
theorem fragment_per_line_nested :
    let fragments := [.string "\t", .string " a", .string " ", .array [.string "b\nc"], .string "d "]
    let answer : Value := .array [.null, .object [(textsKey, .array (.null :: fragments))]]
    let shown := visibleSpan (fragments.map chars)
    let lines := (flatten answer).toList.splitOn '\n'
    Yields answer fragments ∧ (∀ s, Value.string s ∈ fragments → '\n' ∉ s.toList)
      ∧ lines.length = shown.length
      ∧ lines = ["a".toList, " ".toList, "[\"b\\nc\"]".toList, "d".toList] := by
  intro fragments answer shown lines
  have hyields : Yields answer fragments := yields_iff.mpr rfl
  have hstrings : ∀ s, Value.string s ∈ fragments → '\n' ∉ s.toList := by
    intro s hs
    simp only [fragments, List.mem_cons, Value.string.injEq, List.not_mem_nil, reduceCtorEq,
      false_or, or_false] at hs
    rcases hs with rfl | rfl | rfl | rfl <;> decide
  have hshown : shown = [" a".toList, " ".toList, "[\"b\\nc\"]".toList, "d ".toList] := by decide
  have hne : shown ≠ [] := hshown ▸ List.cons_ne_nil _ _
  have hends : trimEnds shown = ["a".toList, " ".toList, "[\"b\\nc\"]".toList, "d".toList] := by
    rw [hshown]
    rfl
  obtain ⟨hlength, hlines⟩ := (fragment_per_line hyields hstrings).2.1 hne
  exact ⟨hyields, hstrings, hlength, hlines.trans hends⟩

end ImageText.Fragment
