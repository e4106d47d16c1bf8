import ImageText.Proofs.Json.Layout
import ImageText.Proofs.Json.Literal

/-!
# The leaves of a layout

The words, numbers and strings that a document may hold, as `Scalar`s: each of them comes with what
the reader makes of it. A number is a `Figure` and means what `Numeral.value` says, or nothing if it
is too great; a string is a row of `Atom`s. Two more leaves are none of JSON and mean nothing: a
name that no word begins like, and a minus sign before such a name.
-/

namespace ImageText.Json

open Text (encode)

/-! ## Words -/

theorem readWord_append (word rest : Bytes) : readWord word (word ++ rest) = .ok ((), rest) := by
  induction word with
  | nil => rfl
  | cons b word ih => rw [List.cons_append, readWord, if_pos rfl, ih]

/-- A word that stands for a value. -/
def Scalar.word (first : UInt8) (others : Bytes) (v : Value)
    (h : wordOf? first = some (v, others)
      ∧ (isGap first = false ∧ first ≠ openArray ∧ first ≠ openObject ∧ first ≠ closeArray)) :
    Scalar where
  first := first
  others := others
  value? := some v
  first_plain := h.2
  reads rest _ := by
    rw [readScalar, h.1]
    simp only [readWord_append]
    rfl

/-- The word for nothing. -/
def Scalar.null : Scalar := .word 0x6E (utf8 "ull") .null ⟨rfl, by decide⟩

/-- The words for truth values. -/
def Scalar.bool : Bool → Scalar
  | true => .word 0x74 (utf8 "rue") (.bool true) ⟨rfl, by decide⟩
  | false => .word 0x66 (utf8 "alse") (.bool false) ⟨rfl, by decide⟩

/-! ## Numbers -/

/-- A figure begins with a minus sign or a digit, which nothing else does. -/
theorem Figure.bytes_cons (f : Figure) :
    ∃ b more, f.bytes = b :: more ∧ startsNumber b = true := by
  obtain ⟨b, more, hb, hdigit⟩ := f.whole.cons
  rw [bytes]
  cases f.negative with
  | true => exact ⟨minusByte, _, rfl, by decide⟩
  | false =>
    refine ⟨b, more ++ (f.fractionBytes ++ f.powerBytes), ?_, ?_⟩
    · rw [hb]
      rfl
    · rw [startsNumber, hdigit, Bool.or_true]

/-- What begins a number begins nothing else. -/
theorem startsNumber_plain {b : UInt8} (h : startsNumber b = true) :
    wordOf? b = none
      ∧ (isGap b = false ∧ b ≠ openArray ∧ b ≠ openObject ∧ b ≠ closeArray) := by
  have hne : ∀ c, startsNumber c = false → b ≠ c := by
    rintro c hc rfl
    rw [hc] at h
    cases h
  refine ⟨?_, ?_, hne _ rfl, hne _ rfl, hne _ rfl⟩
  · rw [wordOf?, if_neg (hne _ rfl), if_neg (hne _ rfl), if_neg (hne _ rfl)]
  · rw [isGap, beq_false_of_ne (hne _ rfl), beq_false_of_ne (hne _ rfl),
      beq_false_of_ne (hne _ rfl), beq_false_of_ne (hne _ rfl)]
    rfl

/-- A number as it is written. If it is too great, it means nothing. -/
def Scalar.figure (f : Figure) : Scalar where
  first := f.bytes.headD 0
  others := f.bytes.tail
  value? := f.numeral.value.toOption.map .number
  first_plain := by
    obtain ⟨b, more, hb, hstart⟩ := f.bytes_cons
    rw [hb]
    exact (startsNumber_plain hstart).2
  reads rest hrest := by
    obtain ⟨b, more, hb, hstart⟩ := f.bytes_cons
    have hread := readNumeral_figure f rest hrest
    rw [hb] at hread
    rw [hb, List.headD_cons, List.tail_cons, readScalar, (startsNumber_plain hstart).1]
    simp only [hstart, if_true, readNumber, ← List.cons_append, hread, bind, Except.bind]
    cases f.numeral.value <;> rfl

theorem Scalar.bytes_figure (f : Figure) :
    (Scalar.figure f).first :: (Scalar.figure f).others = f.bytes := by
  obtain ⟨b, more, hb, -⟩ := f.bytes_cons
  show f.bytes.headD 0 :: f.bytes.tail = f.bytes
  rw [hb]
  rfl

/-! ## Strings -/

/-- A row of atoms as the key of an entry. -/
def Label.atoms (row : List Atom) : Label where
  others := row.flatMap Atom.bytes ++ [quoteByte]
  text? := (Atom.text? row).map String.ofList
  reads rest := by
    rw [List.append_assoc, List.singleton_append, readLiteral_atoms, Option.map_map]
    rfl

/-- A literal as a value. -/
def Scalar.string (l : Label) : Scalar where
  first := quoteByte
  others := l.others
  value? := l.text?.map .string
  first_plain := by decide
  reads rest _ := by
    have hword : wordOf? quoteByte = none := by decide
    have hnumber : ¬ startsNumber quoteByte = true := by decide
    rw [readScalar, hword]
    simp only [if_neg hnumber, if_true]
    rw [toOption_map, l.reads, Option.map_map, Option.map_map]
    rfl

/-! ## What is none of JSON -/

/-- A byte that begins no token. -/
def startsNothing (b : UInt8) : Bool :=
  (wordOf? b).isNone && !startsNumber b && b != quoteByte && !isGap b && b != openArray
    && b != openObject && b != closeArray

/-- A name that no word begins like. -/
def Scalar.name (first : UInt8) (others : Bytes) (h : startsNothing first = true) : Scalar where
  first := first
  others := others
  value? := none
  first_plain := by
    simp only [startsNothing, Bool.and_eq_true, Bool.not_eq_true', bne_iff_ne] at h
    exact ⟨h.1.1.1.2, h.1.1.2, h.1.2, h.2⟩
  reads rest _ := by
    simp only [startsNothing, Bool.and_eq_true, Bool.not_eq_true', bne_iff_ne,
      Option.isNone_iff_eq_none] at h
    obtain ⟨⟨⟨⟨⟨⟨hword, hnumber⟩, hquote⟩, -⟩, -⟩, -⟩, -⟩ := h
    rw [readScalar, hword]
    simp only [hnumber, Bool.false_eq_true, if_false, if_neg hquote]
    rfl

/-- A minus sign before something that is no digit. -/
def Scalar.minusName (first : UInt8) (others : Bytes) (h : isDigit first = false) : Scalar where
  first := minusByte
  others := first :: others
  value? := none
  first_plain := by decide
  reads rest _ := by
    have hword : wordOf? minusByte = none := by decide
    have hstart : startsNumber minusByte = true := by decide
    have hzero : ¬ first = 0x30 := by
      rintro rfl
      revert h
      decide
    have hread : readNumeral (minusByte :: (first :: others ++ rest))
        = .error (.before .badNumber (others ++ rest)) := by
      simp only [readNumeral, List.head?_cons, beq_self_eq_true, if_true, List.drop_succ_cons,
        List.drop_zero, List.cons_append, readWhole, if_neg hzero, h, Bool.false_eq_true, if_false,
        bind, Except.bind]
    rw [readScalar, hword]
    simp only [hstart, if_true, readNumber, hread, bind, Except.bind]
    rfl

end ImageText.Json
