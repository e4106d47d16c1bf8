import ImageText.Fragment

/-!
# The shapes of an answer

An answer may come in two shapes, mixed as the engine likes, and with other data in between. What it
presents is said here by a grammar that knows nothing of how the items are collected. A record is a
mapping with texts, a page of lines, or unfamiliar; an entry of a page is a line or no line. Each
derivation is a way to cut a list of items into records, to choose a shape for each of them and to put
unfamiliar data in between.

> `presents_iff`: every answer presents one list of items, and it is the list that is collected,
> `yields_iff`: its fragments are those of them that are not vain,
> `shapes_agree`: the text depends on the items alone, so a single mapping that lists them all has it.
-/

namespace ImageText.Fragment

open Json (Value)

/-! ## The grammar -/

/-- An entry of a page that is no line: it is not an array, or it has fewer than two elements, or its
second element is not an array with something in it. -/
inductive NoLine : Value → Prop
  | plain {entry : Value} (h : ∀ elements, entry ≠ .array elements) : NoLine entry
  | short {elements : List Value} (h : elements.length < 2) : NoLine (.array elements)
  | bare {box second : Value} {more : List Value}
      (h : ∀ item extras, second ≠ .array (item :: extras)) :
      NoLine (.array (box :: second :: more))

/-- The entries of a page, and the items of its lines. -/
inductive Page : List Value → List Value → Prop
  | nil : Page [] []
  | line (box item : Value) (extras more : List Value) {entries items : List Value}
      (h : Page entries items) :
      Page (.array (box :: .array (item :: extras) :: more) :: entries) (item :: items)
  | noLine {entry : Value} {entries items : List Value} (hentry : NoLine entry)
      (h : Page entries items) : Page (entry :: entries) items

/-- A record of neither shape. -/
inductive Unfamiliar : Value → Prop
  | null : Unfamiliar .null
  | bool (b : Bool) : Unfamiliar (.bool b)
  | number (n : Json.Number) : Unfamiliar (.number n)
  | string (s : String) : Unfamiliar (.string s)
  | object {members : List (String × Value)}
      (h : ∀ items, members.lookup textsKey ≠ some (.array items)) : Unfamiliar (.object members)

/-- Records, and the items that they present one after the other. -/
inductive Records : List Value → List Value → Prop
  | nil : Records [] []
  | texts {members : List (String × Value)} {chunk records items : List Value}
      (hmember : members.lookup textsKey = some (.array chunk)) (h : Records records items) :
      Records (.object members :: records) (chunk ++ items)
  | page {entries chunk records items : List Value} (hpage : Page entries chunk)
      (h : Records records items) : Records (.array entries :: records) (chunk ++ items)
  | unfamiliar {record : Value} {records items : List Value} (hrecord : Unfamiliar record)
      (h : Records records items) : Records (record :: records) items

/-- An answer, and the items that it presents. Only an array has records. -/
inductive Presents : Value → List Value → Prop
  | records {records items : List Value} (h : Records records items) : Presents (.array records) items
  | nothing {answer : Value} (h : ∀ records, answer ≠ .array records) : Presents answer []

/-- The items that carry nothing. -/
inductive Vain : Value → Prop
  | null : Vain .null
  | no : Vain (.bool false)
  | zero : Vain (.number (.whole 0))
  | realZero (negative : Bool) (exponent : Int) : Vain (.number (.real ⟨negative, ⟨0, exponent⟩⟩))
  | string : Vain (.string "")
  | array : Vain (.array [])
  | object : Vain (.object [])

/-! ## What is collected -/

theorem line_or_noLine (entry : Value) :
    (∃ box item extras more, entry = .array (box :: .array (item :: extras) :: more))
      ∨ NoLine entry := by
  cases entry with
  | array elements =>
    rcases elements with _ | ⟨box, _ | ⟨second, more⟩⟩
    · exact Or.inr (.short Nat.zero_lt_two)
    · exact Or.inr (.short Nat.one_lt_two)
    · by_cases hsecond : ∃ item extras, second = .array (item :: extras)
      · obtain ⟨item, extras, rfl⟩ := hsecond
        exact Or.inl ⟨box, item, extras, more, rfl⟩
      · exact Or.inr (.bare fun item extras h => hsecond ⟨item, extras, h⟩)
  | null => exact Or.inr (.plain nofun)
  | bool b => exact Or.inr (.plain nofun)
  | number n => exact Or.inr (.plain nofun)
  | string s => exact Or.inr (.plain nofun)
  | object members => exact Or.inr (.plain nofun)

theorem ofLine?_line (box item : Value) (extras more : List Value) :
    ofLine? (.array (box :: .array (item :: extras) :: more)) = some item :=
  rfl

theorem ofLine?_noLine {entry : Value} (h : NoLine entry) : ofLine? entry = none := by
  unfold ofLine?
  split
  next box item extras more =>
    cases h with
    | plain h => exact absurd rfl (h _)
    | short h => exact absurd h (by simp)
    | bare h => exact absurd rfl (h item extras)
  next => rfl

/-- A page presents the items that are found in its entries. -/
theorem page_iff {entries items : List Value} :
    Page entries items ↔ entries.filterMap ofLine? = items := by
  constructor
  · intro h
    induction h with
    | nil => rfl
    | line box item extras more _ ih =>
      rw [List.filterMap_cons_some (ofLine?_line box item extras more), ih]
    | noLine hentry _ ih => rw [List.filterMap_cons_none (ofLine?_noLine hentry), ih]
  · rintro rfl
    induction entries with
    | nil => exact .nil
    | cons entry entries ih =>
      rcases line_or_noLine entry with ⟨box, item, extras, more, rfl⟩ | hentry
      · rw [List.filterMap_cons_some (ofLine?_line box item extras more)]
        exact .line box item extras more ih
      · rw [List.filterMap_cons_none (ofLine?_noLine hentry)]
        exact .noLine hentry ih

theorem ofRecord_texts {members : List (String × Value)} {chunk : List Value}
    (h : members.lookup textsKey = some (.array chunk)) : ofRecord (.object members) = chunk := by
  rw [ofRecord, h]

theorem ofRecord_unfamiliar {record : Value} (h : Unfamiliar record) : ofRecord record = [] := by
  cases h with
  | object h =>
    rw [ofRecord]
    split
    next items hitems => exact absurd hitems (h items)
    next => rfl
  | null => rfl
  | bool b => rfl
  | number n => rfl
  | string s => rfl

/-- A mapping presents the array under its key; one without such an array is unfamiliar. -/
theorem records_object (members : List (String × Value)) {records items : List Value}
    (h : Records records items) :
    Records (.object members :: records) (ofRecord (.object members) ++ items) := by
  by_cases htexts : ∃ chunk, members.lookup textsKey = some (.array chunk)
  · obtain ⟨chunk, hmember⟩ := htexts
    rw [ofRecord_texts hmember]
    exact .texts hmember h
  · have hrecord : Unfamiliar (.object members) := .object fun chunk hmember => htexts ⟨chunk, hmember⟩
    rw [ofRecord_unfamiliar hrecord]
    exact .unfamiliar hrecord h

/-- Records present the items that are found in them. -/
theorem records_iff {records items : List Value} :
    Records records items ↔ records.flatMap ofRecord = items := by
  constructor
  · intro h
    induction h with
    | nil => rfl
    | texts hmember _ ih => rw [List.flatMap_cons, ofRecord_texts hmember, ih]
    | page hpage _ ih => rw [List.flatMap_cons, ofRecord, page_iff.mp hpage, ih]
    | unfamiliar hrecord _ ih =>
      rw [List.flatMap_cons, ofRecord_unfamiliar hrecord, ih, List.nil_append]
  · rintro rfl
    induction records with
    | nil => exact .nil
    | cons record records ih =>
      rw [List.flatMap_cons]
      cases record with
      | object members => exact records_object members ih
      | array entries => exact .page (page_iff.mpr rfl) ih
      | null => exact .unfamiliar .null ih
      | bool b => exact .unfamiliar (.bool b) ih
      | number n => exact .unfamiliar (.number n) ih
      | string s => exact .unfamiliar (.string s) ih

/-- **Every answer presents one list of items**, and it is the list that is collected. -/
theorem presents_iff {answer : Value} {items : List Value} :
    Presents answer items ↔ (records answer).flatMap ofRecord = items := by
  constructor
  · intro h
    cases h with
    | records h => exact records_iff.mp h
    | nothing h =>
      unfold records
      split
      next rs => exact absurd rfl (h rs)
      next => rfl
  · rintro rfl
    cases answer with
    | array rs => exact .records (records_iff.mpr rfl)
    | null => exact .nothing nofun
    | bool b => exact .nothing nofun
    | number n => exact .nothing nofun
    | string s => exact .nothing nofun
    | object members => exact .nothing nofun

/-! ## What is kept -/

/-- What carries nothing is vain. -/
theorem vain_iff {item : Value} : Vain item ↔ item.isTruthy = false := by
  constructor
  · intro h
    cases h <;> rfl
  · intro h
    cases item with
    | null => exact .null
    | bool b =>
      cases b with
      | false => exact .no
      | true => cases h
    | number n =>
      cases n with
      | whole n =>
        obtain rfl : n = 0 := by simpa [Value.isTruthy, Json.Number.isZero] using h
        exact .zero
      | real x =>
        obtain ⟨negative, mantissa, exponent⟩ := x
        obtain rfl : mantissa = 0 := by
          simpa [Value.isTruthy, Json.Number.isZero, Decimal.Binary64.isZero] using h
        exact .realZero negative exponent
    | string s =>
      obtain rfl : s = "" := by simpa [Value.isTruthy] using h
      exact .string
    | array items =>
      obtain rfl : items = [] := by simpa [Value.isTruthy] using h
      exact .array
    | object members =>
      obtain rfl : members = [] := by simpa [Value.isTruthy] using h
      exact .object

instance : DecidablePred Vain := fun _ => decidable_of_iff _ vain_iff.symm

/-- An answer, and its fragments: the items that it presents, without those that are vain. -/
def Yields (answer : Value) (fragments : List Value) : Prop :=
  ∃ items, Presents answer items ∧ fragments = items.filter fun item => ¬ Vain item

/-- **The fragments of an answer** are the items that are kept. -/
theorem yields_iff {answer : Value} {fragments : List Value} :
    Yields answer fragments ↔ fragments = all answer := by
  have hkept : (fun item : Value => decide ¬ Vain item) = Value.isTruthy := by
    funext item
    simp only [vain_iff, decide_not, Bool.decide_eq_false, Bool.not_not]
  rw [Yields, hkept, all]
  constructor
  · rintro ⟨items, hitems, rfl⟩
    rw [presents_iff.mp hitems]
  · rintro rfl
    exact ⟨_, presents_iff.mpr rfl, rfl⟩

/-! ## Two shapes, one text -/

/-- The text of an answer is told by its fragments. -/
theorem flatten_yields {answer : Value} {fragments : List Value} (h : Yields answer fragments) :
    flatten answer = String.ofList (Text.trim (joinLines (fragments.map chars))) := by
  rw [yields_iff.mp h]
  rfl

/-- **The shapes agree.** However a list of items is cut into records, whichever of the two shapes each
of them has, and whatever unfamiliar data stands between the records and between the lines, the text is
that of a single mapping that lists the items: those that are not vain, as they are shown, on lines of
their own and trimmed as a whole. -/
theorem shapes_agree {records items : List Value} (h : Records records items) :
    flatten (.array records) = flatten (.array [.object [(textsKey, .array items)]])
      ∧ flatten (.array records) = String.ofList (Text.trim (joinLines
          ((items.filter fun item => ¬ Vain item).map chars))) := by
  have hsingle : Records [.object [(textsKey, .array items)]] (items ++ []) :=
    .texts (List.lookup_cons_self ..) .nil
  rw [List.append_nil] at hsingle
  have htext := flatten_yields ⟨items, .records h, rfl⟩
  exact ⟨htext.trans (flatten_yields ⟨items, .records hsingle, rfl⟩).symm, htext⟩

/-- Records of both shapes with unfamiliar data at both levels. -/
def mixedRecords : List Value :=
  [.null, .object [("rec_scores", .null), (textsKey, .array [.string "a", .null])],
    .array [.string "stray", .array [.null, .array [.number (.whole 3), .bool true], .null],
      .array [.null, .array []], .array [.null]],
    .object [(textsKey, .string "none")], .array [], .object [(textsKey, .array [])]]

/-- The mixed records present three items, one of them vain, and have the text of the mapping that lists
them. -/
theorem shapes_agree_mixed :
    let items := [.string "a", .null, .number (.whole 3)]
    Records mixedRecords items
      ∧ flatten (.array mixedRecords) = flatten (.array [.object [(textsKey, .array items)]])
      ∧ flatten (.array mixedRecords) = "a\n3" := by
  intro items
  have hrecords : Records mixedRecords items := records_iff.mpr rfl
  exact ⟨hrecords, (shapes_agree hrecords).1, by decide⟩

end ImageText.Fragment
