import ImageText.Json.Skip
import ImageText.Proofs.Json.Scalar

/-!
# What is passed over

A value that nobody asked for is passed over by a machine with a stack of open brackets. It builds
nothing, so it asks for less than the reader of values does: numbers may be too great, halves of
surrogate pairs may stand alone, and there is no limit on the depth. What it asks for is the grammar, and
`Layout.Grammatical` is that: a layout whose leaves are words, figures and rows of atoms.

> `passValue_layout`: a layout of the grammar is passed over, and exactly its bytes are.

The machine takes its steps from a supply that depends on the length of the document. `passed_layout`
says that a layout takes no more than two steps for each of its bytes: every bracket and comma is a byte
of its own and takes two, and so is every scalar.
-/

namespace ImageText.Json

/-! ## Layouts of the grammar -/

/-- A layout whose leaves are words, numbers and literals, whatever they mean. -/
inductive Layout.Grammatical : Layout → Prop
  | null : Grammatical (.scalar .null)
  | bool (b : Bool) : Grammatical (.scalar (.bool b))
  | figure (f : Figure) : Grammatical (.scalar (.figure f))
  | string (row : List Atom) : Grammatical (.scalar (.string (.atoms row)))
  | array (inner : Gap) (items : List (Item Layout)) (values : ∀ i ∈ items, Grammatical i.value) :
      Grammatical (.array inner items)
  | object (inner : Gap) (entries : List (Entry Layout))
      (labels : ∀ e ∈ entries, ∃ row, e.label = .atoms row)
      (values : ∀ e ∈ entries, Grammatical e.item.value) : Grammatical (.object inner entries)

/-! ## Literals -/

theorem passLiteralFrom_plain (bs : Bytes) (h : ∀ b ∈ bs, b ≠ quoteByte ∧ b ≠ slashByte ∧ ¬ b < 0x20)
    (rest : Bytes) : passLiteralFrom .text (bs ++ rest) = passLiteralFrom .text rest := by
  induction bs with
  | nil => rfl
  | cons b bs ih =>
    obtain ⟨hquote, hslash, hcontrol⟩ := h b (List.mem_cons_self ..)
    rw [List.cons_append, passLiteralFrom, if_neg hquote, if_neg hslash, if_neg hcontrol]
    exact ih fun b' hb' => h b' (List.mem_cons_of_mem _ hb')

theorem passLiteralFrom_short {letter b : UInt8} (h : shortEscape? letter = some b) (rest : Bytes) :
    passLiteralFrom .text (slashByte :: letter :: rest) = passLiteralFrom .text rest := by
  have hletter : (shortEscape? letter).isSome = true := by
    rw [h]
    rfl
  rw [passLiteralFrom, if_neg (by decide), if_pos rfl, passLiteralFrom.eq_def]
  simp only [if_pos hletter]

theorem passLiteralFrom_unit {a b c d : UInt8} {n : Nat} (h : unitValue? a b c d = some n)
    (rest : Bytes) :
    passLiteralFrom .text (slashByte :: unitLetter :: a :: b :: c :: d :: rest)
      = passLiteralFrom .text rest := by
  unfold unitValue? at h
  split at h
  next va vb vc vd ha hb hc hd =>
    have hletter : ¬ (shortEscape? unitLetter).isSome = true := by decide
    rw [passLiteralFrom, if_neg (by decide), if_pos rfl, passLiteralFrom.eq_def]
    simp only [if_neg hletter, if_true]
    -- one step for each digit, and the fourth closes the unit
    simp only [passLiteralFrom, ha, hb, hc, hd, Option.bind_some, Option.map_some, Nat.reduceLT,
      Nat.reduceAdd, if_true, if_false]
  next => cases h

/-- Atoms are passed over, also halves of surrogate pairs. -/
theorem passLiteral_atoms (row : List Atom) (rest : Bytes) :
    passLiteral (row.flatMap Atom.bytes ++ quoteByte :: rest) = .ok ((), rest) := by
  rw [passLiteral]
  induction row with
  | nil => rw [List.flatMap_nil, List.nil_append, passLiteralFrom, if_pos rfl]
  | cons atom row ih =>
    rw [List.flatMap_cons, List.append_assoc]
    cases atom with
    | raw c h => rw [Atom.bytes, passLiteralFrom_plain _ (encodeChar_plain h), ih]
    | short letter b h =>
      rw [Atom.bytes, List.cons_append, List.cons_append, List.nil_append, passLiteralFrom_short h, ih]
    | unit a b c d n h => exact (passLiteralFrom_unit h _).trans ih

/-! ## Scalars and keys -/

theorem passScalar_word {first : UInt8} {others : Bytes} {v : Value}
    (h : wordOf? first = some (v, others)) (rest : Bytes) :
    passScalar first (others ++ rest) = .ok ((), rest) := by
  rw [passScalar, h]
  exact readWord_append others rest

theorem passScalar_figure (f : Figure) {rest : Bytes} (hrest : Ends rest) :
    passScalar (Scalar.figure f).first ((Scalar.figure f).others ++ rest) = .ok ((), rest) := by
  obtain ⟨b, more, hb, hstart⟩ := f.bytes_cons
  have hread := readNumeral_figure f rest hrest
  rw [hb, List.cons_append] at hread
  show passScalar (f.bytes.headD 0) (f.bytes.tail ++ rest) = _
  rw [hb, List.headD_cons, List.tail_cons, passScalar, (startsNumber_plain hstart).1]
  simp only [hstart, if_true, passNumeral, hread]

theorem passScalar_atoms (row : List Atom) (rest : Bytes) :
    passScalar quoteByte ((Label.atoms row).others ++ rest) = .ok ((), rest) := by
  have hword : wordOf? quoteByte = none := by decide
  have hnumber : ¬ startsNumber quoteByte = true := by decide
  rw [passScalar, hword]
  simp only [if_neg hnumber, if_true]
  rw [Label.atoms, List.append_assoc]
  exact passLiteral_atoms row rest

/-- A key and its colon, with the gaps around them. -/
theorem passKey_atoms {α : Type} (g : Gap) (e : Entry α) {row : List Atom}
    (hlabel : e.label = .atoms row) (rest : Bytes) :
    passKey (g.bytes ++ quoteByte :: (e.label.others ++ (e.joint ++ rest)))
      = .ok ((), e.item.before.bytes ++ rest) := by
  rw [passKey, skipGap_gap, skipGap_cons (by decide), hlabel]
  simp only [if_true]
  rw [Label.atoms, List.append_assoc]
  simp only [List.cons_append, List.nil_append, passLiteral_atoms]
  exact readColon_joint e rest

/-! ## Steps of the machine -/

section Steps

variable {bracket : Bracket} {brackets outer : List Bracket}

theorem passFrom_value (fuel : Nat) (input : Bytes) :
    passFrom (fuel + 1) .value brackets input = match skipGap input with
      | [] => .error (.upon .endInValue [])
      | b :: rest =>
        if b = openArray then passFrom fuel .first (.array :: brackets) rest
        else if b = openObject then passFrom fuel .first (.object :: brackets) rest
        else match passScalar b rest with
          | .error stop => .error stop
          | .ok (_, rest) => passFrom fuel .separator brackets rest := rfl

theorem passFrom_separator (fuel : Nat) (input : Bytes) :
    passFrom (fuel + 1) .separator (bracket :: outer) input = match skipGap input with
      | [] => .error (.upon bracket.endFault [])
      | b :: rest =>
        if b = commaByte then passFrom fuel .item (bracket :: outer) rest
        else if b = bracket.closing then passFrom fuel .separator outer rest
        else .error (.upon bracket.commaFault (b :: rest)) := rfl

theorem passFrom_opened (fuel : Nat) (input : Bytes) :
    passFrom (fuel + 1) .first (bracket :: outer) input = match skipGap input with
      | [] => .error (.upon bracket.endFault [])
      | b :: rest =>
        if b = bracket.closing then passFrom fuel .separator outer rest
        else passFrom fuel .item (bracket :: outer) (b :: rest) := rfl

theorem passFrom_item (fuel : Nat) (input : Bytes) :
    passFrom (fuel + 1) .item (.array :: outer) input
      = passFrom fuel .value (.array :: outer) input := rfl

theorem passFrom_member (fuel : Nat) (input : Bytes) :
    passFrom (fuel + 1) .item (.object :: outer) input = match passKey input with
      | .error stop => .error stop
      | .ok (_, rest) => passFrom fuel .value (.object :: outer) rest := rfl

theorem passFrom_scalar {s : Scalar} {rest : Bytes}
    (h : passScalar s.first (s.others ++ rest) = .ok ((), rest)) (g : Gap) (fuel : Nat) :
    passFrom (fuel + 1) .value brackets (g.bytes ++ (s.first :: s.others ++ rest))
      = passFrom fuel .separator brackets rest := by
  obtain ⟨hgap, harray, hobject, -⟩ := s.first_plain
  rw [passFrom_value, skipGap_gap, List.cons_append, skipGap_cons hgap]
  simp only [if_neg harray, if_neg hobject, h]

theorem passFrom_openArray (g : Gap) (fuel : Nat) (rest : Bytes) :
    passFrom (fuel + 1) .value brackets (g.bytes ++ openArray :: rest)
      = passFrom fuel .first (.array :: brackets) rest := by
  rw [passFrom_value, skipGap_gap, skipGap_cons (by decide)]
  simp only [if_true]

theorem passFrom_openObject (g : Gap) (fuel : Nat) (rest : Bytes) :
    passFrom (fuel + 1) .value brackets (g.bytes ++ openObject :: rest)
      = passFrom fuel .first (.object :: brackets) rest := by
  rw [passFrom_value, skipGap_gap, skipGap_cons (by decide)]
  simp only [if_neg (show ¬ openObject = openArray by decide), if_true]

theorem isGap_closing (bracket : Bracket) : isGap bracket.closing = false := by
  cases bracket <;> rfl

theorem comma_ne_closing (bracket : Bracket) : commaByte ≠ bracket.closing := by
  cases bracket <;> decide

theorem passFrom_empty (g : Gap) (fuel : Nat) (rest : Bytes) :
    passFrom (fuel + 1) .first (bracket :: outer) (g.bytes ++ bracket.closing :: rest)
      = passFrom fuel .separator outer rest := by
  rw [passFrom_opened, skipGap_gap, skipGap_cons (isGap_closing bracket)]
  simp only [if_true]

theorem passFrom_first {input rest : Bytes} {b : UInt8} (h : skipGap input = b :: rest)
    (hclosing : b ≠ bracket.closing) (fuel : Nat) :
    passFrom (fuel + 1) .first (bracket :: outer) input
      = passFrom fuel .item (bracket :: outer) (b :: rest) := by
  rw [passFrom_opened, h]
  simp only [if_neg hclosing]

theorem passFrom_comma (g : Gap) (fuel : Nat) (rest : Bytes) :
    passFrom (fuel + 1) .separator (bracket :: outer) (g.bytes ++ commaByte :: rest)
      = passFrom fuel .item (bracket :: outer) rest := by
  rw [passFrom_separator, skipGap_gap, skipGap_cons (by decide)]
  simp only [if_true]

theorem passFrom_close (g : Gap) (fuel : Nat) (rest : Bytes) :
    passFrom (fuel + 1) .separator (bracket :: outer) (g.bytes ++ bracket.closing :: rest)
      = passFrom fuel .separator outer rest := by
  rw [passFrom_separator, skipGap_gap, skipGap_cons (isGap_closing bracket)]
  simp only [if_neg (comma_ne_closing bracket).symm, if_true]

theorem passFrom_key {α : Type} (g : Gap) (e : Entry α) {row : List Atom}
    (hlabel : e.label = .atoms row) (fuel : Nat) (rest : Bytes) :
    passFrom (fuel + 1) .item (.object :: outer)
        (g.bytes ++ quoteByte :: (e.label.others ++ (e.joint ++ rest)))
      = passFrom fuel .value (.object :: outer) (e.item.before.bytes ++ rest) := by
  rw [passFrom_member, passKey_atoms g e hlabel]

end Steps

/-! ## The walks -/

/-- What stands between two commas is passed over, without the gaps around it. -/
structure Passed (bracket : Bracket) (text : Bytes) : Prop where
  cons : ∃ b more, text = b :: more ∧ isGap b = false ∧ b ≠ bracket.closing
  steps : ∃ n ≤ 2 * text.length + 1, ∀ (g : Gap) (fuel : Nat) (outer : List Bracket) (rest : Bytes),
    Ends rest → passFrom (n + fuel) .item (bracket :: outer) (g.bytes ++ (text ++ rest))
      = passFrom fuel .separator (bracket :: outer) rest

section Walks

variable {bracket : Bracket}

theorem closing_eq (bracket : Bracket) :
    bracket.closing = closeArray ∨ bracket.closing = closeObject := by
  cases bracket
  · exact Or.inl rfl
  · exact Or.inr rfl

/-- From a comma, or the closing bracket, to behind the closing bracket. -/
theorem passFrom_following (pieces : List (Item Bytes)) (h : ∀ p ∈ pieces, Passed bracket p.value) :
    ∃ n, n + 1 ≤ 2 * (following bracket.closing (pieces.map (Item.text id))).length
      ∧ ∀ (g : Gap) (fuel : Nat) (outer : List Bracket) (rest : Bytes),
        passFrom (n + fuel) .separator (bracket :: outer)
            (g.bytes ++ (following bracket.closing (pieces.map (Item.text id)) ++ rest))
          = passFrom fuel .separator outer rest := by
  induction pieces with
  | nil =>
    refine ⟨1, Nat.le_refl _, ?_⟩
    intro g fuel outer rest
    rw [Nat.add_comm]
    exact passFrom_close g fuel rest
  | cons p pieces ih =>
    obtain ⟨m, hm, hpass⟩ := (h p (List.mem_cons_self ..)).steps
    obtain ⟨k, hk, hwalk⟩ := ih fun q hq => h q (List.mem_cons_of_mem _ hq)
    refine ⟨m + k + 1, ?_, ?_⟩
    · rw [List.map_cons, following, List.length_cons, List.length_append, Item.text,
        List.length_append, List.length_append, id]
      omega
    · intro g fuel outer rest
      have hends := ends_gap p.behind (ends_following (closing_eq bracket)
        (pieces.map (Item.text id)) rest)
      rw [List.map_cons, following, Item.text, show m + k + 1 + fuel = m + (k + fuel) + 1 by omega]
      simp only [List.cons_append, List.append_assoc, id]
      rw [passFrom_comma, hpass _ _ _ _ hends, hwalk]

/-- From behind the opening bracket to behind the closing one. -/
theorem passFrom_enclosed (pieces : List (Item Bytes)) (h : ∀ p ∈ pieces, Passed bracket p.value) :
    ∃ n ≤ 2 * (enclosed bracket.closing (pieces.map (Item.text id))).length + 1,
      ∀ (g : Gap) (fuel : Nat) (outer : List Bracket) (rest : Bytes),
        passFrom (n + fuel) .first (bracket :: outer)
            (g.bytes ++ (enclosed bracket.closing (pieces.map (Item.text id)) ++ rest))
          = passFrom fuel .separator outer rest := by
  cases pieces with
  | nil =>
    refine ⟨1, by omega, ?_⟩
    intro g fuel outer rest
    rw [Nat.add_comm]
    exact passFrom_empty g fuel rest
  | cons p pieces =>
    have hp := h p (List.mem_cons_self ..)
    obtain ⟨m, hm, hpass⟩ := hp.steps
    obtain ⟨k, hk, hwalk⟩ := passFrom_following pieces fun q hq => h q (List.mem_cons_of_mem _ hq)
    refine ⟨m + k + 1, ?_, ?_⟩
    · rw [List.map_cons, enclosed, List.length_append, Item.text, List.length_append,
        List.length_append, id]
      omega
    · intro g fuel outer rest
      have hends := ends_gap p.behind (ends_following (closing_eq bracket)
        (pieces.map (Item.text id)) rest)
      have hitem := hpass .none (k + fuel) outer _ hends
      obtain ⟨b, more, htext, hgap, hclosing⟩ := hp.cons
      rw [List.map_cons, enclosed, Item.text, show m + k + 1 + fuel = m + (k + fuel) + 1 by omega]
      simp only [List.append_assoc, id]
      -- the gap behind the bracket and the one before the item are one
      have hskip : ∀ ahead, skipGap (g.bytes ++ (p.before.bytes ++ (p.value ++ ahead)))
          = b :: (more ++ ahead) := by
        intro ahead
        rw [skipGap_gap, skipGap_gap, htext, List.cons_append, skipGap_cons hgap]
      rw [passFrom_first (hskip _) hclosing, ← List.cons_append, ← htext]
      exact hitem.trans (hwalk _ _ _ _)

end Walks

/-! ## A whole value -/

/-- A value is passed over in a number of steps, with a gap before it. -/
def Layout.Passed (l : Layout) : Prop :=
  ∃ n ≤ 2 * l.bytes.length, ∀ (g : Gap) (fuel : Nat) (brackets : List Bracket) (rest : Bytes),
    Ends rest → passFrom (n + fuel) .value brackets (g.bytes ++ (l.bytes ++ rest))
      = passFrom fuel .separator brackets rest

theorem passed_scalar {s : Scalar}
    (h : ∀ rest, Ends rest → passScalar s.first (s.others ++ rest) = .ok ((), rest)) :
    (Layout.scalar s).Passed := by
  refine ⟨1, ?_, ?_⟩
  · rw [Layout.bytes, List.length_cons]
    omega
  · intro g fuel brackets rest hrest
    rw [Nat.add_comm, Layout.bytes]
    exact passFrom_scalar (h rest hrest) g fuel

/-- An item stands alone between two commas. -/
theorem passed_item {l : Layout} (h : l.Passed) : Passed .array l.bytes := by
  obtain ⟨n, hn, hpass⟩ := h
  refine ⟨l.bytes_cons, n + 1, by omega, ?_⟩
  intro g fuel outer rest hrest
  rw [show n + 1 + fuel = n + fuel + 1 by omega, passFrom_item]
  exact hpass g fuel _ rest hrest

/-- An entry without the gaps around it. -/
def Entry.core (e : Entry Layout) : Bytes :=
  quoteByte :: (e.label.others ++ (e.joint ++ e.item.value.bytes))

theorem passed_entry {e : Entry Layout} {row : List Atom} (hlabel : e.label = .atoms row)
    (h : e.item.value.Passed) : Passed .object e.core := by
  obtain ⟨n, hn, hpass⟩ := h
  refine ⟨⟨quoteByte, _, rfl, by decide, by decide⟩, n + 1, ?_, ?_⟩
  · rw [Entry.core, List.length_cons, List.length_append, List.length_append]
    omega
  · intro g fuel outer rest hrest
    rw [show n + 1 + fuel = n + fuel + 1 by omega, Entry.core]
    simp only [List.cons_append, List.append_assoc]
    rw [passFrom_key g e hlabel]
    exact hpass e.item.before fuel _ rest hrest

/-- What stands between brackets of one kind is passed over if every piece of it is. -/
theorem passed_between (bracket : Bracket) {opening : UInt8}
    (hopen : ∀ (g : Gap) (fuel : Nat) (brackets : List Bracket) (rest : Bytes),
      passFrom (fuel + 1) .value brackets (g.bytes ++ opening :: rest)
        = passFrom fuel .first (bracket :: brackets) rest)
    (inner : Gap) (pieces : List (Item Bytes)) (h : ∀ p ∈ pieces, Passed bracket p.value) {l : Layout}
    (hl : l.bytes
      = opening :: (inner.bytes ++ enclosed bracket.closing (pieces.map (Item.text id)))) :
    l.Passed := by
  obtain ⟨n, hn, hwalk⟩ := passFrom_enclosed pieces h
  refine ⟨n + 1, ?_, ?_⟩
  · rw [hl, List.length_cons, List.length_append]
    omega
  · intro g fuel brackets rest _
    rw [show n + 1 + fuel = n + fuel + 1 by omega, hl, List.cons_append, hopen, List.append_assoc]
    exact hwalk inner fuel brackets rest

/-- **A layout of the grammar is passed over**, in no more than two steps for each of its bytes. The
induction is on the grammar. -/
theorem passed_layout {l : Layout} (h : l.Grammatical) : l.Passed := by
  induction h with
  | null => exact passed_scalar fun rest _ => passScalar_word rfl rest
  | bool b => cases b <;> exact passed_scalar fun rest _ => passScalar_word rfl rest
  | figure f => exact passed_scalar fun rest hrest => passScalar_figure f hrest
  | string row => exact passed_scalar fun rest _ => passScalar_atoms row rest
  | array inner items values ih =>
    refine passed_between .array (fun g fuel _ rest => passFrom_openArray g fuel rest) inner
      (items.map fun i => ⟨i.before, i.value.bytes, i.behind⟩) ?_ ?_
    · intro p hp
      obtain ⟨i, hi, rfl⟩ := List.mem_map.mp hp
      exact passed_item (ih i hi)
    · rw [Layout.bytes, itemTexts_eq, List.map_map]
      rfl
  | object inner entries labels values ih =>
    refine passed_between .object (fun g fuel _ rest => passFrom_openObject g fuel rest) inner
      (entries.map fun e => ⟨e.before, e.core, e.item.behind⟩) ?_ ?_
    · intro p hp
      obtain ⟨e, he, rfl⟩ := List.mem_map.mp hp
      obtain ⟨row, hlabel⟩ := labels e he
      exact passed_entry hlabel (ih e he)
    · have htext : Item.text id ∘ (fun e : Entry Layout => ⟨e.before, e.core, e.item.behind⟩)
          = Entry.text Layout.bytes := by
        funext e
        simp only [Entry.text, Entry.body, Function.comp, Item.text, Entry.core, id,
          List.append_assoc, List.cons_append]
      rw [Layout.bytes, entryTexts_eq, List.map_map, htext]
      rfl

/-- **Exactly the value is passed over**, in every document that it is part of. -/
theorem passValue_layout {l : Layout} (h : l.Grammatical) {size : Nat} (hsize : l.bytes.length ≤ size)
    (g : Gap) {rest : Bytes} (hrest : Ends rest) :
    passValue size (g.bytes ++ (l.bytes ++ rest)) = .ok ((), rest) := by
  obtain ⟨n, hn, hpass⟩ := passed_layout h
  rw [passValue, show 3 * size + 3 = n + (3 * size + 2 - n + 1) by omega, hpass g _ _ _ hrest,
    passFrom]

end ImageText.Json
