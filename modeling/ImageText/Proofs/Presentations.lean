import ImageText.Options.Reader
import ImageText.Proofs.Json.Compact
import ImageText.Proofs.Json.Skip

/-!
# Presentations of options

Options can be presented in many ways: the members in any order, keys and language in any spelling, any
gaps, and any other members between them. The reader follows the document and keeps a draft with four
slots. What an entry does to one slot does not depend on the other three (`foldlM_enter`), so a slot can
be followed on its own through the whole object, and it ends up filled exactly if one entry has its key
(`slots_start`).

> `decode_object`: an object is read as options if and only if it `Presents` them, which is said without
> the reader: each of the four keys stands once, with the value of that member.

What the options are printed as is one of these objects, so nothing is lost on the way to the engine and
back.

> `decode_presentations`: that, and what is refused, and the array of the four values.
-/

namespace ImageText.Options

open Json

/-! ## One value -/

/-- The text that a value is, if it is one. -/
def textOf? : Option Value → Option String
  | some (.string s) => some s
  | _ => none

/-- The truth value that a value is, if it is one. -/
def flagOf? : Option Value → Option Bool
  | some (.bool b) => some b
  | _ => none

theorem textOf?_eq_some {v? : Option Value} {s : String} :
    textOf? v? = some s ↔ v? = some (.string s) := by
  unfold textOf?
  split
  · simp only [Option.some.injEq, Value.string.injEq]
  next h =>
    constructor
    · exact nofun
    · intro e
      exact absurd e (h s)

theorem flagOf?_eq_some {v? : Option Value} {b : Bool} :
    flagOf? v? = some b ↔ v? = some (.bool b) := by
  unfold flagOf?
  split
  · simp only [Option.some.injEq, Value.bool.injEq]
  next h =>
    constructor
    · exact nofun
    · intro e
      exact absurd e (h b)

/-- A reader of one kind of value: it takes what `kind?` takes of the value that is there. -/
def Takes {α : Type} (read : Bytes → Step α) (kind? : Option Value → Option α) : Prop :=
  ∀ (g : Gap) {l : Layout}, l.Grammatical → ∀ rest, Ends rest →
    (read (g.bytes ++ (l.bytes ++ rest))).toOption
      = (kind? (l.within bracketBudget)).map (·, rest)

/-- What a layout of the grammar offers to a reader of one kind of value. -/
inductive Offer : Layout → Prop
  | text (row : List Atom) : Offer (.scalar (.string (.atoms row)))
  | flag (b : Bool) : Offer (.scalar (.bool b))
  | neither {l : Layout} (first : UInt8) (others : Bytes) (bytes : l.bytes = first :: others)
      (gap : isGap first = false) (quote : first ≠ quoteByte)
      (word : ∀ flag word, wordOf? first ≠ some (.bool flag, word))
      (means : textOf? (l.within bracketBudget) = none ∧ flagOf? (l.within bracketBudget) = none) :
      Offer l

theorem not_flag {b : UInt8} (h : wordOf? b = none) (flag : Bool) (word : Bytes) :
    wordOf? b ≠ some (.bool flag, word) := by
  rw [h]
  exact nofun

theorem offer_of_grammatical {l : Layout} (h : l.Grammatical) : Offer l := by
  cases h with
  | null =>
    refine .neither _ _ (by rw [Layout.bytes]) (by decide) (by decide) ?_ ⟨rfl, rfl⟩
    intro flag word e
    cases (show some (Value.null, utf8 "ull") = _ from e)
  | bool b => exact .flag b
  | string row => exact .text row
  | figure f =>
    -- a figure begins like no other value
    obtain ⟨b, more, hb, hstart⟩ := f.bytes_cons
    obtain ⟨hword, hgap, -⟩ := startsNumber_plain hstart
    refine .neither b more ?_ hgap ?_ (not_flag hword) ?_
    · rw [Layout.bytes, Scalar.bytes_figure, hb]
    · intro e
      rw [e] at hstart
      cases hstart
    · show textOf? (f.numeral.value.toOption.map .number) = none
        ∧ flagOf? (f.numeral.value.toOption.map .number) = none
      cases f.numeral.value <;> exact ⟨rfl, rfl⟩
  | array inner items values =>
    refine .neither _ _ (by rw [Layout.bytes]) (by decide) (by decide) (not_flag (by decide)) ?_
    rw [bracketBudget, Layout.within, if_neg (by decide)]
    cases items.mapM fun i : Item Layout => i.value.within 127 <;> exact ⟨rfl, rfl⟩
  | object inner entries labels values =>
    refine .neither _ _ (by rw [Layout.bytes]) (by decide) (by decide) (not_flag (by decide)) ?_
    rw [bracketBudget, Layout.within, if_neg (by decide)]
    cases entries.foldlM (Layout.enter fun l => l.within 127) [] <;> exact ⟨rfl, rfl⟩

/-- The first byte of a scalar is found behind a gap. -/
theorem skipGap_scalar (g : Gap) (s : Scalar) (rest : Bytes) :
    skipGap (g.bytes ++ ((Layout.scalar s).bytes ++ rest)) = s.first :: (s.others ++ rest) := by
  rw [skipGap_gap, Layout.bytes, List.cons_append, skipGap_cons s.first_plain.1]

theorem takes_readText : Takes readText textOf? := by
  intro g l h rest hrest
  rw [readText]
  cases offer_of_grammatical h with
  | text row =>
    rw [skipGap_scalar]
    simp only [Scalar.string, if_true]
    rw [(Label.atoms row).reads rest]
    show _ = (textOf? ((Label.atoms row).text?.map .string)).map (·, rest)
    cases (Label.atoms row).text? <;> rfl
  | flag b =>
    rw [skipGap_scalar]
    cases b <;> rfl
  | neither first others hbytes hgap hquote hword hmeans =>
    rw [hbytes, skipGap_gap, List.cons_append, skipGap_cons hgap, hmeans.1]
    simp only [if_neg hquote]
    rfl

theorem takes_readFlag : Takes readFlag flagOf? := by
  intro g l h rest hrest
  rw [readFlag]
  cases offer_of_grammatical h with
  | text row =>
    rw [skipGap_scalar]
    show none = (flagOf? ((Label.atoms row).text?.map .string)).map (·, rest)
    cases (Label.atoms row).text? <;> rfl
  | flag b =>
    rw [skipGap_scalar]
    cases b with
    | true =>
      show ((readWord (utf8 "rue") (utf8 "rue" ++ rest)).map _).toOption = _
      rw [readWord_append]
      rfl
    | false =>
      show ((readWord (utf8 "alse") (utf8 "alse" ++ rest)).map _).toOption = _
      rw [readWord_append]
      rfl
  | neither first others hbytes hgap hquote hword hmeans =>
    rw [hbytes, skipGap_gap, List.cons_append, skipGap_cons hgap, hmeans.2]
    dsimp only
    split
    next flag word h => exact absurd h (hword flag word)
    next => rfl

/-! ## One member -/

/-- What an entry does to what has been given of a member. -/
def slot {α : Type} (name : String) (kind? : Option Value → Option α) (given : Option α)
    (key? : Option String) (v? : Option Value) : Option (Option α) :=
  if key? = some name then if given.isSome then none else (kind? v?).map some else some given

/-- What an entry does to the members that have been read. -/
def take (d : Draft) (key? : Option String) (v? : Option Value) : Option Draft := do
  let lang ← slot langKey textOf? d.lang key? v?
  let orientation ← slot orientationKey flagOf? d.orientation key? v?
  let unwarping ← slot unwarpingKey flagOf? d.unwarping key? v?
  let lineOrientation ← slot lineOrientationKey flagOf? d.lineOrientation key? v?
  return ⟨lang, orientation, unwarping, lineOrientation⟩

theorem once_entry {α : Type} {read : Bytes → Step α} {kind? : Option Value → Option α}
    (htakes : Takes read kind?) (name : String) (given : Option α) {e : Entry Layout}
    (h : e.item.value.Grammatical) {rest : Bytes} (hrest : Ends rest) :
    (Draft.once name given read (e.joint ++ (e.item.value.bytes ++ rest))).toOption
      = (slot name kind? given (some name) (e.item.value.within bracketBudget)).map (·, rest) := by
  rw [Draft.once, slot, if_pos rfl]
  by_cases hgiven : given.isSome = true
  · rw [if_pos hgiven, if_pos hgiven]
    rfl
  · rw [if_neg hgiven, if_neg hgiven, readColon_joint]
    dsimp only
    rw [toOption_map, htakes e.item.before h rest hrest]
    cases kind? (e.item.value.within bracketBudget) <;> rfl

theorem slot_other {α : Type} {name key : String} (h : key ≠ name) (kind? : Option Value → Option α)
    (given : Option α) (v? : Option Value) : slot name kind? given (some key) v? = some given :=
  if_neg fun e => h (Option.some.inj e)

/-- The four keys are four. -/
theorem keys_apart :
    langKey ≠ orientationKey ∧ langKey ≠ unwarpingKey ∧ langKey ≠ lineOrientationKey
      ∧ orientationKey ≠ unwarpingKey ∧ orientationKey ≠ lineOrientationKey
      ∧ unwarpingKey ≠ lineOrientationKey := by
  decide

/-- **One entry does what it should**: under one of the four keys it fills its slot, and under any other
it is passed over. -/
theorem entry_layout {size : Nat} (d : Draft) (key : String) {e : Entry Layout}
    (h : e.item.value.Grammatical) (hsize : e.item.value.bytes.length ≤ size) {rest : Bytes}
    (hrest : Ends rest) :
    (d.entry size key (e.joint ++ (e.item.value.bytes ++ rest))).toOption
      = (take d (some key) (e.item.value.within bracketBudget)).map (·, rest) := by
  obtain ⟨hlo, hlu, hll, hou, hol, hul⟩ := keys_apart
  unfold Draft.entry take
  by_cases hlang : key = langKey
  · subst hlang
    rw [if_pos rfl, slot_other hlo, slot_other hlu, slot_other hll]
    refine (toOption_map _ fun x => { d with lang := x }).trans ?_
    rw [once_entry takes_readText langKey d.lang h hrest]
    cases slot langKey textOf? d.lang (some langKey) (e.item.value.within bracketBudget) <;> rfl
  rw [if_neg hlang, slot_other hlang]
  by_cases horientation : key = orientationKey
  · subst horientation
    rw [if_pos rfl, slot_other hou, slot_other hol]
    refine (toOption_map _ fun x => { d with orientation := x }).trans ?_
    rw [once_entry takes_readFlag orientationKey d.orientation h hrest]
    cases slot orientationKey flagOf? d.orientation (some orientationKey)
      (e.item.value.within bracketBudget) <;> rfl
  rw [if_neg horientation, slot_other horientation]
  by_cases hunwarping : key = unwarpingKey
  · subst hunwarping
    rw [if_pos rfl, slot_other hul]
    refine (toOption_map _ fun x => { d with unwarping := x }).trans ?_
    rw [once_entry takes_readFlag unwarpingKey d.unwarping h hrest]
    cases slot unwarpingKey flagOf? d.unwarping (some unwarpingKey)
      (e.item.value.within bracketBudget) <;> rfl
  rw [if_neg hunwarping, slot_other hunwarping]
  by_cases hline : key = lineOrientationKey
  · subst hline
    rw [if_pos rfl]
    refine (toOption_map _ fun x => { d with lineOrientation := x }).trans ?_
    rw [once_entry takes_readFlag lineOrientationKey d.lineOrientation h hrest]
    cases slot lineOrientationKey flagOf? d.lineOrientation (some lineOrientationKey)
      (e.item.value.within bracketBudget) <;> rfl
  · rw [if_neg hline, slot_other hline, readColon_joint]
    dsimp only
    rw [passValue_layout h hsize e.item.before hrest]
    rfl

/-! ## All members -/

/-- The entries under a key. -/
def under (name : String) (entries : List (Entry Layout)) : List (Entry Layout) :=
  entries.filter fun e => e.label.text? = some name

/-- What a row of entries does to what has been given of a member. -/
def slots {α : Type} (name : String) (kind? : Option Value → Option α) (given : Option α)
    (entries : List (Entry Layout)) : Option (Option α) :=
  entries.foldlM (fun x e => slot name kind? x e.label.text? (e.item.value.within bracketBudget)) given

section Slots

variable {α : Type} {name : String} {kind? : Option Value → Option α}

theorem slots_cons {given y : Option α} {e : Entry Layout} {rest : List (Entry Layout)} :
    slots name kind? given (e :: rest) = some y
      ↔ ∃ x, slot name kind? given e.label.text? (e.item.value.within bracketBudget) = some x
        ∧ slots name kind? x rest = some y := by
  rw [slots, List.foldlM_cons]
  exact Option.bind_eq_some_iff

/-- What has been given is kept if and only if nothing more is given. -/
theorem slots_given {x : α} {y : Option α} (entries : List (Entry Layout)) :
    slots name kind? (some x) entries = some y ↔ under name entries = [] ∧ y = some x := by
  induction entries with
  | nil =>
    show some (some x) = some y ↔ _
    rw [Option.some.injEq, eq_comm]
    exact (and_iff_right rfl).symm
  | cons e rest ih =>
    rw [slots_cons, under, List.filter_cons]
    by_cases hkey : e.label.text? = some name
    · rw [slot, if_pos hkey, if_pos (show (some x).isSome = true from rfl),
        if_pos (decide_eq_true hkey)]
      exact iff_of_false (fun h => nomatch h.choose_spec.1) (fun h => nomatch h.1)
    · rw [slot, if_neg hkey, if_neg (fun h => hkey (of_decide_eq_true h)), ← under, ← ih]
      simp only [Option.some.injEq, exists_eq_left']

/-- Something is given exactly if it is given once. -/
theorem slots_start {x : α} (entries : List (Entry Layout)) :
    slots name kind? none entries = some (some x)
      ↔ ∃ e, under name entries = [e] ∧ kind? (e.item.value.within bracketBudget) = some x := by
  induction entries with
  | nil => exact iff_of_false (fun h => nomatch h) (fun h => nomatch h.choose_spec.1)
  | cons e rest ih =>
    rw [slots_cons, under, List.filter_cons]
    by_cases hkey : e.label.text? = some name
    · rw [slot, if_pos hkey, if_neg (show ¬ (none : Option α).isSome = true from nofun),
        if_pos (decide_eq_true hkey), ← under]
      cases hkind : kind? (e.item.value.within bracketBudget) with
      | none =>
        refine iff_of_false (fun h => nomatch h.choose_spec.1) ?_
        intro h
        obtain ⟨f, hf, hx⟩ := h
        rw [← (List.cons.inj hf).1, hkind] at hx
        cases hx
      | some z =>
        simp only [Option.map_some, Option.some.injEq, exists_eq_left', slots_given, List.cons.injEq]
        constructor
        · intro h
          exact ⟨e, ⟨rfl, h.1⟩, h.2 ▸ hkind⟩
        · intro h
          obtain ⟨f, ⟨rfl, hrest⟩, hx⟩ := h
          exact ⟨hrest, Option.some.inj (hx.symm.trans hkind)⟩
    · rw [slot, if_neg hkey, if_neg (fun h => hkey (of_decide_eq_true h)), ← under, ← ih]
      simp only [Option.some.injEq, exists_eq_left']

end Slots

theorem take_eq_some {d d' : Draft} {key? : Option String} {v? : Option Value} :
    take d key? v? = some d'
      ↔ slot langKey textOf? d.lang key? v? = some d'.lang
        ∧ slot orientationKey flagOf? d.orientation key? v? = some d'.orientation
        ∧ slot unwarpingKey flagOf? d.unwarping key? v? = some d'.unwarping
        ∧ slot lineOrientationKey flagOf? d.lineOrientation key? v? = some d'.lineOrientation := by
  unfold take
  cases slot langKey textOf? d.lang key? v? with
  | none => exact iff_of_false (fun h => nomatch h) (fun h => nomatch h.1)
  | some lang =>
    cases slot orientationKey flagOf? d.orientation key? v? with
    | none => exact iff_of_false (fun h => nomatch h) (fun h => nomatch h.2.1)
    | some orientation =>
      cases slot unwarpingKey flagOf? d.unwarping key? v? with
      | none => exact iff_of_false (fun h => nomatch h) (fun h => nomatch h.2.2.1)
      | some unwarping =>
        cases slot lineOrientationKey flagOf? d.lineOrientation key? v? with
        | none => exact iff_of_false (fun h => nomatch h) (fun h => nomatch h.2.2.2)
        | some lineOrientation =>
          obtain ⟨a, b, c, e⟩ := d'
          show some (Draft.mk lang orientation unwarping lineOrientation) = some ⟨a, b, c, e⟩ ↔ _
          simp only [Option.some.injEq, Draft.mk.injEq]

/-- What one entry of an object does, provided its key is a text. -/
def enter (d : Draft) (e : Entry Layout) : Option Draft :=
  e.label.text?.bind fun key => take d (some key) (e.item.value.within bracketBudget)

/-- **The members do not mind each other**: a row of entries is read if and only if every key is a text
and each of the four slots is filled for itself. -/
theorem foldlM_enter (entries : List (Entry Layout)) {d d' : Draft} :
    entries.foldlM enter d = some d'
      ↔ (∀ e ∈ entries, ∃ key, e.label.text? = some key)
        ∧ slots langKey textOf? d.lang entries = some d'.lang
        ∧ slots orientationKey flagOf? d.orientation entries = some d'.orientation
        ∧ slots unwarpingKey flagOf? d.unwarping entries = some d'.unwarping
        ∧ slots lineOrientationKey flagOf? d.lineOrientation entries = some d'.lineOrientation := by
  induction entries generalizing d with
  | nil =>
    obtain ⟨a, b, c, e⟩ := d
    obtain ⟨a', b', c', e'⟩ := d'
    show some (Draft.mk a b c e) = some ⟨a', b', c', e'⟩ ↔ _ ∧ some a = some a' ∧ some b = some b'
      ∧ some c = some c' ∧ some e = some e'
    simp only [Option.some.injEq, Draft.mk.injEq, List.not_mem_nil, false_implies, implies_true,
      true_and]
  | cons e rest ih =>
    rw [List.foldlM_cons, List.forall_mem_cons]
    simp only [slots_cons]
    cases hkey : e.label.text? with
    | none =>
      have hnone : enter d e = none := by rw [enter, hkey]; rfl
      rw [hnone]
      exact iff_of_false (fun h => nomatch h) (fun h => nomatch h.1.1.choose_spec)
    | some key =>
      have hsome : enter d e = take d (some key) (e.item.value.within bracketBudget) := by
        rw [enter, hkey]
        rfl
      rw [hsome]
      refine Option.bind_eq_some_iff.trans ?_
      simp only [take_eq_some, ih]
      constructor
      · intro h
        obtain ⟨next, ⟨h₁, h₂, h₃, h₄⟩, hkeys, r₁, r₂, r₃, r₄⟩ := h
        exact ⟨⟨⟨key, rfl⟩, hkeys⟩, ⟨_, h₁, r₁⟩, ⟨_, h₂, r₂⟩, ⟨_, h₃, r₃⟩, ⟨_, h₄, r₄⟩⟩
      · intro h
        obtain ⟨⟨-, hkeys⟩, ⟨a, h₁, r₁⟩, ⟨b, h₂, r₂⟩, ⟨c, h₃, r₃⟩, ⟨f, h₄, r₄⟩⟩ := h
        exact ⟨⟨a, b, c, f⟩, ⟨h₁, h₂, h₃, h₄⟩, hkeys, r₁, r₂, r₃, r₄⟩

theorem complete_eq_ok {d : Draft} {o : Options} :
    d.complete = .ok o
      ↔ d.lang = some o.lang ∧ d.orientation = some o.orientation ∧ d.unwarping = some o.unwarping
        ∧ d.lineOrientation = some o.lineOrientation := by
  obtain ⟨lang, orientation, unwarping, lineOrientation⟩ := d
  obtain ⟨l, a, b, c⟩ := o
  unfold Draft.complete
  cases lang <;> cases orientation <;> cases unwarping <;> cases lineOrientation
  all_goals simp

/-! ## Presentations -/

/-- An object presents options: every key in it is a text, and under each of the four keys there is one
entry, with the value of that member. -/
structure Presents (o : Options) (entries : List (Entry Layout)) : Prop where
  keys : ∀ e ∈ entries, ∃ key, e.label.text? = some key
  once : ∀ m ∈ o.members, ∃ e, under m.1 entries = [e] ∧ e.item.value.within bracketBudget = some m.2

/-- A slot is filled with a value if and only if the member is there once, with that value. -/
theorem slots_once {α : Type} {kind? : Option Value → Option α} {x : α} {v : Value}
    (hkind : ∀ v?, kind? v? = some x ↔ v? = some v) (name : String) (entries : List (Entry Layout)) :
    slots name kind? none entries = some (some x)
      ↔ ∃ e, under name entries = [e] ∧ e.item.value.within bracketBudget = some v := by
  rw [slots_start]
  simp only [hkind]

theorem presents_iff (o : Options) (entries : List (Entry Layout)) :
    o.Presents entries ↔ ∃ d, entries.foldlM enter {} = some d ∧ d.complete = .ok o := by
  have hlang := slots_once (fun v? => textOf?_eq_some (s := o.lang)) langKey entries
  have horientation := slots_once (fun v? => flagOf?_eq_some (b := o.orientation)) orientationKey entries
  have hunwarping := slots_once (fun v? => flagOf?_eq_some (b := o.unwarping)) unwarpingKey entries
  have hline := slots_once (fun v? => flagOf?_eq_some (b := o.lineOrientation)) lineOrientationKey entries
  simp only [foldlM_enter, complete_eq_ok]
  constructor
  · intro h
    obtain ⟨hkeys, honce⟩ := h
    simp only [members, List.forall_mem_cons, ← hlang, ← horientation, ← hunwarping, ← hline] at honce
    obtain ⟨h₁, h₂, h₃, h₄, -⟩ := honce
    exact ⟨⟨o.lang, o.orientation, o.unwarping, o.lineOrientation⟩, ⟨hkeys, h₁, h₂, h₃, h₄⟩, rfl, rfl,
      rfl, rfl⟩
  · intro h
    obtain ⟨d, ⟨hkeys, h₁, h₂, h₃, h₄⟩, e₁, e₂, e₃, e₄⟩ := h
    refine ⟨hkeys, ?_⟩
    simp only [members, List.forall_mem_cons, ← hlang, ← horientation, ← hunwarping, ← hline]
    exact ⟨e₁ ▸ h₁, e₂ ▸ h₂, e₃ ▸ h₃, e₄ ▸ h₄, nofun⟩

theorem readMembers_layout {size : Nat} {inner : Gap} {entries : List (Entry Layout)}
    (h : (Layout.object inner entries).Grammatical)
    (hsize : (Layout.object inner entries).bytes.length ≤ size) (rest : Bytes) :
    (readMembers size (inner.bytes ++ (enclosed closeObject (entryTexts entries) ++ rest))).toOption
      = ((entries.foldlM enter {}).bind fun d => d.complete.toOption).map (·, rest) := by
  cases h with
  | object _ _ labels values =>
    rw [Layout.bytes, List.length_cons, List.length_append, entryTexts_eq] at hsize
    have hcount := length_le_enclosed closeObject (entries.map (Entry.text Layout.bytes))
    rw [List.length_map] at hcount
    have hread := readObject_layout Layout.bytes (Draft.entry size)
      (fun d key l => take d (some key) (l.within bracketBudget)) inner entries
      (fun e he key d rest hrest => entry_layout d key (values e he)
        (by have := length_le_entries Layout.bytes he; omega) hrest) size (by omega) {} rest
    rw [readMembers, entryTexts_eq]
    rcases step_cases hread with ⟨hd, stop, hstop⟩ | ⟨d, hd, hok⟩
    · rw [hstop, show entries.foldlM enter {} = none from hd]
      rfl
    · rw [hok, show entries.foldlM enter {} = some d from hd]
      dsimp only
      cases hcomplete : d.complete with
      | error fault =>
        rw [Option.bind_some, hcomplete]
        rfl
      | ok o =>
        rw [Option.bind_some, hcomplete]
        rfl

/-- **An object is read as options if and only if it presents them.** -/
theorem decode_object {inner : Gap} {entries : List (Entry Layout)}
    (h : (Layout.object inner entries).Grammatical) (before behind : Gap) (o : Options) :
    decode (before.bytes ++ ((Layout.object inner entries).bytes ++ behind.bytes)) = .ok o
      ↔ o.Presents entries := by
  have hread : (decode (before.bytes ++ ((Layout.object inner entries).bytes ++ behind.bytes))).toOption
      = (entries.foldlM enter {}).bind fun d => d.complete.toOption := by
    refine readDocumentWith_gap behind ?_
    rw [read, skipGap_gap, Layout.bytes, List.cons_append, skipGap_cons (by decide)]
    simp only [if_neg (show ¬ openObject = openArray by decide), if_true]
    rw [List.append_assoc]
    refine readMembers_layout h ?_ behind.bytes
    rw [Layout.bytes]
    simp only [List.length_append, List.length_cons]
    omega
  rw [presents_iff, eq_ok_iff, hread, Option.bind_eq_some_iff]
  simp only [eq_ok_iff]

/-! ## Arrays -/

theorem readNext_first {α : Type} (g g' : Gap) (l : Layout) (read : Bytes → Step α) (rest : Bytes) :
    readNext 0 read (g.bytes ++ (g'.bytes ++ (l.bytes ++ rest))) = read (l.bytes ++ rest) := by
  obtain ⟨b, more, hb, hgap, hclose⟩ := l.bytes_cons
  rw [readNext, skipGap_gap, skipGap_gap, hb, List.cons_append, skipGap_cons hgap]
  simp only [if_neg hclose, if_true]

theorem readNext_comma {α : Type} (index : Nat) (g g' : Gap) (l : Layout) (read : Bytes → Step α)
    (rest : Bytes) :
    readNext (index + 1) read (g.bytes ++ commaByte :: (g'.bytes ++ (l.bytes ++ rest)))
      = read (l.bytes ++ rest) := by
  obtain ⟨b, more, hb, hgap, hclose⟩ := l.bytes_cons
  rw [readNext, skipGap_gap, skipGap_cons (by decide), hb]
  simp only [if_neg (show ¬ commaByte = closeArray by decide), if_neg (Nat.succ_ne_zero index),
    if_true]
  rw [skipGap_gap, List.cons_append, skipGap_cons hgap]
  simp only [if_neg hclose]

theorem closeValues_gap (g : Gap) (rest : Bytes) :
    closeValues (g.bytes ++ closeArray :: rest) = .ok ((), rest) := by
  rw [closeValues, skipGap_gap, skipGap_cons (by decide)]
  simp only [if_true]

/-- A value of the right kind is read, whatever follows. -/
theorem Takes.ok {α : Type} {read : Bytes → Step α} {kind? : Option Value → Option α}
    (htakes : Takes read kind?) {l : Layout} (h : l.Grammatical) {x : α}
    (hx : kind? (l.within bracketBudget) = some x) {rest : Bytes} (hrest : Ends rest) :
    read (l.bytes ++ rest) = .ok (x, rest) := by
  rw [eq_ok_iff]
  refine (htakes .none h rest hrest).trans ?_
  rw [hx]
  rfl

/-- **The four values in the order of the declaration are read as options.** -/
theorem decode_array {inner : Gap} {a b c d : Item Layout}
    (h : (Layout.array inner [a, b, c, d]).Grammatical) (before behind : Gap) {o : Options}
    (hvalues : [a, b, c, d].map (fun i => i.value.within bracketBudget)
      = o.members.map fun m => some m.2) :
    decode (before.bytes ++ ((Layout.array inner [a, b, c, d]).bytes ++ behind.bytes)) = .ok o := by
  cases h with
  | array _ _ values =>
    simp only [List.map_cons, List.map_nil, members, List.cons.injEq, and_true] at hvalues
    obtain ⟨ha, hb, hc, hd⟩ := hvalues
    simp only [List.forall_mem_cons] at values
    obtain ⟨va, vb, vc, vd, -⟩ := values
    -- behind every value stands a gap, and then a comma or the closing bracket
    have hends : ∀ (i : Item Layout) {next : UInt8} (rest : Bytes),
        next = commaByte ∨ next = closeArray → Ends (i.behind.bytes ++ next :: rest) := by
      intro i next rest hnext
      refine ends_gap i.behind (ends_cons ?_ rest)
      rcases hnext with rfl | rfl <;> decide
    have hread : (decode (before.bytes ++ ((Layout.array inner [a, b, c, d]).bytes ++ behind.bytes))).toOption
        = some o := by
      refine readDocumentWith_gap behind ?_
      rw [read, skipGap_gap, Layout.bytes, List.cons_append, skipGap_cons (by decide)]
      simp only [if_true, itemTexts, enclosed, following, List.append_assoc, List.cons_append,
        List.nil_append]
      rw [readValues, readNext_first, takes_readText.ok va (textOf?_eq_some.mpr ha) (hends a _ (Or.inl rfl))]
      simp only [bind, Except.bind, pure, Except.pure]
      rw [readNext_comma, takes_readFlag.ok vb (flagOf?_eq_some.mpr hb) (hends b _ (Or.inl rfl))]
      simp only
      rw [readNext_comma, takes_readFlag.ok vc (flagOf?_eq_some.mpr hc) (hends c _ (Or.inl rfl))]
      simp only
      rw [readNext_comma, takes_readFlag.ok vd (flagOf?_eq_some.mpr hd) (hends d _ (Or.inr rfl))]
      simp only
      rw [closeValues_gap]
      rfl
    exact eq_ok_iff.mpr hread

/-! ## The printed form -/

/-- A member of the options is printed as an entry that a reader of its kind takes. -/
theorem exists_member {m : String × Value} (h : (∃ s, m.2 = .string s) ∨ ∃ b, m.2 = .bool b) :
    ∃ e : Entry Layout, e.Prints m ∧ (∃ row, e.label = .atoms row) ∧ e.label.text? = some m.1
      ∧ e.item.value.Grammatical ∧ e.item.value.within bracketBudget = some m.2 := by
  obtain ⟨key, v⟩ := m
  rcases h with ⟨s, rfl⟩ | ⟨b, rfl⟩
  · obtain ⟨row, hbytes, htext⟩ := exists_literal s
    obtain ⟨e, hprints, hlabel, hkey, hvalue⟩ := exists_entry key
      (show (Layout.scalar (.string (.atoms row))).bytes = Text.encode (Value.string s).chars by
        rw [Layout.bytes, Value.chars, hbytes]
        rfl)
    refine ⟨e, hprints, hlabel, hkey, hvalue ▸ Layout.Grammatical.string row, ?_⟩
    rw [hvalue]
    show (Label.atoms row).text?.map Value.string = _
    rw [htext]
    rfl
  · obtain ⟨e, hprints, hlabel, hkey, hvalue⟩ := exists_entry key
      (show (Layout.scalar (.bool b)).bytes = Text.encode (Value.bool b).chars by
        cases b <;> rw [Layout.bytes] <;> rfl)
    refine ⟨e, hprints, hlabel, hkey, hvalue ▸ Layout.Grammatical.bool b, ?_⟩
    rw [hvalue]
    cases b <;> rfl

/-- What is printed of options is an object that presents them. -/
theorem exists_encode (o : Options) :
    ∃ entries, (Layout.object .none entries).Grammatical
      ∧ o.encode = (Layout.object .none entries).bytes ∧ o.Presents entries := by
  obtain ⟨e₁, p₁, l₁, k₁, g₁, v₁⟩ := exists_member (m := (langKey, .string o.lang)) (Or.inl ⟨_, rfl⟩)
  obtain ⟨e₂, p₂, l₂, k₂, g₂, v₂⟩ := exists_member (m := (orientationKey, .bool o.orientation))
    (Or.inr ⟨_, rfl⟩)
  obtain ⟨e₃, p₃, l₃, k₃, g₃, v₃⟩ := exists_member (m := (unwarpingKey, .bool o.unwarping))
    (Or.inr ⟨_, rfl⟩)
  obtain ⟨e₄, p₄, l₄, k₄, g₄, v₄⟩ := exists_member (m := (lineOrientationKey, .bool o.lineOrientation))
    (Or.inr ⟨_, rfl⟩)
  have hentries : ∀ {P : Entry Layout → Prop}, P e₁ → P e₂ → P e₃ → P e₄ →
      ∀ e ∈ [e₁, e₂, e₃, e₄], P e := by
    intro P h₁ h₂ h₃ h₄
    simp only [List.forall_mem_cons]
    exact ⟨h₁, h₂, h₃, h₄, List.forall_mem_nil _⟩
  refine ⟨[e₁, e₂, e₃, e₄], .object _ _ (hentries l₁ l₂ l₃ l₄) (hentries g₁ g₂ g₃ g₄), ?_, ?_⟩
  · rw [Layout.bytes, ← encode_members (.cons p₁ (.cons p₂ (.cons p₃ (.cons p₄ .nil))))]
    show Text.encode (['\x7b'] ++ (memberChars o.members ++ ['\x7d'])) = _
    rw [Text.encode_append]
    rfl
  · refine ⟨hentries ⟨_, k₁⟩ ⟨_, k₂⟩ ⟨_, k₃⟩ ⟨_, k₄⟩, ?_⟩
    simp only [members, List.forall_mem_cons]
    refine ⟨⟨e₁, ?_, v₁⟩, ⟨e₂, ?_, v₂⟩, ⟨e₃, ?_, v₃⟩, ⟨e₄, ?_, v₄⟩, List.forall_mem_nil _⟩
    -- no other entry has the key
    all_goals
      simp only [under, List.filter_cons, k₁, k₂, k₃, k₄]
      rfl

/-- **Options are read back from every presentation.** What is printed of them is read as them. Of the
documents that are an object, with any gaps, any order, any spelling of keys and strings and any other
members, however deep, exactly those are read as them in which each of the four keys stands once and with
the value of that member; an object in which one of the keys is missing or comes again is refused. The
four values in an array, in the order of the declaration, are read as well. -/
theorem decode_presentations (o : Options) :
    decode o.encode = .ok o
      ∧ (∀ (before behind inner : Gap) (entries : List (Entry Layout)),
        (Layout.object inner entries).Grammatical →
        let document := before.bytes ++ ((Layout.object inner entries).bytes ++ behind.bytes)
        (decode document = .ok o ↔ o.Presents entries)
          ∧ ∀ key ∈ o.members.map Prod.fst, (under key entries).length ≠ 1 →
            ∃ refusal, decode document = .error refusal)
      ∧ ∀ (before behind inner : Gap) (a b c d : Item Layout),
        (Layout.array inner [a, b, c, d]).Grammatical →
        [a, b, c, d].map (fun i => i.value.within bracketBudget) = o.members.map (fun m => some m.2) →
        decode (before.bytes ++ ((Layout.array inner [a, b, c, d]).bytes ++ behind.bytes)) = .ok o := by
  refine ⟨?_, ?_, fun before behind _ _ _ _ _ h => decode_array h before behind⟩
  · obtain ⟨entries, hgrammar, hencode, hpresents⟩ := exists_encode o
    have hread := (decode_object hgrammar .none .none o).mpr hpresents
    rw [hencode]
    rwa [show Gap.none.bytes = [] from rfl, List.append_nil] at hread
  · intro before behind inner entries h document
    refine ⟨decode_object h before behind o, ?_⟩
    intro key hkey hcount
    cases hread : decode document with
    | error refusal => exact ⟨refusal, rfl⟩
    | ok o' =>
      -- whatever is read stands in the object once under each key
      obtain ⟨m, hm, rfl⟩ := List.mem_map.mp (show key ∈ o'.members.map Prod.fst from hkey)
      obtain ⟨e, he, -⟩ := ((decode_object h before behind o').mp hread).once m hm
      rw [he] at hcount
      exact absurd rfl hcount

/-! ## A presentation in another spelling -/

/-- A member whose key is spelled as it is. -/
def entryOf (key : String) (h : key.toList.all (fun c => decide (Engine.Datum.Plain c)) = true)
    (value : Layout) : Entry Layout :=
  ⟨.none, .atoms (Engine.Datum.rawAtoms key.toList (Engine.Datum.plain_of_all h)), .space,
    ⟨.none, value, .none⟩⟩

/-- A language with an escape for a letter that needs none. -/
def spelledLang : Layout :=
  .scalar (.string (.atoms [.unit 0x30 0x30 0x36 0x36 0x66 rfl, .raw 'r' (by decide)]))

/-- The three flags backwards, with a member before them that is none of the options. -/
def spelledFlags : List (Entry Layout) :=
  [entryOf "more" rfl (.array .space [⟨.none, .scalar .null, .none⟩]),
    entryOf lineOrientationKey rfl (.scalar (.bool false)),
    entryOf unwarpingKey rfl (.scalar (.bool true)),
    entryOf orientationKey rfl (.scalar (.bool false))]

theorem grammatical_spelledFlags :
    (∀ e ∈ spelledFlags, ∃ row, e.label = .atoms row)
      ∧ ∀ e ∈ spelledFlags, e.item.value.Grammatical := by
  simp only [spelledFlags, List.forall_mem_cons]
  exact ⟨⟨⟨_, rfl⟩, ⟨_, rfl⟩, ⟨_, rfl⟩, ⟨_, rfl⟩, List.forall_mem_nil _⟩,
    .array _ _ (List.forall_mem_singleton.mpr .null), .bool false, .bool true, .bool false,
    List.forall_mem_nil _⟩

/-- The object with them, and with more behind. -/
def spelledDocument (more : String) : Bytes :=
  utf8 "\x7b\"more\" :[ null],\"use_textline_orientation\" :false,\"use_doc_unwarping\" :true,"
    ++ utf8 "\"use_doc_orientation_classify\" :false" ++ utf8 more ++ utf8 "\x7d"

/-- An object with the language behind the flags is read; without it the object is refused; and the four
values are read from an array. -/
theorem decode_presentations_spelled :
    decode (spelledDocument ",\"lang\" :\"\\u0066r\"") = .ok { lang := "fr", unwarping := true }
      ∧ (∃ refusal, decode (spelledDocument "") = .error refusal)
      ∧ decode (utf8 "[\"\\u0066r\" ,false,true,false]") = .ok { lang := "fr", unwarping := true } := by
  obtain ⟨-, hobject, harray⟩ := decode_presentations { lang := "fr", unwarping := true }
  obtain ⟨hlabels, hvalues⟩ := grammatical_spelledFlags
  let entries := spelledFlags ++ [entryOf langKey rfl spelledLang]
  have hgrammar : (Layout.object .none entries).Grammatical :=
    .object _ _
      (List.forall_mem_append.mpr ⟨hlabels, List.forall_mem_singleton.mpr ⟨_, rfl⟩⟩)
      (List.forall_mem_append.mpr ⟨hvalues, List.forall_mem_singleton.mpr (.string _)⟩)
  have hpresents : Presents { lang := "fr", unwarping := true } entries := by
    refine ⟨?_, ?_⟩
    · simp only [entries, spelledFlags, List.cons_append, List.nil_append, List.forall_mem_cons]
      exact ⟨⟨_, rfl⟩, ⟨_, rfl⟩, ⟨_, rfl⟩, ⟨_, rfl⟩, ⟨_, rfl⟩, List.forall_mem_nil _⟩
    · simp only [members, List.forall_mem_cons]
      exact ⟨⟨_, rfl, rfl⟩, ⟨_, rfl, rfl⟩, ⟨_, rfl, rfl⟩, ⟨_, rfl, rfl⟩, List.forall_mem_nil _⟩
  have hwith : spelledDocument ",\"lang\" :\"\\u0066r\""
      = Gap.none.bytes ++ ((Layout.object .none entries).bytes ++ Gap.none.bytes) := by
    decide +kernel
  have hwithout : spelledDocument ""
      = Gap.none.bytes ++ ((Layout.object .none spelledFlags).bytes ++ Gap.none.bytes) := by
    decide +kernel
  have hread := (hobject .none .none .none entries hgrammar).1.mpr hpresents
  have hmissing := (hobject .none .none .none spelledFlags (.object _ _ hlabels hvalues)).2 langKey
    (List.mem_cons_self ..) (by decide)
  have harray := harray .none .none .none ⟨.none, spelledLang, .space⟩
    ⟨.none, .scalar (.bool false), .none⟩ ⟨.none, .scalar (.bool true), .none⟩
    ⟨.none, .scalar (.bool false), .none⟩
    (.array _ _ (by
      simp only [List.forall_mem_cons]
      exact ⟨.string _, .bool false, .bool true, .bool false, List.forall_mem_nil _⟩)) rfl
  rw [hwith, hwithout]
  exact ⟨hread, hmissing, harray⟩

end ImageText.Options
