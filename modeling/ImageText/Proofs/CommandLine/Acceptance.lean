import ImageText.Proofs.CommandLine.Grammar

/-!
# What the command line accepts

The reader holds back a value until it knows what follows, so between two words it may have read a unit
whose value it has not looked at, or have an option in its hand whose value is still to come. `Holds`
is what it has checked and kept. `Continues` says for each of its states which words the grammar lets
follow, and what they add.

> `steps_sound`, `steps_complete`: the reader goes on exactly so, one word after the other,
> `read_grammar`: a command line is accepted exactly if the grammar has it and what it says is
> admissible, and then it means what it says, in whatever order it says it.
-/

namespace ImageText.CommandLine

open Progress (dash equals)

/-! ## One word -/

section Words

variable {p : Progress} {word body : Bytes} {o : Slot}

/-- A name is read as the option that it belongs to. -/
theorem named_iff {name : Bytes} :
    (Text.decode? name).bind Slot.ofName? = some o ↔ o ∈ Slot.options ∧ name = utf8 o.name := by
  have hdistinct : ∀ a ∈ Slot.options, ∀ b ∈ Slot.options, a.name.toList = b.name.toList → a = b := by
    decide
  constructor
  · intro h
    obtain ⟨s, hs, ho⟩ := Option.bind_eq_some_iff.mp h
    have hname : o.name.toList = s := by simpa using List.find?_some ho
    refine ⟨List.mem_of_find?_eq_some ho, ?_⟩
    rw [Text.decode?_eq_some_iff.mp hs, ← hname]
    rfl
  · rintro ⟨ho, rfl⟩
    rw [utf8, Text.decode?_encode, Option.bind_some, Slot.ofName?]
    cases hf : Slot.options.find? fun a => a.name.toList = o.name.toList with
    | none => simpa using List.find?_eq_none.mp hf o ho
    | some a =>
      have hname : a.name.toList = o.name.toList := by simpa using List.find?_some hf
      rw [hdistinct a (List.mem_of_find?_eq_some hf) o ho hname]

/-- What follows two dashes is a name, or a name and a value behind an equals sign. -/
theorem name_value (body : Bytes) :
    equals ∉ body ∨ ∃ name value, body = name ++ equals :: value ∧ equals ∉ name := by
  by_cases h : equals ∈ body
  · obtain ⟨name, value, hbody, hname⟩ := List.eq_append_cons_of_mem h
    exact Or.inr ⟨name, value, hbody, hname⟩
  · exact Or.inl h

theorem step_escape (h : p.trailing = false) :
    p.step [dash, dash] = .ok { p with trailing := true } := by
  rw [Progress.step, h, if_neg Bool.false_ne_true, if_pos rfl]

theorem step_trailing (h : p.trailing = true) : p.step word = p.stepInput word := by
  rw [Progress.step, if_pos h]

theorem step_long (h : p.trailing = false) (hbody : body ≠ []) :
    p.step (dash :: dash :: body) = p.stepName (body.takeWhile (· ≠ equals))
      (if (body.takeWhile (· ≠ equals)).length < body.length then
        some (body.drop ((body.takeWhile (· ≠ equals)).length + 1)) else none) := by
  have hne : dash :: dash :: body ≠ [dash, dash] := by simpa using hbody
  have hlong : (dash :: dash :: body).take 2 = [dash, dash] := rfl
  rw [Progress.step, h, if_neg Bool.false_ne_true, if_neg hne, if_pos hlong]
  rfl

/-- A name without an equals sign. -/
theorem step_name (h : p.trailing = false) (hbody : body ≠ []) (hequals : equals ∉ body) :
    p.step (dash :: dash :: body) = p.stepName body none := by
  have htake : body.takeWhile (· ≠ equals) = body := by
    simpa using takeWhile_name hequals []
  rw [step_long h hbody, htake, if_neg (Nat.lt_irrefl _)]

/-- A name with a value behind an equals sign. -/
theorem step_name_value (h : p.trailing = false) {name : Bytes} (hequals : equals ∉ name)
    (value : Bytes) :
    p.step (dash :: dash :: (name ++ equals :: value)) = p.stepName name (some value) := by
  have hdrop : (name ++ equals :: value).drop (name.length + 1) = value := by
    simp [List.drop_append]
  rw [step_long h (by simp), takeWhile_joined hequals, hdrop, if_pos (by simp)]

theorem stepName_unnamed {name : Bytes} (h : (Text.decode? name).bind Slot.ofName? = none)
    (value : Option Bytes) :
    p.stepName name value = .error (.refused (p.unknownName (Text.lossy name))) := by
  rw [Progress.stepName, h]

theorem stepName_alone (h : o ∈ Slot.options) : p.stepName (utf8 o.name) none = p.raise o := by
  rw [Progress.stepName, named_iff.mpr ⟨h, rfl⟩]

theorem stepName_joined (ho : o.takesValue = true) (value : Bytes) :
    p.stepName (utf8 o.name) (some value) = p.give o value := by
  have hoption : o ∈ Slot.options := by
    cases o <;> first | decide | cases ho
  rw [Progress.stepName, named_iff.mpr ⟨hoption, rfl⟩]
  dsimp only
  rw [if_pos ho]

theorem step_flag (h : p.trailing = false) : p.step (utf8 Slot.log.dashed) = p.give .log [] := by
  rw [utf8_dashed, step_name h (by decide) (equals_not_mem_name _), stepName_alone (by decide)]
  rfl

theorem raise_valued (ho : o.takesValue = true) :
    p.raise o = p.settled.map fun p => { p with pending := some (o, none) } := by
  cases o <;> first | rfl | cases ho

theorem step_apart (h : p.trailing = false) (ho : o.takesValue = true) :
    p.step (utf8 o.dashed) = p.settled.map fun p => { p with pending := some (o, none) } := by
  have hne : utf8 o.name ≠ [] := by cases o <;> decide
  have hoption : o ∈ Slot.options := by
    cases o <;> first | decide | cases ho
  rw [utf8_dashed, step_name h hne (equals_not_mem_name o), stepName_alone hoption, raise_valued ho]

theorem step_joined (h : p.trailing = false) (ho : o.takesValue = true) (value : Bytes) :
    p.step (utf8 o.dashed ++ equals :: value) = p.give o value := by
  rw [utf8_dashed, List.cons_append, List.cons_append,
    step_name_value h (equals_not_mem_name o), stepName_joined ho]

theorem Plain.notOption (h : Plain word) :
    word ≠ [dash, dash] ∧ word.take 2 ≠ [dash, dash] ∧ ¬ (word.take 1 = [dash] ∧ word ≠ [dash]) := by
  cases word with
  | nil => simp
  | cons b rest =>
    by_cases hb : b = dash
    · have hword := h (by rw [hb]; rfl)
      simp [hword]
    · simp [hb]

theorem step_plain (h : p.trailing = false) (hword : Plain word) :
    p.step word = match p.pending with
      | some (slot, none) => .ok { p with pending := some (slot, some word) }
      | _ => p.stepInput word := by
  obtain ⟨hescape, hlong, hshort⟩ := hword.notOption
  rw [Progress.step, h, if_neg Bool.false_ne_true, if_neg hescape, if_neg hlong]
  exact if_neg hshort

/-! ## Words that are refused -/

theorem refused_raise (h : o = .help ∨ o = .version) : ∃ answer, p.raise o = .error answer := by
  rcases h with rfl | rfl <;> rw [Progress.raise] <;> cases p.settled <;> exact ⟨_, rfl⟩

theorem ofLetter?_cases {c : Char} (h : Slot.ofLetter? c = some o) : o = .help ∨ o = .version := by
  unfold Slot.ofLetter? at h
  split at h
  · exact Or.inl (Option.some.inj h).symm
  · split at h
    · exact Or.inr (Option.some.inj h).symm
    · cases h

/-- No letter is accepted. -/
theorem refused_letters {pieces : List (List Char)} (h : pieces ≠ []) :
    ∃ answer, p.stepLetters pieces = .error answer := by
  cases pieces with
  | nil => exact absurd rfl h
  | cons piece rest =>
    rw [Progress.stepLetters]
    cases ho : piece.head?.bind Slot.ofLetter? with
    | none => exact ⟨_, rfl⟩
    | some o =>
      obtain ⟨c, -, hc⟩ := Option.bind_eq_some_iff.mp ho
      obtain ⟨answer, hraise⟩ := refused_raise (p := p) (ofLetter?_cases hc)
      exact ⟨answer, by dsimp only; rw [hraise]; rfl⟩

theorem letters_ne_nil (h : word ≠ []) : Progress.letters word ≠ [] := by
  intro hletters
  obtain ⟨hvalid, hrest⟩ := List.append_eq_nil_iff.mp hletters
  by_cases hempty : (word.drop (Text.validPrefix word)).isEmpty = true
  · -- all of the word is text, and its characters are letters
    have htake : word.take (Text.validPrefix word) = word := by
      rw [← List.append_nil (word.take _), ← List.isEmpty_iff.mp hempty, List.take_append_drop]
    rw [htake, List.map_eq_nil_iff, Text.lossy, List.map_eq_nil_iff, Text.pieces_eq_nil_iff] at hvalid
    exact h hvalid
  · rw [if_neg hempty] at hrest
    cases hrest

/-- A word that is refused wherever an option may stand. -/
def Foreign (word : Bytes) : Prop :=
  ∀ p : Progress, p.trailing = false → ∃ answer, p.step word = .error answer

theorem foreign_letters (h : word ≠ []) (hdash : word.head? ≠ some dash) :
    Foreign (dash :: word) := by
  intro p htrailing
  have hlong : (dash :: word).take 2 ≠ [dash, dash] := by
    cases word with
    | nil => exact absurd rfl h
    | cons b rest => simpa using hdash
  have hescape : dash :: word ≠ [dash, dash] := fun e => hlong (by rw [e]; rfl)
  have hshort : (dash :: word).take 1 = [dash] ∧ dash :: word ≠ [dash] := ⟨rfl, by simpa using h⟩
  rw [Progress.step, htrailing, if_neg Bool.false_ne_true, if_neg hescape, if_neg hlong,
    if_pos hshort]
  exact refused_letters (letters_ne_nil h)

theorem foreign_unnamed (hbody : body ≠ [])
    (h : ∀ o ∈ Slot.options, body ≠ utf8 o.name ∧ ∀ value, body ≠ utf8 o.name ++ equals :: value) :
    Foreign (dash :: dash :: body) := by
  intro p htrailing
  rcases name_value body with hequals | ⟨name, value, rfl, hequals⟩
  · have hnone : (Text.decode? body).bind Slot.ofName? = none := by
      rw [Option.eq_none_iff_forall_ne_some]
      exact fun o ho => (h o (named_iff.mp ho).1).1 (named_iff.mp ho).2
    exact ⟨_, by rw [step_name htrailing hbody hequals, stepName_unnamed hnone]⟩
  · have hnone : (Text.decode? name).bind Slot.ofName? = none := by
      rw [Option.eq_none_iff_forall_ne_some]
      intro o ho
      obtain ⟨hoption, hname⟩ := named_iff.mp ho
      exact (h o hoption).2 value (by rw [hname])
    exact ⟨_, by rw [step_name_value htrailing hequals, stepName_unnamed hnone]⟩

theorem foreign_request (h : o = .help ∨ o = .version) : Foreign (utf8 o.dashed) := by
  intro p htrailing
  have hoption : o ∈ Slot.options := by
    rcases h with rfl | rfl <;> decide
  have hne : utf8 o.name ≠ [] := by cases o <;> decide
  rw [utf8_dashed, step_name htrailing hne (equals_not_mem_name o), stepName_alone hoption]
  exact refused_raise h

theorem foreign_surplus (hoption : o ∈ Slot.options) (ho : o.takesValue = false) (value : Bytes) :
    Foreign (utf8 o.dashed ++ equals :: value) := by
  intro p htrailing
  rw [utf8_dashed, List.cons_append, List.cons_append,
    step_name_value htrailing (equals_not_mem_name o), Progress.stepName,
    named_iff.mpr ⟨hoption, rfl⟩]
  exact ⟨_, if_neg (by rw [ho]; exact Bool.false_ne_true)⟩

/-- The kinds of words that there are where an option may stand. -/
inductive Kind : Bytes → Prop
  | escape : Kind [dash, dash]
  | flag : Kind (utf8 Slot.log.dashed)
  | option {o : Slot} (ho : o.takesValue = true) : Kind (utf8 o.dashed)
  | joined {o : Slot} (ho : o.takesValue = true) (value : Bytes) :
      Kind (utf8 o.dashed ++ equals :: value)
  | plain {word : Bytes} (h : Plain word) : Kind word
  | foreign {word : Bytes} (h : Foreign word) : Kind word

theorem kind_named (ho : o ∈ Slot.options) : Kind (utf8 o.dashed) := by
  cases o with
  | input => exact absurd ho (by decide)
  | lang => exact .option rfl
  | interpreter => exact .option rfl
  | bridge => exact .option rfl
  | log => exact .flag
  | help => exact .foreign (foreign_request (Or.inl rfl))
  | version => exact .foreign (foreign_request (Or.inr rfl))

theorem kind_joined (ho : o ∈ Slot.options) (value : Bytes) :
    Kind (utf8 o.dashed ++ equals :: value) := by
  cases htakes : o.takesValue with
  | true => exact .joined htakes value
  | false => exact .foreign (foreign_surplus ho htakes value)

/-- Every word is of some kind. -/
theorem kind (word : Bytes) : Kind word := by
  rcases word with _ | ⟨b, rest⟩
  · exact .plain fun h => nomatch h
  by_cases hb : b = dash
  case neg => exact .plain fun h => absurd (Option.some.inj h) hb
  subst hb
  rcases rest with _ | ⟨c, body⟩
  · exact .plain fun _ => rfl
  by_cases hc : c = dash
  case neg =>
    exact .foreign (foreign_letters (List.cons_ne_nil _ _) fun h => hc (Option.some.inj h))
  subst hc
  -- behind two dashes a name decides
  by_cases hbody : body = []
  · subst hbody
    exact .escape
  by_cases hnamed : ∃ o ∈ Slot.options,
      body = utf8 o.name ∨ ∃ value, body = utf8 o.name ++ equals :: value
  · obtain ⟨o, ho, rfl | ⟨value, rfl⟩⟩ := hnamed
    · rw [← utf8_dashed]
      exact kind_named ho
    · rw [← List.cons_append, ← List.cons_append, ← utf8_dashed]
      exact kind_joined ho value
  · refine .foreign (foreign_unnamed hbody fun o ho => ⟨fun e => hnamed ⟨o, ho, Or.inl e⟩, ?_⟩)
    exact fun value e => hnamed ⟨o, ho, Or.inr ⟨value, e⟩⟩

end Words

/-! ## What has been checked -/

/-- What has been checked and kept is what has been said. -/
structure Holds (p : Progress) (es : List Entry) : Prop extends Consistent es where
  given : ∀ o, o ∈ p.given ↔ ∃ value, (o, value) ∈ es
  input : ∀ path, p.input = some path ↔ (.input, path) ∈ es
  lang : ∀ s, p.lang = some s ↔ (.lang, utf8 s) ∈ es
  interpreter : ∀ path, p.interpreter = some path ↔ (.interpreter, path) ∈ es
  bridge : ∀ path, p.bridge = some path ↔ (.bridge, path) ∈ es
  log : p.log = true ↔ ∃ value, (.log, value) ∈ es

/-- The place in the command line is the same. -/
structure Abreast (p q : Progress) : Prop where
  pending : q.pending = p.pending
  trailing : q.trailing = p.trailing
  inputSeen : q.inputSeen = p.inputSeen

section Checked

variable {p q : Progress} {o : Slot} {value : Bytes} {es more : List Entry}

theorem holds_start : Holds {} [] where
  toConsistent := ⟨List.nodup_nil, fun _ he => nomatch he⟩
  given _ := by simp
  input _ := by simp
  lang _ := by simp
  interpreter _ := by simp
  bridge _ := by simp
  log := by simp

/-- The place in the command line is no part of what has been kept. -/
theorem Holds.elsewhere (h : Holds p es) (pending : Option (Slot × Option Bytes))
    (trailing inputSeen : Bool) :
    Holds { p with pending := pending, trailing := trailing, inputSeen := inputSeen } es :=
  ⟨h.toConsistent, h.given, h.input, h.lang, h.interpreter, h.bridge, h.log⟩

/-- What becomes of a progress that keeps a value. -/
structure Kept (p : Progress) (o : Slot) (value : Bytes) (q : Progress) : Prop where
  fits : Fits o value
  abreast : Abreast p q
  given : q.given = p.given
  input : q.input = if o = .input then some value else p.input
  lang : (o = .lang ∧ ∃ s, value = utf8 s ∧ q.lang = some s) ∨ (o ≠ .lang ∧ q.lang = p.lang)
  interpreter : q.interpreter = if o = .interpreter then some value else p.interpreter
  bridge : q.bridge = if o = .bridge then some value else p.bridge
  log : q.log = (p.log || o = .log)

theorem keep_kept (h : p.keep o value = .ok q) : Kept p o value q := by
  cases o with
  | lang =>
    simp only [Progress.keep] at h
    cases hs : Text.decode? value with
    | none => rw [hs] at h; cases h
    | some s =>
      rw [hs] at h
      cases h
      have hvalue : value = utf8 (String.ofList s) := by
        rw [Text.decode?_eq_some_iff.mp hs, utf8, String.toList_ofList]
      exact ⟨⟨_, hvalue⟩, ⟨rfl, rfl, rfl⟩, rfl, rfl, Or.inl ⟨rfl, _, hvalue, rfl⟩, rfl, rfl, by simp⟩
  | input | interpreter | bridge =>
    simp only [Progress.keep] at h
    split at h
    · cases h
    next hne =>
      cases h
      exact ⟨fun e => hne (by rw [e]; rfl), ⟨rfl, rfl, rfl⟩, rfl, rfl, Or.inr ⟨by decide, rfl⟩, rfl,
        rfl, by simp⟩
  | log | help | version =>
    cases h
    exact ⟨trivial, ⟨rfl, rfl, rfl⟩, rfl, rfl, Or.inr ⟨by decide, rfl⟩, rfl, rfl, by simp⟩

theorem keep_fits (h : Fits o value) : ∃ q, p.keep o value = .ok q := by
  cases o with
  | lang =>
    obtain ⟨s, rfl⟩ := h
    exact ⟨_, by rw [Progress.keep, utf8, Text.decode?_encode]⟩
  | input | interpreter | bridge =>
    have hne : ¬ value.isEmpty = true := fun e => h (List.isEmpty_iff.mp e)
    exact ⟨_, by rw [Progress.keep, if_neg hne]⟩
  | log | help | version => exact ⟨_, rfl⟩

/-- A path that has been kept is the one that has been said. -/
theorem mem_filled (hnew : ∀ other, (o, other) ∉ es) {slot : Slot} {kept : Option Path}
    (hkept : ∀ path, kept = some path ↔ (slot, path) ∈ es) (path : Path) :
    (if o = slot then some value else kept) = some path ↔ (slot, path) ∈ es ++ [(o, value)] := by
  rw [List.mem_append, List.mem_singleton, Prod.mk.injEq]
  by_cases hslot : o = slot
  · subst hslot
    simp [hnew, eq_comm]
  · rw [if_neg hslot, hkept path]
    simp [Ne.symm hslot]

/-- What is kept under a free slot is what is said of it. -/
theorem Kept.holds (hkept : Kept (p.claim o) o value q) (h : Holds p es)
    (hnew : ∀ other, (o, other) ∉ es) : Holds q (es ++ [(o, value)]) where
  toConsistent := h.concat hnew hkept.fits
  given slot := by
    have hmem : slot ∈ q.given ↔ slot ∈ p.given ∨ slot = o := by
      rw [hkept.given]
      exact List.mem_append.trans (or_congr_right List.mem_singleton)
    rw [hmem, h.given slot]
    simp only [List.mem_append, List.mem_singleton, Prod.mk.injEq, exists_or]
    exact or_congr_right ⟨fun e => ⟨value, e, rfl⟩, fun ⟨_, e, _⟩ => e⟩
  input := by
    rw [hkept.input]
    exact mem_filled hnew h.input
  lang s := by
    rw [List.mem_append, List.mem_singleton, Prod.mk.injEq]
    rcases hkept.lang with ⟨rfl, t, rfl, ht⟩ | ⟨hne, ht⟩
    · rw [ht]
      simp only [hnew, false_or, true_and, Option.some.injEq]
      exact ⟨fun e => by rw [e], fun e => (Text.utf8_injective e).symm⟩
    · rw [ht, show (p.claim o).lang = p.lang from rfl, h.lang]
      simp [Ne.symm hne]
  interpreter := by
    rw [hkept.interpreter]
    exact mem_filled hnew h.interpreter
  bridge := by
    rw [hkept.bridge]
    exact mem_filled hnew h.bridge
  log := by
    rw [hkept.log, Bool.or_eq_true, show (p.claim o).log = p.log from rfl, h.log]
    simp only [List.mem_append, List.mem_singleton, Prod.mk.injEq, exists_or, decide_eq_true_eq]
    exact or_congr_right ⟨fun e => ⟨value, e.symm, rfl⟩, fun ⟨_, e, _⟩ => e.symm⟩

/-- A slot that is filled was free, and its value is kept. -/
theorem Holds.fill (h : Holds p es) (hfill : p.fill o (some value) = (q, none)) :
    Holds q (es ++ [(o, value)]) ∧ Abreast p q := by
  rw [Progress.fill] at hfill
  by_cases hgiven : o ∈ p.given
  · rw [if_pos hgiven] at hfill
    cases hfill
  · rw [if_neg hgiven] at hfill
    dsimp only at hfill
    cases hkeep : (p.claim o).keep o value with
    | error refusal => rw [hkeep] at hfill; cases hfill
    | ok next =>
      rw [hkeep] at hfill
      cases hfill
      have hkept := keep_kept hkeep
      refine ⟨hkept.holds h fun other hmem => hgiven ((h.given o).mpr ⟨other, hmem⟩), ?_⟩
      exact ⟨hkept.abreast.pending, hkept.abreast.trailing, hkept.abreast.inputSeen⟩

/-- A slot that is free is filled with a value that it takes. -/
theorem Holds.fill_exists (h : Holds p es) (hmore : Consistent (es ++ [(o, value)])) :
    ∃ q, p.fill o (some value) = (q, none) := by
  have hgiven : o ∉ p.given := fun hmem => by
    obtain ⟨other, hother⟩ := (h.given o).mp hmem
    exact hmore.not_mem (List.mem_singleton.mpr rfl) other hother
  obtain ⟨q, hkeep⟩ := keep_fits (p := p.claim o)
    (hmore.fits (o, value) (List.mem_append_right _ (List.mem_singleton.mpr rfl)))
  exact ⟨q, by rw [Progress.fill, if_neg hgiven]; dsimp only; rw [hkeep]⟩

/-! ## What is pending -/

/-- What has been read and not been checked, unless the value of an option is still to come. -/
def owed? (p : Progress) : Option (List Entry) :=
  match p.pending with
  | none => some []
  | some (o, some value) => some [(o, value)]
  | some (_, none) => none

theorem Holds.settled (h : Holds p es) (hsettled : p.settled = .ok q) :
    ∃ owed, owed? p = some owed ∧ Holds q (es ++ owed) ∧ q.pending = none
      ∧ q.trailing = p.trailing ∧ q.inputSeen = p.inputSeen := by
  rw [Progress.settled, Progress.settle] at hsettled
  cases hpending : p.pending with
  | none =>
    rw [hpending] at hsettled
    cases hsettled
    exact ⟨[], by rw [owed?, hpending], by rwa [List.append_nil], hpending, rfl, rfl⟩
  | some entry =>
    obtain ⟨o, value⟩ := entry
    rw [hpending] at hsettled
    cases value with
    | none => cases hsettled
    | some value =>
      have hbase := h.elsewhere none p.trailing p.inputSeen
      dsimp only at hsettled
      split at hsettled
      next next hfill =>
        cases hsettled
        obtain ⟨hholds, habreast⟩ := hbase.fill hfill
        exact ⟨[(o, value)], by rw [owed?, hpending], hholds, habreast.pending, habreast.trailing,
          habreast.inputSeen⟩
      next => cases hsettled

theorem Holds.settled_exists (h : Holds p es) {owed : List Entry} (howed : owed? p = some owed)
    (hmore : Consistent (es ++ owed)) : ∃ q, p.settled = .ok q := by
  rw [Progress.settled, Progress.settle]
  cases hpending : p.pending with
  | none => exact ⟨p, rfl⟩
  | some entry =>
    obtain ⟨o, value⟩ := entry
    rw [owed?, hpending] at howed
    cases value with
    | none => cases howed
    | some value =>
      cases howed
      obtain ⟨q, hfill⟩ := (h.elsewhere none p.trailing p.inputSeen).fill_exists hmore
      exact ⟨q, by dsimp only; rw [hfill]⟩

/-- A value is given after what is pending. -/
theorem Holds.give (h : Holds p es) (hgive : p.give o value = .ok q) :
    ∃ owed, owed? p = some owed ∧ Holds q (es ++ owed ++ [(o, value)]) ∧ q.pending = none
      ∧ q.trailing = p.trailing ∧ q.inputSeen = p.inputSeen := by
  rw [Progress.give] at hgive
  cases hsettled : p.settled with
  | error answer => rw [hsettled] at hgive; cases hgive
  | ok next =>
    obtain ⟨owed, howed, hholds, hpending, htrailing, hseen⟩ := h.settled hsettled
    rw [hsettled] at hgive
    dsimp only at hgive
    split at hgive
    next last hfill =>
      cases hgive
      obtain ⟨hlast, habreast⟩ := hholds.fill hfill
      exact ⟨owed, howed, hlast, habreast.pending.trans hpending, habreast.trailing.trans htrailing,
        habreast.inputSeen.trans hseen⟩
    next => cases hgive

theorem Holds.give_exists (h : Holds p es) {owed : List Entry} (howed : owed? p = some owed)
    (hmore : Consistent (es ++ owed ++ [(o, value)])) : ∃ q, p.give o value = .ok q := by
  obtain ⟨next, hsettled⟩ := h.settled_exists howed hmore.left
  obtain ⟨owed', howed', hholds, -⟩ := h.settled hsettled
  cases howed.symm.trans howed'
  obtain ⟨q, hfill⟩ := hholds.fill_exists hmore
  exact ⟨q, by rw [Progress.give, hsettled]; dsimp only; rw [hfill]⟩

end Checked

/-! ## What may follow -/

/-- The words that may follow what has been read, and what they add to what has been checked. -/
inductive Continues (p : Progress) : List Bytes → List Entry → Prop
  /-- Behind the two dashes. -/
  | trailing {owed : List Entry} (ht : p.trailing = true) (howed : owed? p = some owed)
      (words : List Bytes) : Continues p words (owed ++ words.map fun word => (.input, word))
  /-- An option may stand here. -/
  | ready {owed more : List Entry} {words : List Bytes} (ht : p.trailing = false)
      (howed : owed? p = some owed) (h : Spells words more) : Continues p words (owed ++ more)
  /-- The value of an option has to stand here. -/
  | waiting {o : Slot} {value : Bytes} {words : List Bytes} {more : List Entry}
      (ht : p.trailing = false) (hpending : p.pending = some (o, none)) (hvalue : Plain value)
      (h : Spells words more) : Continues p (value :: words) ((o, value) :: more)

section Course

variable {p q : Progress} {word : Bytes} {words : List Bytes} {es more : List Entry}

/-- Nothing is pending, so the grammar begins anew. -/
theorem ready_spells (ht : p.trailing = false) (howed : owed? p = some []) (h : Spells words more) :
    Continues p words more := by
  have hready := Continues.ready ht howed h
  rwa [List.nil_append] at hready

theorem continues_start : Continues {} words more ↔ Spells words more := by
  constructor
  · intro h
    cases h with
    | trailing ht => cases ht
    | ready _ howed h =>
      cases howed
      exact h
    | waiting _ hpending => cases hpending
  · exact ready_spells rfl rfl

theorem continues_nil {owed : List Entry} (howed : owed? p = some owed) : Continues p [] owed := by
  cases ht : p.trailing with
  | true => exact List.append_nil owed ▸ .trailing ht howed []
  | false => exact List.append_nil owed ▸ .ready ht howed .nil

/-- Where an option may stand and nothing is pending, the grammar goes on. -/
theorem Continues.spells (h : Continues p words more) (ht : p.trailing = false) {owed : List Entry}
    (howed : owed? p = some owed) : ∃ rest, more = owed ++ rest ∧ Spells words rest := by
  cases h with
  | trailing ht' => exact absurd (ht.symm.trans ht') Bool.false_ne_true
  | ready _ howed' h =>
    cases howed.symm.trans howed'
    exact ⟨_, rfl, h⟩
  | waiting _ hpending =>
    rw [owed?, hpending] at howed
    cases howed

theorem Continues.inputs (h : Continues p words more) (ht : p.trailing = true) :
    ∃ owed, owed? p = some owed ∧ more = owed ++ words.map fun word => (.input, word) := by
  cases h with
  | trailing _ howed => exact ⟨_, howed, rfl⟩
  | ready ht' => exact absurd (ht'.symm.trans ht) Bool.false_ne_true
  | waiting ht' => exact absurd (ht'.symm.trans ht) Bool.false_ne_true

theorem Continues.value (h : Continues p words more) (ht : p.trailing = false) {o : Slot}
    (hpending : p.pending = some (o, none)) :
    ∃ value rest last, words = value :: rest ∧ more = (o, value) :: last ∧ Plain value
      ∧ Spells rest last := by
  cases h with
  | trailing ht' => exact absurd (ht.symm.trans ht') Bool.false_ne_true
  | ready _ howed =>
    rw [owed?, hpending] at howed
    cases howed
  | waiting _ hpending' hvalue h =>
    cases hpending.symm.trans hpending'
    exact ⟨_, _, _, rfl, rfl, hvalue, h⟩

/-! ## The reader keeps to the grammar -/

/-- An input is read if none has been, after what is pending. -/
theorem Holds.stepInput (h : Holds p es) (hstep : p.stepInput word = .ok q) :
    ∃ owed, owed? p = some owed ∧ Holds q (es ++ owed) ∧ q.trailing = p.trailing
      ∧ owed? q = some [(.input, word)] := by
  rw [Progress.stepInput] at hstep
  split at hstep
  · cases hstep
  · cases hsettled : p.settled with
    | error answer => rw [hsettled] at hstep; cases hstep
    | ok next =>
      rw [hsettled] at hstep
      cases hstep
      obtain ⟨owed, howed, hholds, -, htrailing, -⟩ := h.settled hsettled
      exact ⟨owed, howed, hholds.elsewhere _ _ _, htrailing, rfl⟩

/-- Where an option may stand, one word is read as the grammar says, and the words behind it go on. -/
theorem step_sound (h : Holds p es) (ht : p.trailing = false) (hstep : p.step word = .ok q) :
    ∃ owed, Holds q (es ++ owed)
      ∧ ∀ words more, Continues q words more → Continues p (word :: words) (owed ++ more) := by
  cases kind word with
  | escape =>
    rw [step_escape ht] at hstep
    cases hstep
    refine ⟨[], (List.append_nil es).symm ▸ h.elsewhere _ _ _, fun words more hmore => ?_⟩
    obtain ⟨owed, howed, rfl⟩ := hmore.inputs rfl
    have hready := Continues.ready ht howed (.escape words)
    exact hready
  | flag =>
    rw [step_flag ht] at hstep
    obtain ⟨owed, howed, hholds, hpending, htrailing, -⟩ := h.give hstep
    refine ⟨owed ++ [(.log, [])], (List.append_assoc ..) ▸ hholds, fun words more hmore => ?_⟩
    obtain ⟨rest, rfl, hrest⟩ := hmore.spells (htrailing.trans ht) (by rw [owed?, hpending])
    rw [List.append_assoc]
    exact .ready ht howed (.flag hrest)
  | joined ho value =>
    rw [step_joined ht ho] at hstep
    obtain ⟨owed, howed, hholds, hpending, htrailing, -⟩ := h.give hstep
    refine ⟨owed ++ [(_, value)], (List.append_assoc ..) ▸ hholds, fun words more hmore => ?_⟩
    obtain ⟨rest, rfl, hrest⟩ := hmore.spells (htrailing.trans ht) (by rw [owed?, hpending])
    rw [List.append_assoc]
    exact .ready ht howed (.joined ho value hrest)
  | option ho =>
    rw [step_apart ht ho] at hstep
    cases hsettled : p.settled with
    | error answer => rw [hsettled] at hstep; cases hstep
    | ok next =>
      rw [hsettled] at hstep
      cases hstep
      obtain ⟨owed, howed, hholds, -, htrailing, -⟩ := h.settled hsettled
      refine ⟨owed, hholds.elsewhere _ _ _, fun words more hmore => ?_⟩
      obtain ⟨value, rest, last, rfl, rfl, hvalue, hlast⟩ := hmore.value (htrailing.trans ht) rfl
      exact .ready ht howed (.apart ho hvalue hlast)
  | plain hword =>
    rw [step_plain ht hword] at hstep
    split at hstep
    next o hpending =>
      -- the value of an option
      cases hstep
      refine ⟨[], (List.append_nil es).symm ▸ h.elsewhere _ _ _, fun words more hmore => ?_⟩
      obtain ⟨rest, rfl, hrest⟩ := hmore.spells ht (rfl : _ = some [(o, word)])
      exact .waiting ht hpending hword hrest
    next =>
      obtain ⟨owed, howed, hholds, htrailing, hnext⟩ := h.stepInput hstep
      refine ⟨owed, hholds, fun words more hmore => ?_⟩
      obtain ⟨rest, rfl, hrest⟩ := hmore.spells (htrailing.trans ht) hnext
      exact .ready ht howed (.input hword hrest)
  | foreign hforeign =>
    obtain ⟨answer, hanswer⟩ := hforeign p ht
    cases hanswer.symm.trans hstep

/-- **What is read is in the grammar**, and it is kept. -/
theorem steps_sound (h : Holds p es) (hsteps : p.steps words = .ok q) :
    ∃ more, Continues p words more ∧ Holds q (es ++ more) ∧ q.pending = none := by
  induction words generalizing p es with
  | nil =>
    obtain ⟨owed, howed, hholds, hpending, -⟩ := h.settled hsteps
    exact ⟨owed, continues_nil howed, hholds, hpending⟩
  | cons word words ih =>
    rw [Progress.steps] at hsteps
    cases hstep : p.step word with
    | error answer => rw [hstep] at hsteps; cases hsteps
    | ok next =>
      rw [hstep] at hsteps
      cases ht : p.trailing with
      | true =>
        rw [step_trailing ht] at hstep
        obtain ⟨owed, howed, hholds, htrailing, hnext⟩ := h.stepInput hstep
        obtain ⟨more, hmore, hlast, hpending⟩ := ih hholds hsteps
        obtain ⟨owed', howed', rfl⟩ := hmore.inputs (htrailing.trans ht)
        cases hnext.symm.trans howed'
        exact ⟨_, .trailing ht howed (word :: words), by simpa using hlast, hpending⟩
      | false =>
        obtain ⟨owed, hholds, hcontinue⟩ := step_sound h ht hstep
        obtain ⟨more, hmore, hlast, hpending⟩ := ih hholds hsteps
        exact ⟨owed ++ more, hcontinue words more hmore, (List.append_assoc ..) ▸ hlast, hpending⟩

/-! ## The reader reads all of the grammar -/

/-- An input that has been seen has been checked, or is pending. -/
def Seen (p : Progress) (es : List Entry) : Prop :=
  p.inputSeen = true → (∃ path, (.input, path) ∈ es) ∨ ∃ path, p.pending = some (.input, some path)

theorem Seen.owed (h : Seen p es) {owed : List Entry} (howed : owed? p = some owed)
    (hseen : p.inputSeen = true) : ∃ path, (.input, path) ∈ es ++ owed := by
  rcases h hseen with ⟨path, hpath⟩ | ⟨path, hpending⟩
  · exact ⟨path, List.mem_append_left _ hpath⟩
  · rw [owed?, hpending] at howed
    cases howed
    exact ⟨path, List.mem_append_right _ (List.mem_singleton.mpr rfl)⟩

theorem Holds.stepInput_exists (h : Holds p es) (hseen : Seen p es) {owed : List Entry}
    (howed : owed? p = some owed) (hmore : Consistent (es ++ owed ++ (.input, word) :: more)) :
    ∃ q, p.stepInput word = .ok q ∧ Holds q (es ++ owed) ∧ Seen q (es ++ owed)
      ∧ q.trailing = p.trailing ∧ owed? q = some [(.input, word)] := by
  have hfree : ¬ p.inputSeen = true := fun hp => by
    obtain ⟨path, hpath⟩ := hseen.owed howed hp
    exact hmore.not_mem (List.mem_cons_self ..) path hpath
  obtain ⟨next, hsettled⟩ := h.settled_exists howed hmore.left
  have hstep : p.stepInput word
      = .ok { next with inputSeen := true, pending := some (.input, some word) } := by
    rw [Progress.stepInput, if_neg hfree, hsettled]
    rfl
  obtain ⟨owed', howed', hholds, htrailing, hnext⟩ := h.stepInput hstep
  cases howed.symm.trans howed'
  exact ⟨_, hstep, hholds, fun _ => Or.inr ⟨word, rfl⟩, htrailing, hnext⟩

theorem Holds.give_seen (h : Holds p es) (hseen : Seen p es) {o : Slot} {value : Bytes}
    {owed : List Entry} (howed : owed? p = some owed)
    (hmore : Consistent (es ++ owed ++ (o, value) :: more)) :
    ∃ q, p.give o value = .ok q ∧ Holds q (es ++ owed ++ [(o, value)])
      ∧ Seen q (es ++ owed ++ [(o, value)]) ∧ q.trailing = p.trailing ∧ owed? q = some [] := by
  rw [List.append_cons] at hmore
  obtain ⟨q, hgive⟩ := h.give_exists howed hmore.left
  obtain ⟨owed', howed', hholds, hpending, htrailing, hinput⟩ := h.give hgive
  cases howed.symm.trans howed'
  refine ⟨q, hgive, hholds, fun hq => Or.inl ?_, htrailing, by rw [owed?, hpending]⟩
  obtain ⟨path, hpath⟩ := hseen.owed howed (hinput ▸ hq)
  exact ⟨path, List.mem_append_left _ hpath⟩

/-- Where an option may stand, the first word of the grammar is read, and the words behind it go on. -/
theorem ready_complete (h : Holds p es) (hseen : Seen p es) (ht : p.trailing = false)
    {owed : List Entry} (howed : owed? p = some owed) (hspells : Spells (word :: words) more)
    (hconsistent : Consistent (es ++ owed ++ more)) :
    ∃ q first rest, p.step word = .ok q ∧ owed ++ more = first ++ rest ∧ Holds q (es ++ first)
      ∧ Seen q (es ++ first) ∧ Continues q words rest := by
  cases hspells with
  | flag hspells =>
    obtain ⟨q, hgive, hholds, hseen', htrailing, hnext⟩ := h.give_seen hseen howed hconsistent
    rw [List.append_assoc] at hholds hseen'
    exact ⟨q, owed ++ [(.log, [])], _, by rw [step_flag ht, hgive], List.append_cons .., hholds, hseen',
      ready_spells (htrailing.trans ht) hnext hspells⟩
  | @joined o _ _ ho value hspells =>
    obtain ⟨q, hgive, hholds, hseen', htrailing, hnext⟩ := h.give_seen hseen howed hconsistent
    rw [List.append_assoc] at hholds hseen'
    exact ⟨q, owed ++ [(o, value)], _, by rw [step_joined ht ho, hgive], List.append_cons .., hholds,
      hseen', ready_spells (htrailing.trans ht) hnext hspells⟩
  | @apart o _ _ _ ho hvalue hspells =>
    obtain ⟨next, hsettled⟩ := h.settled_exists howed hconsistent.left
    obtain ⟨owed', howed', hholds, hpending, htrailing, hin⟩ := h.settled hsettled
    cases howed.symm.trans howed'
    have hstep : p.step (utf8 o.dashed) = .ok { next with pending := some (o, none) } := by
      rw [step_apart ht ho, hsettled]
      rfl
    exact ⟨_, owed, _, hstep, rfl, hholds.elsewhere _ _ _,
      fun hq => Or.inl (hseen.owed howed (hin ▸ hq)),
      .waiting (htrailing.trans ht) rfl hvalue hspells⟩
  | input hword hspells =>
    obtain ⟨q, hstep, hholds, hseen', htrailing, hnext⟩ := h.stepInput_exists hseen howed hconsistent
    have hinput : p.step word = p.stepInput word := by
      rw [step_plain ht hword]
      split
      next hp =>
        rw [owed?, hp] at howed
        cases howed
      next => rfl
    exact ⟨q, owed, _, hinput.trans hstep, rfl, hholds, hseen', .ready (htrailing.trans ht) hnext hspells⟩
  | escape =>
    have hnext : owed? { p with trailing := true } = some owed := howed
    exact ⟨_, [], _, step_escape ht, rfl, (List.append_nil es).symm ▸ h.elsewhere _ _ _,
      (List.append_nil es).symm ▸ hseen, .trailing rfl hnext words⟩

/-- A word that may follow is read, and the words behind it go on. -/
theorem step_complete (h : Holds p es) (hseen : Seen p es) (hmore : Continues p (word :: words) more)
    (hconsistent : Consistent (es ++ more)) :
    ∃ q first rest, p.step word = .ok q ∧ more = first ++ rest ∧ Holds q (es ++ first)
      ∧ Seen q (es ++ first) ∧ Continues q words rest := by
  cases hmore with
  | trailing ht howed =>
    rw [List.map_cons, ← List.append_assoc] at hconsistent
    obtain ⟨q, hstep, hholds, hseen', htrailing, hnext⟩ := h.stepInput_exists hseen howed hconsistent
    exact ⟨q, _, _, by rw [step_trailing ht, hstep], rfl, hholds, hseen',
      .trailing (htrailing.trans ht) hnext words⟩
  | ready ht howed hspells =>
    rw [← List.append_assoc] at hconsistent
    exact ready_complete h hseen ht howed hspells hconsistent
  | @waiting o _ _ last ht hpending hvalue hspells =>
    have hstep : p.step word = .ok { p with pending := some (o, some word) } := by
      rw [step_plain ht hvalue, hpending]
    have hready : Continues { p with pending := some (o, some word) } words ([(o, word)] ++ last) :=
      .ready ht rfl hspells
    refine ⟨_, [], (o, word) :: last, hstep, rfl, (List.append_nil es).symm ▸ h.elsewhere _ _ _,
      fun hin => Or.inl ?_, hready⟩
    rw [List.append_nil]
    refine (hseen hin).resolve_right ?_
    rintro ⟨path, hpath⟩
    cases hpending.symm.trans hpath

/-- **All of the grammar is read**, if it is consistent with what has been checked. -/
theorem steps_complete (h : Holds p es) (hseen : Seen p es) (hmore : Continues p words more)
    (hconsistent : Consistent (es ++ more)) : ∃ q, p.steps words = .ok q := by
  induction words generalizing p es more with
  | nil =>
    have howed : owed? p = some more := by
      cases hmore with
      | trailing _ howed => rwa [List.map_nil, List.append_nil]
      | ready _ howed hspells =>
        cases hspells
        rwa [List.append_nil]
    exact h.settled_exists howed hconsistent
  | cons word words ih =>
    obtain ⟨q, first, rest, hstep, rfl, hholds, hseen', hrest⟩ :=
      step_complete h hseen hmore hconsistent
    rw [← List.append_assoc] at hconsistent
    rw [Progress.steps, hstep]
    exact ih hholds hseen' hrest hconsistent

end Course

/-! ## The settings -/

section Settings

variable {p : Progress} {environment : Option Bytes} {es : List Entry} {s : Settings}

theorem getD_eq_iff {α : Type} {x : Option α} {P : α → Prop} (hx : ∀ a, x = some a ↔ P a)
    (fallback a : α) : x.getD fallback = a ↔ P a ∨ (∀ b, ¬ P b) ∧ a = fallback := by
  cases x with
  | none =>
    have hnone : ∀ b, ¬ P b := fun b hb => nomatch (hx b).mpr hb
    simp [hnone, eq_comm]
  | some b =>
    have hb : P b := (hx b).mp rfl
    have hall : ¬ ∀ c, ¬ P c := fun h => h b hb
    simp [← hx a, hall]

/-- What has been kept is what is meant, as long as the environment has no say. -/
theorem Holds.settings_iff (h : Holds p es) : p.settings = .ok s ↔ Tells none es s := by
  obtain ⟨input, lang, interpreter, bridge, log⟩ := s
  have hlang := getD_eq_iff (P := fun s => (.lang, utf8 s) ∈ es) h.lang defaultLang lang
  -- every value of the language is text
  have habsent : (∀ s, (.lang, utf8 s) ∉ es) ↔ ∀ value, (.lang, value) ∉ es := by
    refine ⟨fun hs value hvalue => ?_, fun hs s => hs (utf8 s)⟩
    obtain ⟨s, rfl⟩ := h.fits _ hvalue
    exact hs s hvalue
  have hinterpreter := getD_eq_iff h.interpreter defaultInterpreter interpreter
  have hbridge : p.bridge = bridge ↔ ∀ path, bridge = some path ↔ (.bridge, path) ∈ es := by
    simp only [← h.bridge]
    exact ⟨fun e path => by rw [e], fun hall => (Option.ext hall).symm⟩
  have hlog : p.log = log ↔ (log = true ↔ ∃ value, (.log, value) ∈ es) := by
    rw [← h.log, ← Bool.eq_iff_iff, eq_comm]
  rw [Progress.settings]
  cases hp : p.input with
  | none =>
    refine iff_of_false (fun e => nomatch e) fun htells => ?_
    rw [(h.input _).mpr htells.input] at hp
    cases hp
  | some path =>
    have hinput : path = input ↔ (.input, input) ∈ es := by
      rw [← h.input, hp, Option.some.injEq]
    simp only [Except.ok.injEq, Settings.mk.injEq, hinput, hlang, habsent, hinterpreter, hbridge, hlog]
    exact ⟨fun ⟨h1, h2, h3, h4, h5⟩ => ⟨h1, h2, h3, h4, h5⟩,
      fun ⟨h1, h2, h3, h4, h5⟩ => ⟨h1, h2, h3, h4, h5⟩⟩

/-- The environment has no say if the interpreter is named. -/
theorem tells_named {path : Path} (hnamed : (.interpreter, path) ∈ es)
    (environment environment' : Option Bytes) :
    Tells environment es s ↔ Tells environment' es s := by
  have hswap : ∀ a b, Tells a es s → Tells b es s := fun a b h =>
    ⟨h.input, h.lang, Or.inl (h.interpreter.resolve_right fun habsent => habsent.1 path hnamed),
      h.bridge, h.log⟩
  exact ⟨hswap _ _, hswap _ _⟩

/-- Otherwise what it says counts as said. -/
theorem tells_unnamed (habsent : ∀ path, (.interpreter, path) ∉ es) (value : Bytes) :
    Tells (some value) es s ↔ Tells none (es ++ [(.interpreter, value)]) s := by
  constructor
  · intro h
    refine ⟨?_, ?_, Or.inl ?_, ?_, ?_⟩
    · simpa using h.input
    · simpa using h.lang
    · rw [(h.interpreter.resolve_left (habsent _)).2]
      exact List.mem_append_right _ (List.mem_singleton.mpr rfl)
    · simpa using h.bridge
    · simpa using h.log
  · intro h
    refine ⟨?_, ?_, Or.inr ⟨habsent, ?_⟩, ?_, ?_⟩
    · simpa using h.input
    · simpa using h.lang
    · have hinterpreter := h.interpreter
      simpa [habsent] using hinterpreter
    · simpa using h.bridge
    · simpa using h.log

/-- The environment is asked for an interpreter that is not named, and then must not be empty. -/
theorem Holds.finish_iff (h : Holds p es) (hpending : p.pending = none) :
    (Progress.consult environment p).bind Progress.settings = .ok s
      ↔ ((∀ path, (.interpreter, path) ∉ es) → environment ≠ some [])
        ∧ Tells environment es s := by
  cases environment with
  | none =>
    rw [Progress.consult, Except.bind, h.settings_iff]
    exact (and_iff_right fun _ e => nomatch e).symm
  | some value =>
    rw [Progress.consult]
    by_cases hgiven : .interpreter ∈ p.given
    · obtain ⟨path, hnamed⟩ := (h.given _).mp hgiven
      rw [if_pos hgiven, Except.bind, h.settings_iff, tells_named hnamed (some value) none]
      exact (and_iff_right fun habsent => absurd hnamed (habsent path)).symm
    · have habsent : ∀ path, (.interpreter, path) ∉ es := fun path hnamed =>
        hgiven ((h.given _).mpr ⟨path, hnamed⟩)
      have howed : owed? p = some [] := by rw [owed?, hpending]
      rw [if_neg hgiven, tells_unnamed habsent]
      cases hgive : p.give .interpreter value with
      | error answer =>
        -- a value that is refused is empty
        refine iff_of_false (fun e => nomatch e) fun ⟨hvalue, _⟩ => ?_
        have hfits : Fits .interpreter value := fun e => hvalue habsent (congrArg some e)
        have hmore : Consistent (es ++ [] ++ [(.interpreter, value)]) := by
          rw [List.append_nil]
          exact h.concat habsent hfits
        obtain ⟨q, hq⟩ := h.give_exists howed hmore
        cases hgive.symm.trans hq
      | ok q =>
        obtain ⟨owed, howed', hholds, -⟩ := h.give hgive
        cases howed.symm.trans howed'
        rw [List.append_nil] at hholds
        have hvalue : value ≠ [] :=
          hholds.fits (.interpreter, value) (List.mem_append_right _ (List.mem_singleton.mpr rfl))
        rw [Except.bind, hholds.settings_iff]
        exact (and_iff_right fun _ e => hvalue (Option.some.inj e)).symm

end Settings

/-! ## The whole command line -/

section Read

variable {arguments : List Bytes} {environment : Option Bytes} {s : Settings}

theorem read_ok_iff : read arguments environment = .ok s
    ↔ ∃ es, Spells arguments es ∧ Admissible environment es ∧ Tells environment es s := by
  have hread : read arguments environment = ((Progress.steps {} arguments).bind
      fun q => (Progress.consult environment q).bind Progress.settings) := by
    rw [read]
    cases Progress.steps {} arguments <;> rfl
  rw [hread]
  constructor
  · intro h
    cases hsteps : Progress.steps {} arguments with
    | error answer => rw [hsteps] at h; cases h
    | ok q =>
      rw [hsteps] at h
      obtain ⟨es, hcontinues, hholds, hpending⟩ := steps_sound holds_start hsteps
      obtain ⟨henvironment, htells⟩ := (hholds.finish_iff hpending).mp h
      exact ⟨es, continues_start.mp hcontinues,
        ⟨hholds.toConsistent, ⟨_, htells.input⟩, henvironment⟩, htells⟩
  · rintro ⟨es, hspells, hadmissible, htells⟩
    obtain ⟨q, hsteps⟩ := steps_complete holds_start (fun h => nomatch h)
      (continues_start.mpr hspells) hadmissible.toConsistent
    obtain ⟨es', hcontinues, hholds, hpending⟩ := steps_sound holds_start hsteps
    cases hspells.unique (continues_start.mp hcontinues)
    rw [hsteps]
    exact (hholds.finish_iff hpending).mpr ⟨hadmissible.interpreter, htells⟩

/-- A command line of the grammar is accepted for what it says. -/
theorem read_spells_iff {es : List Entry} (hspells : Spells arguments es) :
    read arguments environment = .ok s ↔ Admissible environment es ∧ Tells environment es s := by
  rw [read_ok_iff]
  constructor
  · rintro ⟨es', hspells', h⟩
    cases hspells.unique hspells'
    exact h
  · exact fun h => ⟨es, hspells, h⟩

/-- Two command lines that say the same in another order are read alike. -/
theorem read_perm {arguments' : List Bytes} {es es' : List Entry} (hspells : Spells arguments es)
    (hspells' : Spells arguments' es') (hperm : es.Perm es') :
    read arguments environment = .ok s ↔ read arguments' environment = .ok s := by
  rw [read_spells_iff hspells, read_spells_iff hspells']
  exact ⟨fun h => ⟨h.1.perm hperm, h.2.perm hperm⟩,
    fun h => ⟨h.1.perm hperm.symm, h.2.perm hperm.symm⟩⟩

/-- The environment is not asked for an interpreter that is named. -/
theorem read_named {es : List Entry} (hspells : Spells arguments es) {path : Path}
    (hnamed : (.interpreter, path) ∈ es) (environment' : Option Bytes) :
    read arguments environment = .ok s ↔ read arguments environment' = .ok s := by
  have hswap : ∀ a b, Admissible a es → Admissible b es := fun a b h =>
    ⟨h.toConsistent, h.input, fun habsent => absurd hnamed (habsent path)⟩
  rw [read_spells_iff hspells, read_spells_iff hspells, tells_named hnamed environment environment']
  exact and_congr_left' ⟨hswap _ _, hswap _ _⟩

end Read

/-- **What the command line accepts.** A command line is accepted exactly if the grammar has it and what
it says is admissible under the value of the environment variable; then it means what it says. The
order does not matter, and the variable matters only if no interpreter is named. -/
theorem read_grammar (arguments : List Bytes) (environment : Option Bytes) :
    ((∃ s, read arguments environment = .ok s)
        ↔ ∃ es, Spells arguments es ∧ Admissible environment es)
      ∧ (∀ es s, Spells arguments es →
        (read arguments environment = .ok s ↔ Admissible environment es ∧ Tells environment es s))
      ∧ (∀ es arguments' es' s, Spells arguments es → Spells arguments' es' → es.Perm es' →
        (read arguments environment = .ok s ↔ read arguments' environment = .ok s))
      ∧ ∀ es path environment' s, Spells arguments es → (.interpreter, path) ∈ es →
        (read arguments environment = .ok s ↔ read arguments environment' = .ok s) := by
  refine ⟨⟨?_, ?_⟩, fun _ _ hspells => read_spells_iff hspells,
    fun _ _ _ _ hspells hspells' hperm => read_perm hspells hspells' hperm,
    fun _ _ environment' _ hspells hnamed => read_named hspells hnamed environment'⟩
  · rintro ⟨s, hs⟩
    obtain ⟨es, hspells, hadmissible, -⟩ := read_ok_iff.mp hs
    exact ⟨es, hspells, hadmissible⟩
  · rintro ⟨es, hspells, hadmissible⟩
    obtain ⟨s, htells⟩ := hadmissible.exists_tells
    exact ⟨s, read_ok_iff.mpr ⟨es, hspells, hadmissible, htells⟩⟩

/-- Two ways to say the same, the first with an environment variable that is empty and not asked. -/
theorem read_grammar_swapped :
    read [utf8 Slot.lang.dashed, utf8 "ch", utf8 Slot.interpreter.dashed ++ equals :: utf8 "py",
        utf8 "scan.png"] (some []) = .ok ⟨utf8 "scan.png", "ch", utf8 "py", none, false⟩
      ∧ read [utf8 Slot.interpreter.dashed, utf8 "py", utf8 Slot.lang.dashed ++ equals :: utf8 "ch",
        [dash, dash], utf8 "scan.png"] none = .ok ⟨utf8 "scan.png", "ch", utf8 "py", none, false⟩ := by
  have hplain : ∀ word : Bytes, word.head? ≠ some dash → Plain word := fun _ h e => absurd e h
  have hfirst : Spells [utf8 Slot.lang.dashed, utf8 "ch",
      utf8 Slot.interpreter.dashed ++ equals :: utf8 "py", utf8 "scan.png"]
      [(.lang, utf8 "ch"), (.interpreter, utf8 "py"), (.input, utf8 "scan.png")] :=
    .apart rfl (hplain _ (by decide)) (.joined rfl _ (.input (hplain _ (by decide)) .nil))
  have hsecond : Spells [utf8 Slot.interpreter.dashed, utf8 "py",
      utf8 Slot.lang.dashed ++ equals :: utf8 "ch", [dash, dash], utf8 "scan.png"]
      [(.interpreter, utf8 "py"), (.lang, utf8 "ch"), (.input, utf8 "scan.png")] :=
    .apart rfl (hplain _ (by decide)) (.joined rfl _ (.escape _))
  have hfits : ∀ e ∈ [(Slot.lang, utf8 "ch"), (.interpreter, utf8 "py"), (.input, utf8 "scan.png")],
      Fits e.1 e.2 := by
    simp only [List.forall_mem_cons, List.not_mem_nil, false_implies, implies_true, and_true]
    exact ⟨⟨"ch", rfl⟩, (by decide : utf8 "py" ≠ []), (by decide : utf8 "scan.png" ≠ [])⟩
  have hread := ((read_grammar _ (some [])).2.1 _ ⟨utf8 "scan.png", "ch", utf8 "py", none, false⟩
    hfirst).mpr
      ⟨⟨⟨by decide, hfits⟩, ⟨utf8 "scan.png", by decide⟩, fun h => absurd (by decide) (h (utf8 "py"))⟩,
        by decide, Or.inl (by decide), Or.inl (by decide), by simp, by simp⟩
  have hswapped := ((read_grammar _ (some [])).2.2.1 _ _ _ _ hfirst hsecond (.swap ..)).mp hread
  exact ⟨hread, ((read_grammar _ (some [])).2.2.2 _ (utf8 "py") none _ hsecond (by decide)).mp hswapped⟩

end ImageText.CommandLine
