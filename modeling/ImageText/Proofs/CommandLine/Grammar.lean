import ImageText.CommandLine.Reader
import ImageText.Proofs.Text.Kept
import Mathlib.Data.List.Nodup
import Mathlib.Data.List.TakeWhile

/-!
# The grammar of the command line

What may be said on the command line is said here without the reader: `Spells` cuts the arguments into
units and tells what each of them says, `Admissible` is what may be said together, and `Tells` is what
it means. A unit is a flag, an option with its value in the next word or behind an equals sign, or an
input; behind `--` every word is an input.

> `Spells.unique`: a command line says one thing,
> `Admissible.perm`, `Tells.perm`: the order in which it says it does not matter.
-/

namespace ImageText.CommandLine

open Progress (dash equals)

/-! ## What is said -/

/-- A slot that is filled and the value for it, which is empty for a flag. -/
abbrev Entry := Slot × Bytes

/-- A word that can be a value or an input: it does not begin with a dash, unless it is the dash. -/
def Plain (word : Bytes) : Prop := word.head? = some dash → word = [dash]

/-- The words of a command line and what they say. -/
inductive Spells : List Bytes → List Entry → Prop
  | nil : Spells [] []
  | flag {rest : List Bytes} {es : List Entry} (h : Spells rest es) :
      Spells (utf8 Slot.log.dashed :: rest) ((.log, []) :: es)
  | apart {o : Slot} {value : Bytes} {rest : List Bytes} {es : List Entry}
      (ho : o.takesValue = true) (hvalue : Plain value) (h : Spells rest es) :
      Spells (utf8 o.dashed :: value :: rest) ((o, value) :: es)
  | joined {o : Slot} {rest : List Bytes} {es : List Entry} (ho : o.takesValue = true)
      (value : Bytes) (h : Spells rest es) :
      Spells ((utf8 o.dashed ++ equals :: value) :: rest) ((o, value) :: es)
  | input {word : Bytes} {rest : List Bytes} {es : List Entry} (hword : Plain word)
      (h : Spells rest es) : Spells (word :: rest) ((.input, word) :: es)
  | escape (rest : List Bytes) :
      Spells ([dash, dash] :: rest) (rest.map fun word => (.input, word))

/-- A value that a slot takes: a language is text, and a path is not empty. -/
def Fits : Slot → Bytes → Prop
  | .lang, value => ∃ s : String, value = utf8 s
  | .input, value | .interpreter, value | .bridge, value => value ≠ []
  | .log, _ | .help, _ | .version, _ => True

/-- Nothing is said that cannot be. -/
structure Consistent (es : List Entry) : Prop where
  /-- No slot is filled twice, so there is no second input either. -/
  once : (es.map Prod.fst).Nodup
  fits : ∀ e ∈ es, Fits e.1 e.2

/-- Everything is said that has to be, under the value of the environment variable. -/
structure Admissible (environment : Option Bytes) (es : List Entry) : Prop extends
    Consistent es where
  input : ∃ path, (.input, path) ∈ es
  /-- The environment is asked only for an interpreter that is not named. -/
  interpreter : (∀ path, (.interpreter, path) ∉ es) → environment ≠ some []

/-- What is meant by it. -/
structure Tells (environment : Option Bytes) (es : List Entry) (s : Settings) : Prop where
  input : (.input, s.input) ∈ es
  lang : (.lang, utf8 s.lang) ∈ es ∨ (∀ value, (.lang, value) ∉ es) ∧ s.lang = defaultLang
  interpreter : (.interpreter, s.interpreter) ∈ es
    ∨ (∀ path, (.interpreter, path) ∉ es) ∧ s.interpreter = environment.getD defaultInterpreter
  bridge : ∀ path, s.bridge = some path ↔ (.bridge, path) ∈ es
  log : s.log = true ↔ ∃ value, (.log, value) ∈ es

/-! ## Words -/

theorem utf8_dashed (o : Slot) : utf8 o.dashed = dash :: dash :: utf8 o.name := by
  rw [Slot.dashed, Text.utf8_append]
  rfl

theorem equals_not_mem_name (o : Slot) : equals ∉ utf8 o.name := by
  cases o <;> decide

theorem takeWhile_name {name : Bytes} (h : equals ∉ name) (rest : Bytes) :
    (name ++ rest).takeWhile (· ≠ equals) = name ++ rest.takeWhile (· ≠ equals) := by
  refine List.takeWhile_append_of_pos fun b hb => ?_
  have : b ≠ equals := fun e => h (e ▸ hb)
  simpa using this

theorem takeWhile_joined {name : Bytes} (h : equals ∉ name) (value : Bytes) :
    (name ++ equals :: value).takeWhile (· ≠ equals) = name := by
  rw [takeWhile_name h, List.takeWhile_cons_of_neg (by simp), List.append_nil]

/-! ## The grammar is unambiguous -/

section Unique

variable {o : Slot} {word : Bytes} {rest : List Bytes} {es : List Entry}

theorem not_plain_dashed (o : Slot) (rest : Bytes) : ¬ Plain (utf8 o.dashed ++ rest) := by
  intro h
  rw [utf8_dashed] at h
  cases h rfl

theorem dashed_injective {a b : Slot} (h : utf8 a.dashed = utf8 b.dashed) : a = b := by
  revert h
  cases a <;> cases b <;> decide

theorem dashed_ne_escape (o : Slot) (rest : Bytes) : utf8 o.dashed ++ rest ≠ [dash, dash] := by
  rw [utf8_dashed]
  cases o <;> simp [utf8, Slot.name, Text.encode, Text.encodeChar]

theorem equals_not_mem_dashed (o : Slot) : equals ∉ utf8 o.dashed := by
  cases o <;> decide

theorem dashed_ne_joined (a b : Slot) (value : Bytes) :
    utf8 a.dashed ≠ utf8 b.dashed ++ equals :: value := by
  intro h
  refine equals_not_mem_dashed a ?_
  rw [h]
  exact List.mem_append_right _ (List.mem_cons_self ..)

theorem joined_injective {a b value other : Bytes} (ha : equals ∉ a) (hb : equals ∉ b)
    (h : a ++ equals :: value = b ++ equals :: other) : a = b ∧ value = other := by
  have hname : a = b := by
    rw [← takeWhile_joined ha value, h, takeWhile_joined hb other]
  subst hname
  exact ⟨rfl, (List.cons.inj (List.append_cancel_left h)).2⟩

theorem Spells.of_flag (h : Spells (utf8 Slot.log.dashed :: rest) es) :
    ∃ more, es = (.log, []) :: more ∧ Spells rest more := by
  generalize hwords : utf8 Slot.log.dashed :: rest = words at h
  cases h with
  | nil => cases hwords
  | flag h =>
    cases (List.cons.inj hwords).2
    exact ⟨_, rfl, h⟩
  | apart ho =>
    cases dashed_injective (List.cons.inj hwords).1
    cases ho
  | joined => exact absurd (List.cons.inj hwords).1 (dashed_ne_joined _ _ _)
  | input hword =>
    rw [← (List.cons.inj hwords).1] at hword
    exact absurd hword (not_plain_dashed .log [])
  | escape => exact absurd (List.cons.inj hwords).1 (dashed_ne_escape .log [])

theorem Spells.of_apart (ho : o.takesValue = true) (h : Spells (utf8 o.dashed :: rest) es) :
    ∃ value last more, rest = value :: last ∧ es = (o, value) :: more ∧ Plain value
      ∧ Spells last more := by
  generalize hwords : utf8 o.dashed :: rest = words at h
  cases h with
  | nil => cases hwords
  | flag =>
    cases dashed_injective (List.cons.inj hwords).1
    cases ho
  | apart ho' hvalue h =>
    cases dashed_injective (List.cons.inj hwords).1
    exact ⟨_, _, _, (List.cons.inj hwords).2, rfl, hvalue, h⟩
  | joined => exact absurd (List.cons.inj hwords).1 (dashed_ne_joined _ _ _)
  | input hword =>
    rw [← (List.cons.inj hwords).1, ← List.append_nil (utf8 o.dashed)] at hword
    exact absurd hword (not_plain_dashed o [])
  | escape =>
    rw [← List.append_nil (utf8 o.dashed)] at hwords
    exact absurd (List.cons.inj hwords).1 (dashed_ne_escape o [])

theorem Spells.of_joined {value : Bytes}
    (h : Spells ((utf8 o.dashed ++ equals :: value) :: rest) es) :
    ∃ more, es = (o, value) :: more ∧ Spells rest more := by
  generalize hwords : (utf8 o.dashed ++ equals :: value) :: rest = words at h
  cases h with
  | nil => cases hwords
  | flag => exact absurd (List.cons.inj hwords).1.symm (dashed_ne_joined _ _ _)
  | apart => exact absurd (List.cons.inj hwords).1.symm (dashed_ne_joined _ _ _)
  | @joined o' _ _ _ value' h =>
    obtain ⟨hword, rfl⟩ := List.cons.inj hwords
    obtain ⟨hname, rfl⟩ := joined_injective (equals_not_mem_dashed o) (equals_not_mem_dashed o') hword
    cases dashed_injective hname
    exact ⟨_, rfl, h⟩
  | input hword =>
    rw [← (List.cons.inj hwords).1] at hword
    exact absurd hword (not_plain_dashed _ _)
  | escape => exact absurd (List.cons.inj hwords).1 (dashed_ne_escape _ _)

theorem Spells.of_plain (hword : Plain word) (h : Spells (word :: rest) es) :
    ∃ more, es = (.input, word) :: more ∧ Spells rest more := by
  generalize hwords : word :: rest = words at h
  cases h with
  | nil => cases hwords
  | flag =>
    rw [(List.cons.inj hwords).1] at hword
    exact absurd hword (not_plain_dashed .log [])
  | @apart o =>
    rw [(List.cons.inj hwords).1, ← List.append_nil (utf8 o.dashed)] at hword
    exact absurd hword (not_plain_dashed o [])
  | joined =>
    rw [(List.cons.inj hwords).1] at hword
    exact absurd hword (not_plain_dashed _ _)
  | input _ h =>
    obtain ⟨rfl, rfl⟩ := List.cons.inj hwords
    exact ⟨_, rfl, h⟩
  | escape =>
    rw [(List.cons.inj hwords).1] at hword
    cases hword rfl

theorem Spells.of_escape (h : Spells ([dash, dash] :: rest) es) :
    es = rest.map fun word => (.input, word) := by
  generalize hwords : [dash, dash] :: rest = words at h
  cases h with
  | nil => cases hwords
  | flag => exact absurd (List.cons.inj hwords).1.symm (dashed_ne_escape .log [])
  | @apart o =>
    rw [← List.append_nil (utf8 o.dashed)] at hwords
    exact absurd (List.cons.inj hwords).1.symm (dashed_ne_escape o [])
  | joined => exact absurd (List.cons.inj hwords).1.symm (dashed_ne_escape _ _)
  | input hword =>
    rw [← (List.cons.inj hwords).1] at hword
    cases hword rfl
  | escape => rw [(List.cons.inj hwords).2]

/-- **A command line says one thing.** -/
theorem Spells.unique {words : List Bytes} {es' : List Entry} (h : Spells words es)
    (h' : Spells words es') : es = es' := by
  induction h generalizing es' with
  | nil => cases h'; rfl
  | flag _ ih =>
    obtain ⟨more, rfl, hmore⟩ := h'.of_flag
    rw [ih hmore]
  | apart ho _ _ ih =>
    obtain ⟨value, last, more, hwords, rfl, -, hmore⟩ := h'.of_apart ho
    obtain ⟨rfl, rfl⟩ := List.cons.inj hwords
    rw [ih hmore]
  | joined _ _ _ ih =>
    obtain ⟨more, rfl, hmore⟩ := h'.of_joined
    rw [ih hmore]
  | input hword _ ih =>
    obtain ⟨more, rfl, hmore⟩ := h'.of_plain hword
    rw [ih hmore]
  | escape => exact h'.of_escape.symm

end Unique

/-! ## Saying more -/

section More

variable {o : Slot} {value : Bytes} {es more : List Entry}

theorem Consistent.left (h : Consistent (es ++ more)) : Consistent es where
  once := (List.nodup_append.mp (List.map_append ▸ h.once)).1
  fits e he := h.fits e (List.mem_append_left _ he)

theorem Consistent.not_mem (h : Consistent (es ++ more)) (hmore : (o, value) ∈ more) (other : Bytes) :
    (o, other) ∉ es := by
  intro hes
  have honce := h.once
  rw [List.map_append] at honce
  exact (List.nodup_append.mp honce).2.2 o (List.mem_map_of_mem hes) o (List.mem_map_of_mem hmore) rfl

theorem Consistent.concat (h : Consistent es) (hnew : ∀ other, (o, other) ∉ es)
    (hfits : Fits o value) : Consistent (es ++ [(o, value)]) where
  once := by
    rw [List.map_append, List.nodup_append]
    refine ⟨h.once, List.nodup_singleton _, fun a ha b hb => ?_⟩
    obtain ⟨e, he, rfl⟩ := List.mem_map.mp ha
    rw [List.mem_singleton.mp hb]
    rintro rfl
    exact hnew e.2 he
  fits := by
    intro e he
    rcases List.mem_append.mp he with hes | hlast
    · exact h.fits e hes
    · rw [List.mem_singleton.mp hlast]
      exact hfits

/-- What is admissible means something. -/
theorem Admissible.exists_tells {environment : Option Bytes} (h : Admissible environment es) :
    ∃ s, Tells environment es s := by
  obtain ⟨input, hinput⟩ := h.input
  have hlang : ∃ lang, (.lang, utf8 lang) ∈ es ∨ (∀ value, (.lang, value) ∉ es) ∧ lang = defaultLang := by
    by_cases hsaid : ∃ value, (.lang, value) ∈ es
    · obtain ⟨value, hvalue⟩ := hsaid
      obtain ⟨lang, rfl⟩ := h.fits _ hvalue
      exact ⟨lang, Or.inl hvalue⟩
    · exact ⟨defaultLang, Or.inr ⟨not_exists.mp hsaid, rfl⟩⟩
  have hpath : ∀ o, ∃ path : Option Path, ∀ value, path = some value ↔ (o, value) ∈ es := by
    intro o
    by_cases hsaid : ∃ value, (o, value) ∈ es
    · obtain ⟨value, hvalue⟩ := hsaid
      refine ⟨some value, fun other => ⟨fun e => Option.some.inj e ▸ hvalue, fun hother => ?_⟩⟩
      have := List.inj_on_of_nodup_map h.once hvalue hother rfl
      rw [(Prod.mk.inj this).2]
    · exact ⟨none, fun other => iff_of_false (fun e => nomatch e) (not_exists.mp hsaid other)⟩
  obtain ⟨lang, hlang⟩ := hlang
  obtain ⟨interpreter, hinterpreter⟩ := hpath .interpreter
  obtain ⟨bridge, hbridge⟩ := hpath .bridge
  obtain ⟨log, hlog⟩ := hpath .log
  refine ⟨⟨input, lang, (interpreter.or environment).getD defaultInterpreter, bridge, log.isSome⟩,
    hinput, hlang, ?_, hbridge, ?_⟩
  · cases interpreter with
    | some path => exact Or.inl ((hinterpreter path).mp rfl)
    | none => exact Or.inr ⟨fun path hpath => (nomatch (hinterpreter path).mpr hpath), rfl⟩
  · rw [Option.isSome_iff_exists]
    exact exists_congr hlog

end More

/-! ## The order does not matter -/

section Order

variable {environment : Option Bytes} {es es' : List Entry} {s : Settings}

theorem Admissible.perm (hperm : es.Perm es') (h : Admissible environment es) :
    Admissible environment es' where
  once := (hperm.map _).nodup_iff.mp h.once
  fits e he := h.fits e (hperm.mem_iff.mpr he)
  input := h.input.imp fun _ hpath => hperm.mem_iff.mp hpath
  interpreter habsent := h.interpreter fun path hpath => habsent path (hperm.mem_iff.mp hpath)

theorem Tells.perm (hperm : es.Perm es') (h : Tells environment es s) :
    Tells environment es' s := by
  have hmem : ∀ e, e ∈ es ↔ e ∈ es' := fun _ => hperm.mem_iff
  exact {
    input := (hmem _).mp h.input
    lang := by simpa only [hmem] using h.lang
    interpreter := by simpa only [hmem] using h.interpreter
    bridge := by simpa only [hmem] using h.bridge
    log := by simpa only [hmem] using h.log }

end Order

end ImageText.CommandLine
