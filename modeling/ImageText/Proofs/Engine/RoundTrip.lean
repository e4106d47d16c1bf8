import Mathlib.Data.List.Forall2
import ImageText.Proofs.Engine.Legible
import ImageText.Proofs.Engine.Plain
import ImageText.Proofs.Json.Members

/-!
# Round trip

An answer of the engine is made plain, written as JSON on the engine's side and read on this side. If it
is made of nothing, truth values, whole numbers that fit 64 bits, texts of scalar values, lists, tuples
and dictionaries with texts or whole numbers for keys, then what is read is the answer: `Datum.tree`
says so without any JSON in between.

> `exists_plain`, `carries_plain`: such an answer has plain data, and they are read as its tree if
> brackets are not nested too deeply. Whatever is read can be written, too.

A key is read as its text. Two keys of one dictionary may have one text, and then the later entry stays;
`Json.collect_replace` is what makes the two dictionaries agree, the one that the engine's side builds
and the one that is read.
-/

namespace ImageText.Engine

open Json (Value)
open Text (encode)

namespace Datum

/-! ## What is read in plain data -/

/-- The text that code points stand for. -/
def stringOf (s : CodePoints) : String := String.ofList (charsOf s)

/-- A value is read as `v` with fewer than `budget` brackets open at once. -/
structure Carries (budget : Nat) (d : Datum) (v : Value) : Prop where
  proper : d.Proper
  read : d.within budget = some v

/-- What is read can be written, since there is room for more brackets. -/
theorem Carries.written {budget : Nat} {d : Datum} {v : Value} (h : Carries (budget + 1) d v)
    {room : Nat} (hroom : budget ≤ room) : ∃ cs, d.dump room = .ok cs := by
  obtain ⟨hlegible, hdepth⟩ := (isSome_within d h.proper budget).mp (by rw [h.read]; rfl)
  exact legible_dump d hlegible (Nat.le_trans hdepth hroom)

/-- An entry with a text for a key is written and read. -/
structure CarriesEntry (budget : Nat) (e : Datum × Datum) (m : String × Value) : Prop where
  key : ∃ s, e.1 = str s ∧ (∀ n ∈ s, isScalar n = true) ∧ m.1 = stringOf s
  value : Carries budget e.2 m.2

theorem inRange_of_isScalar {s : CodePoints} (h : ∀ n ∈ s, isScalar n = true) : InRange s := by
  intro n hn
  have hscalar := h n hn
  rw [isScalar, Bool.and_eq_true, decide_eq_true_eq] at hscalar
  exact hscalar.2

theorem spelled?_of_isScalar {s : CodePoints} (h : ∀ n ∈ s, isScalar n = true) :
    spelled? s = some (stringOf s) := by
  rw [spelled?, text?_rowOf h]
  rfl

theorem carries_text {s : CodePoints} (h : ∀ n ∈ s, isScalar n = true) (budget : Nat) :
    Carries (budget + 1) (str s) (.string (stringOf s)) where
  proper := inRange_of_isScalar h
  read := by
    rw [within, spelled?_of_isScalar h]
    rfl

theorem carries_int {n : Int} (h : -0x8000000000000000 ≤ n ∧ n < 0x10000000000000000)
    (budget : Nat) : Carries (budget + 1) (int n) (.number (.whole n)) where
  proper := trivial
  read := by
    rw [within, numberIn?_figure (Json.Figure.bytes_ofInt n), Json.value_ofInt h.1 h.2]
    rfl

/-! ## Containers -/

theorem allProper_carries {budget : Nat} {items : List Datum} {vs : List Value}
    (h : List.Forall₂ (Carries budget) items vs) : AllProper items := by
  induction h with
  | nil => exact trivial
  | cons hx _ ih => exact ⟨hx.proper, ih⟩

theorem mapM_carries {budget : Nat} {items : List Datum} {vs : List Value}
    (h : List.Forall₂ (Carries budget) items vs) :
    (items.mapM fun x : Datum => x.within budget) = some vs := by
  induction h with
  | nil => rfl
  | cons hx _ ih =>
    rw [List.mapM_cons, hx.read, ih]
    rfl

theorem carries_list {budget : Nat} (hbudget : budget ≠ 0) {items : List Datum} {vs : List Value}
    (h : List.Forall₂ (Carries budget) items vs) :
    Carries (budget + 1) (list items) (.array vs) where
  proper := allProper_carries h
  read := by
    rw [within, if_neg hbudget, mapM_carries h]
    rfl

theorem entriesProper_carries {budget : Nat} {entries : List (Datum × Datum)}
    {ms : List (String × Value)} (h : List.Forall₂ (CarriesEntry budget) entries ms) :
    EntriesProper entries := by
  induction h with
  | nil => exact trivial
  | @cons e m rest ms he hrest ih =>
    obtain ⟨s, hs, hscalar, -⟩ := he.key
    refine ⟨⟨?_, he.value.proper⟩, ih⟩
    rw [hs]
    exact inRange_of_isScalar hscalar

theorem foldlM_carries {budget : Nat} {entries : List (Datum × Datum)} {ms : List (String × Value)}
    (h : List.Forall₂ (CarriesEntry budget) entries ms) (start : List (String × Value)) :
    entries.foldlM (enter fun x : Datum => x.within budget) start
      = some (Json.collect ms start) := by
  induction h generalizing start with
  | nil => rfl
  | @cons e m rest ms he _ ih =>
    obtain ⟨s, hs, hscalar, hkey⟩ := he.key
    have hstep : enter (fun x : Datum => x.within budget) start e
        = some (Json.insert m.1 m.2 start) := by
      rw [enter, hs, keyIn?, spelled?_of_isScalar hscalar, he.value.read, ← hkey]
      rfl
    rw [List.foldlM_cons, hstep]
    exact ih _

theorem carries_dict {budget : Nat} (hbudget : budget ≠ 0) {entries : List (Datum × Datum)}
    {ms : List (String × Value)} (h : List.Forall₂ (CarriesEntry budget) entries ms) :
    Carries (budget + 1) (dict entries) (.object (Json.collect ms [])) where
  proper := entriesProper_carries h
  read := by
    rw [within, if_neg hbudget, foldlM_carries h]
    rfl

/-! ## Keys -/

/-- Texts of scalar values are told apart by the strings that they stand for. -/
theorem stringOf_inj {s t : CodePoints} (hs : ∀ n ∈ s, isScalar n = true)
    (ht : ∀ n ∈ t, isScalar n = true) (h : stringOf s = stringOf t) : s = t := by
  -- a scalar value comes back from its character
  have hback : ∀ {u : CodePoints}, (∀ n ∈ u, isScalar n = true) → (charsOf u).map Char.toNat = u := by
    intro u hu
    rw [charsOf, List.map_map]
    conv_rhs => rw [← List.map_id u]
    exact List.map_congr_left fun n hn => Text.toNat_ofNat ((isScalar_iff n).mp (hu n hn))
  have hchars : charsOf s = charsOf t := by
    have := congrArg String.toList h
    rwa [stringOf, stringOf, String.toList_ofList, String.toList_ofList] at this
  rw [← hback hs, ← hback ht, hchars]

theorem isScalar_ofChars (cs : List Char) : ∀ n ∈ ofChars cs, isScalar n = true := by
  intro n hn
  obtain ⟨c, -, rfl⟩ := List.mem_map.mp hn
  exact (isScalar_iff _).mpr (Text.toNat_scalar c)

/-- **A text put into a dictionary is a new value for its string.** -/
theorem carries_putText {budget : Nat} {acc : List (Datum × Datum)} {ms : List (String × Value)}
    (h : List.Forall₂ (CarriesEntry budget) acc ms) {s : CodePoints}
    (hs : ∀ n ∈ s, isScalar n = true) {x : Datum} {v : Value} (hx : Carries budget x v) :
    List.Forall₂ (CarriesEntry budget) (putText s x acc) (Json.replace (stringOf s) v ms) := by
  unfold putText
  induction h with
  | nil => exact .cons ⟨⟨s, rfl, hs, rfl⟩, hx⟩ .nil
  | @cons e m rest ms he hrest ih =>
    obtain ⟨k, old⟩ := e
    obtain ⟨name, w⟩ := m
    obtain ⟨⟨t, ht, hscalar, hname⟩, hold⟩ := he
    dsimp only at ht hname
    subst ht hname
    unfold put Json.replace
    rw [sameKey]
    -- the two sides look for the key in the same places
    by_cases heq : t = s
    · rw [if_pos (beq_iff_eq.mpr heq), if_pos (by rw [heq])]
      exact .cons ⟨⟨t, rfl, hscalar, rfl⟩, hx⟩ hrest
    · rw [if_neg (fun h => heq (beq_iff_eq.mp h)),
        if_neg (fun h => heq (stringOf_inj hscalar hs h))]
      exact .cons ⟨⟨t, rfl, hscalar, rfl⟩, hold⟩ ih

/-! ## Answers that JSON can carry -/

/-- A key of a dictionary that JSON can carry: a text of scalar values, or a whole number that is not too
long. -/
def PortableKey : Datum → Prop
  | str s => ∀ n ∈ s, isScalar n = true
  | int n => Short n
  | _ => False

mutual

/-- A value that JSON can carry. -/
def Portable : Datum → Prop
  | null | bool _ => True
  | int n => -0x8000000000000000 ≤ n ∧ n < 0x10000000000000000
  | str s => ∀ n ∈ s, isScalar n = true
  | list items => AllPortable items
  | tuple items => AllPortable items
  | dict entries => EntriesPortable entries
  | _ => False

/-- Values that JSON can carry. -/
def AllPortable : List Datum → Prop
  | [] => True
  | x :: rest => x.Portable ∧ AllPortable rest

/-- Entries that JSON can carry. -/
def EntriesPortable : List (Datum × Datum) → Prop
  | [] => True
  | (k, v) :: rest => (k.PortableKey ∧ v.Portable) ∧ EntriesPortable rest

end

/-- The text of a key. -/
def keyString : Datum → String
  | str s => stringOf s
  | int n => String.ofList (Json.wholeText n)
  | _ => ""

mutual

/-- A value as a JSON value: lists and tuples are arrays, and a key is the string of its text. -/
def tree : Datum → Value
  | null => .null
  | bool b => .bool b
  | int n => .number (.whole n)
  | str s => .string (stringOf s)
  | list items => .array (trees items)
  | tuple items => .array (trees items)
  | generator items => .array (trees items)
  | dict entries => .object (treeEntries [] entries)
  | _ => .null

/-- Values as JSON values. -/
def trees : List Datum → List Value
  | [] => []
  | x :: rest => x.tree :: trees rest

/-- Entries as members, each put behind those in `acc`, where a later member stays for one with its
key. -/
def treeEntries (acc : List (String × Value)) : List (Datum × Datum) → List (String × Value)
  | [] => acc
  | (k, v) :: rest => treeEntries (Json.insert k.keyString v.tree acc) rest

end

theorem stringOf_ofChars (cs : List Char) : stringOf (ofChars cs) = String.ofList cs := by
  have hback : Char.ofNat ∘ Char.toNat = id := funext Char.ofNat_toNat
  rw [stringOf, charsOf, ofChars, List.map_map, hback, List.map_id]

/-- A key becomes its text. -/
theorem portable_asText {k : Datum} (h : k.PortableKey) {room : Nat} {key : CodePoints}
    (hkey : k.asText room = .ok key) :
    (∀ n ∈ key, isScalar n = true) ∧ stringOf key = k.keyString := by
  obtain ⟨left, -, hkey⟩ := calling_ok hkey
  cases k with
  | str s =>
    cases hkey
    exact ⟨h, rfl⟩
  | int n =>
    obtain ⟨inner, -, hkey⟩ := calling_ok hkey
    obtain ⟨cs, hcs, rfl⟩ := map_ok hkey
    obtain ⟨-, rfl⟩ := intText_eq_ok.mp hcs
    exact ⟨isScalar_ofChars _, stringOf_ofChars _⟩
  | _ => exact absurd h id

/-! ## Room for such answers -/

theorem short_of_fits {n : Int} (h : -0x8000000000000000 ≤ n ∧ n < 0x10000000000000000) :
    Short n := by
  refine short_of_lt (k := 20) (by decide) ?_
  have : (10 : Nat) ^ 20 = 100000000000000000000 := by norm_num
  omega

theorem modest_of_portableKey {k : Datum} (h : k.PortableKey) (n : Nat) : k.Modest n := by
  cases k with
  | str s => exact trivial
  | int m => exact h
  | _ => exact absurd h id

mutual

/-- An answer that JSON can carry is within the limits. -/
theorem modest_of_portable (d : Datum) (h : d.Portable) {n : Nat} (hn : d.depth ≤ n) :
    d.Modest n := by
  cases d with
  | int m => exact short_of_fits h
  | list items =>
    have hn : depths items < n := hn
    exact ⟨by omega, modest_of_allPortable items h (by omega)⟩
  | tuple items =>
    have hn : depths items < n := hn
    exact ⟨by omega, modest_of_allPortable items h (by omega)⟩
  | dict entries =>
    have hn : entryDepths entries < n := hn
    exact ⟨by omega, modest_of_entriesPortable entries h (by omega)⟩
  | null => exact trivial
  | bool b => exact trivial
  | str s => exact trivial
  | _ => exact absurd h id

theorem modest_of_allPortable (items : List Datum) (h : AllPortable items) {n : Nat}
    (hn : depths items ≤ n) : AllModest n items := by
  cases items with
  | nil => exact trivial
  | cons x rest =>
    obtain ⟨hx, hrest⟩ := Nat.max_le.mp hn
    exact ⟨modest_of_portable x h.1 hx, modest_of_allPortable rest h.2 hrest⟩

theorem modest_of_entriesPortable (entries : List (Datum × Datum)) (h : EntriesPortable entries)
    {n : Nat} (hn : entryDepths entries ≤ n) : EntriesModest n entries := by
  cases entries with
  | nil => exact trivial
  | cons e rest =>
    obtain ⟨k, v⟩ := e
    obtain ⟨⟨hk, hv⟩, hothers⟩ := h
    obtain ⟨hvalue, hrest⟩ := Nat.max_le.mp hn
    exact ⟨⟨modest_of_portableKey hk n, modest_of_portable v hv hvalue⟩,
      modest_of_entriesPortable rest hothers hrest⟩

end

/-- An answer that JSON can carry has plain data where there is room for two calls in every bracket. -/
theorem exists_plain {d : Datum} (h : d.Portable) {room : Nat} (hroom : 2 * d.depth + 3 ≤ room) :
    ∃ data, d.plain room = .ok data :=
  plain_of_modest hroom d (modest_of_portable d h (Nat.le_refl _))

/-! ## Reading such answers -/

mutual

/-- **The plain data of an answer that JSON can carry are read as its tree.** The induction is on the
answer; its depth is the number of brackets that have to be allowed. -/
theorem carries_plain (d : Datum) (h : d.Portable) {budget : Nat} (hbudget : d.depth < budget)
    {room : Nat} {data : Datum} (hd : d.plain room = .ok data) : Carries budget data d.tree := by
  obtain ⟨budget, rfl⟩ : ∃ n, budget = n + 1 := ⟨budget - 1, by omega⟩
  cases d with
  | null =>
    obtain ⟨left, -, hd⟩ := calling_ok hd
    cases hd
    exact ⟨trivial, rfl⟩
  | bool b =>
    obtain ⟨left, hd⟩ := looking_ok hd
    cases hd
    exact ⟨trivial, rfl⟩
  | int n =>
    obtain ⟨left, hd⟩ := looking_ok hd
    cases hd
    exact carries_int h budget
  | str s =>
    obtain ⟨left, hd⟩ := looking_ok hd
    cases hd
    exact carries_text h budget
  | list items =>
    have hdepth : depths items < budget := Nat.lt_of_succ_lt_succ hbudget
    obtain ⟨left, data, hdata, rfl⟩ := looking_map_ok hd
    exact carries_list (by omega) (carries_plainItems items h hdepth hdata)
  | tuple items =>
    have hdepth : depths items < budget := Nat.lt_of_succ_lt_succ hbudget
    obtain ⟨left, data, hdata, rfl⟩ := looking_map_ok hd
    exact carries_list (by omega) (carries_plainItems items h hdepth hdata)
  | dict entries =>
    have hdepth : entryDepths entries < budget := Nat.lt_of_succ_lt_succ hbudget
    obtain ⟨left, data, hdata, rfl⟩ := looking_map_ok hd
    obtain ⟨ms, hms, -, hcollect⟩ :=
      carries_plainEntries entries h hdepth .nil List.nodup_nil hdata
    have hdict := carries_dict (by omega) hms
    rw [hcollect] at hdict
    exact hdict
  | _ => exact absurd h id
termination_by structural d

theorem carries_plainItems (items : List Datum) (h : AllPortable items) {budget : Nat}
    (hbudget : depths items < budget) {room : Nat} {data : List Datum}
    (hd : plainItems room items = .ok data) :
    List.Forall₂ (Carries budget) data (trees items) := by
  cases items with
  | nil =>
    cases hd
    exact .nil
  | cons x rest =>
    obtain ⟨hx, hrest⟩ := Nat.max_lt.mp hbudget
    obtain ⟨head, tail, hhead, htail, rfl⟩ := plainItems_cons_ok hd
    exact .cons (carries_plain x h.1 hx hhead) (carries_plainItems rest h.2 hrest htail)
termination_by structural items

theorem carries_plainEntries (entries : List (Datum × Datum)) (h : EntriesPortable entries)
    {budget : Nat} (hbudget : entryDepths entries < budget) {room : Nat}
    {acc data : List (Datum × Datum)} {ms : List (String × Value)}
    (hacc : List.Forall₂ (CarriesEntry budget) acc ms) (hnodup : (ms.map Prod.fst).Nodup)
    (hd : plainEntries room acc entries = .ok data) :
    ∃ next, List.Forall₂ (CarriesEntry budget) data next
      ∧ (next.map Prod.fst).Nodup
      ∧ Json.collect next [] = treeEntries (Json.collect ms []) entries := by
  cases entries with
  | nil =>
    cases hd
    exact ⟨ms, hacc, hnodup, rfl⟩
  | cons e rest =>
    obtain ⟨k, v⟩ := e
    obtain ⟨⟨hk, hv⟩, hothers⟩ := h
    obtain ⟨hvalue, hrest⟩ := Nat.max_lt.mp hbudget
    obtain ⟨key, value, hkey, hplain, hd⟩ := plainEntries_cons_ok hd
    obtain ⟨hscalar, hstring⟩ := portable_asText hk hkey
    -- the entry goes into the dictionary, and its string into the object
    have hput := carries_putText hacc hscalar (carries_plain v hv hvalue hplain)
    obtain ⟨next, hnext, hnodup', hcollect⟩ :=
      carries_plainEntries rest hothers hrest hput (Json.nodup_replace _ _ hnodup) hd
    refine ⟨next, hnext, hnodup', ?_⟩
    rw [hcollect, Json.collect_replace _ _ hnodup, hstring]
    rfl
termination_by structural entries

end

end Datum

end ImageText.Engine
