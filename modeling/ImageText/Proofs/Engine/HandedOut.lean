import ImageText.Proofs.Engine.Data
import ImageText.Proofs.Engine.Ordinary
import ImageText.Proofs.Steady

/-!
# What an array hands out

Making a value plain goes through mappings and sequences down to their scalars, and turns whatever is
unfamiliar into a text. It does not go into an array: what an array hands out is taken as it is. So plain
data are made of nothing but what JSON has, with a text for every key, if and only if all that the arrays
in the value hand out already was. `Datum.Candid` says so for a value: its large arrays do not matter,
since they are left out, and neither does a value whose key comes again behind it.

> `plain_candid`: a value that has plain data has such data exactly if it is candid, and only then they
> can be written down; writing any other is a type error unless a limit comes first, and within the limits
> exactly the recognitions of candid values end well.

The two halves are about two sets of keys. The data have texts for keys, and what is written may also have
scalars, so both are instances of one lemma, `isData_plain`.
-/

namespace ImageText

namespace Engine

namespace Datum

/-! ## Candid values -/

/-- Two keys have one text. -/
def OneText (k l : Datum) : Prop := ∃ room s, k.text room = .ok s ∧ l.text room = .ok s

mutual

/-- Every array in a value, unless it is large, hands out data with keys of one kind. A value in a
mapping counts only if its key is not put again. -/
def Candid (Key : Datum → Prop) : Datum → Prop
  | array content size => maxArraySize < size.getD 0 ∨ content.IsData Key
  | list items => AllCandid Key items
  | tuple items => AllCandid Key items
  | dict entries => EntriesCandid Key entries
  | mapping entries => EntriesCandid Key entries
  | null | bool _ | int _ | float _ | str _ | bytes _ | generator _ | opaqueObject _ => True

/-- So does every array in some values. -/
def AllCandid (Key : Datum → Prop) : List Datum → Prop
  | [] => True
  | x :: rest => x.Candid Key ∧ AllCandid Key rest

/-- So does every array in some entries. -/
def EntriesCandid (Key : Datum → Prop) : List (Datum × Datum) → Prop
  | [] => True
  | (k, v) :: rest =>
    ((∀ e ∈ rest, ¬ k.OneText e.1) → v.Candid Key) ∧ EntriesCandid Key rest

end

/-! ## Dictionaries with texts for keys -/

/-- Entries under different texts. -/
structure Texts (acc : List (Datum × Datum)) : Prop where
  text : ∀ e ∈ acc, ∃ s, e.1 = str s
  apart : (acc.map Prod.fst).Nodup

theorem Texts.tail {e : Datum × Datum} {rest : List (Datum × Datum)} (h : Texts (e :: rest)) :
    Texts rest :=
  ⟨fun f hf => h.text f (List.mem_cons_of_mem _ hf), (List.nodup_cons.mp h.apart).2⟩

/-- What is put under a text takes the place of what was there, and everything else stays. -/
theorem mem_putText {acc : List (Datum × Datum)} (h : Texts acc) (s : CodePoints) (v : Datum)
    (e : Datum × Datum) :
    e ∈ putText s v acc ↔ e = (str s, v) ∨ e ∈ acc ∧ e.1 ≠ str s := by
  unfold putText
  induction acc with
  | nil => simp [put]
  | cons first rest ih =>
    obtain ⟨k, old⟩ := first
    obtain ⟨t, ht⟩ := h.text _ (List.mem_cons_self ..)
    dsimp only at ht
    subst ht
    have hothers : ∀ f ∈ rest, f.1 ≠ str t := by
      intro f hf e
      exact (List.nodup_cons.mp h.apart).1 (List.mem_map.mpr ⟨f, hf, e⟩)
    unfold put
    rw [sameKey]
    by_cases heq : t = s
    · subst heq
      rw [if_pos (beq_self_eq_true t), List.mem_cons, List.mem_cons]
      constructor
      · intro he
        rcases he with he | he
        · exact Or.inl he
        · exact Or.inr ⟨Or.inr he, hothers e he⟩
      · intro he
        rcases he with he | ⟨rfl | he, hne⟩
        · exact Or.inl he
        · exact absurd rfl hne
        · exact Or.inr he
    · have hkey : str t ≠ str s := fun e => heq (str.inj e)
      rw [if_neg (fun e => heq (beq_iff_eq.mp e)), List.mem_cons, List.mem_cons, ih h.tail]
      constructor
      · intro he
        rcases he with rfl | he | ⟨he, hne⟩
        · exact Or.inr ⟨Or.inl rfl, hkey⟩
        · exact Or.inl he
        · exact Or.inr ⟨Or.inr he, hne⟩
      · intro he
        rcases he with he | ⟨rfl | he, hne⟩
        · exact Or.inr (Or.inl he)
        · exact Or.inl rfl
        · exact Or.inr (Or.inr ⟨he, hne⟩)

theorem texts_putText {acc : List (Datum × Datum)} (h : Texts acc) (s : CodePoints) (v : Datum) :
    Texts (putText s v acc) where
  text := by
    intro e he
    rcases (mem_putText h s v e).mp he with rfl | ⟨he, -⟩
    · exact ⟨s, rfl⟩
    · exact h.text e he
  apart := by
    unfold putText
    induction acc with
    | nil => exact List.nodup_singleton _
    | cons first rest ih =>
      obtain ⟨k, old⟩ := first
      obtain ⟨t, ht⟩ := h.text _ (List.mem_cons_self ..)
      dsimp only at ht
      subst ht
      have hnew := (List.nodup_cons.mp h.apart).1
      unfold put
      rw [sameKey]
      by_cases heq : t = s
      · rw [if_pos (beq_iff_eq.mpr heq)]
        exact h.apart
      · rw [if_neg (fun e => heq (beq_iff_eq.mp e))]
        refine List.nodup_cons.mpr ⟨?_, ih h.tail⟩
        -- the first key is none of the others, and it is not the new one
        intro hmem
        obtain ⟨e, he, hkey⟩ := List.mem_map.mp hmem
        rcases (mem_putText h.tail s v e).mp he with rfl | ⟨he, -⟩
        · exact heq (str.inj hkey).symm
        · exact hnew (hkey ▸ List.mem_map_of_mem he)

/-- What holds of all entries after one was put holds of it and of those under other texts. -/
theorem forall_putText {acc : List (Datum × Datum)} (h : Texts acc) (s : CodePoints) (v : Datum)
    (P : Datum × Datum → Prop) :
    (∀ e ∈ putText s v acc, P e) ↔ P (str s, v) ∧ ∀ e ∈ acc, e.1 ≠ str s → P e := by
  simp only [mem_putText h, or_imp, forall_and, forall_eq, and_imp]

/-! ## Plain data -/

theorem entriesData_texts {Key : Datum → Prop} (hkey : ∀ s, Key (str s)) {acc : List (Datum × Datum)}
    (h : Texts acc) : EntriesData Key acc ↔ ∀ e ∈ acc, e.2.IsData Key := by
  rw [entriesData_iff]
  refine forall₂_congr fun e he => and_iff_right ?_
  obtain ⟨s, hs⟩ := h.text e he
  rw [hs]
  exact hkey s

/-- Entries with plain data have keys with texts. -/
theorem exists_asText {room : Nat} {entries acc data : List (Datum × Datum)}
    (hd : plainEntries room acc entries = .ok data) : ∀ e ∈ entries, ∃ s, e.1.asText room = .ok s := by
  induction entries generalizing acc with
  | nil => exact List.forall_mem_nil _
  | cons e rest ih =>
    obtain ⟨key, value, hkey, -, hd⟩ := plainEntries_cons_ok hd
    exact List.forall_mem_cons.mpr ⟨⟨key, hkey⟩, ih hd⟩

/-- The text of a key does not depend on the room, so two keys have one text wherever both have some. -/
theorem oneText_iff {k l : Datum} {room : Nat} {s t : CodePoints} (hk : k.asText room = .ok s)
    (hl : l.asText room = .ok t) : k.OneText l ↔ s = t := by
  obtain ⟨left, rfl, hk⟩ := calling_ok hk
  have hl : l.text left = .ok t := hl
  constructor
  · rintro ⟨other, u, hu, hu'⟩
    exact ((grows_text k).unique hk hu).trans ((grows_text l).unique hu' hl)
  · rintro rfl
    exact ⟨left, s, hk, hl⟩

mutual

/-- **Plain data are data if and only if the value is candid.** -/
theorem isData_plain {Key : Datum → Prop} (hkey : ∀ s, Key (str s)) (d : Datum) {room : Nat}
    {data : Datum} (hd : d.plain room = .ok data) : data.IsData Key ↔ d.Candid Key := by
  have hnone : Texts [] := ⟨nofun, List.nodup_nil⟩
  cases d with
  | null =>
    obtain ⟨left, -, hd⟩ := calling_ok hd
    cases hd
    exact Iff.rfl
  | array content size =>
    obtain ⟨left, hd⟩ := looking_ok hd
    cases hd
    -- a large array is left out, and any other hands out its content
    by_cases hlarge : maxArraySize < size.getD 0
    · rw [if_pos hlarge]
      exact iff_of_true trivial (Or.inl hlarge)
    · rw [if_neg hlarge]
      exact (or_iff_right hlarge).symm
  | list items =>
    obtain ⟨left, data, hdata, rfl⟩ := looking_map_ok hd
    exact isData_plainItems hkey items hdata
  | tuple items =>
    obtain ⟨left, data, hdata, rfl⟩ := looking_map_ok hd
    exact isData_plainItems hkey items hdata
  | dict entries =>
    obtain ⟨left, data, hdata, rfl⟩ := looking_map_ok hd
    exact (isData_plainEntries hkey entries hnone hdata).trans (and_iff_right nofun)
  | mapping entries =>
    obtain ⟨left, data, hdata, rfl⟩ := looking_map_ok hd
    exact (isData_plainEntries hkey entries hnone hdata).trans (and_iff_right nofun)
  | bytes bs =>
    obtain ⟨left, text, -, rfl⟩ := looking_map_ok hd
    exact Iff.rfl
  | generator items =>
    obtain ⟨left, text, -, rfl⟩ := looking_map_ok hd
    exact Iff.rfl
  | opaqueObject s =>
    obtain ⟨left, text, -, rfl⟩ := looking_map_ok hd
    exact Iff.rfl
  | _ =>
    obtain ⟨left, hd⟩ := looking_ok hd
    cases hd
    exact Iff.rfl
termination_by structural d

theorem isData_plainItems {Key : Datum → Prop} (hkey : ∀ s, Key (str s)) (items : List Datum)
    {room : Nat} {data : List Datum} (hd : plainItems room items = .ok data) :
    AllData Key data ↔ AllCandid Key items := by
  cases items with
  | nil =>
    cases hd
    exact Iff.rfl
  | cons x rest =>
    obtain ⟨head, tail, hhead, htail, rfl⟩ := plainItems_cons_ok hd
    exact and_congr (isData_plain hkey x hhead) (isData_plainItems hkey rest htail)
termination_by structural items

/-- Of the entries that are there, those stay whose key does not come again. -/
theorem isData_plainEntries {Key : Datum → Prop} (hkey : ∀ s, Key (str s))
    (entries : List (Datum × Datum)) {room : Nat} {acc data : List (Datum × Datum)} (h : Texts acc)
    (hd : plainEntries room acc entries = .ok data) :
    EntriesData Key data
      ↔ (∀ e ∈ acc, (∀ f ∈ entries, ∀ s, f.1.asText room = .ok s → str s ≠ e.1) → e.2.IsData Key)
        ∧ EntriesCandid Key entries := by
  cases entries with
  | nil =>
    cases hd
    rw [entriesData_texts hkey h]
    exact ⟨fun hall => ⟨fun e he _ => hall e he, trivial⟩, fun hall e he => hall.1 e he nofun⟩
  | cons e rest =>
    obtain ⟨k, v⟩ := e
    obtain ⟨key, value, hk, hv, hd⟩ := plainEntries_cons_ok hd
    rw [isData_plainEntries hkey rest (texts_putText h key value) hd, forall_putText h,
      isData_plain hkey v hv]
    have hnew : (∀ f ∈ rest, ∀ s, f.1.asText room = .ok s → str s ≠ str key)
        ↔ ∀ f ∈ rest, ¬ k.OneText f.1 := by
      refine forall₂_congr fun f hf => ?_
      obtain ⟨t, ht⟩ := exists_asText hd f hf
      rw [oneText_iff hk ht, ht]
      simp only [Except.ok.injEq, forall_eq', ne_eq, str.injEq, eq_comm]
    have hold : ∀ e ∈ acc,
        (e.1 ≠ str key → (∀ f ∈ rest, ∀ s, f.1.asText room = .ok s → str s ≠ e.1) → e.2.IsData Key)
          ↔ ((∀ f ∈ (k, v) :: rest, ∀ s, f.1.asText room = .ok s → str s ≠ e.1)
            → e.2.IsData Key) := by
      intro e _
      rw [List.forall_mem_cons, and_imp, hk]
      simp only [Except.ok.injEq, forall_eq', ne_comm (a := e.1)]
    rw [hnew, forall₂_congr hold, and_comm (b := ∀ e ∈ acc, _), and_assoc]
    exact Iff.rfl
termination_by structural entries

end

end Datum

/-! ## The recognition -/

open Datum (IsName IsText)

/-- A limit keeps an answer from being written. -/
def Datum.Limited (answer : Datum) : Prop := ∃ r, written answer = .error r ∧ r.IsLimit

/-- Nothing but a limit, or an array that hands out something else, keeps an answer from being written. -/
theorem only_written {answer d : Datum} (hlisted : answer.listed = .ok d) :
    Only (Raised.Denies (d.Candid IsName)) (written answer) := by
  intro r hr
  rw [written_listed hlisted] at hr
  cases hdata : d.plain programRoom with
  | error raised =>
    rw [hdata] at hr
    cases hr
    exact Or.inl (Datum.only_plain d programRoom r hdata)
  | ok data =>
    rw [hdata] at hr
    have hdump := (Datum.only_dump data documentRoom).map Text.encode r hr
    exact hdump.mono (Datum.isData_plain (fun _ => trivial) d hdata).mpr

/-- An answer that is written is candid. -/
theorem candid_of_written {answer d : Datum} (hlisted : answer.listed = .ok d) {bytes : Bytes}
    (h : written answer = .ok bytes) : d.Candid IsName := by
  obtain ⟨d', data, cs, hlisted', hdata, hcs, -⟩ := written_ok h
  cases hlisted.symm.trans hlisted'
  exact (Datum.isData_plain (fun _ => trivial) d hdata).mp (Datum.isData_of_dump data hcs)

/-- Within the limits there are plain data, and writing them fails by mistake alone. -/
theorem plain_within {d : Datum} (h : d.Modest 497) :
    ∃ data, d.plain programRoom = .ok data ∧ Only Raised.IsMistake (data.dump documentRoom) := by
  obtain ⟨data, hdata⟩ : ∃ data, d.plain programRoom = .ok data :=
    Datum.plain_of_modest (by decide) d h
  have hmodest := Datum.modest_plain d h hdata
  exact ⟨data, hdata, Datum.only_dump_of_modest (by decide) data hmodest⟩

theorem not_limited {answer d : Datum} (hlisted : answer.listed = .ok d) (h : d.Modest 497) :
    ¬ answer.Limited := by
  rintro ⟨r, hr, hlimit⟩
  obtain ⟨data, hdata, honly⟩ := plain_within h
  rw [written_listed hlisted, hdata] at hr
  exact (honly.map Text.encode r hr).not_limit hlimit

/-- A process whose answer cannot be written fails. -/
theorem recognize_unwritten {e : Engine} {image : Path} {o : Options} {answer : Datum}
    (h : e.Answers image o answer) {r : Raised} (hwritten : written answer = .error r) :
    (recognize (some e) (ofArgument image) (ofArgument o.encode)).exit = .code failedCode := by
  have hdone := recognizing_answers h
  rw [hwritten] at hdone
  rw [recognize, start_answers h]
  dsimp only
  rw [hdone]
  dsimp only
  unfold failed
  rw [ordinary_written answer r hwritten]

/-- **The two ends of a recognition whose engine answers.** -/
theorem exit_answers {e : Engine} {image : Path} {o : Options} {answer d : Datum}
    (h : e.Answers image o answer) (hlisted : answer.listed = .ok d) :
    let exit := (recognize (some e) (ofArgument image) (ofArgument o.encode)).exit
    (exit = .code 0 ↔ d.Candid IsName ∧ ¬ answer.Limited)
      ∧ (exit = .code failedCode ↔ ¬ d.Candid IsName ∨ answer.Limited) := by
  intro exit
  have hcodes : Exit.code 0 ≠ .code failedCode := fun h => nomatch Exit.code.inj h
  cases hwritten : written answer with
  | ok bytes =>
    have hexit : exit = .code 0 := (recognize_answers h hwritten).2
    have hcandid := candid_of_written hlisted hwritten
    have hfree : ¬ answer.Limited := fun ⟨r, hr, _⟩ => nomatch hwritten.symm.trans hr
    rw [hexit]
    exact ⟨iff_of_true rfl ⟨hcandid, hfree⟩,
      iff_of_false hcodes (not_or.mpr ⟨not_not_intro hcandid, hfree⟩)⟩
  | error r =>
    have hexit : exit = .code failedCode := recognize_unwritten h hwritten
    have hlost : ¬ d.Candid IsName ∨ answer.Limited := by
      rcases only_written hlisted r hwritten with hlimit | ⟨-, hnot⟩
      · exact Or.inr ⟨r, hwritten, hlimit⟩
      · exact Or.inl hnot
    rw [hexit]
    exact ⟨iff_of_false hcodes.symm fun h => hlost.elim (fun hnot => hnot h.1) h.2,
      iff_of_true rfl hlost⟩

/-- **Candid values, and only they, have plain data.** Only a limit keeps a value from being made plain.
What is made of it has nothing but scalars, sequences and dictionaries with texts for keys if and only if
every array in the value that is not left out hands out such data. Only what has keys that can be written
is written; anything else is a type error, unless a limit comes first, and 497 containers in one another
with whole numbers that are not too long are within the limits. A process whose engine answers with a
list, or with what it makes a list of, ends well exactly if the value is candid and no limit comes first,
and otherwise it fails. -/
theorem plain_candid (d : Datum) :
    (∀ room, Only Raised.IsLimit (d.plain room))
      ∧ (∀ room data, d.plain room = .ok data →
        (data.IsData IsText ↔ d.Candid IsText)
        ∧ ∀ left, ((∃ cs, data.dump left = .ok cs) → d.Candid IsName)
          ∧ Only (Raised.Denies (d.Candid IsName)) (data.dump left))
      ∧ (d.Modest 497 → ∃ data, d.plain programRoom = .ok data
        ∧ ((∃ cs, data.dump documentRoom = .ok cs) ↔ d.Candid IsName)
        ∧ Only Raised.IsMistake (data.dump documentRoom))
      ∧ ∀ (e : Engine) (image : Path) (o : Options) (answer : Datum), e.Answers image o answer →
        answer.listed = .ok d →
        let exit := (recognize (some e) (ofArgument image) (ofArgument o.encode)).exit
        (exit = .code 0 ↔ d.Candid IsName ∧ ¬ answer.Limited)
          ∧ (exit = .code failedCode ↔ ¬ d.Candid IsName ∨ answer.Limited)
          ∧ (d.Modest 497 → ¬ answer.Limited) := by
  have hdump : ∀ room data, d.plain room = .ok data → ∀ left,
      ((∃ cs, data.dump left = .ok cs) → d.Candid IsName)
        ∧ Only (Raised.Denies (d.Candid IsName)) (data.dump left) := by
    intro room data hdata left
    have hcandid : data.IsData IsName ↔ d.Candid IsName :=
      Datum.isData_plain (fun _ => trivial) d hdata
    exact ⟨fun ⟨cs, hcs⟩ => hcandid.mp (Datum.isData_of_dump data hcs),
      (Datum.only_dump data left).mono fun _ hr => hr.mono hcandid.mpr⟩
  refine ⟨Datum.only_plain d, fun room data hdata =>
    ⟨Datum.isData_plain (fun _ => trivial) d hdata, hdump room data hdata⟩, ?_, ?_⟩
  · intro hmodest
    obtain ⟨data, hdata, honly⟩ := plain_within hmodest
    obtain ⟨hsound, hdenies⟩ := hdump _ data hdata documentRoom
    refine ⟨data, hdata, ⟨hsound, fun hcandid => ?_⟩, honly⟩
    cases hcs : data.dump documentRoom with
    | ok cs => exact ⟨cs, rfl⟩
    | error r =>
      -- the error would be neither a limit nor for want of candour
      rcases hdenies r hcs with hlimit | ⟨-, hnot⟩
      · exact absurd hlimit (honly r hcs).not_limit
      · exact absurd hcandid hnot
  · intro e image o answer hanswers hlisted exit
    obtain ⟨hpassed, hfailed⟩ := exit_answers hanswers hlisted
    exact ⟨hpassed, hfailed, not_limited hlisted⟩

end Engine

namespace Bridge

/-- One record whose texts are in an array, beside an unfamiliar object. -/
def handedOut : Engine.Datum :=
  .list [.dict [(.str (Engine.ofString Fragment.textsKey),
    .array (.list [.str (Engine.ofString "Hello"), .opaqueObject (Engine.ofString "World")]) none)]]

/-- One record with an unfamiliar object in a tuple, and with an array that hands out another one but
whose key comes again. -/
def replaced : Engine.Datum :=
  .list [.mapping [(.int 1, .array (.opaqueObject (Engine.ofString "World")) none),
    (.str (Engine.ofString Fragment.textsKey), .tuple [.opaqueObject (Engine.ofString "Hello")]),
    (.str (Engine.ofString "1"), .array (.list [.null]) (some 1))]]

theorem plain_candid_replaced :
    (Engine.recognize (some (Stage.StandIn.engine { result := .ok replaced }))
        (Engine.ofArgument [0x61]) (Engine.ofArgument (Options.encode { lang := "en" }))).exit = .code 0
      ∧ (Engine.recognize (some (Stage.StandIn.engine { result := .ok handedOut }))
        (Engine.ofArgument [0x61]) (Engine.ofArgument (Options.encode { lang := "en" }))).exit
          = .code Engine.failedCode := by
  have hshort : Engine.Short 1 := Engine.Datum.short_of_fits ⟨by decide, by decide⟩
  have hmodest : replaced.Modest 497 :=
    ⟨by decide, ⟨by decide, ⟨hshort, trivial⟩, ⟨trivial, by decide, trivial, trivial⟩,
      ⟨trivial, by decide, trivial, trivial⟩, trivial⟩, trivial⟩
  have hone : (Engine.Datum.int 1).OneText (.str (Engine.ofString "1")) :=
    ⟨1, Engine.ofString "1", rfl, rfl⟩
  have hcandid : replaced.Candid Engine.Datum.IsName := by
    -- the first array does not count, and the second one hands out data
    refine ⟨⟨fun hlast => absurd hone ?_, fun _ => ⟨trivial, trivial⟩,
      fun _ => Or.inr ⟨trivial, trivial⟩, trivial⟩, trivial⟩
    exact hlast _ (List.mem_cons_of_mem _ (List.mem_cons_self ..))
  have huncandid : ¬ handedOut.Candid Engine.Datum.IsName := by
    intro h
    rcases h.1.1 (List.forall_mem_nil _) with hlarge | hdata
    · exact absurd hlarge (by decide)
    · exact hdata.2.1
  obtain ⟨hpassed, -, hfree⟩ := (Engine.plain_candid replaced).2.2.2 _ _ _ _
    (answers_standIn [0x61] { lang := "en" } replaced) rfl
  obtain ⟨-, hfailed, -⟩ := (Engine.plain_candid handedOut).2.2.2 _ _ _ _
    (answers_standIn [0x61] { lang := "en" } handedOut) rfl
  exact ⟨hpassed.mpr ⟨hcandid, hfree hmodest⟩, hfailed.mpr (Or.inl huncandid)⟩

/-- The object is not made a text, and the recognition fails for it. -/
theorem handedOut_unplain :
    let message := "Object of type Opaque is not JSON serializable"
    (∃ data, handedOut.plain Engine.programRoom = .ok data ∧ ¬ data.IsData Engine.Datum.IsText
        ∧ data.dump Engine.documentRoom = .error (Engine.Raised.typeError message))
      ∧ (recognize (m := StateM Unit) (answeringHost handedOut) (fun _ => pure ()) ⟨[], none⟩ [0x61]
          { lang := "en" } ()).1 = .error (.recognition ("TypeError: " ++ message)) := by
  intro message
  refine ⟨⟨_, rfl, fun h => h.1.1.2.2.1, rfl⟩, ?_⟩
  have hanswers := answers_standIn [0x61] { lang := "en" } handedOut
  have hcourse : (Stage.StandIn.engine { result := .ok handedOut }).Course (Engine.ofArgument [0x61])
      (Engine.ofArgument (Options.encode { lang := "en" })) []
      (.error (Engine.Raised.typeError message)) :=
    .unwritten (Engine.load_named _) hanswers.built hanswers.answered rfl
  have hserves : Serves (answeringHost handedOut) ⟨[], none⟩ [0x61] { lang := "en" } .utf8
      (some (Stage.StandIn.engine { result := .ok handedOut })) :=
    ⟨rfl, fun _ => rfl, fun c _ s => ⟨"", s, rfl⟩⟩
  obtain ⟨elapsed, hresult⟩ := recognize_serves hserves (fun _ => pure ()) ()
  have hchild : Engine.serve .utf8 (some (Stage.StandIn.engine { result := .ok handedOut }))
      [utf8 "recognize", [0x61], Options.encode { lang := "en" }]
        = (Engine.failed [] (Engine.Raised.typeError message)).finished .utf8 := by
    rw [Engine.serve, Engine.ending_recognize, Engine.recognize_raised ⟨rfl, rfl⟩ hcourse]
    rfl
  have hcomplaint : complaint ((Engine.failed [] (Engine.Raised.typeError message)).finished .utf8)
      = "TypeError: " ++ message := by
    decide
  rw [hresult]
  show reading _ (.ok ((Engine.serve _ _ [utf8 "recognize", [0x61], _]).lasting elapsed)) = _
  have hcode : ∀ n, Engine.failedCode ≠ n → Exit.code Engine.failedCode ≠ .code n :=
    fun n hn e => hn (Exit.code.inj e)
  rw [hchild, reading, answer_broken _ (hcode 0 (by decide)) (hcode _ (by decide)), ← hcomplaint]
  rfl

end Bridge

end ImageText
