import ImageText.Proofs.Json.Members
import ImageText.Proofs.Json.Scalar
import ImageText.Proofs.Steady
import Mathlib.Data.List.Forall2

/-!
# Answers laid out in another way

The engine may put blanks between the tokens of its answer as it likes, and it may list the members of an
object in any order. `Layout.Rearranged` says of two layouts that they differ in nothing else: arrays keep
their order, keys and scalars keep their spelling, and the members of an object may only change places if
no key is among them twice, since the later of two members with one key wins.

> `Layout.Rearranged.within`: such layouts mean the same value, or both mean nothing,
> `extract_rearranged`: so there is the same text in them, or neither is read.

An object is kept in the order of its keys, so members under different keys can be put into it in any
order, and a printed object does not show in which order they came. Half a surrogate pair in a key, or a
number that is too great, is refused wherever it stands.
-/

namespace ImageText

namespace Json

/-! ## The order of entries -/

/-- Two entries do not have the same key. -/
def Entry.Apart {α : Type} (a b : Entry α) : Prop :=
  ∀ key, a.label.text? = some key → b.label.text? ≠ some key

theorem Entry.Apart.symm {α : Type} {a b : Entry α} (h : a.Apart b) : b.Apart a := by
  intro key hb ha
  exact h key ha hb

namespace Layout

section Entries

variable {α : Type} {mean : α → Option Value}

/-- It does not matter which of two entries under different keys is entered first. -/
theorem enter_comm {a b : Entry α} (h : a.Apart b) (members : List (String × Value)) :
    (enter mean members a).bind (enter mean · b) = (enter mean members b).bind (enter mean · a) := by
  unfold enter
  cases ha : a.label.text? with
  | none =>
    rw [Option.bind_none, Option.bind_none]
    exact (Option.bind_fun_none _).symm
  | some key =>
    cases hb : b.label.text? with
    | none =>
      rw [Option.bind_none, Option.bind_none]
      exact Option.bind_fun_none _
    | some other =>
      have hne : other ≠ key := by
        intro heq
        rw [heq] at hb
        exact h key ha hb
      cases mean a.item.value with
      | none => exact (Option.bind_fun_none _).symm
      | some x =>
        cases mean b.item.value with
        | none => rfl
        | some y => exact congrArg some (insert_comm hne y x members)

/-- Entries under different keys may be entered in any order. -/
theorem foldlM_enter_perm {entries entries' : List (Entry α)} (h : entries.Perm entries')
    (hapart : entries.Pairwise Entry.Apart) (members : List (String × Value)) :
    entries.foldlM (enter mean) members = entries'.foldlM (enter mean) members := by
  induction h generalizing members with
  | nil => rfl
  | cons e _ ih =>
    rw [List.foldlM_cons, List.foldlM_cons]
    exact congrArg _ (funext fun next => ih (List.pairwise_cons.mp hapart).2 next)
  | swap a b rest =>
    have hne : b.Apart a := (List.pairwise_cons.mp hapart).1 a (List.mem_cons_self ..)
    simp only [List.foldlM_cons, ← bind_assoc]
    exact congrArg (· >>= rest.foldlM (enter mean)) (enter_comm hne members)
  | trans hfirst _ ih₁ ih₂ =>
    exact (ih₁ hapart members).trans
      (ih₂ ((hfirst.pairwise_iff fun h => h.symm).mp hapart) members)

/-- Only the keys and the meanings of entries matter. -/
theorem foldlM_enter_congr {entries entries' : List (Entry α)}
    (hlabels : entries.map Entry.label = entries'.map Entry.label)
    (hmeans : (entries.map (·.item.value)).map mean = (entries'.map (·.item.value)).map mean)
    (members : List (String × Value)) :
    entries.foldlM (enter mean) members = entries'.foldlM (enter mean) members := by
  induction entries generalizing entries' members with
  | nil =>
    cases entries' with
    | nil => rfl
    | cons e' rest' => cases hlabels
  | cons e rest ih =>
    cases entries' with
    | nil => cases hlabels
    | cons e' rest' =>
      obtain ⟨hlabel, hlabels⟩ := List.cons.inj hlabels
      obtain ⟨hmean, hmeans⟩ := List.cons.inj hmeans
      have henter : enter mean members e = enter mean members e' := by
        unfold enter
        rw [hlabel, hmean]
      rw [List.foldlM_cons, List.foldlM_cons, henter]
      exact congrArg _ (funext fun next => ih hlabels hmeans next)

end Entries

/-! ## Layouts of one document -/

/-- The second layout comes from the first by other gaps, and by another order of the members of any
objects whose keys are pairwise distinct. -/
inductive Rearranged : Layout → Layout → Prop
  | scalar (s : Scalar) : Rearranged (.scalar s) (.scalar s)
  | array (inner inner' : Gap) {items items' : List (Item Layout)}
      (values : List.Forall₂ Rearranged (items.map Item.value) (items'.map Item.value)) :
      Rearranged (.array inner items) (.array inner' items')
  | object (inner inner' : Gap) {entries between entries' : List (Entry Layout)}
      (labels : entries.map Entry.label = between.map Entry.label)
      (values : List.Forall₂ Rearranged (entries.map (·.item.value)) (between.map (·.item.value)))
      (order : between = entries' ∨ between.Pairwise Entry.Apart ∧ between.Perm entries') :
      Rearranged (.object inner entries) (.object inner' entries')

/-- **The layout of a document does not matter to what it means.** -/
theorem Rearranged.within {l l' : Layout} (h : l.Rearranged l') (budget : Nat) :
    l.within budget = l'.within budget := by
  induction budget generalizing l l' with
  | zero => rw [Layout.within, Layout.within]
  | succ budget ih =>
    have hmeans : ∀ {xs ys : List Layout}, List.Forall₂ Rearranged xs ys →
        xs.map (·.within budget) = ys.map (·.within budget) := by
      intro xs ys hxs
      rw [← List.forall₂_eq_eq_eq, List.forall₂_map_left_iff, List.forall₂_map_right_iff]
      exact hxs.imp fun _ _ hxy => ih hxy
    cases h with
    | scalar s => rfl
    | array inner inner' values =>
      have hitems : ∀ items : List (Item Layout), (items.mapM fun i => i.value.within budget)
          = ((items.map Item.value).map (·.within budget)).mapM id := by
        intro items
        rw [List.mapM_map, List.mapM_map]
        rfl
      rw [Layout.within, Layout.within, hitems, hitems, hmeans values]
    | object inner inner' labels values order =>
      rw [Layout.within, Layout.within, foldlM_enter_congr labels (hmeans values)]
      rcases order with rfl | ⟨hapart, hperm⟩
      · rfl
      · rw [foldlM_enter_perm hperm hapart]

end Layout

/-- The same value is read in both documents, or none in either. -/
theorem readDocument_rearranged {l l' : Layout} (h : l.Rearranged l')
    (before behind before' behind' : Gap) :
    let document := before.bytes ++ (l.bytes ++ behind.bytes)
    let document' := before'.bytes ++ (l'.bytes ++ behind'.bytes)
    (∃ v, readDocument document = .ok v ∧ readDocument document' = .ok v)
      ∨ ∃ refusal refusal', readDocument document = .error refusal
        ∧ readDocument document' = .error refusal' := by
  intro document document'
  have hread : (readDocument document).toOption = (readDocument document').toOption := by
    rw [readDocument_layout, readDocument_layout, h.within]
  cases hd : readDocument document with
  | ok v =>
    cases hd' : readDocument document' with
    | ok v' =>
      rw [hd, hd'] at hread
      cases hread
      exact Or.inl ⟨v, rfl, rfl⟩
    | error refusal =>
      rw [hd, hd'] at hread
      cases hread
  | error refusal =>
    cases hd' : readDocument document' with
    | ok v' =>
      rw [hd, hd'] at hread
      cases hread
    | error refusal' => exact Or.inr ⟨refusal, refusal', rfl, rfl⟩

end Json

/-- A process that ended in the same way and has written something else. -/
def Finished.writing (f : Finished) (stdout : Bytes) : Finished := { f with stdout := stdout }

namespace Bridge

open Json (Layout Gap)

/-! ## Two answers -/

/-- Two results are the same, unless in both the answer is refused. -/
def Concur {α : Type} (result result' : Except Failure α) : Prop :=
  result = result' ∨ ∃ refusal refusal',
    result = .error (.unreadable refusal) ∧ result' = .error (.unreadable refusal')

theorem Concur.map {α β : Type} {result result' : Except Failure α} (h : Concur result result')
    (f : α → β) : Concur (result.map f) (result'.map f) := by
  rcases h with rfl | ⟨refusal, refusal', rfl, rfl⟩
  · exact Or.inl rfl
  · exact Or.inr ⟨refusal, refusal', rfl, rfl⟩

section Writing

variable (c : Command) {f : Finished} (stdout : Bytes)

theorem reading_writing (h : f.exit = .code 0) :
    reading c (.ok (f.writing stdout)) = (Json.readDocument stdout).mapError .unreadable := by
  rw [reading, answer_passed c (show (f.writing stdout).exit = .code 0 from h)]
  rfl

/-- What a process that failed has written is not looked at. -/
theorem reading_unread (h : f.exit ≠ .code 0) :
    reading c (.ok (f.writing stdout)) = reading c (.ok f) := by
  have hfailed : ¬ f.exit.success = true := fun hs => h ((success_iff _).mp hs)
  have houtcome : outcome (f.writing stdout) = outcome f := by
    unfold outcome Finished.writing
    dsimp only
    rw [if_neg hfailed, if_neg hfailed]
    rfl
  have hanswer : answer c (.ok (f.writing stdout)) = answer c (.ok f) := by
    unfold answer
    dsimp only
    rw [houtcome]
    rfl
  rw [reading, reading, hanswer]

end Writing

/-- Two processes that end in the same way, but for the layout of what they have written. -/
theorem reading_rearranged {l l' : Layout} (h : l.Rearranged l')
    (before behind before' behind' : Gap) (c : Command) (f : Finished) :
    Concur (reading c (.ok (f.writing (before.bytes ++ (l.bytes ++ behind.bytes)))))
      (reading c (.ok (f.writing (before'.bytes ++ (l'.bytes ++ behind'.bytes))))) := by
  by_cases hexit : f.exit = .code 0
  · rw [reading_writing c _ hexit, reading_writing c _ hexit]
    rcases Json.readDocument_rearranged h before behind before' behind' with
      ⟨v, hv, hv'⟩ | ⟨refusal, refusal', hrefused, hrefused'⟩
    · rw [hv, hv']
      exact Or.inl rfl
    · rw [hrefused, hrefused']
      exact Or.inr ⟨refusal, refusal', rfl, rfl⟩
  · rw [reading_unread c _ hexit, reading_unread c _ hexit]
    exact Or.inl rfl

/-- **The layout of the answer does not matter to the text.** Of two rearranged documents either both are
read, and the same text is in them, or neither is. So two extractions, on whatever systems, come to the
same result if their processes end in the same way and write the one document and the other, unless both
refuse what was written. -/
theorem extract_rearranged {l l' : Layout} (h : l.Rearranged l')
    (before behind before' behind' : Gap) :
    let document := before.bytes ++ (l.bytes ++ behind.bytes)
    let document' := before'.bytes ++ (l'.bytes ++ behind'.bytes)
    ((∃ v v', Json.readDocument document = .ok v ∧ Json.readDocument document' = .ok v'
          ∧ Fragment.flatten v = Fragment.flatten v')
        ∨ ∃ refusal refusal', Json.readDocument document = .error refusal
          ∧ Json.readDocument document' = .error refusal')
      ∧ ∀ {σ σ' : Type} {host : Host (StateM σ)} {host' : Host (StateM σ')} {b : Bridge}
          {i : Invocation} {found : Bool} {probed : Except SystemError Finished} {f : Finished},
        Steady host b i.image i.options found probed (.ok (f.writing document)) →
        Steady host' b i.image i.options found probed (.ok (f.writing document')) →
        ∀ (note : Record → StateM σ Unit) (note' : Record → StateM σ' Unit) (s : σ) (s' : σ'),
          Concur ((b.recognizer host note).extract note i s).1
            ((b.recognizer host' note').extract note' i s').1 := by
  intro document document'
  constructor
  · rcases Json.readDocument_rearranged h before behind before' behind' with ⟨v, hv, hv'⟩ | hrefused
    · exact Or.inl ⟨v, v, hv, hv', rfl⟩
    · exact Or.inr hrefused
  · intro σ σ' host host' b i found probed f hsteady hsteady' note note' s s'
    rw [extract_steady hsteady, extract_steady hsteady']
    cases answer b.probing probed with
    | error failure => exact Or.inl rfl
    | ok out =>
      cases found with
      | false => exact Or.inl rfl
      | true => exact (reading_rearranged h before behind before' behind' _ f).map Fragment.flatten

/-! ## An object among the texts -/

section Nested

open Json (Entry Label)
open Engine.Datum (entryOf plain_of_all rawAtoms)

/-- A process that ended well and has written nothing. -/
def passing : Finished := ⟨[], [], .code 0, ""⟩

/-- A system on which the engine is there and writes a certain answer. -/
def writingHost (stdout : Bytes) : Host (StateM Unit) where
  isFile _ := pure true
  launch c := pure (.ok (passing.writing (if c.arguments.length = 1 then [] else stdout)))

theorem steady_writingHost (stdout : Bytes) (b : Bridge) (i : Invocation) :
    Steady (writingHost stdout) b i.image i.options true (.ok passing)
      (.ok (passing.writing stdout)) where
  file _ := rfl
  probing _ := ⟨"", rfl⟩
  recognizing _ := ⟨"", rfl⟩

/-- A member with nothing in it. -/
def nullMember (g : Gap) : Entry Layout :=
  entryOf g (.atoms (rawAtoms ['b'] (plain_of_all rfl))) (.scalar .null)

/-- A member under a lesser key. -/
def trueMember (g : Gap) : Entry Layout :=
  entryOf g (.atoms (rawAtoms ['a'] (plain_of_all rfl))) (.scalar (.bool true))

/-- An answer with an object in the place of a text. -/
def nestedAnswer (g : Gap) (members : List (Entry Layout)) : Layout :=
  .array g [⟨.none, .object g [entryOf g
    (.atoms (rawAtoms Fragment.textsKey.toList (plain_of_all rfl)))
    (.array g [⟨.none, .object g members, g⟩])], g⟩]

theorem nestedAnswer_rearranged :
    (nestedAnswer .none [nullMember .none, trueMember .none]).Rearranged
      (nestedAnswer .space [trueMember .none, nullMember .space]) := by
  have hapart : (nullMember .space).Apart (trueMember .none) := by
    intro key hkey
    cases hkey
    decide
  have hlabels : [nullMember .none, trueMember .none].map Entry.label
      = [nullMember .space, trueMember .none].map Entry.label := rfl
  have hmembers : (Layout.object .none [nullMember .none, trueMember .none]).Rearranged
      (.object .space [trueMember .none, nullMember .space]) :=
    .object _ _ hlabels (.cons (.scalar _) (.cons (.scalar _) .nil))
      (Or.inr ⟨List.pairwise_pair.mpr hapart, .swap _ _ _⟩)
  refine .array _ _ (.cons ?_ .nil)
  refine .object _ _ ?_ ?_ (Or.inl rfl)
  · rfl
  · exact .cons (.array _ _ (.cons hmembers .nil)) .nil

/-- The object becomes a fragment, and its members stand in the order of their keys. -/
theorem extract_rearranged_nested :
    let early := "[\x7b\"rec_texts\": [\x7b\"b\": null,\"a\": true\x7d]\x7d]"
    let late := "[ \x7b  \"rec_texts\": [ \x7b \"a\": true, \"b\": null\x7d ]\x7d ]"
    let text := "\x7b\"a\":true,\"b\":null\x7d"
    let result answer := ((recognizer (m := StateM Unit) (writingHost (utf8 answer)) (fun _ => pure ())
      ⟨[], none⟩).extract (fun _ => pure ()) ⟨[0x61], "en"⟩ ()).1
    result early = .ok text ∧ result late = .ok text := by
  intro early late text result
  obtain ⟨-, hconcur⟩ := extract_rearranged nestedAnswer_rearranged .none .none .none .none
  have hearly : Gap.none.bytes
      ++ ((nestedAnswer .none [nullMember .none, trueMember .none]).bytes ++ Gap.none.bytes)
      = utf8 early := by decide
  have hlate : Gap.none.bytes
      ++ ((nestedAnswer .space [trueMember .none, nullMember .space]).bytes ++ Gap.none.bytes)
      = utf8 late := by decide
  rw [hearly, hlate] at hconcur
  have hsteady := fun answer => steady_writingHost (utf8 answer) ⟨[], none⟩ ⟨[0x61], "en"⟩
  -- the first answer, whose members are not in the order of their keys, is read as this value
  let v : Json.Value := .array [.object [(Fragment.textsKey,
    .array [.object [("a", .bool true), ("b", .null)]])]]
  have hread : Json.readDocument (utf8 early) = .ok v := by
    rw [Json.eq_ok_iff, ← hearly, Json.readDocument_layout]
    rfl
  have hresult : result early = .ok text := by
    have htext : Fragment.flatten v = text := by decide
    rw [show result early = _ from extract_steady (hsteady early) _ _, ← htext,
      show answer _ _ = _ from answer_passed _ rfl]
    show (recognized _ _ _ true (.ok (passing.writing (utf8 early)))).map Fragment.flatten = _
    rw [recognized, if_pos rfl, reading_writing _ _ rfl, hread]
    rfl
  refine ⟨hresult, ?_⟩
  rcases hconcur (hsteady early) (hsteady late) (fun _ => pure ()) (fun _ => pure ()) () () with
    hsame | ⟨refusal, refusal', hrefused, -⟩
  · rw [← hresult]
    exact hsame.symm
  · cases hresult.symm.trans hrefused

end Nested

end Bridge

end ImageText
