import ImageText.Engine.Dump
import ImageText.Proofs.Decimal.Shortest
import ImageText.Proofs.Engine.Limits
import ImageText.Proofs.Engine.Literal
import ImageText.Proofs.Json.Decimal
import ImageText.Proofs.Json.Scalar

/-!
# The layout of a written answer

What the engine's side writes has one blank behind every comma and colon and no other between its
tokens, and its leaves are words, figures, literals, and the three names of the numbers beyond the
reals. So it is the writing of a `Layout`, and what this side reads in it is computed on the engine's
data, by `Datum.within`:

> `dump_layout`: what is written for a value is the writing of a layout that means what the value
> does.

Nothing is said here of the sizes of numbers: a leaf means whatever reading its digits gives.
-/

namespace ImageText.Engine

open Json (Atom Entry Figure Gap Item Label Layout Scalar Value quoteByte)
open Text (encode)

/-! ## The data that there are -/

/-- A floating-point number of the interpreter. -/
def Real.Proper : Real → Prop
  | .finite x => x.size.Fits
  | _ => True

namespace Datum

mutual

/-- A value of the interpreter: its code points are some that there are, and its floating-point
numbers are numbers of the format. -/
def Proper : Datum → Prop
  | str s => ∀ n ∈ s, n < pointBound
  | opaqueObject text => ∀ n ∈ text, n < pointBound
  | float x => x.Proper
  | list items => AllProper items
  | tuple items => AllProper items
  | generator items => AllProper items
  | dict entries => EntriesProper entries
  | mapping entries => EntriesProper entries
  | array content _ => content.Proper
  | null | bool _ | int _ | bytes _ => True

/-- Values of the interpreter. -/
def AllProper : List Datum → Prop
  | [] => True
  | x :: rest => x.Proper ∧ AllProper rest

/-- Entries of values of the interpreter. -/
def EntriesProper : List (Datum × Datum) → Prop
  | [] => True
  | (k, v) :: rest => (k.Proper ∧ v.Proper) ∧ EntriesProper rest

end

/-! ## What is read in a value -/

/-- The text that is read in a literal. -/
def spelled? (s : CodePoints) : Option String := (Atom.text? (rowOf s)).map String.ofList

/-- What is read in a number. -/
def numberIn? (cs : List Char) : Option Value :=
  (Json.readNumber (encode cs)).toOption.map fun p => .number p.1

/-- What is read in a floating-point number: the names of those beyond the reals say nothing. -/
def realIn? : Real → Option Value
  | .finite x => numberIn? (floatLayout.text x)
  | _ => none

/-- The key that is read. -/
def keyIn? : Datum → Option String
  | str s => spelled? s
  | x =>
    match x.dumpedScalar? with
    | some (.ok word) => some (String.ofList word)
    | _ => none

/-- What one more entry does to the members before it. -/
def enter (mean : Datum → Option Value) (members : List (String × Value)) (e : Datum × Datum) :
    Option (List (String × Value)) :=
  e.1.keyIn?.bind fun key => (mean e.2).map fun v => Json.insert key v members

/-- What is read in a value with fewer than `budget` brackets open at once, if anything. -/
def within : Nat → Datum → Option Value
  | 0, _ => none
  | _ + 1, null => some .null
  | _ + 1, bool b => some (.bool b)
  | _ + 1, int n => numberIn? (Json.wholeText n)
  | _ + 1, float x => realIn? x
  | _ + 1, str s => (spelled? s).map .string
  | budget + 1, list items =>
    if budget = 0 then none else (items.mapM fun x : Datum => x.within budget).map .array
  | budget + 1, tuple items =>
    if budget = 0 then none else (items.mapM fun x : Datum => x.within budget).map .array
  | budget + 1, dict entries =>
    if budget = 0 then none
    else (entries.foldlM (enter fun x : Datum => x.within budget) []).map .object
  | _ + 1, _ => none

/-! ## Leaves -/

theorem numberIn?_figure {f : Figure} {cs : List Char} (h : f.bytes = encode cs) :
    numberIn? cs = f.numeral.value.toOption.map .number := by
  have hread := Json.readNumeral_figure f [] Json.ends_nil
  rw [List.append_nil, h] at hread
  rw [numberIn?, Json.readNumber, hread]
  cases hv : f.numeral.value <;> simp only [bind, Except.bind, hv] <;> rfl

/-- The text of a number of the format is a figure. -/
theorem exists_figure_text (layout : Decimal.Layout) {x : Decimal.Binary64} (h : x.size.Fits) :
    ∃ f : Figure, f.negative = x.negative ∧ Json.Denotes f (layout.text x) x.size.shortest :=
  Json.exists_figure layout x.negative x.size.shortest (Decimal.Magnitude.shortest_zero h)

/-- A layout is written as `cs` and means what `d` does. -/
def Lays (l : Layout) (cs : List Char) (d : Datum) : Prop :=
  l.bytes = encode cs ∧ ∀ budget, l.within budget = d.within budget

theorem lays_scalar {s : Scalar} {cs : List Char} {d : Datum} (h : s.first :: s.others = encode cs)
    (hd : ∀ budget, d.within (budget + 1) = s.value?) : Lays (.scalar s) cs d := by
  refine ⟨by rw [Layout.bytes, h], ?_⟩
  intro budget
  cases budget with
  | zero => rw [Layout.within, within]
  | succ budget => rw [Layout.within, hd]

theorem lays_figure {f : Figure} {cs : List Char} {d : Datum} (h : f.bytes = encode cs)
    (hd : ∀ budget, d.within (budget + 1) = numberIn? cs) : Lays (.scalar (.figure f)) cs d :=
  lays_scalar (by rw [Scalar.bytes_figure, h]) fun budget => by
    rw [hd, numberIn?_figure h]
    rfl

theorem atoms_bytes {s : CodePoints} (h : ∀ n ∈ s, n < pointBound) :
    quoteByte :: (Label.atoms (rowOf s)).others = encode (dumpedText s) := by
  show quoteByte :: ((rowOf s).flatMap Atom.bytes ++ [quoteByte]) = _
  rw [bytes_rowOf h, dumpedText, ← List.singleton_append (x := '"'), Text.encode_append,
    Text.encode_append]
  rfl

/-! ## Words -/

/-- A character of ASCII that stands for itself in a literal. -/
abbrev Plain (c : Char) : Prop := c ≠ '"' ∧ c ≠ '\\' ∧ 0x20 ≤ c.toNat ∧ c.toNat < 0x7F

theorem plain_of_all {cs : List Char} (h : cs.all (fun c => decide (Plain c)) = true) :
    ∀ c ∈ cs, Plain c :=
  fun c hc => of_decide_eq_true (List.all_eq_true.mp h c hc)

theorem plain_of_isDigit {c : Char} (h : c.isDigit = true) : Plain c := by
  refine ⟨?_, ?_, ?_, ?_⟩
  · rintro rfl
    revert h
    decide
  · rintro rfl
    revert h
    decide
  · have := Json.toNat_of_isDigit h
    omega
  · have := Json.toNat_of_isDigit h
    omega

theorem raw_of_plain {c : Char} (h : Plain c) : c ≠ '"' ∧ c ≠ '\\' ∧ 0x20 ≤ c.toNat :=
  ⟨h.1, h.2.1, h.2.2.1⟩

/-- The characters of a word, if they all stand for themselves. -/
def rawAtoms (word : List Char) (h : ∀ c ∈ word, Plain c) : List Atom :=
  word.attach.map fun c => .raw c.1 (raw_of_plain (h c.1 c.2))

theorem rawAtoms_cons {c : Char} {word : List Char}
    (h : ∀ d ∈ c :: word, Plain d) :
    rawAtoms (c :: word) h = .raw c (raw_of_plain (h c (List.mem_cons_self ..)))
      :: rawAtoms word (fun d hd => h d (List.mem_cons_of_mem _ hd)) := by
  rw [rawAtoms, rawAtoms, List.attach_cons, List.map_cons, List.map_map]
  rfl

theorem bytes_rawAtoms {word : List Char} (h : ∀ c ∈ word, Plain c) :
    (rawAtoms word h).flatMap Atom.bytes = encode word := by
  induction word with
  | nil => rfl
  | cons c word ih =>
    rw [rawAtoms_cons, List.flatMap_cons, ih]
    rfl

theorem text?_rawAtoms {word : List Char} (h : ∀ c ∈ word, Plain c) :
    Atom.text? (rawAtoms word h) = some word := by
  induction word with
  | nil => rfl
  | cons c word ih =>
    rw [rawAtoms_cons, Atom.text?, ih]
    rfl

theorem plain_toDigits (n : Nat) : ∀ c ∈ Nat.toDigits 10 n, Plain c :=
  fun c hc => plain_of_isDigit (Json.toDigits_digit n c hc)

theorem plain_zeros (k : Nat) : ∀ c ∈ List.replicate k '0', Plain c :=
  fun c hc => plain_of_isDigit (Json.digits_zeros k c hc)

theorem plain_sign (negative : Bool) :
    ∀ c ∈ (if negative then ['-'] else []), Plain c := by
  cases negative <;> exact plain_of_all rfl

theorem plain_magnitudeText (layout : Decimal.Layout) (s : Decimal.Scientific) :
    ∀ c ∈ layout.magnitudeText s, Plain c := by
  have hds := plain_toDigits s.digits
  have hexp : ∀ x, ∀ c ∈ layout.exponentText x, Plain c := by
    intro x
    rw [Decimal.Layout.exponentText]
    refine List.forall_mem_cons.mpr
      ⟨?_, List.forall_mem_append.mpr ⟨plain_zeros _, plain_toDigits _⟩⟩
    split <;> decide
  rw [Decimal.Layout.magnitudeText]
  generalize Nat.toDigits 10 s.digits = ds at hds ⊢
  have htake : ∀ k, ∀ c ∈ ds.take k, Plain c := fun k c hc => hds c (List.mem_of_mem_take hc)
  have hdrop : ∀ k, ∀ c ∈ '.' :: ds.drop k, Plain c := fun k =>
    List.forall_mem_cons.mpr ⟨by decide, fun c hc => hds c (List.mem_of_mem_drop hc)⟩
  dsimp only
  split
  · split
    · -- the digits stand behind the point
      have hpoint : ∀ c ∈ ['0', '.'], Plain c := plain_of_all rfl
      exact List.forall_mem_append.mpr ⟨List.forall_mem_append.mpr ⟨hpoint, plain_zeros _⟩, hds⟩
    · split
      · -- the digits stand before the point
        exact List.forall_mem_append.mpr ⟨List.forall_mem_append.mpr ⟨hds, plain_zeros _⟩,
          plain_of_all rfl⟩
      · -- the point stands among the digits
        exact List.forall_mem_append.mpr ⟨htake _, hdrop _⟩
  · -- one digit stands before the point, if there is one, and an exponent behind the others
    refine List.forall_mem_append.mpr ⟨List.forall_mem_append.mpr ⟨htake _, ?_⟩,
      List.forall_mem_cons.mpr ⟨by decide, hexp _⟩⟩
    split
    · intro c hc
      cases hc
    · exact hdrop _

theorem plain_wholeText (n : Int) : ∀ c ∈ Json.wholeText n, Plain c := by
  refine List.forall_mem_append.mpr ⟨?_, plain_toDigits _⟩
  split <;> exact plain_of_all rfl

theorem plain_dumpedScalar {d : Datum} {word : List Char} (h : d.dumpedScalar? = some (.ok word)) :
    ∀ c ∈ word, Plain c := by
  cases d with
  | null => cases h; exact plain_of_all rfl
  | bool b => cases b <;> cases h <;> exact plain_of_all rfl
  | int n =>
    obtain ⟨-, rfl⟩ := intText_eq_ok.mp (Option.some.inj h)
    exact plain_wholeText n
  | float x =>
    cases x with
    | finite x =>
      cases h
      exact List.forall_mem_append.mpr ⟨plain_sign _, plain_magnitudeText _ _⟩
    | infinite negative => cases negative <;> cases h <;> exact plain_of_all rfl
    | nan => cases h; exact plain_of_all rfl
  | _ => cases h

/-- The word for a scalar is a leaf. -/
theorem lays_word {d : Datum} {word : List Char} (hd : d.dumpedScalar? = some (.ok word))
    (h : d.Proper) : ∃ l, Lays l word d := by
  cases d with
  | null =>
    cases hd
    exact ⟨_, lays_scalar (s := .null) rfl fun _ => rfl⟩
  | bool b =>
    cases b <;> cases hd
    · exact ⟨_, lays_scalar (s := .bool false) rfl fun _ => rfl⟩
    · exact ⟨_, lays_scalar (s := .bool true) rfl fun _ => rfl⟩
  | int n =>
    obtain ⟨-, rfl⟩ := intText_eq_ok.mp (Option.some.inj hd)
    exact ⟨_, lays_figure (Figure.bytes_ofInt n) fun _ => rfl⟩
  | float x =>
    cases x with
    | finite x =>
      cases hd
      obtain ⟨f, -, hf⟩ := exists_figure_text floatLayout h
      exact ⟨_, lays_figure hf.bytes fun _ => rfl⟩
    | infinite negative =>
      cases negative <;> cases hd
      · exact ⟨_, lays_scalar (s := .name 0x49 (utf8 "nfinity") rfl) rfl fun _ => rfl⟩
      · exact ⟨_, lays_scalar (s := .minusName 0x49 (utf8 "nfinity") rfl) rfl fun _ => rfl⟩
    | nan =>
      cases hd
      exact ⟨_, lays_scalar (s := .name 0x4E (utf8 "aN") rfl) rfl fun _ => rfl⟩
  | _ => cases hd

theorem lays_text {s : CodePoints} (h : ∀ n ∈ s, n < pointBound) :
    Lays (.scalar (.string (.atoms (rowOf s)))) (dumpedText s) (str s) :=
  lays_scalar (atoms_bytes h) fun _ => rfl

/-- A key is written as a text or as a word in quotation marks. -/
theorem dumpedKey_ok {k : Datum} {cs : List Char} (h : dumpedKey k = .ok cs) :
    (∃ s, k = str s ∧ cs = dumpedText s)
      ∨ ∃ word, k.dumpedScalar? = some (.ok word) ∧ cs = '"' :: (word ++ ['"']) := by
  unfold dumpedKey at h
  split at h
  next s =>
    cases h
    exact Or.inl ⟨s, rfl, rfl⟩
  next =>
    split at h
    next hscalar =>
      obtain ⟨word, rfl, rfl⟩ := map_ok h
      exact Or.inr ⟨word, hscalar, rfl⟩
    next => cases h

theorem keyIn?_word {k : Datum} {word : List Char} (h : k.dumpedScalar? = some (.ok word)) :
    k.keyIn? = some (String.ofList word) := by
  unfold keyIn?
  split
  next => cases h
  next => rw [h]

/-- A key is a label. -/
theorem exists_label {k : Datum} (h : k.Proper) {cs : List Char} (hk : dumpedKey k = .ok cs) :
    ∃ label : Label, quoteByte :: label.others = encode cs ∧ label.text? = k.keyIn? := by
  rcases dumpedKey_ok hk with ⟨s, rfl, rfl⟩ | ⟨word, hword, rfl⟩
  · exact ⟨.atoms (rowOf s), atoms_bytes h, rfl⟩
  · refine ⟨.atoms (rawAtoms word (plain_dumpedScalar hword)), ?_, ?_⟩
    · show quoteByte :: ((rawAtoms word _).flatMap Atom.bytes ++ [quoteByte]) = _
      rw [bytes_rawAtoms, ← List.singleton_append (x := '"'), Text.encode_append,
        Text.encode_append]
      rfl
    · show (Atom.text? (rawAtoms word _)).map String.ofList = _
      rw [text?_rawAtoms, keyIn?_word hword]
      rfl

/-! ## Containers -/

/-- The items of an array, the first of them behind the gap `g`, are written as `cs` and mean what
the values do. -/
def LaysItems (g : Gap) (ls : List (Item Layout)) (cs : List Char) (items : List Datum) : Prop :=
  Json.enclosed Json.closeArray (Json.itemTexts ls) = g.bytes ++ (encode cs ++ [Json.closeArray])
    ∧ ∀ budget, (ls.mapM fun i : Item Layout => i.value.within budget)
        = items.mapM fun x : Datum => x.within budget

/-- The entries of an object, the first of them behind the gap `g`, are written as `cs` and mean what
the entries of the dictionary do. -/
def LaysEntries (g : Gap) (ls : List (Entry Layout)) (cs : List Char)
    (entries : List (Datum × Datum)) : Prop :=
  Json.enclosed Json.closeObject (Json.entryTexts ls) = g.bytes ++ (encode cs ++ [Json.closeObject])
    ∧ ∀ budget members, ls.foldlM (Layout.enter fun l => l.within budget) members
        = entries.foldlM (enter fun x : Datum => x.within budget) members

/-- The comma behind an item belongs to the items that follow. -/
theorem following_enclosed (closing : UInt8) {texts : List Bytes} (h : texts ≠ []) :
    Json.following closing texts = Json.commaByte :: Json.enclosed closing texts := by
  cases texts with
  | nil => exact absurd rfl h
  | cons t rest => rfl

theorem encode_comma (cs ds : List Char) :
    encode (cs ++ ',' :: ' ' :: ds)
      = encode cs ++ Json.commaByte :: (Gap.space.bytes ++ encode ds) := by
  rw [Text.encode_append]
  rfl

theorem laysItems_last (g : Gap) {l : Layout} {cs : List Char} {x : Datum} (h : Lays l cs x) :
    LaysItems g [⟨g, l, .none⟩] cs [x] := by
  obtain ⟨hbytes, hmean⟩ := h
  refine ⟨?_, fun budget => ?_⟩
  · rw [Json.itemTexts, Json.itemTexts, Json.enclosed, Json.following, hbytes, List.append_assoc,
      List.append_assoc]
    rfl
  · rw [List.mapM_cons, List.mapM_cons, hmean, List.mapM_nil, List.mapM_nil]

theorem laysItems_cons (g : Gap) {l : Layout} {ls : List (Item Layout)} {cs ds : List Char}
    {x : Datum} {items : List Datum} (h : Lays l cs x) (hne : ls ≠ [])
    (hls : LaysItems .space ls ds items) :
    LaysItems g (⟨g, l, .none⟩ :: ls) (cs ++ ',' :: ' ' :: ds) (x :: items) := by
  obtain ⟨hbytes, hmean⟩ := h
  obtain ⟨hrest, hmeans⟩ := hls
  have htexts : Json.itemTexts ls ≠ [] := by
    rw [Json.itemTexts_eq, ne_eq, List.map_eq_nil_iff]
    exact hne
  refine ⟨?_, fun budget => ?_⟩
  · rw [Json.itemTexts, Json.enclosed, following_enclosed _ htexts, hrest, hbytes, encode_comma]
    simp only [List.append_assoc, List.cons_append]
    rfl
  · rw [List.mapM_cons, List.mapM_cons, hmean, hmeans]

/-- An entry on its own. -/
def entryOf (g : Gap) (label : Label) (l : Layout) : Entry Layout :=
  ⟨g, label, .none, .space, l, .none⟩

theorem encode_colon (cs ds : List Char) :
    encode (cs ++ ':' :: ' ' :: ds)
      = encode cs ++ Json.colonByte :: (Gap.space.bytes ++ encode ds) := by
  rw [Text.encode_append]
  rfl

theorem entryTexts_entryOf (g : Gap) {label : Label} {l : Layout} {key cs : List Char} {v : Datum}
    (hkey : quoteByte :: label.others = encode key) (h : Lays l cs v) (rest : List (Entry Layout)) :
    Json.entryTexts (entryOf g label l :: rest)
      = (g.bytes ++ encode (key ++ ':' :: ' ' :: cs)) :: Json.entryTexts rest := by
  rw [entryOf, Json.entryTexts, h.1, encode_colon, ← hkey]
  show (g.bytes ++ quoteByte :: (label.others
    ++ (([] ++ Json.colonByte :: Gap.space.bytes) ++ (encode cs ++ [])))) :: _ = _
  simp only [List.append_nil, List.nil_append, List.cons_append]

/-- The entry does to the members what the dictionary's entry does. -/
theorem enter_entryOf (g : Gap) {label : Label} {l : Layout} {cs : List Char} {k v : Datum}
    (hkey : label.text? = k.keyIn?) (h : Lays l cs v) (budget : Nat)
    (members : List (String × Value)) :
    Layout.enter (fun l => l.within budget) members (entryOf g label l)
      = enter (fun x : Datum => x.within budget) members (k, v) := by
  rw [Layout.enter, enter]
  show (label.text?.bind fun key => (l.within budget).map fun v => Json.insert key v members) = _
  rw [hkey, h.2]

theorem laysEntries_last (g : Gap) {label : Label} {l : Layout} {key cs : List Char} {k v : Datum}
    (hkey : quoteByte :: label.others = encode key) (htext : label.text? = k.keyIn?)
    (h : Lays l cs v) :
    LaysEntries g [entryOf g label l] (key ++ ':' :: ' ' :: cs) [(k, v)] := by
  refine ⟨?_, fun budget members => ?_⟩
  · rw [entryTexts_entryOf g hkey h, Json.entryTexts, Json.enclosed, Json.following,
      List.append_assoc]
  · rw [List.foldlM_cons, List.foldlM_cons, enter_entryOf g htext h]
    rfl

theorem laysEntries_cons (g : Gap) {label : Label} {l : Layout} {ls : List (Entry Layout)}
    {key cs ds : List Char} {k v : Datum} {entries : List (Datum × Datum)}
    (hkey : quoteByte :: label.others = encode key) (htext : label.text? = k.keyIn?)
    (h : Lays l cs v) (hne : ls ≠ []) (hls : LaysEntries .space ls ds entries) :
    LaysEntries g (entryOf g label l :: ls) (key ++ ':' :: ' ' :: cs ++ ',' :: ' ' :: ds)
      ((k, v) :: entries) := by
  obtain ⟨hrest, hmeans⟩ := hls
  have htexts : Json.entryTexts ls ≠ [] := by
    rw [Json.entryTexts_eq, ne_eq, List.map_eq_nil_iff]
    exact hne
  refine ⟨?_, fun budget members => ?_⟩
  · rw [entryTexts_entryOf g hkey h, Json.enclosed, following_enclosed _ htexts, hrest,
      encode_comma]
    simp only [List.append_assoc, List.cons_append]
  · rw [List.foldlM_cons, List.foldlM_cons, enter_entryOf g htext h]
    congr 1
    funext next
    exact hmeans budget next

/-! ## Whole values -/

/-- Brackets around items. -/
theorem lays_array {ls : List (Item Layout)} {cs : List Char} {items : List Datum} {d : Datum}
    (h : LaysItems .none ls cs items)
    (hd : ∀ budget, d.within (budget + 1) = if budget = 0 then none
      else (items.mapM fun x : Datum => x.within budget).map .array) :
    Lays (.array .none ls) ('[' :: (cs ++ [']'])) d := by
  obtain ⟨hbytes, hmeans⟩ := h
  refine ⟨?_, fun budget => ?_⟩
  · rw [Layout.bytes, hbytes, ← List.singleton_append (x := '['), Text.encode_append,
      Text.encode_append]
    rfl
  · cases budget with
    | zero => rw [Layout.within, within]
    | succ budget => rw [Layout.within, hd, hmeans]

theorem lays_object {ls : List (Entry Layout)} {cs : List Char} {entries : List (Datum × Datum)}
    (h : LaysEntries .none ls cs entries) :
    Lays (.object .none ls) ('\x7b' :: (cs ++ ['\x7d'])) (dict entries) := by
  obtain ⟨hbytes, hmeans⟩ := h
  refine ⟨?_, fun budget => ?_⟩
  · rw [Layout.bytes, hbytes, ← List.singleton_append (x := '\x7b'), Text.encode_append,
      Text.encode_append]
    rfl
  · cases budget with
    | zero => rw [Layout.within, within]
    | succ budget => rw [Layout.within, within, hmeans]

/-! ## What it takes to be written -/

theorem encoding_ok {α : Type} {room : Nat} {inside : Nat → Except Raised α} {f : α → List Char}
    {cs : List Char} (h : encoding room (fun room => (inside room).map f) = .ok cs) :
    ∃ left body, room = left + 1 ∧ inside left = .ok body ∧ f body = cs := by
  obtain ⟨left, hroom, h⟩ := calling_ok h
  obtain ⟨body, hbody, hcs⟩ := map_ok h
  exact ⟨left, body, hroom, hbody, hcs⟩

theorem refused_ne_ok (room : Nat) (x : Datum) (cs : List Char) : x.refused room ≠ .ok cs := by
  intro h
  obtain ⟨_, -, h⟩ := calling_ok h
  obtain ⟨_, -, h⟩ := calling_ok h
  cases h

theorem dumpItems_cons_ok {room : Nat} {x : Datum} {rest : List Datum} {cs : List Char}
    (h : dumpItems room (x :: rest) = .ok cs) :
    ∃ head, x.dump room = .ok head
      ∧ (rest = [] ∧ cs = head
        ∨ ∃ tail, rest ≠ [] ∧ dumpItems room rest = .ok tail
          ∧ cs = head ++ ',' :: ' ' :: tail) := by
  obtain ⟨head, hhead, h⟩ := bind_ok h
  refine ⟨head, hhead, ?_⟩
  cases rest with
  | nil => exact Or.inl ⟨rfl, (Except.ok.inj h).symm⟩
  | cons y rest =>
    obtain ⟨tail, htail, rfl⟩ := map_ok h
    exact Or.inr ⟨tail, List.cons_ne_nil _ _, htail, rfl⟩

theorem dumpEntries_cons_ok {room : Nat} {k v : Datum} {rest : List (Datum × Datum)}
    {cs : List Char} (h : dumpEntries room ((k, v) :: rest) = .ok cs) :
    ∃ key value, dumpedKey k = .ok key ∧ v.dump room = .ok value
      ∧ (rest = [] ∧ cs = key ++ ':' :: ' ' :: value
        ∨ ∃ tail, rest ≠ [] ∧ dumpEntries room rest = .ok tail
          ∧ cs = key ++ ':' :: ' ' :: value ++ ',' :: ' ' :: tail) := by
  obtain ⟨key, hkey, h⟩ := bind_ok h
  obtain ⟨value, hvalue, h⟩ := bind_ok h
  refine ⟨key, value, hkey, hvalue, ?_⟩
  cases rest with
  | nil => exact Or.inl ⟨rfl, (Except.ok.inj h).symm⟩
  | cons e rest =>
    obtain ⟨tail, htail, rfl⟩ := map_ok h
    exact Or.inr ⟨tail, List.cons_ne_nil _ _, htail, rfl⟩

/-! ## What is written -/

mutual

/-- **What is written for a value is the writing of a layout that means what the value does.** -/
theorem dump_layout (d : Datum) (h : d.Proper) {room : Nat} {cs : List Char}
    (hd : d.dump room = .ok cs) : ∃ l, Lays l cs d := by
  cases d with
  | str s =>
    cases hd
    exact ⟨_, lays_text h⟩
  | list items =>
    obtain ⟨left, body, -, hbody, rfl⟩ := encoding_ok hd
    obtain ⟨ls, -, hls⟩ := dumpItems_layout items h hbody .none (fun _ => rfl)
    exact ⟨_, lays_array hls fun _ => rfl⟩
  | tuple items =>
    obtain ⟨left, body, -, hbody, rfl⟩ := encoding_ok hd
    obtain ⟨ls, -, hls⟩ := dumpItems_layout items h hbody .none (fun _ => rfl)
    exact ⟨_, lays_array hls fun _ => rfl⟩
  | dict entries =>
    obtain ⟨left, body, -, hbody, rfl⟩ := encoding_ok hd
    obtain ⟨ls, -, hls⟩ := dumpEntries_layout entries h hbody .none (fun _ => rfl)
    exact ⟨_, lays_object hls⟩
  | _ =>
    -- what is left is written as a word or not at all
    unfold dump at hd
    split at hd
    next hword =>
      subst hd
      exact lays_word hword h
    next => exact absurd hd (refused_ne_ok _ _ _)

theorem dumpItems_layout (items : List Datum) (h : AllProper items) {room : Nat} {cs : List Char}
    (hd : dumpItems room items = .ok cs) (g : Gap) (hg : items = [] → g.bytes = []) :
    ∃ ls, (ls = [] → items = []) ∧ LaysItems g ls cs items := by
  cases items with
  | nil =>
    -- without items there is nothing to stand behind a gap
    cases hd
    refine ⟨[], fun _ => rfl, ?_, fun _ => rfl⟩
    rw [hg rfl]
    rfl
  | cons x rest =>
    obtain ⟨head, hhead, htail⟩ := dumpItems_cons_ok hd
    obtain ⟨l, hl⟩ := dump_layout x h.1 hhead
    rcases htail with ⟨rfl, rfl⟩ | ⟨tail, hrest, htail, rfl⟩
    · exact ⟨_, fun e => absurd e (List.cons_ne_nil _ _), laysItems_last g hl⟩
    · obtain ⟨ls, hne, hls⟩ := dumpItems_layout rest h.2 htail .space fun e => absurd e hrest
      exact ⟨_, fun e => absurd e (List.cons_ne_nil _ _),
        laysItems_cons g hl (fun e => hrest (hne e)) hls⟩

theorem dumpEntries_layout (entries : List (Datum × Datum)) (h : EntriesProper entries) {room : Nat}
    {cs : List Char} (hd : dumpEntries room entries = .ok cs) (g : Gap)
    (hg : entries = [] → g.bytes = []) :
    ∃ ls, (ls = [] → entries = []) ∧ LaysEntries g ls cs entries := by
  cases entries with
  | nil =>
    cases hd
    refine ⟨[], fun _ => rfl, ?_, fun _ _ => rfl⟩
    rw [hg rfl]
    rfl
  | cons e rest =>
    obtain ⟨k, v⟩ := e
    obtain ⟨⟨hk, hv⟩, hproper⟩ := h
    obtain ⟨key, value, hkey, hvalue, htail⟩ := dumpEntries_cons_ok hd
    obtain ⟨label, hlabel, htext⟩ := exists_label hk hkey
    obtain ⟨l, hl⟩ := dump_layout v hv hvalue
    rcases htail with ⟨rfl, rfl⟩ | ⟨tail, hrest, htail, rfl⟩
    · exact ⟨_, fun e => absurd e (List.cons_ne_nil _ _), laysEntries_last g hlabel htext hl⟩
    · obtain ⟨ls, hne, hls⟩ :=
        dumpEntries_layout rest hproper htail .space fun e => absurd e hrest
      exact ⟨_, fun e => absurd e (List.cons_ne_nil _ _),
        laysEntries_cons g hlabel htext hl (fun e => hrest (hne e)) hls⟩

end

/-- **What is read in what is written for a value.** -/
theorem readDocument_dump {d : Datum} (h : d.Proper) {room : Nat} {cs : List Char}
    (hd : d.dump room = .ok cs) :
    (Json.readDocument (encode cs)).toOption = d.within Json.bracketBudget := by
  obtain ⟨l, hbytes, hmeans⟩ := dump_layout d h hd
  have hread := Json.readDocument_layout .none .none l
  have hnone : Gap.none.bytes = [] := rfl
  rw [hnone, List.nil_append, List.append_nil, hbytes] at hread
  rw [hread, hmeans]

end Datum

end ImageText.Engine
