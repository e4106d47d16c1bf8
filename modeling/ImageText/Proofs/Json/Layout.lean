import ImageText.Json.Reader
import ImageText.Proofs.Json.Numeral

/-!
# Documents as they are laid out

A `Layout` is a document on the page: a tree whose leaves are written scalars and whose arrays and
objects say which blanks stand where. `Layout.bytes` writes it out. What it means is computed on the
tree, without looking at a byte, by `Layout.within`: a leaf means what its scalar means, an object
lets the later of two members with one key win, and only so many brackets may be open at once.

The reader, which sees bytes and no tree, finds exactly that:

> `readValue_layout`, `readDocument_layout`: reading what a layout writes gives what it means, and is
> refused if it means nothing.

So to know what the reader makes of some writer's output it is enough to say which layout the writer
follows. `readItems_layout` and `readEntries_layout` are the walks from comma to comma; they are told
what reading one item or one entry does, as the readers themselves are.
-/

namespace ImageText.Json

/-! ## Gaps -/

/-- Bytes that may stand between tokens. -/
structure Gap where
  bytes : Bytes
  blank : ∀ b ∈ bytes, isGap b = true

namespace Gap

/-- Nothing between two tokens. -/
def none : Gap := ⟨[], fun _ h => nomatch h⟩

/-- One blank between two tokens. -/
def space : Gap := ⟨[0x20], fun b hb => by rw [List.mem_singleton.mp hb]; rfl⟩

end Gap

theorem skipGap_gap (g : Gap) (rest : Bytes) : skipGap (g.bytes ++ rest) = skipGap rest :=
  List.dropWhile_append_of_pos g.blank

theorem skipGap_cons {b : UInt8} (h : isGap b = false) (rest : Bytes) :
    skipGap (b :: rest) = b :: rest :=
  List.dropWhile_cons_of_neg (by rw [h]; simp)

/-- A blank cannot be taken for more of a number. -/
theorem ends_gap (g : Gap) {rest : Bytes} (h : Ends rest) : Ends (g.bytes ++ rest) := by
  obtain ⟨bytes, hblank⟩ := g
  cases bytes with
  | nil => exact h
  | cons b more =>
    refine ends_cons ?_ _
    have hb := hblank b (List.mem_cons_self ..)
    simp only [isGap, Bool.or_eq_true, beq_iff_eq] at hb
    rcases hb with ((hb | hb) | hb) | hb <;> rw [hb] <;> decide

/-! ## Scalars and labels -/

/-- A scalar as it is written, and its value, if it has one. The reader is content with it, whatever
follows that cannot be taken for more of it. -/
structure Scalar where
  first : UInt8
  others : Bytes
  value? : Option Value
  first_plain : isGap first = false ∧ first ≠ openArray ∧ first ≠ openObject ∧ first ≠ closeArray
  reads : ∀ rest, Ends rest →
    (readScalar first (others ++ rest)).toOption = value?.map (·, rest)

/-- A string literal behind its opening quote, and its text, if it has one. -/
structure Label where
  others : Bytes
  text? : Option String
  reads : ∀ rest, (readLiteral (others ++ rest)).toOption = text?.map (·, rest)

/-! ## Layouts -/

/-- Something between two gaps. -/
structure Item (α : Type) where
  before : Gap
  value : α
  behind : Gap

/-- A member of an object: its key, a gap before the colon, and its value between two gaps. -/
structure Entry (α : Type) where
  before : Gap
  label : Label
  colon : Gap
  item : Item α

/-- A document as it is laid out. The first gap of an array or object is what stands behind its
opening bracket, also if there is nothing in it. -/
inductive Layout where
  | scalar (s : Scalar)
  | array (inner : Gap) (items : List (Item Layout))
  | object (inner : Gap) (entries : List (Entry Layout))

namespace Item

variable {α : Type}

/-- An item as it is written. -/
def text (write : α → Bytes) (i : Item α) : Bytes :=
  i.before.bytes ++ (write i.value ++ i.behind.bytes)

end Item

namespace Entry

variable {α : Type}

/-- What stands between the key of an entry and its value. -/
def joint (e : Entry α) : Bytes := e.colon.bytes ++ colonByte :: e.item.before.bytes

/-- An entry as it is written, from its opening quote on. -/
def body (write : α → Bytes) (e : Entry α) : Bytes :=
  e.label.others ++ (e.joint ++ (write e.item.value ++ e.item.behind.bytes))

/-- An entry as it is written. -/
def text (write : α → Bytes) (e : Entry α) : Bytes := e.before.bytes ++ quoteByte :: e.body write

end Entry

/-- Texts with a comma before each of them and a closing bracket behind them. -/
def following (closing : UInt8) : List Bytes → Bytes
  | [] => [closing]
  | t :: rest => commaByte :: (t ++ following closing rest)

/-- Texts with commas between them and a closing bracket behind them. -/
def enclosed (closing : UInt8) : List Bytes → Bytes
  | [] => [closing]
  | t :: rest => t ++ following closing rest

mutual

/-- A layout as it is written. -/
def Layout.bytes : Layout → Bytes
  | .scalar s => s.first :: s.others
  | .array inner items => openArray :: (inner.bytes ++ enclosed closeArray (itemTexts items))
  | .object inner entries => openObject :: (inner.bytes ++ enclosed closeObject (entryTexts entries))

/-- The items of an array as they are written. -/
def itemTexts : List (Item Layout) → List Bytes
  | [] => []
  | ⟨before, x, behind⟩ :: rest => (before.bytes ++ (x.bytes ++ behind.bytes)) :: itemTexts rest

/-- The entries of an object as they are written. -/
def entryTexts : List (Entry Layout) → List Bytes
  | [] => []
  | ⟨before, label, colon, ⟨lead, x, behind⟩⟩ :: rest =>
    (before.bytes ++ quoteByte :: (label.others
      ++ ((colon.bytes ++ colonByte :: lead.bytes) ++ (x.bytes ++ behind.bytes))))
      :: entryTexts rest

end

theorem itemTexts_eq (items : List (Item Layout)) :
    itemTexts items = items.map (Item.text Layout.bytes) := by
  induction items with
  | nil => rfl
  | cons i rest ih => rw [itemTexts, ih]; rfl

theorem entryTexts_eq (entries : List (Entry Layout)) :
    entryTexts entries = entries.map (Entry.text Layout.bytes) := by
  induction entries with
  | nil => rfl
  | cons e rest ih => rw [entryTexts, ih]; rfl

namespace Layout

/-- What one more entry does to the members before it. -/
def enter {α : Type} (mean : α → Option Value) (members : List (String × Value)) (e : Entry α) :
    Option (List (String × Value)) :=
  e.label.text?.bind fun key => (mean e.item.value).map fun v => insert key v members

/-- What a layout means with fewer than `budget` brackets open at once, if it means anything. -/
def within : Nat → Layout → Option Value
  | 0, _ => none
  | _ + 1, scalar s => s.value?
  | budget + 1, array _ items =>
    if budget = 0 then none
    else (items.mapM fun i : Item Layout => i.value.within budget).map .array
  | budget + 1, object _ entries =>
    if budget = 0 then none
    else (entries.foldlM (enter fun l => l.within budget) []).map .object

/-- A layout begins with neither a blank nor the bracket that closes an array. -/
theorem bytes_cons (l : Layout) :
    ∃ b more, l.bytes = b :: more ∧ isGap b = false ∧ b ≠ closeArray := by
  cases l with
  | scalar s =>
    refine ⟨s.first, s.others, by rw [bytes], s.first_plain.1, s.first_plain.2.2.2⟩
  | array inner items => exact ⟨openArray, _, by rw [bytes], by decide, by decide⟩
  | object inner entries => exact ⟨openObject, _, by rw [bytes], by decide, by decide⟩

end Layout

/-! ## What follows an item -/

/-- Neither a comma nor a closing bracket can be taken for more of a number. -/
theorem ends_following {closing : UInt8} (h : closing = closeArray ∨ closing = closeObject)
    (texts : List Bytes) (rest : Bytes) : Ends (following closing texts ++ rest) := by
  cases texts with
  | nil =>
    refine ends_cons ?_ _
    rcases h with h | h <;> rw [h] <;> decide
  | cons t more => exact ends_cons (by decide) _

/-- What stands behind an item, without its gap, is a comma or the closing bracket. -/
theorem skipGap_following {closing : UInt8} (h : isGap closing = false) (g : Gap)
    (texts : List Bytes) (rest : Bytes) :
    skipGap (g.bytes ++ (following closing texts ++ rest)) = following closing texts ++ rest := by
  rw [skipGap_gap]
  cases texts with
  | nil => exact skipGap_cons h _
  | cons t more => exact skipGap_cons (by decide) _

/-- There are no more texts than bytes. -/
theorem length_le_following (closing : UInt8) (texts : List Bytes) :
    texts.length < (following closing texts).length := by
  induction texts with
  | nil => exact Nat.zero_lt_one
  | cons t rest ih =>
    rw [following, List.length_cons, List.length_cons, List.length_append]
    omega

theorem length_le_enclosed (closing : UInt8) (texts : List Bytes) :
    texts.length ≤ (enclosed closing texts).length := by
  cases texts with
  | nil => exact Nat.zero_le _
  | cons t rest =>
    have hrest := length_le_following closing rest
    rw [enclosed, List.length_cons, List.length_append]
    omega

theorem length_le_following_of_mem (closing : UInt8) {texts : List Bytes} {t : Bytes}
    (h : t ∈ texts) : t.length ≤ (following closing texts).length := by
  induction texts with
  | nil => cases h
  | cons u rest ih =>
    rw [following, List.length_cons, List.length_append]
    rcases List.mem_cons.mp h with rfl | hrest
    · omega
    · have := ih hrest
      omega

/-- No text is longer than all of them with what stands between them. -/
theorem length_le_enclosed_of_mem (closing : UInt8) {texts : List Bytes} {t : Bytes}
    (h : t ∈ texts) : t.length ≤ (enclosed closing texts).length := by
  cases texts with
  | nil => cases h
  | cons u rest =>
    rw [enclosed, List.length_append]
    rcases List.mem_cons.mp h with rfl | hrest
    · omega
    · have := length_le_following_of_mem closing hrest
      omega

theorem length_le_items {α : Type} (write : α → Bytes) {items : List (Item α)} {i : Item α}
    (h : i ∈ items) :
    (write i.value).length ≤ (enclosed closeArray (items.map (Item.text write))).length := by
  have hle := length_le_enclosed_of_mem closeArray (List.mem_map.mpr ⟨i, h, rfl⟩ :
    i.text write ∈ items.map (Item.text write))
  rw [Item.text, List.length_append, List.length_append] at hle
  omega

theorem length_le_entries {α : Type} (write : α → Bytes) {entries : List (Entry α)} {e : Entry α}
    (h : e ∈ entries) :
    (write e.item.value).length
      ≤ (enclosed closeObject (entries.map (Entry.text write))).length := by
  have hle := length_le_enclosed_of_mem closeObject (List.mem_map.mpr ⟨e, h, rfl⟩ :
    e.text write ∈ entries.map (Entry.text write))
  rw [Entry.text, Entry.body] at hle
  simp only [List.length_append, List.length_cons] at hle
  omega

/-! ## One step of a walk -/

/-- A reader that finds what there is: it stops if there is nothing, and has read it otherwise. -/
theorem step_cases {α : Type} {r : Step α} {x? : Option α} {rest : Bytes}
    (h : r.toOption = x?.map (·, rest)) :
    (x? = none ∧ ∃ stop, r = .error stop) ∨ ∃ x, x? = some x ∧ r = .ok (x, rest) := by
  cases r with
  | error stop =>
    cases x? with
    | none => exact Or.inl ⟨rfl, stop, rfl⟩
    | some x => cases h
  | ok p =>
    cases x? with
    | none => cases h
    | some x =>
      have hp : p = (x, rest) := Option.some.inj h
      exact Or.inr ⟨x, rfl, by rw [hp]⟩

theorem eq_ok_iff {ε α : Type} {r : Except ε α} {a : α} : r = .ok a ↔ r.toOption = some a := by
  constructor
  · intro h
    rw [h]
    rfl
  · intro h
    cases r with
    | error e => cases h
    | ok b =>
      cases h
      rfl

theorem toOption_map {α β : Type} (r : Step α) (f : α → β) :
    (r.map fun p => (f p.1, p.2)).toOption = r.toOption.map fun p => (f p.1, p.2) := by
  cases r <;> rfl

section Steps

variable {β σ : Type}

theorem readItems_error {item : Bytes → Step β} {input : Bytes} {stop : Stop}
    (h : item input = .error stop) (fuel : Nat) (acc : List β) :
    readItems item (fuel + 1) acc input = .error stop := by
  rw [readItems, h]

theorem readItems_close {item : Bytes → Step β} {input rest more : Bytes} {x : β}
    (h : item input = .ok (x, rest)) (hrest : skipGap rest = closeArray :: more) (fuel : Nat)
    (acc : List β) :
    readItems item (fuel + 1) acc input = .ok ((x :: acc).reverse, more) := by
  rw [readItems, h]
  simp only [hrest, if_true]

theorem readItems_comma {item : Bytes → Step β} {input rest more next : Bytes} {x : β} {c : UInt8}
    (h : item input = .ok (x, rest)) (hrest : skipGap rest = commaByte :: more)
    (hmore : skipGap more = c :: next) (hc : c ≠ closeArray) (fuel : Nat) (acc : List β) :
    readItems item (fuel + 1) acc input = readItems item fuel (x :: acc) (c :: next) := by
  rw [readItems, h]
  simp only [hrest, hmore, if_neg (show ¬ commaByte = closeArray by decide), if_true, if_neg hc]

theorem readEntries_badKey {entry : σ → String → Bytes → Step σ} {input : Bytes} {stop : Stop}
    (h : readLiteral input = .error stop) (fuel : Nat) (state : σ) :
    readEntries entry (fuel + 1) state input = .error stop := by
  rw [readEntries, h]

theorem readEntries_error {entry : σ → String → Bytes → Step σ} {input behind : Bytes}
    {key : String} {stop : Stop} {state : σ} (h : readLiteral input = .ok (key, behind))
    (hentry : entry state key behind = .error stop) (fuel : Nat) :
    readEntries entry (fuel + 1) state input = .error stop := by
  rw [readEntries, h]
  simp only [hentry]

theorem readEntries_close {entry : σ → String → Bytes → Step σ} {input behind rest more : Bytes}
    {key : String} {state next : σ} (h : readLiteral input = .ok (key, behind))
    (hentry : entry state key behind = .ok (next, rest))
    (hrest : skipGap rest = closeObject :: more) (fuel : Nat) :
    readEntries entry (fuel + 1) state input = .ok (next, more) := by
  rw [readEntries, h]
  simp only [hentry, hrest, if_true]

theorem readEntries_comma {entry : σ → String → Bytes → Step σ}
    {input behind rest more ahead : Bytes} {key : String} {state next : σ}
    (h : readLiteral input = .ok (key, behind))
    (hentry : entry state key behind = .ok (next, rest))
    (hrest : skipGap rest = commaByte :: more) (hmore : skipGap more = quoteByte :: ahead)
    (fuel : Nat) :
    readEntries entry (fuel + 1) state input = readEntries entry fuel next ahead := by
  rw [readEntries, h]
  simp only [hentry, hrest, hmore, if_neg (show ¬ commaByte = closeObject by decide), if_true]

end Steps

/-! ## The walks -/

section Walks

variable {α β σ : Type} (write : α → Bytes)

/-- The walk over the items of an array, from the first byte of an item on: if `item` reads each of
them as `mean` says, the walk reads them all. -/
theorem readItems_layout (item : Bytes → Step β) (mean : α → Option β)
    (hwrite : ∀ a, ∃ b more, write a = b :: more ∧ isGap b = false ∧ b ≠ closeArray)
    (i : Item α) (items : List (Item α))
    (hitem : ∀ j ∈ i :: items, ∀ rest, Ends rest →
      (item (write j.value ++ rest)).toOption = (mean j.value).map (·, rest))
    (fuel : Nat) (hfuel : items.length < fuel) (acc : List β) (rest : Bytes) :
    (readItems item fuel acc (write i.value ++ (i.behind.bytes
        ++ (following closeArray (items.map (Item.text write)) ++ rest)))).toOption
      = ((i :: items).mapM fun j => mean j.value).map fun xs => (acc.reverse ++ xs, rest) := by
  induction items generalizing i fuel acc with
  | nil =>
    -- the last item, before the closing bracket
    obtain ⟨fuel, rfl⟩ : ∃ n, fuel = n + 1 := ⟨fuel - 1, by simp at hfuel; omega⟩
    have hread := hitem i (List.mem_cons_self ..) _
      (ends_gap i.behind (ends_following (Or.inl rfl) [] rest))
    have hskip := @skipGap_following closeArray (by decide) i.behind [] rest
    rw [List.map_nil, List.mapM_cons, List.mapM_nil]
    rcases step_cases hread with ⟨hx, stop, hstop⟩ | ⟨x, hx, hok⟩
    · rw [readItems_error hstop, hx]
      rfl
    · rw [readItems_close hok hskip, hx, List.reverse_cons]
      rfl
  | cons j items ih =>
    -- one more item behind a comma
    obtain ⟨fuel, rfl⟩ : ∃ n, fuel = n + 1 := ⟨fuel - 1, by simp at hfuel; omega⟩
    have hread := hitem i (List.mem_cons_self ..) _ (ends_gap i.behind
      (ends_following (Or.inl rfl) ((j :: items).map (Item.text write)) rest))
    have hskip := @skipGap_following closeArray (by decide) i.behind
      ((j :: items).map (Item.text write)) rest
    rw [List.mapM_cons]
    rcases step_cases hread with ⟨hx, stop, hstop⟩ | ⟨x, hx, hok⟩
    · rw [readItems_error hstop, hx]
      rfl
    · obtain ⟨b, more, hb, hgap, hclose⟩ := hwrite j.value
      rw [List.map_cons, following, Item.text] at hskip
      -- behind the comma and its gap stands the first byte of the next item
      have hnext : skipGap ((j.before.bytes ++ (write j.value ++ j.behind.bytes)
          ++ following closeArray (items.map (Item.text write))) ++ rest)
          = b :: (more ++ (j.behind.bytes
            ++ (following closeArray (items.map (Item.text write)) ++ rest))) := by
        rw [List.append_assoc, List.append_assoc, skipGap_gap, hb]
        simp only [List.append_assoc, List.cons_append]
        exact skipGap_cons hgap _
      rw [readItems_comma hok hskip hnext hclose, hx]
      have hrest := ih j (fun k hk => hitem k (List.mem_cons_of_mem _ hk)) fuel
        (by rw [List.length_cons] at hfuel; omega) (x :: acc)
      rw [hb, List.cons_append] at hrest
      rw [hrest]
      cases (j :: items).mapM fun k => mean k.value with
      | none => rfl
      | some xs =>
        rw [List.reverse_cons]
        show some (acc.reverse ++ [x] ++ xs, rest) = some (acc.reverse ++ x :: xs, rest)
        rw [List.append_assoc]
        rfl

/-- The walk over the entries of an object, from behind an opening quote on: if `entry` does to the
state what `mean` says, the walk does it for all of them. -/
theorem readEntries_layout (entry : σ → String → Bytes → Step σ)
    (mean : σ → String → α → Option σ) (e : Entry α) (entries : List (Entry α))
    (hentry : ∀ f ∈ e :: entries, ∀ key state rest, Ends rest →
      (entry state key (f.joint ++ (write f.item.value ++ rest))).toOption
        = (mean state key f.item.value).map (·, rest))
    (fuel : Nat) (hfuel : entries.length < fuel) (state : σ) (rest : Bytes) :
    (readEntries entry fuel state (e.label.others ++ (e.joint ++ (write e.item.value
        ++ (e.item.behind.bytes
          ++ (following closeObject (entries.map (Entry.text write)) ++ rest)))))).toOption
      = ((e :: entries).foldlM (fun st (f : Entry α) => f.label.text?.bind fun key => mean st key f.item.value)
          state).map (·, rest) := by
  induction entries generalizing e fuel state with
  | nil =>
    -- the last entry, before the closing bracket
    obtain ⟨fuel, rfl⟩ : ∃ n, fuel = n + 1 := ⟨fuel - 1, by simp at hfuel; omega⟩
    have hkey := e.label.reads (e.joint ++ (write e.item.value
      ++ (e.item.behind.bytes ++ (following closeObject [] ++ rest))))
    have hskip := @skipGap_following closeObject (by decide) e.item.behind [] rest
    rw [List.map_nil, List.foldlM_cons]
    rcases step_cases hkey with ⟨ht, stop, hstop⟩ | ⟨key, ht, hlabel⟩
    · rw [readEntries_badKey hstop, ht]
      rfl
    · have hread := hentry e (List.mem_cons_self ..) key state _
        (ends_gap e.item.behind (ends_following (Or.inr rfl) [] rest))
      rw [ht, Option.bind_some]
      rcases step_cases hread with ⟨hm, stop, hstop⟩ | ⟨next, hm, hok⟩
      · rw [readEntries_error hlabel hstop, hm]
        rfl
      · rw [readEntries_close hlabel hok hskip, hm]
        rfl
  | cons f entries ih =>
    -- one more entry behind a comma
    obtain ⟨fuel, rfl⟩ : ∃ n, fuel = n + 1 := ⟨fuel - 1, by simp at hfuel; omega⟩
    have hkey := e.label.reads (e.joint ++ (write e.item.value ++ (e.item.behind.bytes
      ++ (following closeObject ((f :: entries).map (Entry.text write)) ++ rest))))
    have hskip := @skipGap_following closeObject (by decide) e.item.behind
      ((f :: entries).map (Entry.text write)) rest
    rw [List.foldlM_cons]
    rcases step_cases hkey with ⟨ht, stop, hstop⟩ | ⟨key, ht, hlabel⟩
    · rw [readEntries_badKey hstop, ht]
      rfl
    · have hread := hentry e (List.mem_cons_self ..) key state _ (ends_gap e.item.behind
        (ends_following (Or.inr rfl) ((f :: entries).map (Entry.text write)) rest))
      rw [ht, Option.bind_some]
      rcases step_cases hread with ⟨hm, stop, hstop⟩ | ⟨next, hm, hok⟩
      · rw [readEntries_error hlabel hstop, hm]
        rfl
      · rw [List.map_cons, following, Entry.text, Entry.body] at hskip
        -- behind the comma and its gap stands the quote of the next key
        have hnext : skipGap ((f.before.bytes ++ quoteByte :: (f.label.others
            ++ (f.joint ++ (write f.item.value ++ f.item.behind.bytes)))
            ++ following closeObject (entries.map (Entry.text write))) ++ rest)
            = quoteByte :: (f.label.others ++ (f.joint ++ (write f.item.value
              ++ (f.item.behind.bytes
                ++ (following closeObject (entries.map (Entry.text write)) ++ rest))))) := by
          rw [List.append_assoc, List.append_assoc, skipGap_gap]
          simp only [List.append_assoc, List.cons_append]
          exact skipGap_cons (by decide) _
        rw [readEntries_comma hlabel hok hskip hnext, hm]
        exact ih f (fun g hg => hentry g (List.mem_cons_of_mem _ hg)) fuel
          (by rw [List.length_cons] at hfuel; omega) next

theorem readArray_layout (item : Bytes → Step β) (mean : α → Option β)
    (hwrite : ∀ a, ∃ b more, write a = b :: more ∧ isGap b = false ∧ b ≠ closeArray)
    (inner : Gap) (items : List (Item α))
    (hitem : ∀ j ∈ items, ∀ rest, Ends rest →
      (item (write j.value ++ rest)).toOption = (mean j.value).map (·, rest))
    (size : Nat) (hsize : items.length ≤ size) (rest : Bytes) :
    (readArray size item (inner.bytes
        ++ (enclosed closeArray (items.map (Item.text write)) ++ rest))).toOption
      = (items.mapM fun j => mean j.value).map (·, rest) := by
  rw [readArray, skipGap_gap]
  cases items with
  | nil =>
    rw [List.map_nil, enclosed, List.cons_append, skipGap_cons (by decide)]
    simp only [if_true]
    rfl
  | cons i items =>
    obtain ⟨b, more, hb, hgap, hclose⟩ := hwrite i.value
    have hwalk := readItems_layout write item mean hwrite i items hitem size
      (by rw [List.length_cons] at hsize; omega) [] rest
    rw [hb, List.cons_append] at hwalk
    rw [List.map_cons, enclosed, Item.text, List.append_assoc, List.append_assoc, skipGap_gap, hb]
    simp only [List.append_assoc, List.cons_append]
    rw [skipGap_cons hgap]
    simp only [if_neg hclose]
    rw [hwalk]
    rfl

theorem readObject_layout (entry : σ → String → Bytes → Step σ)
    (mean : σ → String → α → Option σ) (inner : Gap) (entries : List (Entry α))
    (hentry : ∀ f ∈ entries, ∀ key state rest, Ends rest →
      (entry state key (f.joint ++ (write f.item.value ++ rest))).toOption
        = (mean state key f.item.value).map (·, rest))
    (size : Nat) (hsize : entries.length ≤ size) (state : σ) (rest : Bytes) :
    (readObject size entry state (inner.bytes
        ++ (enclosed closeObject (entries.map (Entry.text write)) ++ rest))).toOption
      = (entries.foldlM (fun st (f : Entry α) => f.label.text?.bind fun key =>
          mean st key f.item.value) state).map (·, rest) := by
  rw [readObject, skipGap_gap]
  cases entries with
  | nil =>
    rw [List.map_nil, enclosed, List.cons_append, skipGap_cons (by decide)]
    simp only [if_true]
    rfl
  | cons e entries =>
    have hwalk := readEntries_layout write entry mean e entries hentry size
      (by rw [List.length_cons] at hsize; omega) state rest
    rw [List.map_cons, enclosed, Entry.text, Entry.body, List.append_assoc, List.append_assoc,
      skipGap_gap]
    simp only [List.append_assoc, List.cons_append]
    rw [skipGap_cons (by decide)]
    simp only [if_neg (show ¬ quoteByte = closeObject by decide), if_true]
    rw [hwalk]

end Walks

/-! ## A whole document -/

theorem readColon_joint {α : Type} (e : Entry α) (rest : Bytes) :
    readColon (e.joint ++ rest) = .ok ((), e.item.before.bytes ++ rest) := by
  rw [readColon, Entry.joint, List.append_assoc, skipGap_gap, List.cons_append,
    skipGap_cons (by decide)]
  simp only [if_true]

theorem readValue_gap (size budget : Nat) (g : Gap) (rest : Bytes) :
    readValue size budget (g.bytes ++ rest) = readValue size budget rest := by
  cases budget <;> rw [readValue, readValue, skipGap_gap]

theorem readMember_entry {α : Type} (write : α → Bytes) (size budget : Nat) (mean : α → Option Value)
    (e : Entry α) (rest : Bytes)
    (h : (readValue size budget (write e.item.value ++ rest)).toOption
      = (mean e.item.value).map (·, rest))
    (members : List (String × Value)) (key : String) :
    (readMember (readValue size budget) members key
        (e.joint ++ (write e.item.value ++ rest))).toOption
      = ((mean e.item.value).map fun v => insert key v members).map (·, rest) := by
  rw [readMember, readColon_joint]
  simp only [readValue_gap]
  rcases step_cases h with ⟨hm, stop, hstop⟩ | ⟨v, hm, hok⟩
  · rw [hstop, hm]
    rfl
  · rw [hok, hm]
    rfl

/-- **Reading what a layout writes gives what the layout means**, and is refused if it means
nothing. The induction is on the number of brackets that may still be opened, as the reader's
recursion is. -/
theorem readValue_layout (size budget : Nat) (l : Layout) (hsize : l.bytes.length ≤ size)
    (rest : Bytes) (hrest : Ends rest) :
    (readValue size budget (l.bytes ++ rest)).toOption = (l.within budget).map (·, rest) := by
  induction budget generalizing l rest with
  | zero => rw [readValue, Layout.within]; rfl
  | succ budget ih =>
    rw [readValue]
    cases l with
    | scalar s =>
      obtain ⟨hgap, harray, hobject, -⟩ := s.first_plain
      rw [Layout.bytes, List.cons_append, skipGap_cons hgap]
      simp only [if_neg harray, if_neg hobject]
      rw [s.reads rest hrest, Layout.within]
    | array inner items =>
      rw [Layout.bytes, List.length_cons, List.length_append] at hsize
      rw [Layout.bytes, List.cons_append, skipGap_cons (by decide), Layout.within]
      simp only [if_true]
      -- the bracket may be one too many
      by_cases hb : budget = 0
      · rw [if_pos hb, if_pos hb]
        rfl
      rw [if_neg hb, if_neg hb, toOption_map, itemTexts_eq, List.append_assoc]
      rw [itemTexts_eq] at hsize
      -- the fuel is enough: an array has no more items than bytes, and none of them is longer
      have hcount := length_le_enclosed closeArray (items.map (Item.text Layout.bytes))
      rw [List.length_map] at hcount
      rw [readArray_layout Layout.bytes (readValue size budget) (·.within budget)
        Layout.bytes_cons inner items (fun i hi rest hrest => ih i.value
          (by have := length_le_items Layout.bytes hi; omega) rest hrest) size (by omega) rest]
      rw [Option.map_map, Option.map_map]
      rfl
    | object inner entries =>
      rw [Layout.bytes, List.length_cons, List.length_append] at hsize
      rw [Layout.bytes, List.cons_append, skipGap_cons (by decide), Layout.within]
      simp only [if_neg (show ¬ openObject = openArray by decide), if_true]
      by_cases hb : budget = 0
      · rw [if_pos hb, if_pos hb]
        rfl
      rw [if_neg hb, if_neg hb, toOption_map, entryTexts_eq, List.append_assoc]
      rw [entryTexts_eq] at hsize
      have hcount := length_le_enclosed closeObject (entries.map (Entry.text Layout.bytes))
      rw [List.length_map] at hcount
      rw [readObject_layout Layout.bytes (readMember (readValue size budget))
        (fun members key l => (l.within budget).map fun v => insert key v members) inner entries
        (fun e he key members rest hrest => readMember_entry Layout.bytes size budget
          (·.within budget) e rest (ih e.item.value
            (by have := length_le_entries Layout.bytes he; omega) rest hrest) members key)
        size (by omega) [] rest]
      rw [Option.map_map, Option.map_map]
      rfl

/-- What a document is read as, if what stands behind its value is a gap. -/
theorem readDocumentWith_gap {α : Type} {read : Nat → Bytes → Step α} {input : Bytes} {x? : Option α}
    (behind : Gap) (h : (read input.length input).toOption = x?.map (·, behind.bytes)) :
    (readDocumentWith read input).toOption = x? := by
  have hend : skipGap behind.bytes = [] := by
    rw [← List.append_nil behind.bytes, skipGap_gap]
    rfl
  rw [readDocumentWith]
  rcases step_cases h with ⟨hx, stop, hstop⟩ | ⟨x, hx, hok⟩
  · rw [hstop, hx]
    rfl
  · rw [hok, hx]
    simp only [endDocument, hend]
    rfl

/-- A document with a layout and gaps around it. -/
theorem readDocument_layout (before behind : Gap) (l : Layout) :
    (readDocument (before.bytes ++ (l.bytes ++ behind.bytes))).toOption
      = l.within bracketBudget := by
  refine readDocumentWith_gap behind ?_
  rw [readValue_gap]
  refine readValue_layout _ bracketBudget l ?_ behind.bytes ?_
  · rw [List.length_append, List.length_append]
    omega
  · rw [← List.append_nil behind.bytes]
    exact ends_gap behind ends_nil

end ImageText.Json
