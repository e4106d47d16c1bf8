import ImageText.Proofs.Steady
import ImageText.Proofs.Text.Kept
import ImageText.Proofs.Text.Trim

/-!
# The message in an error stream

The error stream of a failed process is decoded as a whole and then cut into lines. The bytes need not be
UTF-8, so it is not clear from the code that a line means the same wherever it stands: a sequence that
breaks off before a line feed might swallow it, or spoil what comes behind. It does not, and the order
of the two steps does not matter. `lastVisible?` cuts the bytes first and decodes each piece on its own.

> `lastLine?_lossy`: the last line that is found is the last visible piece of the bytes,
> `execute_message`: so it is for the message of every process that fails, and bytes before the last
> visible piece have no part in it.

If nothing is visible, the message says how the process ended. Either way there is something to read in
it, on a single line, and no white space around it.
-/

namespace ImageText

namespace Text

/-! ## Cutting before decoding -/

/-- What an error stream has to say: of its pieces between line feeds, each decoded on its own, the last
with a character that is more than white space, trimmed. -/
def lastVisible? (bytes : Bytes) : Option (List Char) :=
  ((((bytes.splitOn 0x0A).map lossy).filter fun piece => piece.any fun c => !isBlank c).getLast?).map
    trim

/-- A line feed is decoded from its own byte and no other. -/
theorem lineFeed_mem_lossy {bytes : Bytes} : '\n' ∈ lossy bytes ↔ 0x0A ∈ bytes := by
  constructor
  · intro h
    obtain ⟨piece, hpiece, hchar⟩ := List.mem_map.mp h
    cases piece with
    | char c =>
      have hc : c = '\n' := hchar
      rw [← pieces_bytes bytes]
      refine List.mem_flatMap.mpr ⟨_, hpiece, ?_⟩
      rw [hc]
      exact List.mem_singleton_self _
    | broken bad => exact absurd hchar (show replacement ≠ '\n' by decide)
  · intro h
    exact mem_lossy_of_ascii (b := 0x0A) (by decide) h

/-- **The order of cutting and decoding does not matter.** The induction is on what stands behind the
first line feed. -/
theorem splitOn_lossy (bytes : Bytes) :
    (lossy bytes).splitOn '\n' = (bytes.splitOn 0x0A).map lossy := by
  by_cases h : 0x0A ∈ bytes
  · obtain ⟨a, b, hbytes, ha⟩ := List.eq_append_cons_of_mem h
    have hshort : b.length < bytes.length := by
      rw [hbytes, List.length_append, List.length_cons]
      omega
    have hfirst : '\n' ∉ lossy a := fun hmem => ha (lineFeed_mem_lossy.mp hmem)
    rw [hbytes, lossy_lineFeed, List.splitOn_append_cons_self_of_not_mem hfirst,
      List.splitOn_append_cons_self_of_not_mem ha, List.map_cons, splitOn_lossy b]
  · have hnone : '\n' ∉ lossy bytes := fun hmem => h (lineFeed_mem_lossy.mp hmem)
    rw [List.splitOn_eq_singleton hnone, List.splitOn_eq_singleton h, List.map_singleton]
termination_by bytes.length

theorem lines_eq_splitOn (s : List Char) : lines s = s.splitOn '\n' := by
  induction s using line_induction with
  | single s h => rw [lines_single h, List.splitOn_eq_singleton h]
  | cut s t h ih =>
    rw [lines_lineFeed, lines_single h, List.splitOn_append_cons_self_of_not_mem h, ih]
    rfl

/-- Trimming leaves something of a text exactly if something in it is more than white space. -/
theorem isEmpty_trim (s : List Char) : (!(trim s).isEmpty) = s.any fun c => !isBlank c := by
  have hvisible : (s.any fun c => !isBlank c) = true ↔ Visible s := by
    rw [List.any_eq_true]
    simp only [Visible, Bool.not_eq_true']
  rw [Bool.eq_iff_iff, hvisible, Bool.not_eq_true', List.isEmpty_eq_false_iff, ne_eq,
    trim_eq_nil_iff, not_not]

theorem lastLine?_eq (s : List Char) :
    lastLine? s
      = (((s.splitOn '\n').filter fun line => line.any fun c => !isBlank c).getLast?).map trim := by
  have hfound : ((fun l : List Char => !l.isEmpty) ∘ trim) = fun line => line.any fun c => !isBlank c :=
    funext isEmpty_trim
  rw [lastLine?, lines_eq_splitOn, List.find?_map, hfound, List.getLast?_filter]

/-- **The last line of a decoded stream is the last visible piece of its bytes.** -/
theorem lastLine?_lossy (bytes : Bytes) : lastLine? (lossy bytes) = lastVisible? bytes := by
  rw [lastLine?_eq, splitOn_lossy, lastVisible?]

/-! ## What a trimmed line looks like -/

theorem lineFeed_not_mem_trim {s : List Char} (h : '\n' ∉ s) : '\n' ∉ trim s := by
  intro hmem
  have hstart : '\n' ∈ trimStart s := (List.rdropWhile_prefix isBlank _).subset hmem
  exact h ((List.dropWhile_sublist isBlank).subset hstart)

/-- A text that can be reported: there is something in it, on a single line, and no white space around
it. -/
structure Presentable (s : List Char) : Prop where
  ne_nil : s ≠ []
  single : '\n' ∉ s
  tight : Tight s

/-- What is put before a presentable text must only begin well. -/
theorem Presentable.append {s t : List Char} (ht : Presentable t) {c : Char} (hhead : s.head? = some c)
    (hc : isBlank c = false) (hs : '\n' ∉ s) : Presentable (s ++ t) where
  ne_nil := fun hnil => ht.ne_nil (List.append_eq_nil_iff.mp hnil).2
  single := fun hmem => (List.mem_append.mp hmem).elim hs ht.single
  tight := by
    intro d hd
    rcases hd with hfirst | hlast
    · rw [List.head?_append, hhead] at hfirst
      cases hfirst
      exact hc
    · rw [List.getLast?_append] at hlast
      cases hback : t.getLast? with
      | none => exact absurd (List.getLast?_eq_none_iff.mp hback) ht.ne_nil
      | some e =>
        rw [hback] at hlast
        cases hlast
        exact ht.tight d (Or.inr hback)

/-- What is put behind a presentable text must only end well. -/
theorem Presentable.behind {s t : List Char} (hs : Presentable s) (ht : '\n' ∉ t)
    (hlast : ∀ c, t.getLast? = some c → isBlank c = false) : Presentable (s ++ t) where
  ne_nil := fun hnil => hs.ne_nil (List.append_eq_nil_iff.mp hnil).1
  single := fun hmem => (List.mem_append.mp hmem).elim hs.single ht
  tight := by
    intro d hd
    rcases hd with hfirst | hback
    · rw [List.head?_append] at hfirst
      cases hhead : s.head? with
      | none => exact absurd (List.head?_eq_none_iff.mp hhead) hs.ne_nil
      | some c =>
        rw [hhead] at hfirst
        cases hfirst
        exact hs.tight d (Or.inl hhead)
    · rw [List.getLast?_append] at hback
      cases hend : t.getLast? with
      | none =>
        rw [hend] at hback
        exact hs.tight d (Or.inr hback)
      | some c =>
        rw [hend] at hback
        cases hback
        exact hlast d hend

/-- What is found in a stream can be reported. -/
theorem presentable_lastVisible? {bytes : Bytes} {line : List Char}
    (h : lastVisible? bytes = some line) : Presentable line := by
  rw [← lastLine?_lossy] at h
  obtain ⟨before, middle, after, -, -, hsingle, hvisible, -, -, hline⟩ := lastLine_of_eq_some h
  subst hline
  exact ⟨fun hnil => trim_eq_nil_iff.mp hnil hvisible, lineFeed_not_mem_trim hsingle, tight_trim _⟩

/-- What comes before a line feed matters only if nothing behind it is visible. -/
theorem lastVisible?_lineFeed (earlier : Bytes) {tail : Bytes} (h : Visible (lossy tail)) :
    lastVisible? (earlier ++ 0x0A :: tail) = lastVisible? tail := by
  rw [← lastLine?_lossy, ← lastLine?_lossy, lossy_lineFeed, lastLine?_lineFeed _ h]

end Text

open Text (lastVisible? Presentable Visible lossy)

/-- A number can be reported. -/
theorem presentable_number (n : Nat) : Presentable (toString n).toList := by
  have hstring : (toString n).toList = Nat.toDigits 10 n := by
    rw [show toString n = n.repr from rfl, Nat.repr, String.toList_ofList]
  have hdigit : ∀ c ∈ Nat.toDigits 10 n, c.isDigit = true :=
    fun c hc => Nat.isDigit_of_mem_toDigits (by decide) (by decide) hc
  rw [hstring]
  exact ⟨Nat.toDigits_ne_nil, fun hmem => absurd (hdigit _ hmem) (by decide),
    Text.tight_of_forall fun c hc => Text.isBlank_digit (hdigit c hc)⟩

namespace Signal

/-- No name of a signal goes over a line. -/
theorem names_single : ∀ entry ∈ names, '\n' ∉ entry.2.toList := by
  decide

/-- The name of a signal, if there is one, ends with a bracket. -/
theorem named_ends (s : Signal) :
    '\n' ∉ s.named.toList ∧ ∀ c, s.named.toList.getLast? = some c → Text.isBlank c = false := by
  unfold named
  cases hname : names.lookup s.number with
  | none => exact ⟨by decide, nofun⟩
  | some name =>
    obtain ⟨before, after, htable, -⟩ := List.lookup_eq_some_iff.mp hname
    have hsingle : '\n' ∉ name.toList :=
      names_single (s.number, name) (htable ▸ List.mem_append_right _ (List.mem_cons_self ..))
    rw [Option.elim, String.toList_append, String.toList_append]
    refine ⟨?_, fun c hc => ?_⟩
    · simp only [List.mem_append, not_or]
      exact ⟨⟨by decide, hsingle⟩, by decide⟩
    · rw [List.getLast?_append] at hc
      cases hc
      decide

theorem remains_ends (s : Signal) :
    '\n' ∉ s.remains.toList ∧ ∀ c, s.remains.toList.getLast? = some c → Text.isBlank c = false := by
  unfold remains
  split
  · refine ⟨by decide, fun c hc => ?_⟩
    cases hc
    decide
  · exact ⟨by decide, nofun⟩

end Signal

/-- The words for any end can be reported. -/
theorem Exit.presentable_text (x : Exit) : Presentable ("bridge exited with " ++ x.text).toList := by
  cases x with
  | code n =>
    rw [text, ← String.append_assoc, String.toList_append]
    exact (presentable_number n).append (c := 'b') (by decide) (by decide) (by decide)
  | signal s =>
    have hnumber : Presentable ("bridge exited with signal: ".toList ++ (toString s.number).toList) :=
      (presentable_number s.number).append (c := 'b') (by decide) (by decide) (by decide)
    -- the name stands behind the number, and what is said of the memory behind both
    have hnamed := hnumber.behind s.named_ends.1 s.named_ends.2
    have hall := hnamed.behind s.remains_ends.1 s.remains_ends.2
    rw [text, Signal.text, show "bridge exited with signal: " = "bridge exited with " ++ "signal: " by
      decide] at *
    simpa only [String.toList_append, List.append_assoc] using hall

namespace Bridge

variable {σ : Type}

/-- What a failed process has to say, read off its bytes. -/
def lastWords (f : Finished) : List Char :=
  (lastVisible? f.stderr).getD ("bridge exited with " ++ f.exit.text).toList

theorem complaint_eq (f : Finished) : complaint f = String.ofList (lastWords f) := by
  rw [complaint, lastWords, Text.lastLine?_lossy]
  cases lastVisible? f.stderr with
  | none => rw [Option.map_none, Option.getD_none, Option.getD_none, String.ofList_toList]
  | some line => rfl

theorem presentable_lastWords (f : Finished) : Presentable (lastWords f) := by
  rw [lastWords]
  cases hline : lastVisible? f.stderr with
  | none => exact f.exit.presentable_text
  | some line => exact Text.presentable_lastVisible? hline

/-- The failure that a message is put into. -/
def blamed (x : Exit) (message : String) : Failure :=
  if x = .code unavailableCode then .unavailable engineName message else .recognition message

theorem answer_failed (c : Command) {f : Finished} (h : f.exit ≠ .code 0) :
    answer c (.ok f) = .error (blamed f.exit (complaint f)) := by
  rw [blamed]
  by_cases habsent : f.exit = .code unavailableCode
  · rw [if_pos habsent, answer_absent c habsent]
  · rw [if_neg habsent, answer_broken c h habsent]

theorem execute_failed {host : Host (StateM σ)} {c : Command} {s next : σ} {f : Finished}
    (hlaunch : host.launch c s = (.ok f, next)) (hfailed : f.exit ≠ .code 0)
    (note : Record → StateM σ Unit) :
    (execute host note c s).1 = .error (blamed f.exit (String.ofList (lastWords f))) := by
  obtain ⟨records, hrun⟩ := execute_run host note hlaunch
  rw [hrun, answer_failed c hfailed, complaint_eq]

/-- **The message of a failed process.** Whatever bytes a process has written to its error stream, and
however it failed, the message is the last visible piece of the bytes, trimmed, or else says how the
process ended; the exit code decides which failure carries it. There is something in the message, on a
single line, without white space around it. Of two processes that end in one way and whose streams agree
from a line feed on, with something visible behind it, the messages are the same, also if one of the
streams has nothing before it. -/
theorem execute_message {host : Host (StateM σ)} {c : Command} {s next : σ} {f : Finished}
    (hlaunch : host.launch c s = (.ok f, next)) (hfailed : f.exit ≠ .code 0)
    (note : Record → StateM σ Unit) :
    (execute host note c s).1 = .error (blamed f.exit (String.ofList (lastWords f)))
      ∧ Presentable (lastWords f)
      ∧ ∀ earlier tail, f.stderr = earlier ++ 0x0A :: tail → Visible (lossy tail) →
        ∀ (host' : Host (StateM σ)) (note' : Record → StateM σ Unit) (c' : Command) (s' next' : σ)
          (f' : Finished), host'.launch c' s' = (.ok f', next') → f'.exit = f.exit →
          (f'.stderr = tail ∨ ∃ other, f'.stderr = other ++ 0x0A :: tail) →
          (execute host' note' c' s').1 = (execute host note c s).1 := by
  refine ⟨execute_failed hlaunch hfailed note, presentable_lastWords f, ?_⟩
  intro earlier tail hstderr hvisible host' note' c' s' next' f' hlaunch' hexit htail
  have hsame : lastVisible? f'.stderr = lastVisible? tail := by
    rcases htail with htail | ⟨other, htail⟩
    · rw [htail]
    · rw [htail, Text.lastVisible?_lineFeed other hvisible]
  have hwords : lastWords f' = lastWords f := by
    rw [lastWords, lastWords, hsame, hexit, hstderr, Text.lastVisible?_lineFeed earlier hvisible]
  rw [execute_failed hlaunch hfailed note, execute_failed hlaunch' (hexit ▸ hfailed) note', hexit,
    hwords]

/-- A system on which every process comes to the same end. -/
def endingHost (f : Finished) : Host (StateM Unit) where
  isFile _ := pure true
  launch _ := pure (.ok f)

/-- A process that was killed. Its first line breaks off inside a character, the second has a byte that
is none of UTF-8, and the third cannot be seen. -/
def killed : Finished :=
  ⟨[], [0x61, 0xE2, 0x82, 0x0A, 0x09, 0xFF, 0x62, 0x0D, 0x0A, 0x20, 0x0A], .signal 9, ""⟩

/-- The end of the same process without the first line. -/
def killedLate : Finished := ⟨[], [0x09, 0xFF, 0x62, 0x0D, 0x0A, 0x20, 0x0A], .signal 9, ""⟩

/-- The second line is reported, with or without the first. -/
theorem execute_message_killed :
    let failure : Failure := .recognition "\uFFFDb"
    (execute (endingHost killed) (fun _ => pure ()) ⟨[], none, []⟩ ()).1 = .error failure
      ∧ (execute (endingHost killedLate) (fun _ => pure ()) ⟨[], none, []⟩ ()).1
        = .error failure := by
  intro failure
  have hwords : lastWords killed = "\uFFFDb".toList := by decide
  have hvisible : Visible (lossy killedLate.stderr) := ⟨'b', by decide, by decide⟩
  have hlaunch : ∀ f : Finished, (endingHost f).launch ⟨[], none, []⟩ () = (.ok f, ()) := fun _ => rfl
  obtain ⟨hresult, -, hlate⟩ := execute_message (hlaunch killed)
    (show killed.exit ≠ .code 0 by decide) (fun _ => pure ())
  rw [hwords, String.ofList_toList] at hresult
  refine ⟨hresult, ?_⟩
  rw [hlate [0x61, 0xE2, 0x82] killedLate.stderr rfl hvisible _ (fun _ => pure ()) _ _ _ _
    (hlaunch killedLate) rfl (Or.inl rfl)]
  exact hresult

end Bridge

end ImageText
