import ImageText.Outlet

/-!
# What a device gets to see

`Device.taped` is any device with a tape on which it puts down what is asked of it and what it answers.
From the tape one knows the bytes that were stored, and so it can be said what the loop of
`Device.writeAll` does to a device of which nothing is known: it may take less than it is offered, be
interrupted, or fail.

> `writeAll_taped`, `writePieces_taped`: everything is stored, or a part of it and then the device
> refuses, with the error that is reported.
-/

namespace ImageText

/-- Something that is asked of a device, and its answer. -/
inductive Stroke where
  | wrote (offered : Bytes) (reply : Reply)
  | flushed (result : Except SystemError Unit)

/-- A device's state and its tape, the last stroke at its end. -/
structure Taped (σ : Type) where
  state : σ
  tape : List Stroke

variable {σ : Type}

/-- A device that keeps a tape. -/
def Device.taped (device : Device σ) : Device (Taped σ) where
  write s bytes :=
    let (reply, next) := device.write s.state bytes
    (reply, ⟨next, s.tape ++ [.wrote bytes reply]⟩)
  flush s :=
    let (result, next) := device.flush s.state
    (result, ⟨next, s.tape ++ [.flushed result]⟩)
  patience s := device.patience s.state
  patience_lt s bytes h := device.patience_lt s.state bytes h

namespace Stroke

/-- The bytes that one stroke stores. -/
def bytes : Stroke → Bytes
  | wrote offered (.took count) => offered.take count
  | _ => []

/-- Whether a stroke is a flush. -/
def isFlush : Stroke → Bool
  | flushed _ => true
  | wrote _ _ => false

/-- A stroke by which the device refuses, with an error. -/
def Refuses (error : SystemError) : Stroke → Prop
  | wrote _ (.failed e) => e = error
  | wrote _ (.took count) => count = 0 ∧ error = .nothingWritten
  | wrote _ .interrupted => False
  | flushed (.error e) => e = error
  | flushed (.ok ()) => False

end Stroke

/-- The bytes that are stored in the end. -/
def stored (strokes : List Stroke) : Bytes := strokes.flatMap Stroke.bytes

theorem stored_append (strokes more : List Stroke) :
    stored (strokes ++ more) = stored strokes ++ stored more :=
  List.flatMap_append

/-- How often it was flushed. -/
def flushes (strokes : List Stroke) : Nat := strokes.countP Stroke.isFlush

theorem flushes_append (strokes more : List Stroke) :
    flushes (strokes ++ more) = flushes strokes + flushes more :=
  List.countP_append

/-- The last stroke is a refusal. -/
def EndsWith (error : SystemError) (strokes : List Stroke) : Prop :=
  ∃ before last, strokes = before ++ [last] ∧ last.Refuses error

theorem endsWith_append {error : SystemError} {strokes : List Stroke} (more : List Stroke)
    (h : EndsWith error strokes) : EndsWith error (more ++ strokes) := by
  obtain ⟨before, last, rfl, hlast⟩ := h
  exact ⟨more ++ before, last, (List.append_assoc ..).symm, hlast⟩

/-- What strokes make of an attempt to store some bytes. They are all stored, or it ends with a refusal
before they are. -/
def Stores (bytes : Bytes) (strokes : List Stroke) : Except SystemError Unit → Prop
  | .ok () => stored strokes = bytes
  | .error error => ∃ rest, rest ≠ [] ∧ stored strokes ++ rest = bytes ∧ EndsWith error strokes

/-- An attempt that begins with strokes that store some bytes goes on like the rest of it. -/
theorem Stores.after {bytes more : Bytes} {strokes : List Stroke} {result : Except SystemError Unit}
    (before : List Stroke) (hbefore : stored before ++ more = bytes) (h : Stores more strokes result) :
    Stores bytes (before ++ strokes) result := by
  cases result with
  | ok u => rw [Stores, stored_append, h, hbefore]
  | error error =>
    obtain ⟨rest, hne, hstored, hend⟩ := h
    refine ⟨rest, hne, ?_, endsWith_append before hend⟩
    rw [stored_append, List.append_assoc, hstored, hbefore]

theorem Device.tape_write {device : Device σ} {s next : Taped σ} {bytes : Bytes} {reply : Reply}
    (h : device.taped.write s bytes = (reply, next)) : next.tape = s.tape ++ [.wrote bytes reply] := by
  have htape : (device.taped.write s bytes).2.tape
      = s.tape ++ [.wrote bytes (device.taped.write s bytes).1] := rfl
  rw [h] at htape
  exact htape

/-- **Writing stores everything or ends with a refusal**, and flushes nothing. The induction is on the
loop: an interruption adds a stroke that stores nothing, and a write that takes some bytes leaves
fewer. -/
theorem Device.writeAll_taped (device : Device σ) (s : Taped σ) (bytes : Bytes) :
    ∃ strokes, (device.taped.writeAll s bytes).2.tape = s.tape ++ strokes
      ∧ flushes strokes = 0 ∧ Stores bytes strokes (device.taped.writeAll s bytes).1 := by
  fun_induction Device.writeAll device.taped s bytes with
  | case1 s => exact ⟨[], (List.append_nil _).symm, rfl, rfl⟩
  | case2 s bytes hne error next hwrite =>
    -- the device fails
    refine ⟨[.wrote bytes (.failed error)], tape_write hwrite, rfl, bytes, hne, rfl, [], _, rfl, rfl⟩
  | case3 s bytes hne next hwrite ih =>
    -- it is interrupted, and the same bytes are offered again
    obtain ⟨strokes, htape, hflush, hstores⟩ := ih
    refine ⟨.wrote bytes .interrupted :: strokes, ?_, ?_, ?_⟩
    · rw [htape, tape_write hwrite, List.append_assoc]
      rfl
    · rw [← List.singleton_append, flushes_append, hflush]
      rfl
    · exact hstores.after [.wrote bytes .interrupted] rfl
  | case4 s bytes hne next hwrite =>
    -- taking nothing is a failure of its own
    exact ⟨[.wrote bytes (.took 0)], tape_write hwrite, rfl, bytes, hne, rfl, [], _, rfl, rfl, rfl⟩
  | case5 s bytes hne count next hwrite hcount ih =>
    -- it takes some bytes, and the rest is offered
    obtain ⟨strokes, htape, hflush, hstores⟩ := ih
    refine ⟨.wrote bytes (.took count) :: strokes, ?_, ?_, ?_⟩
    · rw [htape, tape_write hwrite, List.append_assoc]
      rfl
    · rw [← List.singleton_append, flushes_append, hflush]
      rfl
    · refine hstores.after [.wrote bytes (.took count)] ?_
      rw [stored, List.flatMap_cons, List.flatMap_nil, List.append_nil, Stroke.bytes,
        List.take_append_drop]

/-! ## Several byte strings -/

/-- Offer several byte strings, up to the first refusal. -/
def Device.writeEach (device : Device σ) (s : σ) : List Bytes → Except SystemError Unit × σ
  | [] => (.ok (), s)
  | piece :: rest =>
    match device.writeAll s piece with
    | (.error error, s) => (.error error, s)
    | (.ok (), s) => device.writeEach s rest

/-- **Several byte strings are stored like one.** -/
theorem Device.writeEach_taped (device : Device σ) (s : Taped σ) (pieces : List Bytes) :
    ∃ strokes, (device.taped.writeEach s pieces).2.tape = s.tape ++ strokes
      ∧ flushes strokes = 0
      ∧ Stores pieces.flatten strokes (device.taped.writeEach s pieces).1 := by
  induction pieces generalizing s with
  | nil => exact ⟨[], (List.append_nil _).symm, rfl, rfl⟩
  | cons piece rest ih =>
    obtain ⟨strokes, htape, hflush, hstores⟩ := device.writeAll_taped s piece
    rw [writeEach]
    cases hr : device.taped.writeAll s piece with
    | mk reply next =>
      rw [hr] at htape hstores
      cases reply with
      | error error =>
        obtain ⟨left, hne, hstored, hend⟩ := hstores
        refine ⟨strokes, htape, hflush, left ++ rest.flatten, ?_, ?_, hend⟩
        · rw [ne_eq, List.append_eq_nil_iff]
          exact fun h => hne h.1
        · rw [← List.append_assoc, hstored, List.flatten_cons]
      | ok u =>
        obtain ⟨more, htape', hflush', hstores'⟩ := ih next
        refine ⟨strokes ++ more, ?_, ?_, ?_⟩
        · dsimp only
          rw [htape', htape, List.append_assoc]
        · rw [flushes_append, hflush, hflush']
        · exact hstores'.after strokes (by rw [hstores, List.flatten_cons])

/-! ## A device inside something larger -/

/-- A part of a larger state. -/
structure Part (ω σ : Type) where
  get : ω → σ
  put : ω → σ → ω
  get_put : ∀ w s, get (put w s) = s
  put_put : ∀ w s t, put (put w s) t = put w t
  put_get : ∀ w, put w (get w) = w

variable {ω : Type}

/-- The outlet of a device whose state is a part of a larger one. -/
def Part.outlet (part : Part ω σ) (device : Device σ) : Outlet (StateM ω) :=
  .ofDevice device fun act w => let (x, s) := act (part.get w); (x, part.put w s)

/-- Writing changes the part that belongs to the device and nothing else. -/
theorem Part.writePieces_eq (part : Part ω σ) (device : Device σ) (pieces : List Bytes) (w : ω) :
    (part.outlet device).writePieces pieces w
      = ((device.writeEach (part.get w) pieces).1,
          part.put w (device.writeEach (part.get w) pieces).2) := by
  induction pieces generalizing w with
  | nil =>
    rw [Device.writeEach, part.put_get]
    rfl
  | cons piece rest ih =>
    have hwrite : (part.outlet device).write piece w
        = ((device.writeAll (part.get w) piece).1,
            part.put w (device.writeAll (part.get w) piece).2) := rfl
    simp only [Outlet.writePieces, bind, StateT.bind, hwrite]
    rw [Device.writeEach]
    cases hr : device.writeAll (part.get w) piece with
    | mk reply next =>
      cases reply with
      | error error => rfl
      | ok u =>
        dsimp only
        rw [ih, part.get_put, part.put_put]

end ImageText
