import ImageText.Engine.Serve

/-!
# Where the bytes go

A process writes to descriptors, and what it prints goes to one of them. At first descriptor 1 leads to
the output, 2 to the error stream, and text is printed to 1. Before the engine is imported, the program
claims the output: it gives the output another descriptor, makes 1 lead where 2 leads, and has text
printed to 2. The order matters. With the import first, the noise of the engine would be in the output
before the result.

> `piped_eq`: after the claim, all noise comes through as the error stream and the result alone as the
> output, which is how `Ending.finished` puts them;
> `output_unclaimed`: without it, noise comes through as the output.
-/

namespace ImageText.Engine

/-- The pipes to the process that waits for this one. -/
inductive Pipe where
  | output
  | errors
  deriving DecidableEq, Repr

/-- The descriptors of a process, and what has come through its pipes. -/
structure Plumbing where
  /-- The pipe that a descriptor leads to, if it leads to one. -/
  leads : Nat → Option Pipe
  /-- The descriptor that text is printed to. -/
  printing : Nat
  output : Bytes
  errors : Bytes

/-- What is done with descriptors. -/
inductive Deed where
  /-- The second descriptor leads where the first one does. -/
  | duplicate (source target : Nat)
  /-- Text is printed to another descriptor from now on. -/
  | rebind (descriptor : Nat)
  | print (s : CodePoints)
  | write (descriptor : Nat) (bytes : Bytes)
  deriving DecidableEq, Repr

namespace Plumbing

/-- How a process starts: 1 is its output and 2 its error stream. -/
def fresh : Plumbing where
  leads descriptor :=
    if descriptor = 1 then some .output else if descriptor = 2 then some .errors else none
  printing := 1
  output := []
  errors := []

/-- Send bytes to where a descriptor leads. -/
def send (p : Plumbing) (descriptor : Nat) (bytes : Bytes) : Plumbing :=
  match p.leads descriptor with
  | some .output => { p with output := p.output ++ bytes }
  | some .errors => { p with errors := p.errors ++ bytes }
  | none => p

/-- One deed. -/
def step (encoding : Encoding) (p : Plumbing) : Deed → Plumbing
  | .duplicate source target =>
    { p with leads := fun descriptor =>
        if descriptor = target then p.leads source else p.leads descriptor }
  | .rebind descriptor => { p with printing := descriptor }
  | .print s => p.send p.printing (encoding.printed s)
  | .write descriptor bytes => p.send descriptor bytes

/-- Deeds one after the other. -/
def run (encoding : Encoding) (p : Plumbing) (deeds : List Deed) : Plumbing :=
  deeds.foldl (step encoding) p

end Plumbing

/-- The descriptor of the result: the first that is not in use. -/
def resultDescriptor : Nat := 3

/-- What the program does first. -/
def claim : List Deed := [.duplicate 1 resultDescriptor, .duplicate 2 1, .rebind 2]

/-- An engine writes beneath the interpreter to descriptor 1. -/
def Noise.deed : Noise → Deed
  | .text s => .print s
  | .raw bytes => .write 1 bytes

/-- A process as it is seen at the other ends of its pipes. -/
def Ending.piped (encoding : Encoding) (e : Ending) : Finished :=
  let p := Plumbing.fresh.run encoding
    (claim ++ e.written.map Noise.deed ++ [.write resultDescriptor e.stdout])
  ⟨p.output, p.errors, e.exit, ""⟩

namespace Plumbing

variable {encoding : Encoding} {p : Plumbing}

theorem run_cons (deed : Deed) (deeds : List Deed) :
    p.run encoding (deed :: deeds) = (step encoding p deed).run encoding deeds :=
  rfl

theorem run_append (deeds more : List Deed) :
    p.run encoding (deeds ++ more) = (p.run encoding deeds).run encoding more :=
  List.foldl_append

theorem send_output {descriptor : Nat} (h : p.leads descriptor = some .output) (bytes : Bytes) :
    p.send descriptor bytes = { p with output := p.output ++ bytes } := by
  rw [send, h]

theorem send_errors {descriptor : Nat} (h : p.leads descriptor = some .errors) (bytes : Bytes) :
    p.send descriptor bytes = { p with errors := p.errors ++ bytes } := by
  rw [send, h]

/-- The program has the output to itself: noise of either kind goes to the error stream. -/
structure Claimed (p : Plumbing) : Prop where
  result : p.leads resultDescriptor = some .output
  native : p.leads 1 = some .errors
  printed : p.leads p.printing = some .errors

theorem claimed_claim (encoding : Encoding) : (fresh.run encoding claim).Claimed :=
  ⟨rfl, rfl, rfl⟩

theorem step_noise (h : p.Claimed) (n : Noise) :
    step encoding p n.deed = { p with errors := p.errors ++ n.bytes encoding } := by
  cases n with
  | text s => exact send_errors h.printed _
  | raw bytes => exact send_errors h.native _

/-- **Once it is claimed, nothing else comes through as the output.** -/
theorem run_noise (encoding : Encoding) (h : p.Claimed) (noise : List Noise) :
    p.run encoding (noise.map Noise.deed)
      = { p with errors := p.errors ++ noise.flatMap (Noise.bytes encoding) } := by
  induction noise generalizing p with
  | nil => simp [run]
  | cons n noise ih =>
    have hnext : Claimed { p with errors := p.errors ++ n.bytes encoding } :=
      ⟨h.result, h.native, h.printed⟩
    rw [List.map_cons, run_cons, step_noise h, ih hnext, List.flatMap_cons, List.append_assoc]

/-- Before it is claimed, all noise does. -/
theorem output_unclaimed (encoding : Encoding) (noise : List Noise) :
    (fresh.run encoding (noise.map Noise.deed)).output = noise.flatMap (Noise.bytes encoding) := by
  have hrun : ∀ p : Plumbing, p.leads 1 = some .output → p.leads p.printing = some .output →
      (p.run encoding (noise.map Noise.deed)).output
        = p.output ++ noise.flatMap (Noise.bytes encoding) := by
    induction noise with
    | nil => simp [run]
    | cons n noise ih =>
      intro p hnative hprinted
      have hstep : step encoding p n.deed = { p with output := p.output ++ n.bytes encoding } := by
        cases n with
        | text s => exact send_output hprinted _
        | raw bytes => exact send_output hnative _
      rw [List.map_cons, run_cons, hstep, List.flatMap_cons, ← List.append_assoc]
      exact ih _ hnative hprinted
  exact hrun fresh rfl rfl

end Plumbing

/-- **What comes through the pipes** is the noise as the error stream, and the result as the output. -/
theorem piped_eq (encoding : Encoding) (e : Ending) : e.piped encoding = e.finished encoding := by
  have hclaimed := Plumbing.claimed_claim encoding
  have hnoise := Plumbing.run_noise encoding hclaimed e.written
  have hlead : ((Plumbing.fresh.run encoding claim).run encoding (e.written.map Noise.deed)).leads
      resultDescriptor = some .output := by
    rw [hnoise]
    exact hclaimed.result
  rw [Ending.piped, Plumbing.run_append, Plumbing.run_append, Plumbing.run_cons, Plumbing.step,
    Plumbing.send_output hlead, hnoise]
  rfl

end ImageText.Engine
