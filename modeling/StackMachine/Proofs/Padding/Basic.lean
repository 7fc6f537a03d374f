import StackMachine.Proofs.Frames.Move
import StackMachine.Proofs.Oblivious

/-!
# A program with an idle instruction more

An instruction that does nothing is put into a program.  It moves all instructions behind it by one
place, and the labels that point there with them.  A label that points to the place itself may stay,
so a place in the one program can face two places in the other: the idle instruction and the one
behind it.

Most instructions know nothing of places.  What they do is the same in the padded program and at
another place, and jumps lead to places that face each other.

* `Faces`, `Program.PaddedAt` — places, and programs, of which one has an idle instruction more.
* `Instruction.sensitive` — the instructions that know places as numbers.
* `Instruction.perform_redirects` — the same instruction in the two programs.
* `Instruction.perform_placed` — the same instruction at two places.
* `Instruction.perform_beside` — both at once.
-/

namespace StackMachine

/-! ## Places -/

/-- **A place of a program faces a place of the padded program**, where the idle instruction stands
at the spot. -/
inductive Faces (spot : Nat) : Nat → Nat → Prop where
  | before {i : Nat} (h : i ≤ spot) : Faces spot i i
  | behind {i : Nat} (h : spot ≤ i) : Faces spot i (i + 1)

namespace Faces

variable {spot i i' : Nat}

lemma next (h : Faces spot i i') (elsewhere : i' ≠ spot) : Faces spot (i + 1) (i' + 1) := by
  cases h with
  | before h => exact .before (by omega)
  | behind h => exact .behind (by omega)

/-- The idle instruction is passed without a step in the other program. -/
lemma pass (h : Faces spot i spot) : Faces spot i (spot + 1) := by
  generalize here : spot = place at h
  cases h with
  | before h => exact .behind h
  | behind h => omega

end Faces

/-- Where two flows lead, the places face each other. -/
inductive Flow.Faces (spot : Nat) : Flow → Flow → Prop where
  | next : Flow.Faces spot .next .next
  | halt : Flow.Faces spot .halt .halt
  | jump {i i' : Nat} (h : StackMachine.Faces spot i i') : Flow.Faces spot (.jump i) (.jump i')

lemma Flow.Faces.target {spot i i' : Nat} {flow flow' : Flow} (h : flow.Faces spot flow')
    (goes : flow ≠ .halt) (faces : StackMachine.Faces spot i i') (elsewhere : i' ≠ spot) :
    StackMachine.Faces spot (flow.target i) (flow'.target i') := by
  cases h with
  | next => exact faces.next elsewhere
  | halt => exact absurd rfl goes
  | jump h => exact h

lemma Flow.Faces.halt_iff {spot : Nat} {flow flow' : Flow} (h : flow.Faces spot flow') :
    flow' = .halt ↔ flow = .halt := by
  cases h <;> simp

/-! ## Programs -/

/-- The instructions that do nothing. -/
def Instruction.Idle (ins : Instruction) : Prop := ins = .nop ∨ ins = .pop 0

/-- **A program with an idle instruction more**, at the spot. -/
structure Program.PaddedAt (spot : Nat) (padded plain : Program) : Prop where
  idle : ∃ ins, padded.instructions[spot]? = some ins ∧ ins.Idle
  others : ∀ {i i'}, Faces spot i i' → i' ≠ spot →
    padded.instructions[i']? = plain.instructions[i]?
  labels : ∀ name, (∃ i i', plain.label name = .ok i ∧ padded.label name = .ok i' ∧
      Faces spot i i') ∨ ∃ e, plain.label name = .error e ∧ padded.label name = .error e

/-- Whether an instruction takes or leaves a place as a number, or shows the instructions behind
it. -/
def Instruction.sensitive : Instruction → Bool
  | .call _ | .code _ | .system .toggleTrace => true
  | _ => false

/-- An idle instruction does nothing. -/
lemma Instruction.Idle.perform {ins : Instruction} (idle : ins.Idle) {s : System}
    (quiet : s.machine.trace = false) (program : Program) :
    ins.perform program s = .ok .next s := by
  rcases idle with rfl | rfl <;> exact bind_ok (showTrace_of_quiet quiet _)

/-! ## In another program -/

/-- **Two actions do the same and lead to places that face each other.** -/
inductive Redirects {σ : Type} (spot : Nat) (x y : EStateM MachineError σ Flow) (s : σ) : Prop where
  | of_ok {flow flow' : Flow} {t : σ} (run : x s = .ok flow t) (image : y s = .ok flow' t)
      (faces : flow.Faces spot flow')
  | of_error {e : MachineError} {t : σ} (run : x s = .error e t) (image : y s = .error e t)

namespace Redirects

variable {σ α : Type} {spot : Nat} {s : σ}

lemma pure {flow flow' : Flow} (h : flow.Faces spot flow') :
    Redirects spot (Pure.pure flow : EStateM MachineError σ Flow) (Pure.pure flow') s :=
  of_ok rfl rfl h

/-- One action, followed by two. -/
lemma bind {x : EStateM MachineError σ α} {f g : α → EStateM MachineError σ Flow}
    (hf : ∀ a t, x s = .ok a t → Redirects spot (f a) (g a) t) :
    Redirects spot (x >>= f) (x >>= g) s := by
  cases run : x s with
  | error e t => exact of_error (bind_error run) (bind_error run)
  | ok a t =>
      cases hf a t run with
      | of_ok run' image' faces =>
          exact of_ok ((bind_ok run).trans run') ((bind_ok run).trans image') faces
      | of_error run' image' =>
          exact of_error ((bind_ok run).trans run') ((bind_ok run).trans image')

/-- An action that comes to no jump leads to the same place in either program. -/
lemma same {x : EStateM MachineError σ Flow} (h : Ensures x s (fun flow _ => flow.Faces spot flow)
    (fun _ _ => True)) : Redirects spot x x s := by
  cases h with
  | of_ok run faces => exact of_ok run run faces
  | of_error run _ => exact of_error run run

lemma onMachine {x y : MachineM Flow} {s : System} (h : Redirects spot x y s.machine) :
    Redirects spot (liftM x : Action Flow) (liftM y) s := by
  cases h with
  | of_ok run image faces => exact of_ok (onMachine_ok run) (onMachine_ok image) faces
  | of_error run image => exact of_error (onMachine_error run) (onMachine_error image)

end Redirects

section Programs

variable {spot : Nat} {padded plain : Program} (h : padded.PaddedAt spot plain)
include h

/-- A label looked up in either program. -/
lemma Program.label_redirects {σ : Type} {s : σ} (name : String)
    {f g : Nat → EStateM MachineError σ Flow}
    (hf : ∀ i i', Faces spot i i' → Redirects spot (f i) (g i') s) :
    Redirects spot (liftM (plain.label name) >>= f) (liftM (padded.label name) >>= g) s := by
  rcases h.labels name with ⟨i, i', hi, hi', faces⟩ | ⟨e, hi, hi'⟩
  · rw [hi, hi']
    cases hf i i' faces with
    | of_ok run image faces => exact Redirects.of_ok run image faces
    | of_error run image => exact Redirects.of_error run image
  · rw [hi, hi']
    exact Redirects.of_error rfl rfl

lemma Machine.execute_redirects (ins : Instruction) (m : Machine) (plainly : ins.sensitive = false)
    (bare : ∀ results, ins = .ret results → m.returns = []) :
    Redirects spot (execute plain ins) (execute padded ins) m := by
  have sends := execute_sends plain ins m
  have onward : (∀ flow, ins.Sends flow → flow = .next ∨ flow = .halt) →
      Redirects spot (execute plain ins) (execute plain ins) m := by
    intro ends
    refine Redirects.same (sends.mono ?_ fun _ _ _ => trivial)
    intro flow _ hflow
    rcases ends flow hflow with rfl | rfl
    · exact Flow.Faces.next
    · exact Flow.Faces.halt
  cases ins with
  | goto label =>
      refine Program.label_redirects h label ?_
      intro i i' faces
      exact Redirects.pure (Flow.Faces.jump faces)
  | branch yes no =>
      refine Program.label_redirects h yes ?_
      intro i i' first
      refine Program.label_redirects h no ?_
      intro j j' second
      refine Redirects.bind ?_
      intro condition t _
      refine Redirects.pure (Flow.Faces.jump ?_)
      split
      · exact second
      · exact first
  | ret results =>
      refine Redirects.same ((leaveRoutine_ensures results m).mono ?_ fun _ _ _ => trivial)
      rintro flow t ⟨point, -, closed⟩
      exact nomatch (bare results rfl).symm.trans closed.returns
  | call frame => exact absurd plainly (by simp [Instruction.sensitive])
  | code label => exact absurd plainly (by simp [Instruction.sensitive])
  | halt => exact onward fun _ hflow => .inr hflow
  | _ => exact onward fun _ hflow => .inl hflow

/-- **An instruction of the padded program** does what it does in the other one. -/
theorem Instruction.perform_redirects (ins : Instruction) (s : System)
    (plainly : ins.sensitive = false) (bare : s.machine.returns = []) :
    Redirects spot (ins.perform plain) (ins.perform padded) s := by
  refine Redirects.bind ?_
  intro _ t shown
  rw [← (showTrace_ensures ins s).ok shown] at bare
  by_cases asks : ∃ service, ins = .system service
  · obtain ⟨service, rfl⟩ := asks
    refine Redirects.bind ?_
    intro _ u _
    exact Redirects.pure Flow.Faces.next
  · rw [Instruction.serve_eq_pure fun service hs => asks ⟨service, hs⟩, pure_bind]
    exact Redirects.onMachine (Machine.execute_redirects h ins _ plainly fun _ _ => bare)

end Programs

/-! ## At another place -/

/-- The system at another place, with the trace off. -/
def System.placed (place : Nat) (s : System) : System :=
  { s with machine := s.machine.disguised (fun _ => false) (fun _ => place) }

/-- A system with the trace off only moves. -/
lemma System.placed_of_quiet {s : System} (quiet : s.machine.trace = false) (place : Nat) :
    s.placed place = { s with machine.registers.ip := place } := by
  obtain ⟨⟨registers, memory, returns, trace⟩, console⟩ := s
  obtain rfl : trace = false := quiet
  rfl

section Placed

variable {α : Type} {place : Nat} {s : System}

lemma Oblivious.placed {x : MachineM α} (hx : Oblivious (fun _ => place) x) (s : System) :
    Mirrors (System.placed place) (liftM x : Action α) (liftM x) s (fun _ _ => True) :=
  (Mirrors.liftMachine (hx (fun _ => false) s.machine) fun _ => rfl).forget

lemma onConsole_placed (x : ConsoleM α) (s : System) :
    Mirrors (System.placed place) (liftM x : Action α) (liftM x) s (fun _ _ => True) :=
  (Mirrors.liftConsole (Mirrors.same x s.console) fun _ => rfl).forget

lemma SystemCall.perform_placed (service : SystemCall) (calm : service ≠ .toggleTrace) :
    Mirrors (System.placed place) service.perform service.perform s (fun _ _ => True) := by
  refine SystemCall.mirrors ?write ?push (Machine.pop_oblivious.placed s)
    service trivial rfl ?read ?toggle
  case write =>
    intro text t _
    exact onConsole_placed _ t
  case push =>
    intro w t _
    exact (Machine.push_oblivious w).placed t
  case read =>
    intro _
    exact onConsole_placed _ s
  case toggle =>
    intro toggles
    exact absurd toggles calm

/-- **An instruction at another place** does what it does where it stands, as long as the trace is
off. -/
theorem Instruction.perform_placed (place : Nat) (program : Program) (ins : Instruction)
    (quiet : s.machine.trace = false) (plainly : ins.sensitive = false) :
    Mirrors (System.placed place) (ins.perform program) (ins.perform program) s
      (fun _ _ => True) := by
  have shown : Mirrors (System.placed place) (showTrace ins) (showTrace ins) s
      (fun _ _ => True) :=
    Mirrors.of_ok (showTrace_of_quiet quiet ins) (showTrace_of_quiet rfl ins) trivial
  refine Mirrors.bind shown ?_
  intro _ t _
  have serve : Mirrors (System.placed place) ins.serve ins.serve t (fun _ _ => True) := by
    cases ins with
    | system service =>
        exact service.perform_placed fun toggles => by simp [sensitive, toggles] at plainly
    | _ => exact Mirrors.pure trivial
  refine Mirrors.bind serve ?_
  intro _ u _
  refine (Machine.execute_oblivious program ins ?_).placed u
  rintro frame rfl
  exact absurd plainly (by simp [sensitive])

/-- The trace stays off. -/
lemma Instruction.perform_quiet_of_plain (program : Program) (ins : Instruction)
    (quiet : s.machine.trace = false) (plainly : ins.sensitive = false) :
    Leaves (ins.perform program) s (fun t => t.machine.trace = false) := by
  have here : s.placed s.machine.registers.ip = s := System.placed_of_quiet quiet _
  refine ((ins.perform_placed _ program quiet plainly).fixed here).relax ?_
  intro t same
  rw [← same]
  rfl

end Placed

/-- **An instruction beside itself**, in the padded program and at another place. -/
theorem Instruction.perform_beside {spot : Nat} {padded plain : Program}
    (h : padded.PaddedAt spot plain) (ins : Instruction) {s : System} (place : Nat)
    (quiet : s.machine.trace = false) (bare : s.machine.returns = [])
    (plainly : ins.sensitive = false) :
    (∃ flow flow' t, ins.perform plain s = .ok flow t ∧
      ins.perform padded (s.placed place) = .ok flow' (t.placed place) ∧
      flow.Faces spot flow' ∧ t.machine.trace = false) ∨
    ∃ error t, ins.perform plain s = .error error t ∧
      ins.perform padded (s.placed place) = .error error (t.placed place) ∧
      t.machine.trace = false := by
  have stays := ins.perform_quiet_of_plain plain quiet plainly
  have moves := ins.perform_placed place padded quiet plainly
  cases ins.perform_redirects h s plainly bare with
  | @of_ok flow flow' t run image faces =>
      refine .inl ⟨flow, flow', t, run, ?_, faces, stays.ok run⟩
      cases moves with
      | of_ok there shown _ =>
          obtain ⟨rfl, rfl⟩ := EStateM.Result.ok.inj (there.symm.trans image)
          exact shown
      | of_error there _ => exact nomatch there.symm.trans image
  | @of_error error t run image =>
      refine .inr ⟨error, t, run, ?_, stays.error run⟩
      cases moves with
      | of_ok there _ _ => exact nomatch there.symm.trans image
      | of_error there shown =>
          obtain ⟨rfl, rfl⟩ := EStateM.Result.error.inj (there.symm.trans image)
          exact shown

end StackMachine
