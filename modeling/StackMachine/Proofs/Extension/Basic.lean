import StackMachine.Proofs.Run

/-!
# Longer programs

A program can be made longer by instructions behind its last one and by labels that it did not bind.
An instruction sees nothing of the program but the places of the labels that it names, so in the
longer program it does what it did, unless it failed for want of a label.  As long as a run goes on,
the longer program runs the same way.

* `Program.Extends` — the longer programs.
* `Covers` — an action that can take the place of another one where no label is missing.
* `Instruction.perform_covers` — one instruction.
* `Execution.step_of_extends`, `Execution.run_of_extends` — a step, and a run that goes on.
-/

namespace StackMachine

/-- **A program that is longer than another one**: it begins with the same instructions, and the
labels of the other one point to the same places. -/
structure Program.Extends (longer shorter : Program) : Prop where
  instructions : ∃ more, longer.instructions = shorter.instructions ++ more
  labels : ∀ name index, shorter.label name = .ok index → longer.label name = .ok index

/-! ## Actions without a missing label -/

/-- **An action covers another one** when it does the same, unless the other one fails because a
label is not bound. -/
def Covers {σ α : Type} (y x : EStateM MachineError σ α) (s : σ) : Prop :=
  (∃ name t, x s = .error (.undefinedLabel name) t) ∨ y s = x s

namespace Covers

variable {σ α β : Type} {x y : EStateM MachineError σ α} {f g : α → EStateM MachineError σ β}
  {s : σ}

lemma refl (x : EStateM MachineError σ α) (s : σ) : Covers x x s := .inr rfl

/-- Two actions in a row. -/
lemma bind (hx : Covers y x s) (hf : ∀ a t, Covers (g a) (f a) t) :
    Covers (y >>= g) (x >>= f) s := by
  rcases hx with ⟨name, t, unbound⟩ | same
  · exact .inl ⟨name, t, bind_error unbound⟩
  cases hrun : x s with
  | error e t => exact .inr ((bind_error (same.trans hrun)).trans (bind_error hrun).symm)
  | ok a t =>
      rcases hf a t with ⟨name, u, unbound⟩ | hsame
      · exact .inl ⟨name, u, (bind_ok hrun).trans unbound⟩
      · exact .inr ((bind_ok (same.trans hrun)).trans (hsame.trans (bind_ok hrun).symm))

lemma onMachine {x y : MachineM α} {s : System} (h : Covers y x s.machine) :
    Covers (liftM y : Action α) (liftM x) s := by
  rcases h with ⟨name, t, unbound⟩ | same
  · exact .inl ⟨name, _, onMachine_error unbound⟩
  · refine .inr ?_
    show Action.onMachine y s = Action.onMachine x s
    simp only [Action.onMachine, same]

end Covers

/-! ## Instructions -/

section Extends

variable {longer shorter : Program} (h : longer.Extends shorter)
include h

lemma Program.label_covers {σ : Type} (name : String) (s : σ) :
    Covers (liftM (longer.label name) : EStateM MachineError σ Nat)
      (liftM (shorter.label name)) s := by
  cases hlabel : shorter.label name with
  | ok index => exact .inr (by rw [h.labels name index hlabel])
  | error e =>
      rw [label] at hlabel
      split at hlabel
      · exact nomatch hlabel
      · obtain rfl := Except.error.inj hlabel
        exact .inl ⟨name, s, rfl⟩

lemma Machine.execute_covers (ins : Instruction) (m : Machine) :
    Covers (execute longer ins) (execute shorter ins) m := by
  cases ins with
  | goto label =>
      refine Covers.bind (Program.label_covers h label m) ?_
      intro target t
      exact Covers.refl _ _
  | branch yes no =>
      refine Covers.bind (Program.label_covers h yes m) ?_
      intro first t
      refine Covers.bind (Program.label_covers h no t) ?_
      intro second u
      exact Covers.refl _ _
  | code label =>
      refine Covers.bind (Program.label_covers h label m) ?_
      intro place t
      exact Covers.refl _ _
  | _ => exact Covers.refl _ _

/-- **An instruction of the longer program** does what it does in the shorter one, unless it fails
there because a label is not bound. -/
theorem Instruction.perform_covers (ins : Instruction) (s : System) :
    Covers (ins.perform longer) (ins.perform shorter) s := by
  refine Covers.bind (Covers.refl _ _) ?_
  intro _ t
  refine Covers.bind (Covers.refl _ _) ?_
  intro _ u
  exact Covers.onMachine (Machine.execute_covers h ins u.machine)

namespace Execution

variable {e : Execution} {ins : Instruction}

lemma fetch?_of_extends (fetched : e.fetch? shorter = some ins) : e.fetch? longer = some ins := by
  obtain ⟨more, hmore⟩ := h.instructions
  simp only [fetch?] at fetched ⊢
  obtain ⟨inside, -⟩ := Array.getElem?_eq_some_iff.mp fetched
  rw [hmore, Array.getElem?_append_left inside, fetched]

lemma step_of_extends (before : e.outcome = none) (fetched : e.fetch? shorter = some ins) :
    (∃ name, (e.step shorter).outcome =
      some (.faulted ⟨e.system.machine.registers.ip, ins.text, .undefinedLabel name⟩)) ∨
    e.step longer = e.step shorter := by
  have fetched' := fetch?_of_extends h fetched
  rcases ins.perform_covers h e.system with ⟨name, t, unbound⟩ | same
  · refine .inl ⟨name, ?_⟩
    rw [step_of_error before fetched unbound, outcome_fail]
  · refine .inr ?_
    cases hrun : ins.perform shorter e.system with
    | error error t =>
        rw [step_of_error before fetched hrun, step_of_error before fetched' (same.trans hrun)]
    | ok flow t =>
        by_cases halts : flow = .halt
        · subst halts
          rw [step_of_halt before fetched hrun, step_of_halt before fetched' (same.trans hrun)]
        · rw [step_of_flow before fetched hrun halts,
            step_of_flow before fetched' (same.trans hrun) halts]

/-- **A run that goes on** is a run of the longer program. -/
theorem run_of_extends {count : Nat} (running : (run shorter count e).outcome = none) :
    run longer count e = run shorter count e := by
  induction count with
  | zero => rfl
  | succ count ih =>
      rw [run_succ] at running
      have before := running_of_step running
      rw [run_succ, run_succ, ih before]
      -- The step went on, so it had an instruction, and that did not lack a label.
      cases fetched : (run shorter count e).fetch? shorter with
      | none =>
          rw [step_of_end before fetched, outcome_fail] at running
          exact nomatch running
      | some ins =>
          rcases step_of_extends h before fetched with ⟨name, faulted⟩ | same
          · exact nomatch faulted.symm.trans running
          · exact same

end Execution

end Extends

end StackMachine
