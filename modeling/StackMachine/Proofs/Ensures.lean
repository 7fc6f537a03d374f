import Mathlib.Tactic.Lemma
import StackMachine.Execution.Action

/-!
# What an action ensures

An action that fails keeps what it has done, so a statement about it has two halves: one for the
state in which it succeeds and one for the state in which it fails.  `Ensures` holds both, and the
rules below take it apart along the text of an action.

* `Ensures`, with `Ensures.bind` and `Ensures.mono` — the statement, and how it is put together.
* `Ensures.bind_check`, `Ensures.bind_of_reads` — what comes after a check or a look at the state.
* `Ensures.answer` — what is known of an answer alone.
* `Leaves` — the statement with the same two halves.
* `Reads` — the actions that leave the state as it is.
* `Ensures.onMachine`, `Ensures.onConsole` — what holds of a part of a system holds of the system.
* `bind_ok`, `bind_error`, `bind_get`, `liftM_ok`, `liftM_error`, `onMachine_ok` and the like — one
  step of a computation whose beginning is known.
-/

namespace StackMachine

variable {ε σ α β : Type}

/-- **What an action ensures from a state on**: `done` of its result and of the state it leaves when
it succeeds, and `failed` of the error and of the state when it fails. -/
inductive Ensures (action : EStateM ε σ α) (s : σ) (done : α → σ → Prop)
    (failed : ε → σ → Prop) : Prop where
  | of_ok {a : α} {t : σ} (run : action s = .ok a t) (holds : done a t)
  | of_error {e : ε} {t : σ} (run : action s = .error e t) (holds : failed e t)

/-! ## One step of a computation -/

lemma bind_ok {x : EStateM ε σ α} {f : α → EStateM ε σ β} {s t : σ} {a : α} (h : x s = .ok a t) :
    (x >>= f) s = f a t := by
  show EStateM.bind x f s = f a t
  simp only [EStateM.bind, h]

lemma bind_error {x : EStateM ε σ α} {f : α → EStateM ε σ β} {s t : σ} {e : ε}
    (h : x s = .error e t) : (x >>= f) s = .error e t := by
  show EStateM.bind x f s = .error e t
  simp only [EStateM.bind, h]

lemma bind_get {f : σ → EStateM ε σ β} {s : σ} : (get >>= f) s = f s s := rfl

lemma liftM_ok {a : α} {s : σ} :
    (liftM (Except.ok a : Except MachineError α) : EStateM MachineError σ α) s = .ok a s :=
  rfl

lemma liftM_error {e : MachineError} {s : σ} :
    (liftM (Except.error e : Except MachineError α) : EStateM MachineError σ α) s = .error e s :=
  rfl

/-! ## The rules -/

namespace Ensures

variable {x : EStateM ε σ α} {f : α → EStateM ε σ β} {s : σ} {done middle : α → σ → Prop}
  {after : β → σ → Prop} {failed early : ε → σ → Prop}

lemma ok {a : α} {t : σ} (hx : Ensures x s done failed) (h : x s = .ok a t) : done a t := by
  cases hx with
  | of_ok run holds =>
      obtain ⟨rfl, rfl⟩ := EStateM.Result.ok.inj (run.symm.trans h)
      exact holds
  | of_error run _ => exact nomatch run.symm.trans h

lemma error {e : ε} {t : σ} (hx : Ensures x s done failed) (h : x s = .error e t) :
    failed e t := by
  cases hx with
  | of_ok run _ => exact nomatch run.symm.trans h
  | of_error run holds =>
      obtain ⟨rfl, rfl⟩ := EStateM.Result.error.inj (run.symm.trans h)
      exact holds

lemma pure {a : α} (h : done a s) : Ensures (Pure.pure a : EStateM ε σ α) s done failed :=
  of_ok rfl h

lemma throw {e : ε} (h : failed e s) :
    Ensures (MonadExcept.throw e : EStateM ε σ α) s done failed :=
  of_error rfl h

lemma update {g : σ → σ} {done : PUnit → σ → Prop} (h : done ⟨⟩ (g s)) :
    Ensures (modify g : EStateM ε σ PUnit) s done failed :=
  of_ok rfl h

lemma mono (hx : Ensures x s middle early) (hdone : ∀ a t, middle a t → done a t)
    (hfailed : ∀ e t, early e t → failed e t) : Ensures x s done failed := by
  cases hx with
  | of_ok run holds => exact of_ok run (hdone _ _ holds)
  | of_error run holds => exact of_error run (hfailed _ _ holds)

/-- Only what the action does from this state matters. -/
lemma congr {y : EStateM ε σ α} {t : σ} (hy : Ensures y t done failed) (h : x s = y t) :
    Ensures x s done failed := by
  cases hy with
  | of_ok run holds => exact of_ok (h.trans run) holds
  | of_error run holds => exact of_error (h.trans run) holds

/-- What is known in two ways. -/
lemma and (hx : Ensures x s done failed) (hx' : Ensures x s middle early) :
    Ensures x s (fun a t => done a t ∧ middle a t) (fun e t => failed e t ∧ early e t) := by
  cases hx with
  | of_ok run holds => exact of_ok run ⟨holds, hx'.ok run⟩
  | of_error run holds => exact of_error run ⟨holds, hx'.error run⟩

/-- Two actions in a row.  What the first one leaves when it fails has to be good enough for the
whole. -/
lemma bind (hx : Ensures x s middle early) (hearly : ∀ e t, early e t → failed e t)
    (hf : ∀ a t, middle a t → Ensures (f a) t after failed) :
    Ensures (x >>= f) s after failed := by
  cases hx with
  | of_error run holds => exact of_error (bind_error run) (hearly _ _ holds)
  | of_ok run holds =>
      cases hf _ _ holds with
      | of_ok run' holds' => exact of_ok ((bind_ok run).trans run') holds'
      | of_error run' holds' => exact of_error ((bind_ok run).trans run') holds'

/-- The first action is known to succeed. -/
lemma bind_of_ok {a : α} {t : σ} (hx : x s = .ok a t) (hf : Ensures (f a) t after failed) :
    Ensures (x >>= f) s after failed :=
  hf.congr (bind_ok hx)

/-- What is known of the second action from any state on, whatever the first one does. -/
lemma last {done : β → σ → Prop} (hf : ∀ a t, Ensures (f a) t done fun _ _ => True) :
    Ensures (x >>= f) s done fun _ _ => True := by
  cases hx : x s with
  | error e t => exact of_error (bind_error hx) trivial
  | ok a t => exact bind_of_ok hx (hf a t)

/-- What is known of an answer, whatever is done before it. -/
lemma answer {b : α → β} {good : β → Prop} (h : ∀ a, good (b a)) :
    Ensures (x >>= fun a => Pure.pure (b a)) s (fun c _ => good c) fun _ _ => True := by
  refine last ?_
  intro a t
  exact pure (h a)

/-- Reading the state first only names it. -/
lemma get_bind {f : σ → EStateM ε σ β} (h : Ensures (f s) s after failed) :
    Ensures (get >>= f) s after failed := by
  cases h with
  | of_ok run holds => exact of_ok run holds
  | of_error run holds => exact of_error run holds

/-- A check has no effect, whether it succeeds or fails. -/
lemma check (c : Except MachineError α) :
    Ensures (liftM c : EStateM MachineError σ α) s (fun a t => c = .ok a ∧ t = s)
      (fun e t => c = .error e ∧ t = s) := by
  cases c with
  | ok a => exact of_ok liftM_ok ⟨rfl, rfl⟩
  | error e => exact of_error liftM_error ⟨rfl, rfl⟩

/-- What comes after a check starts from the same state. -/
lemma bind_check {c : Except MachineError α} {f : α → EStateM MachineError σ β}
    {failed : MachineError → σ → Prop} (hfailed : ∀ e, c = .error e → failed e s)
    (hf : ∀ a, c = .ok a → Ensures (f a) s after failed) :
    Ensures (liftM c >>= f) s after failed := by
  cases c with
  | error e => exact of_error rfl (hfailed e rfl)
  | ok a => exact bind_of_ok liftM_ok (hf a rfl)

/-- Changing the state first only gives the rest another state to start from. -/
lemma modify_bind {g : σ → σ} {f : PUnit → EStateM ε σ β}
    (h : Ensures (f ⟨⟩) (g s) after failed) : Ensures (modify g >>= f) s after failed := by
  cases h with
  | of_ok run holds => exact of_ok run holds
  | of_error run holds => exact of_error run holds

end Ensures

/-! ## Both ends at once -/

/-- **What an action leaves behind**, whether it succeeds or fails. -/
abbrev Leaves (action : EStateM ε σ α) (s : σ) (good : σ → Prop) : Prop :=
  Ensures action s (fun _ => good) (fun _ => good)

namespace Ensures

variable {x : EStateM ε σ α} {f : α → EStateM ε σ β} {s : σ} {good better : σ → Prop}

lemma relax (hx : Leaves x s better) (h : ∀ t, better t → good t) : Leaves x s good :=
  hx.mono (fun _ => h) (fun _ => h)

/-- Two actions in a row that leave the same. -/
lemma seq (hx : Leaves x s good) (hf : ∀ a t, good t → Leaves (f a) t good) :
    Leaves (x >>= f) s good :=
  hx.bind (fun _ _ ht => ht) hf

end Ensures

/-! ## Actions that only look -/

/-- **An action that only looks** leaves the state as it is, whether it succeeds or fails. -/
def Reads (action : EStateM ε σ α) : Prop :=
  ∀ s, Ensures action s (fun _ t => t = s) (fun _ t => t = s)

namespace Reads

variable {x : EStateM ε σ α} {f : α → EStateM ε σ β}

lemma pure (a : α) : Reads (Pure.pure a : EStateM ε σ α) := fun _ => Ensures.pure rfl

lemma check (c : Except MachineError α) : Reads (liftM c : EStateM MachineError σ α) := by
  intro s
  exact (Ensures.check c).mono (fun _ _ h => h.2) (fun _ _ h => h.2)

lemma bind (hx : Reads x) (hf : ∀ a, Reads (f a)) : Reads (x >>= f) := by
  intro s
  refine Ensures.bind (hx s) (fun _ _ h => h) ?_
  rintro a t rfl
  exact hf a t

lemma get_bind {f : σ → EStateM ε σ β} (hf : ∀ s, Reads (f s)) : Reads (get >>= f) := by
  intro s
  exact Ensures.get_bind (hf s s)

end Reads

/-- What comes after an action that only looks starts from the same state. -/
lemma Ensures.bind_of_reads {x : EStateM ε σ α} {f : α → EStateM ε σ β} {s : σ}
    {after : β → σ → Prop} {failed : ε → σ → Prop} (hx : Reads x) (hfailed : ∀ e, failed e s)
    (hf : ∀ a, Ensures (f a) s after failed) : Ensures (x >>= f) s after failed := by
  refine Ensures.bind (hx s) ?_ ?_
  · rintro e t rfl
    exact hfailed e
  · rintro a t rfl
    exact hf a

/-! ## Parts of a system -/

section Parts

variable {system : System} {operation : MachineM α} {interaction : ConsoleM α} {a : α}
  {e : MachineError} {machine : Machine} {console : Console}

lemma onMachine_ok (h : operation system.machine = .ok a machine) :
    (liftM operation : Action α) system = .ok a { system with machine } := by
  show Action.onMachine operation system = _
  rw [Action.onMachine, h]

lemma onMachine_error (h : operation system.machine = .error e machine) :
    (liftM operation : Action α) system = .error e { system with machine } := by
  show Action.onMachine operation system = _
  rw [Action.onMachine, h]

lemma onConsole_ok (h : interaction system.console = .ok a console) :
    (liftM interaction : Action α) system = .ok a { system with console } := by
  show Action.onConsole interaction system = _
  rw [Action.onConsole, h]

lemma onConsole_error (h : interaction system.console = .error e console) :
    (liftM interaction : Action α) system = .error e { system with console } := by
  show Action.onConsole interaction system = _
  rw [Action.onConsole, h]

end Parts

namespace Ensures

variable {system : System} {operation : MachineM α} {interaction : ConsoleM α}
  {done : α → Machine → Prop} {failed : MachineError → Machine → Prop}

lemma onMachine (h : Ensures operation system.machine done failed) :
    Ensures (liftM operation : Action α) system
      (fun a t => done a t.machine ∧ t.console = system.console)
      (fun e t => failed e t.machine ∧ t.console = system.console) := by
  cases h with
  | of_ok run holds => exact of_ok (onMachine_ok run) ⟨holds, rfl⟩
  | of_error run holds => exact of_error (onMachine_error run) ⟨holds, rfl⟩

lemma onConsole : Ensures (liftM interaction : Action α) system
    (fun a t => t.machine = system.machine ∧ interaction system.console = .ok a t.console)
    (fun e t => t.machine = system.machine ∧ interaction system.console = .error e t.console) := by
  cases hi : interaction system.console with
  | ok a console => exact of_ok (onConsole_ok hi) ⟨rfl, rfl⟩
  | error e console => exact of_error (onConsole_error hi) ⟨rfl, rfl⟩

end Ensures

end StackMachine
