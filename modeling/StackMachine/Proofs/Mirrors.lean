import StackMachine.Proofs.Console

/-!
# Actions that mirror each other

A state can be looked at from outside, and all that is seen of it is its view.  An action mirrors
another one when it makes no difference whether the one is done before looking or the other after.

* `Mirrors` — two actions that do the same to what is seen.
* `Mirrors.bind`, `Mirrors.get_bind` and the like — how such actions are put together.
* `Mirrors.fixed` — from what an action does not see to what it does not change.
* `Mirrors.liftMachine`, `Mirrors.liftConsole` — from a part of a system to the system.
* `Console.readLine_mirrors_of_good` — a read whose flush does not fail.
* `SystemCall.mirrors` — the system calls, from what they are made of.
-/

namespace StackMachine

variable {ε σ τ α β : Type}

/-- **Two actions mirror each other** when the first one from a state and the second one from what
that state shows have the same result, and leave states of which one again shows the other.  What
the first action ensures when it succeeds is kept. -/
inductive Mirrors (view : σ → τ) (x : EStateM ε σ α) (y : EStateM ε τ α) (s : σ)
    (done : α → σ → Prop) : Prop where
  | of_ok {a : α} {t : σ} (run : x s = .ok a t) (image : y (view s) = .ok a (view t))
      (holds : done a t)
  | of_error {e : ε} {t : σ} (run : x s = .error e t) (image : y (view s) = .error e (view t))

namespace Mirrors

variable {view : σ → τ} {x : EStateM ε σ α} {y : EStateM ε τ α} {f : α → EStateM ε σ β}
  {g : α → EStateM ε τ β} {s : σ} {done middle : α → σ → Prop} {after : β → σ → Prop}

lemma pure {a : α} (h : done a s) :
    Mirrors view (Pure.pure a : EStateM ε σ α) (Pure.pure a) s done :=
  of_ok rfl rfl h

lemma throw (e : ε) : Mirrors view (MonadExcept.throw e : EStateM ε σ α) (MonadExcept.throw e) s
    done :=
  of_error rfl rfl

/-- The second action leaves what the state of the first one shows. -/
lemma of_shown {a : α} {t : σ} {l : τ} (run : x s = .ok a t) (shown : view t = l)
    (image : y (view s) = .ok a l) (holds : done a t) : Mirrors view x y s done := by
  rw [← shown] at image
  exact of_ok run image holds

lemma mono (h : Mirrors view x y s middle) (hdone : ∀ a t, middle a t → done a t) :
    Mirrors view x y s done := by
  cases h with
  | of_ok run image holds => exact of_ok run image (hdone _ _ holds)
  | of_error run image => exact of_error run image

/-- Every action mirrors itself when all is seen as it is. -/
lemma same (x : EStateM ε σ α) (s : σ) : Mirrors id x x s (fun _ _ => True) := by
  cases run : x s with
  | ok a t => exact of_ok run run trivial
  | error e t => exact of_error run run

lemma forget (h : Mirrors view x y s done) : Mirrors view x y s (fun _ _ => True) :=
  h.mono fun _ _ _ => trivial

/-- What follows may use that the first action has succeeded. -/
lemma known (h : Mirrors view x y s done) :
    Mirrors view x y s (fun a t => x s = .ok a t ∧ done a t) := by
  cases h with
  | of_ok run image holds => exact of_ok run image ⟨run, holds⟩
  | of_error run image => exact of_error run image

/-- Only what the actions do from these states matters. -/
lemma congr {x' : EStateM ε σ α} {y' : EStateM ε τ α} (h : Mirrors view x' y' s done)
    (hx : x s = x' s) (hy : y (view s) = y' (view s)) : Mirrors view x y s done := by
  cases h with
  | of_ok run image holds => exact of_ok (hx.trans run) (hy.trans image) holds
  | of_error run image => exact of_error (hx.trans run) (hy.trans image)

/-- Two actions in a row. -/
lemma bind (hx : Mirrors view x y s middle)
    (hf : ∀ a t, middle a t → Mirrors view (f a) (g a) t after) :
    Mirrors view (x >>= f) (y >>= g) s after := by
  cases hx with
  | of_error run image => exact of_error (bind_error run) (bind_error image)
  | of_ok run image holds =>
      cases hf _ _ holds with
      | of_ok run' image' holds' =>
          exact of_ok ((bind_ok run).trans run') ((bind_ok image).trans image') holds'
      | of_error run' image' =>
          exact of_error ((bind_ok run).trans run') ((bind_ok image).trans image')

/-- What is answered is the same on either side. -/
lemma answer (hx : Mirrors view x y s middle) (b : α → β) :
    Mirrors view (x >>= fun a => Pure.pure (b a)) (y >>= fun a => Pure.pure (b a)) s
      (fun _ _ => True) := by
  refine bind hx ?_
  intro a t _
  exact pure trivial

/-- Looking at the state first. -/
lemma get_bind {f : σ → EStateM ε σ β} {g : τ → EStateM ε τ β}
    (h : Mirrors view (f s) (g (view s)) s after) :
    Mirrors view (get >>= f) (get >>= g) s after := by
  cases h with
  | of_ok run image holds => exact of_ok run image holds
  | of_error run image => exact of_error run image

/-- Changing the state. -/
lemma update {p : σ → σ} {q : τ → τ} (hview : view (p s) = q (view s)) :
    Mirrors view (modify p : EStateM ε σ PUnit) (modify q : EStateM ε τ PUnit) s
      (fun _ t => t = p s) :=
  of_shown rfl hview rfl rfl

/-- A check is the same on either side. -/
lemma check {σ τ : Type} {view : σ → τ} {s : σ} (c : Except MachineError α) :
    Mirrors view (liftM c : EStateM MachineError σ α) (liftM c : EStateM MachineError τ α) s
      (fun _ t => t = s) := by
  cases c with
  | ok a => exact of_ok liftM_ok liftM_ok rfl
  | error e => exact of_error liftM_error liftM_error

/-- What comes after a check starts from the same states. -/
lemma bind_check {σ τ : Type} {view : σ → τ} {s : σ} {after : β → σ → Prop}
    (c : Except MachineError α) {f : α → EStateM MachineError σ β}
    {g : α → EStateM MachineError τ β} (hf : ∀ a, c = .ok a → Mirrors view (f a) (g a) s after) :
    Mirrors view (liftM c >>= f) (liftM c >>= g) s after := by
  cases c with
  | error e => exact of_error rfl rfl
  | ok a => exact (hf a rfl).congr (bind_ok liftM_ok) (bind_ok liftM_ok)

/-- **What an action does not see, it does not change.**  From a state that shows itself it comes to
a state that shows itself. -/
lemma fixed {view : σ → σ} {x : EStateM ε σ α} (h : Mirrors view x x s done) (hs : view s = s) :
    Leaves x s (fun t => view t = t) := by
  cases h with
  | of_ok run image _ =>
      rw [hs] at image
      exact Ensures.of_ok run (EStateM.Result.ok.inj (image.symm.trans run)).2
  | of_error run image =>
      rw [hs] at image
      exact Ensures.of_error run (EStateM.Result.error.inj (image.symm.trans run)).2

end Mirrors

/-! ## Parts of a system -/

section Parts

variable {view : System → System} {s : System}

namespace Mirrors

/-- An operation on the machine, in a system whose console is seen apart from the machine. -/
lemma liftMachine {inner : Machine → Machine} {x : MachineM α} {done : α → Machine → Prop}
    (h : Mirrors inner x x s.machine done)
    (seen : ∀ machine, view { s with machine } = { view s with machine := inner machine }) :
    Mirrors view (liftM x : Action α) (liftM x) s
      (fun a t => done a t.machine ∧ t.console = s.console) := by
  have here : (view s).machine = inner s.machine := congrArg System.machine (seen s.machine)
  cases h with
  | @of_ok a t run image holds =>
      rw [← here] at image
      refine of_ok (onMachine_ok run) ?_ ⟨holds, rfl⟩
      rw [seen t]
      exact onMachine_ok image
  | @of_error e t run image =>
      rw [← here] at image
      refine of_error (onMachine_error run) ?_
      rw [seen t]
      exact onMachine_error image

/-- An operation on the console, in a system whose machine is seen apart from the console. -/
lemma liftConsole {inner : Console → Console} {x : ConsoleM α} {done : α → Console → Prop}
    (h : Mirrors inner x x s.console done)
    (seen : ∀ console, view { s with console } = { view s with console := inner console }) :
    Mirrors view (liftM x : Action α) (liftM x) s
      (fun a t => done a t.console ∧ t.machine = s.machine) := by
  have here : (view s).console = inner s.console := congrArg System.console (seen s.console)
  cases h with
  | @of_ok a t run image holds =>
      rw [← here] at image
      refine of_ok (onConsole_ok run) ?_ ⟨holds, rfl⟩
      rw [seen t]
      exact onConsole_ok image
  | @of_error e t run image =>
      rw [← here] at image
      refine of_error (onConsole_error run) ?_
      rw [seen t]
      exact onConsole_error image

end Mirrors

/-- A read whose flush does not fail depends on nothing but the input. -/
lemma Console.readLine_mirrors_of_good {view : Console → Console} {c : Console}
    (goes : c.flushes.size ∉ c.failingFlushes)
    (goes' : (view c).flushes.size ∉ (view c).failingFlushes)
    (input : (view c).input = c.input)
    (taken : view { c.flushed with input := (firstLine c.input).2 } =
      { (view c).flushed with input := (firstLine c.input).2 }) :
    Mirrors view readLine readLine c
      (fun _ d => d = { c.flushed with input := (firstLine c.input).2 }) := by
  have run := readLine_run goes
  have image := readLine_run goes'
  rw [input, ← taken] at image
  cases hline : line c.input with
  | ok text =>
      rw [hline] at run image
      exact Mirrors.of_ok run image rfl
  | error e =>
      rw [hline] at run image
      exact Mirrors.of_error run image

end Parts

/-! ## System calls -/

section SystemCalls

variable {view : System → System} {good : System → Prop} {s : System}
  (write : ∀ text t, good t → Mirrors view (liftM (Console.write text) : Action Unit)
    (liftM (Console.write text)) t (fun _ => good))
  (push : ∀ w t, good t → Mirrors view (liftM (Machine.push w) : Action Unit)
    (liftM (Machine.push w)) t (fun _ => good))
  (pop : Mirrors view (liftM Machine.pop : Action Word) (liftM Machine.pop) s (fun _ => good))

include push in
/-- A line read, and a word that it holds pushed. -/
lemma read_mirrors (word : String → Except MachineError Word)
    (read : Mirrors view (liftM Console.readLine : Action String) (liftM Console.readLine) s
      (fun _ => good)) :
    Mirrors view (do Machine.push (← word (← Console.readLine)) : Action Unit)
      (do Machine.push (← word (← Console.readLine))) s (fun _ => good) := by
  refine Mirrors.bind read ?_
  intro line t ht
  refine Mirrors.bind_check (word line) ?_
  intro w _
  exact push w t ht

include write push pop in
/-- **A system call mirrors itself** when everything does that it is made of. -/
theorem SystemCall.mirrors (service : SystemCall) (h : good s)
    (dump : (view s).machine.dumpLine = s.machine.dumpLine)
    (read : service = .readNumber ∨ service = .readCharacter →
      Mirrors view (liftM Console.readLine : Action String) (liftM Console.readLine) s
        (fun _ => good))
    (toggle : service = .toggleTrace →
      Mirrors view (SystemCall.perform .toggleTrace) (SystemCall.perform .toggleTrace) s
        (fun _ => good)) :
    Mirrors view service.perform service.perform s (fun _ => good) := by
  cases service with
  | toggleTrace => exact toggle rfl
  | dumpMemory =>
      refine Mirrors.get_bind ?_
      rw [dump]
      exact write _ s h
  | readNumber => exact read_mirrors push numberOfLine (read (.inl rfl))
  | readCharacter => exact read_mirrors push codeOfLine (read (.inr rfl))
  | writeNumber =>
      refine Mirrors.bind pop ?_
      intro w t ht
      exact write w.text t ht
  | writeCharacter =>
      refine Mirrors.bind pop ?_
      intro code t ht
      refine Mirrors.bind_check (characterOfCode code) ?_
      intro c _
      exact write c.toString t ht
  | newLine => exact write "\n" s h
  | endOfInput => exact push 0 s h

end SystemCalls

end StackMachine
