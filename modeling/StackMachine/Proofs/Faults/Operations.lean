import StackMachine.Proofs.Cells
import StackMachine.Proofs.Faults.Conditions
import StackMachine.Proofs.Frames.Relocation

/-!
# The faults of operations

An action with a given fault either makes that fault or, where the fault is none, succeeds.  So the
faults of a sequence of actions are those of its parts, the first one first, as long as each of them
can be told from the state before the sequence.

* `Faults`, with `Faults.iff` — the statement, and that nothing else can happen.
* `Faults.bind`, `Faults.check` and the like — how it is put together.
* `Machine.pop_faults`, `Machine.collapseFrame_faults` and the like — the operations of a grounded
  machine.
-/

namespace StackMachine

variable {σ α β : Type}

lemma orElse_none (a : Option MachineError) : (a <|> none) = a := by
  cases a <;> rfl

lemma orElse_assoc (a b c : Option MachineError) : ((a <|> b) <|> c) = (a <|> b <|> c) := by
  cases a <;> rfl

/-- **An action fails exactly with a fault**, if there is one, and else it succeeds with `done` of
its result and of the state it leaves. -/
def Faults (x : EStateM MachineError σ α) (s : σ) (fault : Option MachineError)
    (done : α → σ → Prop) : Prop :=
  Ensures x s (fun a t => fault = none ∧ done a t) (fun e _ => fault = some e)

namespace Faults

variable {x : EStateM MachineError σ α} {f : α → EStateM MachineError σ β} {s : σ}
  {fault late : Option MachineError} {done middle : α → σ → Prop} {after : β → σ → Prop}

/-- The fault is the only way to fail, and there is no way around it. -/
lemma iff (h : Faults x s fault done) (error : MachineError) :
    (∃ t, x s = .error error t) ↔ fault = some error := by
  constructor
  · rintro ⟨t, run⟩
    have h : Ensures x s (fun a t => fault = none ∧ done a t) (fun e _ => fault = some e) := h
    exact h.error run
  · intro hfault
    cases h with
    | of_ok _ holds => exact nomatch hfault.symm.trans holds.1
    | @of_error e t run holds =>
        obtain rfl : e = error := Option.some.inj (holds.symm.trans hfault)
        exact ⟨t, run⟩

lemma of_run {a : α} {t : σ} (run : x s = .ok a t) (holds : done a t) : Faults x s none done :=
  Ensures.of_ok run ⟨rfl, holds⟩

lemma pure {a : α} (h : done a s) : Faults (Pure.pure a) s none done := of_run rfl h

lemma throw (error : MachineError) :
    Faults (MonadExcept.throw error : EStateM MachineError σ α) s (some error) done :=
  Ensures.of_error rfl rfl

/-- An action that checks a condition and fails with it. -/
lemma of_guard {p : Prop} [Decidable p] {error : MachineError} {t : σ}
    (hp : p → x s = .error error t) (hn : ¬ p → Faults x s none done) :
    Faults x s (failsIf p error) done := by
  by_cases h : p
  · rw [failsIf, if_pos h]
    exact Ensures.of_error (hp h) rfl
  · rw [failsIf, if_neg h]
    exact hn h

lemma mono (h : Faults x s fault middle) (hdone : ∀ a t, middle a t → done a t) :
    Faults x s fault done := by
  refine Ensures.mono h ?_ (fun _ _ he => he)
  rintro a t ⟨hfault, ht⟩
  exact ⟨hfault, hdone a t ht⟩

lemma forget (h : Faults x s fault done) : Faults x s fault (fun _ _ => True) :=
  h.mono fun _ _ _ => trivial

/-- Only what the action does from this state matters. -/
lemma congr {y : EStateM MachineError σ α} (h : Faults y s fault done) (hx : x s = y s) :
    Faults x s fault done := by
  cases h with
  | of_ok run holds => exact Ensures.of_ok (hx.trans run) holds
  | of_error run holds => exact Ensures.of_error (hx.trans run) holds

/-- Two actions in a row: the fault of the second one counts where the first one has none. -/
lemma bind (hx : Faults x s fault middle) (hf : ∀ a t, middle a t → Faults (f a) t late after) :
    Faults (x >>= f) s (fault <|> late) after := by
  refine Ensures.bind hx ?_ ?_
  · rintro e t rfl
    rfl
  · rintro a t ⟨rfl, ht⟩
    exact hf a t ht

/-- What follows a last check succeeds. -/
lemma bind_last (hx : Faults x s fault middle)
    (hf : ∀ a t, middle a t → Faults (f a) t none after) : Faults (x >>= f) s fault after := by
  have h := hx.bind hf
  rwa [orElse_none] at h

/-- An answer is no reason to fault. -/
lemma answer (hx : Faults x s fault middle) (b : α → β) :
    Faults (x >>= fun a => Pure.pure (b a)) s fault (fun _ _ => True) := by
  refine bind_last hx ?_
  intro a t _
  exact pure trivial

lemma get_bind {f : σ → EStateM MachineError σ β} (h : Faults (f s) s fault after) :
    Faults (get >>= f) s fault after :=
  Ensures.get_bind h

lemma modify_bind {g : σ → σ} {f : PUnit → EStateM MachineError σ β}
    (h : Faults (f ⟨⟩) (g s) fault after) : Faults (modify g >>= f) s fault after :=
  Ensures.modify_bind h

lemma check (c : Except MachineError α) :
    Faults (liftM c : EStateM MachineError σ α) s (failure c) (fun a t => c = .ok a ∧ t = s) := by
  cases c with
  | ok a => exact of_run liftM_ok ⟨rfl, rfl⟩
  | error e => exact Ensures.of_error liftM_error rfl

/-- What comes after a check starts from the same state. -/
lemma bind_check (c : Except MachineError α) {f : α → EStateM MachineError σ β}
    (hf : ∀ a, c = .ok a → Faults (f a) s late after) :
    Faults (liftM c >>= f) s (failure c <|> late) after := by
  refine bind (check c) ?_
  rintro a t ⟨ha, rfl⟩
  exact hf a ha

end Faults

/-! ## Checks -/

lemma failsIf_congr {p q : Prop} [Decidable p] [Decidable q] (error : MachineError) (h : p ↔ q) :
    failsIf p error = failsIf q error := by
  simp only [failsIf, h]

lemma failsIf_or (p q : Prop) [Decidable p] [Decidable q] (error : MachineError) :
    (failsIf p error <|> failsIf q error) = failsIf (p ∨ q) error := by
  by_cases hp : p <;> by_cases hq : q <;> simp [failsIf, hp, hq]

/-- A check that passes or fails by a condition. -/
lemma failure_eq_failsIf {p : Prop} [Decidable p] {c : Except MachineError α} {error : MachineError}
    (hp : p → c = .error error) (hn : ¬ p → ∃ a, c = .ok a) : failure c = failsIf p error := by
  by_cases h : p
  · rw [hp h, failsIf, if_pos h, failure]
  · obtain ⟨a, ha⟩ := hn h
    rw [ha, failsIf, if_neg h, failure]

lemma failure_place (address : Int) : failure (Memory.place address) = cell? address :=
  failure_eq_failsIf Memory.place_of_neg fun h => ⟨_, Memory.place_of_nonneg (Int.not_lt.mp h)⟩

lemma failure_label (program : Program) (label : String) :
    failure (program.label label) = program.unbound? label := by
  refine failure_eq_failsIf ?_ ?_
  · intro h
    rw [Program.label, Std.TreeMap.getElem?_eq_none h]
  · intro h
    have bound := Decidable.of_not_not h
    exact ⟨_, by rw [Program.label, Std.TreeMap.getElem?_eq_some_getElem bound]⟩

namespace Machine

variable {m : Machine}

/-! ## Sums and cells -/

lemma checked_faults_of {p : Prop} [Decidable p] {x : Int} (h : p ↔ ¬ Word.Fits x) :
    Faults (checked x) m (failsIf p .arithmeticOverflow)
      (fun y t => y = x ∧ Word.Fits x ∧ t = m) := by
  refine Faults.of_guard (t := m) ?_ ?_
  · intro hp
    rw [checked, if_neg (h.mp hp)]
    rfl
  · intro hn
    have fits : Word.Fits x := Decidable.of_not_not fun hfits => hn (h.mpr hfits)
    exact Faults.of_run (checked_run fits) ⟨rfl, fits, rfl⟩

lemma checked_faults {x : Int} (h : -0x8000000000000000 ≤ x) :
    Faults (checked x) m (tooLarge? x) (fun y t => y = x ∧ Word.Fits x ∧ t = m) := by
  refine checked_faults_of ?_
  simp only [Word.Fits]
  omega

lemma load_faults (address : Int) :
    Faults (load address) m (cell? address)
      (fun w t => w = m.memory.read address.toNat ∧ t = m) := by
  refine Faults.of_guard load_run_of_neg ?_
  intro h
  exact Faults.of_run (load_run (Int.not_lt.mp h)) ⟨rfl, rfl⟩

lemma store_faults (address : Int) (w : Word) :
    Faults (store address w) m (cell? address)
      (fun _ t => ∃ memory, t = { m with memory }) := by
  refine Faults.of_guard (fun h => store_run_of_neg h w) ?_
  intro h
  exact Faults.of_run (store_run (Int.not_lt.mp h) w) ⟨_, rfl⟩

section Local

variable (h : Grounded m) (i : Word)
include h

lemma localAddress_faults :
    Faults (localAddress i.toInt) m (tooLarge? (m.registers.lbr + i.toInt))
      (fun a t => a = m.registers.lbr + i.toInt ∧ Word.Fits a ∧ t = m) := by
  have hlbr := h.lbr
  have hi := i.fits
  simp only [Word.Fits] at hi
  refine Faults.get_bind (Faults.bind_last (checked_faults (by omega)) ?_)
  rintro a t ⟨rfl, hfits, rfl⟩
  rw [h.gbr, Int.sub_zero]
  exact Faults.of_run (checked_run hfits) ⟨rfl, hfits, rfl⟩

lemma loadLocal_faults :
    Faults (loadLocal i.toInt) m (m.localCell? i.toInt) (fun _ t => t = m) := by
  refine Faults.bind (localAddress_faults h i) ?_
  rintro a t ⟨rfl, hfits, rfl⟩
  refine Faults.mono ((load_faults _).congr (bind_ok (slot_run h.gbr hfits))) ?_
  rintro w u ⟨-, hu⟩
  exact hu

lemma loadGlobal_faults :
    Faults (loadGlobal i.toInt) m (cell? i.toInt) (fun _ t => t = m) := by
  refine Faults.mono ((load_faults _).congr (bind_ok (slot_run h.gbr i.fits))) ?_
  rintro w t ⟨-, ht⟩
  exact ht

lemma storeGlobal_faults (w : Word) :
    Faults (storeGlobal i.toInt w) m (cell? i.toInt) (fun _ t => ∃ memory, t = { m with memory }) :=
  (store_faults _ w).congr (bind_ok (slot_run h.gbr i.fits))

lemma storeLocal_faults (w : Word) :
    Faults (storeLocal i.toInt w) m (m.localCell? i.toInt)
      (fun _ t => ∃ memory, t = { m with memory }) := by
  refine Faults.bind (localAddress_faults h i) ?_
  rintro a t ⟨rfl, hfits, rfl⟩
  exact (store_faults _ w).congr (bind_ok (slot_run h.gbr hfits))

end Local

/-! ## The stack -/

/-- A word more is needed: the top one, and then the others. -/
lemma underflow?_succ (needed : Nat) :
    m.underflow? (needed + 1) = (m.underflow? 1 <|> m.popped.underflow? needed) := by
  have htop : m.popped.registers.str = m.registers.str + -1 := rfl
  rw [underflow?, underflow?, underflow?, failsIf_or, htop]
  exact failsIf_congr _ (by omega)

/-- A pop uncovers the next word. -/
lemma word_popped (hstr : 0 ≤ m.popped.registers.str) : m.popped.word 0 = m.word 1 := by
  have htop : m.popped.registers.str = m.registers.str + -1 := rfl
  have hplace : m.registers.str + -1 - (0 : Nat) = m.registers.str - (1 : Nat) := by omega
  rw [word, word, htop, hplace]
  show (m.memory.write _ _).read _ = _
  rw [Memory.read_write, if_neg (by omega)]

section Stack

variable (h : Grounded m)
include h

lemma top_faults :
    Faults top m (m.underflow? 1)
      (fun w t => w = m.word 0 ∧ t = m ∧ 0 ≤ m.registers.str) := by
  have hgbr := h.gbr
  refine Faults.of_guard (fun empty => top_run_of_empty (by omega)) ?_
  intro filled
  have hstr : 0 ≤ m.registers.str := by omega
  refine Faults.of_run (top_run (by omega) hstr) ⟨?_, rfl, hstr⟩
  simp [word]

lemma pop_faults :
    Faults pop m (m.underflow? 1)
      (fun w t => w = m.word 0 ∧ t = m.popped ∧ 0 ≤ m.registers.str) := by
  refine Faults.bind_last (top_faults h) ?_
  rintro w t ⟨rfl, rfl, hstr⟩
  exact Faults.of_run (bind_get.trans (bind_ok (store_run hstr Word.unset))) ⟨rfl, rfl, hstr⟩

lemma push_faults (w : Word) :
    Faults (push w) m none (fun _ t => Grounded t) := by
  have hstr := h.str
  refine Faults.of_run (push_run w hstr) ⟨h.gbr, h.lbr, ?_⟩
  show -1 ≤ m.registers.str + 1
  omega

lemma grounded_popped (hstr : 0 ≤ m.registers.str) : Grounded m.popped :=
  ⟨h.gbr, h.lbr, by show -1 ≤ m.registers.str + -1; omega⟩

lemma popMany_faults (count : Nat) :
    Faults (popMany count) m (m.underflow? count) (fun _ _ => True) := by
  induction count generalizing m with
  | zero =>
      have hstr := h.str
      rw [underflow?, failsIf, if_neg (by omega)]
      exact Faults.pure trivial
  | succ count ih =>
      rw [underflow?_succ]
      refine Faults.bind (pop_faults h) ?_
      rintro w t ⟨-, rfl, hstr⟩
      exact ih (grounded_popped h hstr)

end Stack

/-! ## Frames -/

lemma openFrame_faults (size : Nat) (h : 0 ≤ m.registers.lbr) :
    Faults (openFrame size) m (tooLarge? (m.registers.lbr + size)) (fun _ _ => True) := by
  have hlarge : tooLarge? (m.registers.lbr + size) =
      (tooLarge? size <|> tooLarge? (m.registers.lbr + size)) := by
    rw [tooLarge?, tooLarge?, failsIf_or]
    exact failsIf_congr _ (by omega)
  rw [hlarge]
  refine Faults.bind (checked_faults (by omega)) ?_
  rintro x t ⟨rfl, -, rfl⟩
  refine Faults.get_bind (Faults.bind_last (checked_faults (by omega)) ?_)
  intro base u _
  exact Faults.of_run rfl trivial

lemma popReturn_faults :
    Faults popReturn m (failsIf (m.returns = []) .returnStackUnderflow)
      (fun point t => ∃ rest, m.returns = point :: rest ∧ t = { m with returns := rest }) := by
  refine Faults.get_bind ?_
  cases hreturns : m.returns with
  | nil => exact Faults.throw _
  | cons point rest => exact Faults.of_run rfl ⟨rest, rfl, rfl⟩

/-- Dropping a frame faults only where it computes how many words there are to drop. -/
lemma collapseFrame_faults (results : Nat) (h : Grounded m) (hbase : Word.Fits m.registers.lbr)
    (htop : m.registers.str + 1 < 0x8000000000000000) :
    Faults (collapseFrame results) m
      (failsIf (0x7fffffffffffffff < (results : Int) ∨
        m.registers.str - m.registers.lbr + 1 - results < -0x8000000000000000) .arithmeticOverflow)
      (fun _ t => t.returns = m.returns ∧ t.registers.lbr = m.registers.lbr) := by
  have hlbr := h.lbr
  rw [← failsIf_or]
  refine Faults.congr ?_ (bind_ok (depth_run h hbase htop))
  refine Faults.bind (checked_faults (by omega)) ?_
  rintro r t ⟨rfl, hresults, rfl⟩
  have hothers : t.registers.str - t.registers.lbr + 1 - results < -0x8000000000000000 ↔
      ¬ Word.Fits (t.registers.str - t.registers.lbr + 1 - results) := by
    simp only [Word.Fits]
    omega
  refine Faults.bind_last (checked_faults_of hothers) ?_
  rintro others u ⟨rfl, -, rfl⟩
  -- From here on everything succeeds: the words that move lie between the base and the stack top.
  split
  next hpos =>
    obtain ⟨memory, hrun, -⟩ := moveDown_run hpos h.gbr hlbr 0 results (by omega)
    have hstr : Word.Fits (u.registers.str -
        (u.registers.str - u.registers.lbr + 1 - results)) := by
      simp only [Word.Fits] at hbase ⊢
      omega
    exact Faults.of_run ((bind_ok hrun).trans (bind_ok (checked_run hstr))) ⟨rfl, rfl⟩
  next hpos => exact Faults.pure ⟨rfl, rfl⟩

/-- A frame that is part of the local base can be taken back. -/
lemma closeFrame_faults (size : Nat) (hbase : Word.Fits m.registers.lbr)
    (h : (size : Int) ≤ m.registers.lbr) : Faults (closeFrame size) m none (fun _ _ => True) := by
  simp only [Word.Fits] at hbase
  have hsize : Word.Fits (size : Int) := by
    simp only [Word.Fits]
    omega
  have hless : Word.Fits (m.registers.lbr + -(size : Int)) := by
    simp only [Word.Fits]
    omega
  refine Faults.congr ?_ (bind_ok (checked_run hsize))
  refine Faults.get_bind ?_
  refine Faults.congr ?_ (bind_ok (checked_run hless))
  exact Faults.of_run rfl trivial

end Machine

end StackMachine
