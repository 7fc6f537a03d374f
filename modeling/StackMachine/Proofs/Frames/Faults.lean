import StackMachine.Proofs.Frames.Balance
import StackMachine.Proofs.Session

/-!
# Frames after a fault

A call that fails because its frame does not fit has left its return point already.  The run ends,
but the point stays on the machine, and a return of a later run takes it for the point of a frame
and moves the local base down by words that it was never moved up.  So a session is not as safe as a
single run, and this module says exactly when it is.

* `Ledger` — what a session has done to frames: for each return point whether its call opened the
  frame, and how many words were closed without having been opened.
* `Ledger.Accounts` — the local base is the difference of the two, and `Session.take_accounts` says
  that every turn keeps it so.
* `bounds_of_session_iff` — the registers keep their bounds as long as the words closed in vain are
  no more than those of the open frames.
* `orphan_lowers_base` — a session in which they do not.
-/

namespace StackMachine

/-! ## The ledger

It is kept from outside: it reads the return stack and whether the run goes on, and nothing of the
registers.
-/

/-- A call whose return point is on the stack. -/
structure SavedCall where
  /-- The return point. -/
  point : ReturnPoint
  /-- Whether the call succeeded, and so has opened a frame. -/
  opened : Bool

/-- **The calls and returns of a session.** -/
structure Ledger where
  /-- The calls on the return stack, the latest first. -/
  calls : List SavedCall
  /-- The words of all frames that were closed without having been opened. -/
  debt : Nat

namespace Ledger

/-- Nothing was called. -/
def empty : Ledger := ⟨[], 0⟩

/-- The words of the open frames. -/
def openWords (ledger : Ledger) : Nat :=
  frameWords ((ledger.calls.filter SavedCall.opened).map SavedCall.point)

/-- A call has left its point. -/
def enter (ledger : Ledger) (point : ReturnPoint) (opened : Bool) : Ledger :=
  { ledger with calls := ⟨point, opened⟩ :: ledger.calls }

/-- A return has taken the latest point, and with it closed a frame or not. -/
def leave (ledger : Ledger) (closed : Bool) : Ledger :=
  match ledger.calls with
  | [] => ledger
  | call :: rest =>
    { calls := rest
      debt := if closed && !call.opened then ledger.debt + call.point.frame else ledger.debt }

/-- The ledger after a turn.  A point that appeared was left by a call, and one that is gone was
taken by a return; either has succeeded when the run goes on. -/
def record (ledger : Ledger) (before after : Session) : Ledger :=
  let goesOn := after.run.outcome.isNone
  if before.machine.returns.length < after.machine.returns.length then
    match after.machine.returns with
    | [] => ledger
    | point :: _ => ledger.enter point goesOn
  else if after.machine.returns.length < before.machine.returns.length then
    ledger.leave goesOn
  else ledger

/-- The ledger of a session after each of its turns. -/
def after (s : Session) (turns : Nat → Turn) : Nat → Ledger
  | 0 => empty
  | i + 1 => (after s turns i).record (s.after turns i) (s.after turns (i + 1))

variable {ledger : Ledger} {before after : Session}

lemma record_of_same (h : after.machine.returns = before.machine.returns) :
    ledger.record before after = ledger := by
  simp only [record, h, Nat.lt_irrefl, if_false]

lemma record_of_call {point : ReturnPoint}
    (h : after.machine.returns = point :: before.machine.returns) :
    ledger.record before after = ledger.enter point after.run.outcome.isNone := by
  simp only [record, h, List.length_cons, Nat.lt_succ_self, if_true]

lemma record_of_return {point : ReturnPoint}
    (h : before.machine.returns = point :: after.machine.returns) :
    ledger.record before after = ledger.leave after.run.outcome.isNone := by
  simp only [record, h, List.length_cons, Nat.lt_succ_self, if_true, if_neg (Nat.not_succ_lt_self)]

@[simp]
lemma openWords_cons (point : ReturnPoint) (opened : Bool) (calls : List SavedCall) (debt : Nat) :
    openWords ⟨⟨point, opened⟩ :: calls, debt⟩ =
      (if opened then point.frame else 0) + openWords ⟨calls, debt⟩ := by
  cases opened <;> simp [openWords]

/-! ## What the ledger says of the registers

This holds as long as the local base was never below the origin.  Below it, a return may take its
point in vain, and the ledger is no longer right.
-/

/-- **The ledger accounts for the local base**: it is what the open frames have moved it up by, less
what was moved down in vain. -/
structure Accounts (ledger : Ledger) (m : Machine) : Prop where
  gbr : m.registers.gbr = 0
  calls : ledger.calls.map SavedCall.point = m.returns
  frames : ∀ call ∈ ledger.calls, call.opened → Word.Fits call.point.frame
  base : m.registers.lbr = ledger.openWords - ledger.debt
  fits : Word.Fits m.registers.lbr
  top : -1 ≤ m.registers.str

variable {m t : Machine}

lemma accounts_initial (trace : Bool) : empty.Accounts { Machine.initial with trace } :=
  ⟨rfl, rfl, nofun, rfl, show Word.Fits 0 by decide, Int.le_refl (-1)⟩

namespace Accounts

open Machine

/-- The local base is at the origin or above it exactly when no more words were closed in vain than
are open. -/
lemma base_iff (h : ledger.Accounts m) :
    m.registers.gbr ≤ m.registers.lbr ↔ ledger.debt ≤ ledger.openWords := by
  rw [h.gbr, h.base]
  omega

lemma grounded (h : ledger.Accounts m) (hlbr : m.registers.gbr ≤ m.registers.lbr) : Grounded m := by
  rw [h.gbr] at hlbr
  exact ⟨h.gbr, hlbr, h.top⟩

lemma settled (h : ledger.Accounts m) (hlbr : m.registers.gbr ≤ m.registers.lbr)
    (ht : Settled m t) : ledger.Accounts t where
  gbr := ht.gbr.trans h.gbr
  calls := h.calls.trans ht.returns.symm
  frames := h.frames
  base := ht.lbr.trans h.base
  fits := by
    rw [ht.lbr]
    exact h.fits
  top := (ht.grounded (h.grounded hlbr)).str

lemma opened {frame : Nat} (h : ledger.Accounts m) (hlbr : m.registers.gbr ≤ m.registers.lbr)
    (ht : Opened frame m t) : (ledger.enter ⟨m.registers.ip, frame⟩ true).Accounts t where
  gbr := ht.gbr.trans h.gbr
  calls := by
    rw [ht.returns, ← h.calls]
    rfl
  frames := by
    intro call hcall
    rcases List.mem_cons.mp hcall with rfl | hrest
    · exact fun _ => ht.fits_frame
    · exact h.frames call hrest
  base := by
    have hbase := h.base
    simp only [enter, openWords_cons, if_true]
    rw [ht.lbr, hbase]
    show (openWords ledger : Int) - ledger.debt + frame = (frame + openWords ledger : Nat) - _
    omega
  fits := by
    rw [ht.lbr]
    exact ht.fits
  top := (ht.grounded (h.grounded hlbr)).str

lemma orphaned {frame : Nat} (h : ledger.Accounts m) (hlbr : m.registers.gbr ≤ m.registers.lbr)
    (ht : Orphaned frame m t) : (ledger.enter ⟨m.registers.ip, frame⟩ false).Accounts t where
  gbr := ht.gbr.trans h.gbr
  calls := by
    rw [ht.returns, ← h.calls]
    rfl
  frames := by
    intro call hcall
    rcases List.mem_cons.mp hcall with rfl | hrest
    · exact fun hopened => nomatch hopened
    · exact h.frames call hrest
  base := ht.lbr.trans h.base
  fits := by
    rw [ht.lbr]
    exact h.fits
  top := (ht.grounded (h.grounded hlbr)).str

/-- A return finds the point of the latest call of the ledger. -/
lemma calls_of_return {point : ReturnPoint} {rest : List ReturnPoint} (h : ledger.Accounts m)
    (hreturns : m.returns = point :: rest) :
    ∃ opened others debt, ledger = ⟨⟨point, opened⟩ :: others, debt⟩ ∧
      others.map SavedCall.point = rest := by
  obtain ⟨calls, debt⟩ := ledger
  have hcalls := h.calls.trans hreturns
  obtain ⟨⟨_, opened⟩, others, rfl, rfl, hothers⟩ := List.map_eq_cons_iff.mp hcalls
  exact ⟨opened, others, debt, rfl, hothers⟩

lemma closed {results : Nat} {point : ReturnPoint} (h : ledger.Accounts m)
    (hlbr : m.registers.gbr ≤ m.registers.lbr) (ht : Closed results point m t) :
    (ledger.leave true).Accounts t := by
  have hgbr := h.gbr
  have hbase := h.base
  have hfits := h.fits
  have hframe := ht.fits_frame
  have hmoved := ht.lbr
  obtain ⟨opened, others, debt, rfl, hothers⟩ := h.calls_of_return ht.returns
  refine ⟨ht.gbr.trans h.gbr, hothers, fun call hcall => h.frames call (.tail _ hcall), ?_, ?_, ?_⟩
  · rw [openWords_cons] at hbase
    cases opened with
    | true =>
        show _ = (openWords ⟨others, debt⟩ : Int) - debt
        simp only [if_true] at hbase
        omega
    | false =>
        show _ = (openWords ⟨others, debt⟩ : Int) - (debt + point.frame : Nat)
        simp only [Bool.false_eq_true, if_false] at hbase
        omega
  · simp only [Word.Fits] at hfits hframe ⊢
    omega
  · rw [ht.str]
    exact topAfter_ge results (h.grounded hlbr)

/-- From a local base that is not below the origin, a return can take back every frame that was
opened.  So a point taken in vain was that of no frame, and nothing changes. -/
lemma unclosed {results : Nat} {point : ReturnPoint} (h : ledger.Accounts m)
    (hlbr : m.registers.gbr ≤ m.registers.lbr) (ht : Unclosed results point m t) :
    (ledger.leave false).Accounts t := by
  have hgbr := h.gbr
  have hbase := h.base
  have hfits := h.fits
  obtain ⟨opened, others, debt, rfl, hothers⟩ := h.calls_of_return ht.returns
  have orphan : opened = false := by
    cases opened with
    | false => rfl
    | true =>
        have hframe : Word.Fits point.frame := h.frames _ (.head _) rfl
        have hmisfit := ht.misfit hframe
        simp only [Word.Fits] at hfits hframe hmisfit
        omega
  subst orphan
  refine ⟨ht.gbr.trans h.gbr, hothers, fun call hcall => h.frames call (.tail _ hcall), ?_, ?_, ?_⟩
  · rw [openWords_cons] at hbase
    simp only [Bool.false_eq_true, if_false, Nat.zero_add] at hbase
    exact ht.lbr.trans hbase
  · rw [ht.lbr]
    exact h.fits
  · rw [ht.str]
    exact topAfter_ge results (h.grounded hlbr)

end Accounts

end Ledger

/-! ## Sessions -/

namespace Session

open Machine

/-- **What every turn keeps**, unless the local base is below the origin before it. -/
lemma take_accounts {ledger : Ledger} (s : Session) (turn : Turn) (h : ledger.Accounts s.machine)
    (hlbr : s.machine.registers.gbr ≤ s.machine.registers.lbr) :
    (ledger.record s (s.take turn)).Accounts (s.take turn).machine := by
  rcases s.take_ensures turn with stepped | ⟨trace, same⟩
  · have move := Execution.step_moves s.program s.run
    rw [← stepped] at move
    cases move with
    | ended before same =>
        have hmachine : (s.take turn).machine = s.machine :=
          congrArg (fun run : Execution => run.system.machine) same
        rw [Ledger.record_of_same (congrArg Machine.returns hmachine), hmachine]
        exact h
    | settled before plain settled =>
        have hreturns : (s.take turn).machine.returns = s.machine.returns := settled.returns
        rw [Ledger.record_of_same hreturns]
        exact h.settled hlbr settled
    | opened frame before fetched after opened =>
        have hreturns : (s.take turn).machine.returns = _ :: s.machine.returns := opened.returns
        rw [Ledger.record_of_call hreturns, after]
        exact h.opened hlbr opened
    | orphaned frame before fetched after orphaned =>
        have hreturns : (s.take turn).machine.returns = _ :: s.machine.returns := orphaned.returns
        rw [Ledger.record_of_call hreturns, after]
        exact h.orphaned hlbr orphaned
    | closed results point before fetched after resumed closed =>
        have hreturns : s.machine.returns = point :: (s.take turn).machine.returns := closed.returns
        rw [Ledger.record_of_return hreturns, after]
        exact h.closed hlbr closed
    | unclosed results point before fetched after unclosed =>
        have hreturns : s.machine.returns = point :: (s.take turn).machine.returns :=
          unclosed.returns
        rw [Ledger.record_of_return hreturns, after]
        exact h.unclosed hlbr unclosed
  -- Between two runs the return stack stays as it is, and the ledger with it.
  · rw [Ledger.record_of_same (by rw [same]), same]
    exact ⟨h.gbr, h.calls, h.frames, h.base, h.fits, h.top⟩

variable {program : Program} {trace : Bool} {console : Console} {turns : Nat → Turn}

/-- **The ledger accounts for a session** as long as the local base was never below the origin. -/
lemma after_accounts (n : Nat)
    (hlbr : ∀ i < n, ((first program trace console).after turns i).machine.registers.gbr ≤
      ((first program trace console).after turns i).machine.registers.lbr) :
    (Ledger.after (first program trace console) turns n).Accounts
      ((first program trace console).after turns n).machine := by
  induction n with
  | zero => exact Ledger.accounts_initial trace
  | succ n ih =>
      have h := ih fun i hi => hlbr i (Nat.lt_succ_of_lt hi)
      exact take_accounts _ (turns n) h (hlbr n (Nat.lt_succ_self n))

end Session

/-- **When faults do no harm.**  In a session on a new machine, with whatever programs, inputs and
outputs, the global base is not above the local base and the stack top not below the empty stack at
every moment up to now, exactly if the words closed without having been opened were at every moment
no more than those of the open frames. -/
theorem bounds_of_session_iff (program : Program) (trace : Bool) (console : Console)
    (turns : Nat → Turn) (n : Nat) :
    let s := Session.first program trace console
    let m := fun i => (s.after turns i).machine
    (∀ i ≤ n, (m i).registers.gbr ≤ (m i).registers.lbr ∧
      (m i).registers.gbr - 1 ≤ (m i).registers.str) ↔
    ∀ i ≤ n, (Ledger.after s turns i).debt ≤ (Ledger.after s turns i).openWords := by
  intro s m
  have accounts : ∀ i, (∀ j < i, (m j).registers.gbr ≤ (m j).registers.lbr) →
      (Ledger.after s turns i).Accounts (m i) := fun i hlbr => Session.after_accounts i hlbr
  constructor
  · intro bounds i hi
    have h := accounts i fun j hj => (bounds j (by omega)).1
    exact h.base_iff.mp (bounds i hi).1
  · intro covered
    -- The ledger is right up to the first moment at which the local base is below the origin, and
    -- at that moment the ledger shows it.
    have hlbr : ∀ i ≤ n, (m i).registers.gbr ≤ (m i).registers.lbr := by
      intro i
      induction i using Nat.strongRecOn with
      | ind i ih =>
          intro hi
          have h := accounts i fun j hj => ih j hj (by omega)
          exact h.base_iff.mpr (covered i hi)
    intro i hi
    have h := accounts i fun j hj => hlbr j (by omega)
    have htop := h.top
    refine ⟨hlbr i hi, ?_⟩
    rw [h.gbr]
    omega

/-! ## A session that goes wrong -/

/-- The second call leaves an orphan: its frame does not fit above that of the first one. -/
def orphaningProgram : Program where
  instructions := #[.literal 2, .call 1, .literal 4, .call 9223372036854775807, .halt]
  labels := ∅

/-- A program with a return where the first one has stopped. -/
def returningProgram : Program where
  instructions := #[.nop, .nop, .halt, .ret 0, .halt]
  labels := ∅

/-- Four steps of the first program, and then the second one. -/
def orphaningTurns (i : Nat) : Turn :=
  if i = 4 then .execute returningProgram none (Console.ofInput []) else .step

/-- **The bounds can be lost within six turns**: four steps of the first program, the beginning of
the second one, and its return.  That takes the orphan for the point of a frame, and the local base
is below the origin. -/
theorem orphan_lowers_base :
    let m := ((Session.first orphaningProgram false (Console.ofInput [])).after
      orphaningTurns 6).machine
    m.registers.gbr = 0 ∧ m.registers.lbr = -9223372036854775806 ∧
      ¬ (m.registers.gbr ≤ m.registers.lbr ∧ m.registers.gbr - 1 ≤ m.registers.str) := by
  decide +kernel

end StackMachine
