import StackMachine.Proofs.Frames.Shift

/-!
# Calls and returns

Only two instructions move the local base and the return stack, and each of them can stop half-way.
A call first leaves its return point and then moves the local base; when the new base does not fit,
the point stays behind without a frame, an *orphan*.  A return first drops the words of the running
frame, then takes the latest return point and then moves the local base back.

* `Machine.Opened`, `Machine.Orphaned` — a call that succeeds, and one that leaves an orphan.
* `Machine.Closed`, `Machine.Unclosed` — a return that succeeds, and one that took its point in
  vain.
* `Machine.enterRoutine_ensures`, `Machine.leaveRoutine_ensures` — there is no other way for a call
  or a return to end, but to fail before it came to the return point.
-/

namespace StackMachine

namespace Machine

/-- A return point was left, and the place to call taken from the stack. -/
structure Pointed (frame : Nat) (m t : Machine) : Prop where
  gbr : t.registers.gbr = m.registers.gbr
  str : t.registers.str = m.registers.str - 1
  taken : m.registers.gbr ≤ m.registers.str
  returns : t.returns = ⟨m.registers.ip, frame⟩ :: m.returns

/-- **A call**: the new frame lies above the local base of the caller, and what is in it fits. -/
structure Opened (frame : Nat) (m t : Machine) : Prop extends Pointed frame m t where
  lbr : t.registers.lbr = m.registers.lbr + frame
  fits_frame : Word.Fits frame
  fits : Word.Fits (m.registers.lbr + frame)

/-- **A call that leaves an orphan**: a return point without its frame. -/
structure Orphaned (frame : Nat) (m t : Machine) : Prop extends Pointed frame m t where
  lbr : t.registers.lbr = m.registers.lbr
  misfit : Word.Fits frame → ¬ Word.Fits (m.registers.lbr + frame)

/-- Where the stack top is after all but the results of the running frame were dropped. -/
def topAfter (results : Nat) (m : Machine) : Int :=
  if 0 < m.registers.str - m.registers.lbr + 1 - results then m.registers.lbr - 1 + results
  else m.registers.str

lemma topAfter_of_le {results : Nat} {m : Machine}
    (h : results ≤ m.registers.str - m.registers.lbr + 1) :
    m.topAfter results = m.registers.lbr - 1 + results := by
  simp only [topAfter]
  split <;> omega

lemma topAfter_of_not_le {results : Nat} {m : Machine}
    (h : ¬ results ≤ m.registers.str - m.registers.lbr + 1) :
    m.topAfter results = m.registers.str := by
  simp only [topAfter]
  split <;> omega

lemma topAfter_le (results : Nat) (m : Machine) : m.topAfter results ≤ m.registers.str := by
  simp only [topAfter]
  split <;> omega

/-- The words of the running frame were dropped, and its latest return point taken. -/
structure Taken (results : Nat) (point : ReturnPoint) (m t : Machine) : Prop where
  gbr : t.registers.gbr = m.registers.gbr
  str : t.registers.str = m.topAfter results
  returns : m.returns = point :: t.returns

/-- **A return**: the local base is back where the frame size of the return point says. -/
structure Closed (results : Nat) (point : ReturnPoint) (m t : Machine) : Prop
    extends Taken results point m t where
  lbr : t.registers.lbr = m.registers.lbr - point.frame
  fits_frame : Word.Fits point.frame

/-- **A return that took its point in vain**, because the local base cannot move back that far. -/
structure Unclosed (results : Nat) (point : ReturnPoint) (m t : Machine) : Prop
    extends Taken results point m t where
  lbr : t.registers.lbr = m.registers.lbr
  misfit : Word.Fits point.frame → ¬ Word.Fits (m.registers.lbr - point.frame)

/-! ## Frames -/

lemma moveBase_ensures (distance : Int) (m : Machine) :
    Ensures (moveBase distance) m
      (fun _ t => Word.Fits (m.registers.lbr + distance) ∧
        t = { m with registers.lbr := m.registers.lbr + distance })
      (fun e t => e = .arithmeticOverflow ∧ ¬ Word.Fits (m.registers.lbr + distance) ∧ t = m) := by
  refine Ensures.get_bind (Ensures.bind (checked_ensures _ m) (fun _ _ h => h) ?_)
  rintro base t ⟨rfl, hfits, rfl⟩
  exact Ensures.update ⟨hfits, rfl⟩

lemma openFrame_ensures (size : Nat) (m : Machine) :
    Ensures (openFrame size) m
      (fun _ t => Word.Fits size ∧ Word.Fits (m.registers.lbr + size) ∧
        t = { m with registers.lbr := m.registers.lbr + size })
      (fun e t => e = .arithmeticOverflow ∧
        (Word.Fits size → ¬ Word.Fits (m.registers.lbr + size)) ∧ t = m) := by
  refine Ensures.bind (checked_ensures _ m) ?_ ?_
  · rintro e t ⟨rfl, hsize, rfl⟩
    exact ⟨rfl, fun h => absurd h hsize, rfl⟩
  · rintro x t ⟨rfl, hsize, rfl⟩
    refine (moveBase_ensures _ t).mono ?_ ?_
    · rintro _ u ⟨hfits, rfl⟩
      exact ⟨hsize, hfits, rfl⟩
    · rintro e u ⟨rfl, hfits, rfl⟩
      exact ⟨rfl, fun _ => hfits, rfl⟩

lemma closeFrame_ensures (size : Nat) (m : Machine) :
    Ensures (closeFrame size) m
      (fun _ t => Word.Fits size ∧ t = { m with registers.lbr := m.registers.lbr - size })
      (fun e t => e = .arithmeticOverflow ∧
        (Word.Fits size → ¬ Word.Fits (m.registers.lbr - size)) ∧ t = m) := by
  refine Ensures.bind (checked_ensures _ m) ?_ ?_
  · rintro e t ⟨rfl, hsize, rfl⟩
    exact ⟨rfl, fun h => absurd h hsize, rfl⟩
  · rintro x t ⟨rfl, hsize, rfl⟩
    refine (moveBase_ensures _ t).mono ?_ ?_
    · rintro _ u ⟨-, rfl⟩
      exact ⟨hsize, rfl⟩
    · rintro e u ⟨rfl, hfits, rfl⟩
      exact ⟨rfl, fun _ => hfits, rfl⟩

lemma moveDown_shifts (distance : Int) (target count : Nat) (m : Machine) :
    Ensures (moveDown distance target count) m (fun _ t => Shifted 0 m t)
      (fun _ t => Shifted 0 m t) := by
  induction count generalizing target m with
  | zero => exact Ensures.pure (Shifted.refl m)
  | succ count ih =>
      refine Ensures.bind (checked_reads _ m) ?_ ?_
      · rintro e t rfl
        exact Shifted.refl t
      rintro source t rfl
      refine Ensures.bind (loadLocal_reads source t) ?_ ?_
      · rintro e u rfl
        exact Shifted.refl u
      rintro w u rfl
      refine Ensures.bind (storeLocal_shifts _ w u) ?_ ?_
      · rintro e v rfl
        exact Shifted.refl v
      · intro _ v hv
        exact (ih (target + 1) v).mono (fun _ _ h => hv.trans h) fun _ _ h => hv.trans h

lemma depth_ensures (m : Machine) :
    Ensures depth m (fun d t => d = m.registers.str - m.registers.lbr + 1 ∧ t = m)
      (fun e t => e = .arithmeticOverflow ∧ t = m) := by
  refine Ensures.get_bind (Ensures.bind (checked_ensures _ m) (fun _ _ h => ⟨h.1, h.2.2⟩) ?_)
  rintro d t ⟨rfl, -, rfl⟩
  exact (checked_ensures _ t).mono (fun _ _ h => ⟨h.1, h.2.2⟩) fun _ _ h => ⟨h.1, h.2.2⟩

/-- Dropping all but the results moves the stack top and nothing else. -/
lemma collapseFrame_shifts (results : Nat) (m : Machine) :
    Ensures (collapseFrame results) m
      (fun _ t => Shifted (m.topAfter results - m.registers.str) m t)
      (fun _ t => Shifted 0 m t) := by
  have hsame : ∀ {t}, t = m → Shifted 0 m t := by
    rintro t rfl
    exact Shifted.refl t
  refine Ensures.bind (depth_ensures m) (fun _ _ h => hsame h.2) ?_
  rintro d t ⟨rfl, rfl⟩
  refine Ensures.bind (checked_ensures _ t) (fun _ _ h => hsame h.2.2) ?_
  rintro r u ⟨rfl, -, rfl⟩
  refine Ensures.bind (checked_ensures _ u) (fun _ _ h => hsame h.2.2) ?_
  rintro others v ⟨hothers, -, rfl⟩
  simp only [topAfter]
  rw [← hothers]
  show Ensures (if 0 < others then _ else pure ()) _ _ _
  split
  next hpos =>
    refine Ensures.bind (moveDown_shifts others 0 results v) (fun _ _ h => h) ?_
    intro _ w hw
    refine Ensures.get_bind (Ensures.bind (checked_ensures _ w) ?_ ?_)
    · rintro e x ⟨-, -, rfl⟩
      exact hw
    · rintro top x ⟨rfl, -, rfl⟩
      have hstr := hw.str
      exact Ensures.update ⟨hw.ip, hw.gbr, hw.lbr, by show x.registers.str - others = _; omega,
        hw.returns⟩
  next hpos =>
    rw [Int.sub_self]
    exact Ensures.pure (Shifted.refl v)

/-! ## Calls and returns -/

lemma enterRoutine_ensures (frame : Nat) (m : Machine) :
    Ensures (enterRoutine frame) m
      (fun flow t => (∃ target, flow = .enter target frame) ∧ Opened frame m t)
      (fun e t => Settled m t ∨ e = .arithmeticOverflow ∧ Orphaned frame m t) := by
  refine Ensures.bind (pop_shifts m) ?_ ?_
  · rintro e t rfl
    exact .inl (Settled.refl t)
  rintro w t ⟨ht, hstr⟩
  refine Ensures.bind (Reads.check (Memory.place w.toInt) t) ?_ ?_
  · rintro e u rfl
    exact .inl (ht.settled (by omega) (by omega))
  rintro target u rfl
  refine Ensures.modify_bind (Ensures.bind (openFrame_ensures frame _) ?_ ?_)
  · rintro e v ⟨rfl, hmisfit, rfl⟩
    refine .inr ⟨rfl, ⟨⟨ht.gbr, ht.str, hstr, ?_⟩, ht.lbr, ?_⟩⟩
    · show ⟨u.registers.ip, frame⟩ :: u.returns = _
      rw [ht.ip, ht.returns]
    · rw [← ht.lbr]
      exact hmisfit
  · rintro _ v ⟨hframe, hfits, rfl⟩
    refine Ensures.pure ⟨⟨target, rfl⟩, ⟨⟨ht.gbr, ht.str, hstr, ?_⟩, ?_, hframe, ?_⟩⟩
    · show ⟨u.registers.ip, frame⟩ :: u.returns = _
      rw [ht.ip, ht.returns]
    · show u.registers.lbr + frame = _
      rw [ht.lbr]
    · rw [← ht.lbr]
      exact hfits

lemma popReturn_ensures (m : Machine) :
    Ensures popReturn m
      (fun point t => ∃ rest, m.returns = point :: rest ∧ t = { m with returns := rest })
      (fun e t => m.returns = [] ∧ e = .returnStackUnderflow ∧ t = m) := by
  refine Ensures.get_bind ?_
  cases hreturns : m.returns with
  | nil => exact Ensures.throw ⟨rfl, rfl, rfl⟩
  | cons point rest => exact Ensures.modify_bind (Ensures.pure ⟨rest, rfl, rfl⟩)

/-- Dropping words is no more than settling, as long as the frame does not begin below the origin.
-/
lemma Shifted.settled_of_collapse {results : Nat} {m t : Machine}
    (h : Shifted (m.topAfter results - m.registers.str) m t) : Settled m t := by
  have hstr := h.str
  simp only [topAfter] at hstr
  refine ⟨h.gbr, h.lbr, h.returns, ?_, ?_⟩ <;> split at hstr <;> omega

lemma leaveRoutine_ensures (results : Nat) (m : Machine) :
    Ensures (leaveRoutine results) m
      (fun flow t => ∃ point, flow = .leave (point.callSite + 1) point.frame ∧
        Closed results point m t)
      (fun e t => Settled m t ∨
        ∃ point, e = .arithmeticOverflow ∧ Unclosed results point m t) := by
  refine Ensures.bind (collapseFrame_shifts results m) ?_ ?_
  · intro e t ht
    exact .inl (ht.settled (by omega) (by omega))
  intro _ t ht
  have hstr : t.registers.str = m.topAfter results := by rw [ht.str]; omega
  refine Ensures.bind (popReturn_ensures t) ?_ ?_
  · rintro e u ⟨-, -, rfl⟩
    exact .inl ht.settled_of_collapse
  -- The point is gone from here on, whether or not the local base can follow it.
  rintro point u ⟨rest, hreturns, rfl⟩
  rw [ht.returns] at hreturns
  refine Ensures.bind (closeFrame_ensures point.frame _) ?_ ?_
  · rintro e v ⟨rfl, hmisfit, rfl⟩
    refine .inr ⟨point, rfl, ⟨⟨ht.gbr, hstr, hreturns⟩, ht.lbr, ?_⟩⟩
    rw [← ht.lbr]
    exact hmisfit
  · rintro _ v ⟨hframe, rfl⟩
    refine Ensures.pure ⟨point, rfl, ⟨⟨ht.gbr, hstr, hreturns⟩, ?_, hframe⟩⟩
    show t.registers.lbr - point.frame = _
    rw [ht.lbr]

end Machine

end StackMachine
