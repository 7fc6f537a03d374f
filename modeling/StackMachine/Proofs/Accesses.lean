import Mathlib.Data.List.Induction
import Mathlib.Data.List.Sort
import StackMachine.Proofs.Memory

/-!
# What memory shows

Memory is written and looked at in any order: words are loaded and stored at addresses that may be
negative, and the cells from zero up to an address are taken together.  All that can be seen of it
are the words that were stored last.  In particular it cannot be seen whether a cell that reads as
unset was ever written.

* `Memory.Access`, `Memory.access` — one use of memory, with its answer and the memory after it.
* `Memory.after`, `Memory.answers` — many of them.
* `Memory.lastStored?`, `Memory.load_after` — the word that was last stored at an address, and that
  a load gives it.
* `Memory.mem_listing_iff`, `Memory.listing_ordered` — the cells that are not unset.
* `Memory.Alike` — memories that read the same, and therefore answer the same.
* `memory_shows_last_stores` — all of this after any accesses to empty memory.
-/

namespace StackMachine

namespace Memory

variable {memory other : Memory}

/-! ## Accesses -/

/-- **One use of memory**, at any address. -/
inductive Access where
  | load (address : Int)
  | store (address : Int) (w : Word)
  | snapshot (top : Int)

/-- What an access shows.  After a store these are all cells that are not unset. -/
inductive Answer where
  | word (w : Word)
  | cells (listing : List (Nat × Word))
  | words (snapshot : List Word)

/-- An access: its answer, or why it failed, and the memory after it. -/
def access (memory : Memory) : Access → Except MachineError Answer × Memory
  | .load address => ((memory.load address).map .word, memory)
  | .store address w =>
    match memory.store address w with
    | .ok stored => (.ok (.cells stored.listing), stored)
    | .error e => (.error e, memory)
  | .snapshot top => (.ok (.words (memory.snapshot top)), memory)

/-- The memory after some accesses. -/
def after (memory : Memory) (accesses : List Access) : Memory :=
  accesses.foldl (fun m a => (m.access a).2) memory

/-- What some accesses show, one after the other. -/
def answers (memory : Memory) : (accesses : List Access) → List (Except MachineError Answer)
  | [] => []
  | a :: rest => (memory.access a).1 :: answers (memory.access a).2 rest

/-- The word that an access stores at an address, if it stores there. -/
def Access.stored? (address : Int) : Access → Option Word
  | .store target w => if target = address then some w else none
  | .load _ | .snapshot _ => none

/-- **The word that was last stored at an address**, if there was a store to it. -/
def lastStored? (accesses : List Access) (address : Int) : Option Word :=
  accesses.reverse.findSome? (Access.stored? address)

lemma lastStored?_concat (accesses : List Access) (a : Access) (address : Int) :
    lastStored? (accesses ++ [a]) address =
      (a.stored? address).or (lastStored? accesses address) := by
  rw [lastStored?, List.reverse_append, List.reverse_singleton, List.singleton_append,
    List.findSome?_cons]
  cases a.stored? address <;> rfl

lemma after_concat (accesses : List Access) (a : Access) :
    memory.after (accesses ++ [a]) = ((memory.after accesses).access a).2 := by
  simp [after]

/-! ## Loads and stores -/

lemma load_eq (address : Int) :
    memory.load address =
      if address < 0 then .error (.invalidAddress address)
      else .ok (memory.read address.toNat) := by
  split
  next neg => rw [load, place_of_neg neg]; rfl
  next nonneg => rw [load, place_of_nonneg (by omega)]; rfl

lemma store_eq (address : Int) (w : Word) :
    memory.store address w =
      if address < 0 then .error (.invalidAddress address)
      else .ok (memory.write address.toNat w) := by
  split
  next neg => rw [store, place_of_neg neg]; rfl
  next nonneg => rw [store, place_of_nonneg (by omega)]; rfl

lemma load_natCast (i : Nat) : memory.load i = .ok (memory.read i) := by
  rw [load_eq, if_neg (by omega), Int.toNat_natCast]

lemma store_eq_error_iff {address : Int} {w : Word} {e : MachineError} :
    memory.store address w = .error e ↔ address < 0 ∧ e = .invalidAddress address := by
  rw [store_eq]
  by_cases neg : address < 0 <;> simp [neg, eq_comm]

/-- Nothing but a store at an address that is not negative changes memory. -/
lemma access_of_idle {a : Access} (idle : ∀ address w, a = .store address w → address < 0) :
    (memory.access a).2 = memory := by
  cases a with
  | load address => rfl
  | snapshot top => rfl
  | store address w =>
      have neg : address < 0 := idle address w rfl
      simp only [access, store_eq, neg, if_true]

/-- An access changes no cell but the one that it stores to. -/
lemma read_access (a : Access) (i : Nat) :
    (memory.access a).2.read i = (a.stored? i).getD (memory.read i) := by
  cases a with
  | load address => rfl
  | snapshot top => rfl
  | store address w =>
      simp only [access, Access.stored?, store_eq]
      by_cases neg : address < 0
      · have elsewhere : address ≠ i := by omega
        simp [neg, elsewhere]
      · have place : address.toNat = i ↔ address = i := by omega
        simp only [neg, if_false, read_write, place]
        split <;> rfl

/-- **A cell reads as what was last stored there.** -/
lemma read_after (accesses : List Access) (i : Nat) :
    (empty.after accesses).read i = (lastStored? accesses i).getD Word.unset := by
  induction accesses using List.reverseRecOn with
  | nil => exact read_empty i
  | append_singleton accesses a ih =>
      rw [after_concat, read_access, lastStored?_concat, ih]
      cases a.stored? i <;> rfl

lemma load_after (accesses : List Access) (address : Int) :
    (empty.after accesses).load address =
      if address < 0 then .error (.invalidAddress address)
      else .ok ((lastStored? accesses address).getD Word.unset) := by
  rw [load_eq]
  split
  next => rfl
  next nonneg => rw [read_after, Int.toNat_of_nonneg (Int.not_lt.mp nonneg)]

/-! ## The listing -/

lemma mem_listing_iff {i : Nat} {w : Word} :
    (i, w) ∈ memory.listing ↔ memory.read i = w ∧ w ≠ Word.unset := by
  simp only [listing, List.mem_filter, Std.TreeMap.mem_toList_iff_getElem?_eq_some,
    decide_eq_true_eq, and_congr_left_iff, read, Std.TreeMap.getD_eq_getD_getElem?]
  intro known
  cases memory.cells[i]? with
  | none => simp [Ne.symm known]
  | some v => simp

lemma listing_ordered : memory.listing.Pairwise fun x y => x.1 < y.1 := by
  refine (Std.TreeMap.ordered_keys_toList.imp ?_).filter _
  intro x y before
  exact Nat.compare_eq_lt.mp before

/-! ## Memories that read the same -/

/-- **Memories that read the same**, whether or not the same cells were written. -/
def Alike (memory other : Memory) : Prop := ∀ i, memory.read i = other.read i

namespace Alike

lemma listing_eq (h : Alike memory other) : memory.listing = other.listing := by
  have : Std.Irrefl fun x y : Nat × Word => x.1 < y.1 := ⟨fun x => Nat.lt_irrefl x.1⟩
  have : Std.Antisymm fun x y : Nat × Word => x.1 < y.1 :=
    ⟨fun x y before behind => absurd before (Nat.lt_asymm behind)⟩
  refine listing_ordered.eq_of_mem_iff listing_ordered ?_
  rintro ⟨i, w⟩
  rw [mem_listing_iff, mem_listing_iff, h i]

lemma snapshot_eq (h : Alike memory other) (top : Int) :
    memory.snapshot top = other.snapshot top :=
  List.map_congr_left fun i _ => h i

lemma write (h : Alike memory other) (i : Nat) (w : Word) :
    Alike (memory.write i w) (other.write i w) := by
  intro j
  rw [read_write, read_write, h j]

/-- No access tells such memories apart, and it leaves such memories. -/
lemma access (h : Alike memory other) (a : Access) :
    (memory.access a).1 = (other.access a).1 ∧
      Alike (memory.access a).2 (other.access a).2 := by
  cases a with
  | load address =>
      refine ⟨?_, h⟩
      show (memory.load address).map _ = (other.load address).map _
      rw [load_eq, load_eq, h address.toNat]
  | snapshot top =>
      refine ⟨?_, h⟩
      show Except.ok _ = Except.ok _
      rw [h.snapshot_eq top]
  | store address w =>
      simp only [Memory.access, store_eq]
      by_cases neg : address < 0
      · simp only [neg, if_true]
        exact ⟨trivial, h⟩
      · have stored := h.write address.toNat w
        simp only [neg, if_false, stored.listing_eq]
        exact ⟨trivial, stored⟩

/-- **Nothing that is done with such memories tells them apart.** -/
lemma answers_eq (h : Alike memory other) (accesses : List Access) :
    memory.answers accesses = other.answers accesses := by
  induction accesses generalizing memory other with
  | nil => rfl
  | cons a rest ih =>
      obtain ⟨same, alike⟩ := h.access a
      rw [answers, answers, same, ih alike]

end Alike

/-- The same words stored last, the same memory to look at. -/
lemma alike_after {accesses others : List Access}
    (same : ∀ address ≥ 0, (lastStored? others address).getD Word.unset =
      (lastStored? accesses address).getD Word.unset) :
    Alike (empty.after others) (empty.after accesses) := by
  intro i
  rw [read_after, read_after, same i (by omega)]

/-- To store the unset word where nothing was stored leaves the same words stored last. -/
lemma lastStored?_concat_unset {accesses : List Access} {address : Int}
    (fresh : lastStored? accesses address = none) (other : Int) :
    (lastStored? (accesses ++ [.store address Word.unset]) other).getD Word.unset =
      (lastStored? accesses other).getD Word.unset := by
  rw [lastStored?_concat, Access.stored?]
  by_cases here : address = other
  · rw [if_pos here, ← here, fresh]
    rfl
  · rw [if_neg here]
    rfl

end Memory

open Memory in
/-- **Memory shows what was stored last.**  Take any accesses to empty memory, those included that
fail.  A load or a store fails at a negative address, and only there.  Any other load gives the word
that was last stored at its address, or the unset word if none was.  Nothing but a store at an
address that is not negative changes memory.  A snapshot is empty below address zero, and otherwise
it lists what the loads from zero up to its address give.  The listing ascends strictly, and it
holds the words that loads give and that are not unset, with their addresses.  If other accesses
have left the same words, counting the unset word where nothing was stored, then nothing that is
done afterwards tells the two memories apart; so it makes no difference to store the unset word
where nothing was stored. -/
theorem memory_shows_last_stores (accesses : List Access) :
    let memory := empty.after accesses
    (∀ address, memory.load address =
      if address < 0 then .error (.invalidAddress address)
      else .ok ((lastStored? accesses address).getD Word.unset)) ∧
    (∀ address w e, memory.store address w = .error e ↔
      address < 0 ∧ e = .invalidAddress address) ∧
    (∀ a, (∀ address w, a = .store address w → address < 0) → (memory.access a).2 = memory) ∧
    (∀ top < 0, memory.snapshot top = []) ∧
    (∀ top ≥ 0, (memory.snapshot top).length = top + 1 ∧
      ∀ (i : Nat) (h : i < (memory.snapshot top).length),
        memory.load i = .ok (memory.snapshot top)[i]) ∧
    (memory.listing.Pairwise fun x y => x.1 < y.1) ∧
    (∀ i w, (i, w) ∈ memory.listing ↔ memory.load i = .ok w ∧ w ≠ Word.unset) ∧
    (∀ others, (∀ address ≥ 0, (lastStored? others address).getD Word.unset =
        (lastStored? accesses address).getD Word.unset) →
      ∀ more, (empty.after others).answers more = memory.answers more) ∧
    ∀ address, lastStored? accesses address = none →
      ∀ more, (empty.after (accesses ++ [.store address Word.unset])).answers more =
        memory.answers more := by
  intro memory
  refine ⟨load_after accesses, fun _ _ _ => store_eq_error_iff, fun _ => access_of_idle,
    fun _ => snapshot_empty, ?_, listing_ordered, ?_, ?_, ?_⟩
  · intro top nonneg
    refine ⟨by rw [length_snapshot]; omega, fun i inside => ?_⟩
    rw [load_natCast, getElem_snapshot]
  · intro i w
    rw [mem_listing_iff, load_natCast, Except.ok.injEq]
  · intro others same more
    exact (alike_after same).answers_eq more
  · intro address fresh more
    exact (alike_after fun other _ => lastStored?_concat_unset fresh other).answers_eq more

/-- A word that is replaced by the unset word is gone from the listing. -/
example : (Memory.empty.after [.store 5 7, .store (-2) 8, .store 3 9, .load (-1),
    .store 5 Word.unset]).listing = [(3, 9)] := by decide

end StackMachine
