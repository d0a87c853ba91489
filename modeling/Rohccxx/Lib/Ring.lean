import Mathlib.Algebra.GroupWithZero.Nat
import Mathlib.Data.List.Basic
import Mathlib.Logic.Function.Iterate

/-!
# The last entries of a log

A ring of `n` slots keeps the last `n` entries of a log. The entries carry an epoch and a number; the numbers are taken
from a counter.

* `recent_push` — writing at the head of the ring puts an entry in front of the log and drops the oldest one.
* `Apart` — entries of one epoch have different numbers. `Clear` looks ahead: the counter will not come to the number of
  an entry of the epoch while the ring still holds that entry. `Apart.push` and `Clear.push` keep both.
-/

set_option autoImplicit false

namespace Ring

/-! ## The ring -/

section Slots

variable {α : Type} {n head count : Nat} [NeZero n]

/-- The slot of the entry written `offset` entries before the newest one; `head` is where the next one goes. -/
def slot (n head offset : Nat) [NeZero n] : Fin n := Fin.ofNat n (head + n - 1 - offset)

/-- The entries, the newest first. -/
def recent (slots : Fin n → α) (head count : Nat) : List α :=
  (List.range count).map fun offset => slots (slot n head offset)

theorem length_recent (slots : Fin n → α) (head count : Nat) : (recent slots head count).length = count := by
  simp [recent]

theorem slot_newest (hhead : head < n) : (slot n ((head + 1) % n) 0).val = head := by
  unfold slot
  rw [Fin.val_ofNat]
  by_cases hwrap : head + 1 = n
  · rw [hwrap, Nat.mod_self, Nat.zero_add, Nat.sub_zero, ← hwrap, Nat.add_sub_cancel]
    exact Nat.mod_eq_of_lt (Nat.lt_succ_self head)
  · rw [Nat.mod_eq_of_lt (show head + 1 < n by omega), show head + 1 + n - 1 - 0 = head + n by omega, Nat.add_mod_right]
    exact Nat.mod_eq_of_lt hhead

/-- Behind the newest entry stand the old ones. -/
theorem slot_older {offset : Nat} (hhead : head < n) (hold : offset + 1 < n) :
    slot n ((head + 1) % n) (offset + 1) = slot n head offset ∧ (slot n head offset).val ≠ head := by
  unfold slot
  rw [Fin.ext_iff, Fin.val_ofNat, Fin.val_ofNat]
  by_cases hwrap : head + 1 = n
  · rw [hwrap, Nat.mod_self, Nat.mod_eq_of_lt (show 0 + n - 1 - (offset + 1) < n by omega),
      show head + n - 1 - offset = 0 + n - 1 - (offset + 1) + n by omega, Nat.add_mod_right,
      Nat.mod_eq_of_lt (show 0 + n - 1 - (offset + 1) < n by omega)]
    omega
  · rw [Nat.mod_eq_of_lt (show head + 1 < n by omega), show head + 1 + n - 1 - (offset + 1) = head + n - 1 - offset by omega]
    refine ⟨rfl, ?_⟩
    by_cases hlow : offset < head
    · rw [show head + n - 1 - offset = head - 1 - offset + n by omega, Nat.add_mod_right, Nat.mod_eq_of_lt (by omega)]
      omega
    · rw [Nat.mod_eq_of_lt (by omega)]
      omega

/-- **Writing at the head** puts an entry in front of the log. -/
theorem recent_push {slots slots' : Fin n → α} {a : α} (hhead : head < n) (hcount : count ≤ n)
    (hnew : slots' ⟨head, hhead⟩ = a) (hold : ∀ i : Fin n, i.val ≠ head → slots' i = slots i) :
    recent slots' ((head + 1) % n) (if count < n then count + 1 else count) =
      (a :: recent slots head count).take n := by
  have hlen : (if count < n then count + 1 else count) = min n (count + 1) := by
    split <;> omega
  rw [hlen]
  refine List.ext_getElem (by simp [length_recent]) fun i h₁ h₂ => ?_
  rw [length_recent] at h₁
  rw [List.getElem_take]
  cases i with
  | zero =>
    have hslot : slot n ((head + 1) % n) 0 = ⟨head, hhead⟩ := Fin.ext (slot_newest hhead)
    simpa [recent, hslot] using hnew
  | succ i =>
    obtain ⟨heq, hne⟩ := slot_older hhead (show i + 1 < n by omega)
    simp [recent, heq, hold _ hne]

end Slots

/-! ## Numbers -/

section Numbers

variable {ε N : Type} {n : Nat} {next : N → N} {epoch : ε} {counter : N} {log : List (ε × N)}

/-- Entries of one epoch have different numbers. -/
def Apart (log : List (ε × N)) : Prop := log.Pairwise fun a b => a.1 = b.1 → a.2 ≠ b.2

/-- None of the numbers that follow the counter is that of an entry of the epoch which is then still among the last `n`. -/
def Clear (n : Nat) (next : N → N) (epoch : ε) (counter : N) (log : List (ε × N)) : Prop :=
  ∀ entry ∈ log.zipIdx, entry.1.1 = epoch → ∀ k < n - 1 - entry.2, next^[k + 1] counter ≠ entry.1.2

instance [DecidableEq ε] [DecidableEq N] : Decidable (Clear n next epoch counter log) :=
  inferInstanceAs (Decidable (∀ entry ∈ log.zipIdx, _))

theorem Clear.ne (h : Clear n next epoch counter log) {i k : Nat} {a : ε × N} (ha : log[i]? = some a)
    (he : a.1 = epoch) (hk : i + k + 1 < n) : next^[k + 1] counter ≠ a.2 :=
  h (a, i) (List.mem_zipIdx_iff_getElem?.mpr ha) he k (by dsimp only; omega)

theorem clear_of_ne (h : ∀ (i k : Nat) (a : ε × N), log[i]? = some a → a.1 = epoch → i + k + 1 < n → next^[k + 1] counter ≠ a.2) :
    Clear n next epoch counter log := by
  rintro ⟨a, i⟩ ha he k hk
  exact h i k a (List.mem_zipIdx_iff_getElem?.mp ha) he (by dsimp only at hk; omega)

/-- Where the epoch has no entries, any counter will do. -/
theorem clear_of_epoch (h : ∀ (i : Nat) (a : ε × N), log[i]? = some a → a.1 ≠ epoch) : Clear n next epoch counter log :=
  clear_of_ne fun i _ a ha he => absurd he (h i a ha)

/-- An entry of the log after a push is the new one, or an old one that is one entry older. -/
theorem getElem?_push {α : Type} {log : List α} {a b : α} {i : Nat} (h : ((a :: log).take n)[i]? = some b) :
    i < n ∧ (i = 0 ∧ b = a ∨ ∃ j, i = j + 1 ∧ log[j]? = some b) := by
  rw [List.getElem?_take] at h
  split at h
  · refine ⟨‹_›, ?_⟩
    cases i with
    | zero =>
      rw [List.getElem?_cons_zero, Option.some.injEq] at h
      exact .inl ⟨rfl, h.symm⟩
    | succ j =>
      rw [List.getElem?_cons_succ] at h
      exact .inr ⟨j, rfl, h⟩
  · cases h

/-- The next number is none of those the epoch has in the log. -/
theorem Apart.push (h : Apart log) (hc : Clear n next epoch counter log) :
    Apart (((epoch, next counter) :: log).take n) := by
  cases n with
  | zero => exact List.Pairwise.nil
  | succ m =>
    rw [List.take_succ_cons]
    refine List.Pairwise.cons (fun a ha he => ?_) (h.sublist (List.take_sublist m log))
    obtain ⟨i, hi⟩ := List.mem_iff_getElem?.mp ha
    rw [List.getElem?_take] at hi
    split at hi
    · exact hc.ne (k := 0) hi he.symm (by omega)
    · cases hi

/-- The numbers behind the next one are clear if the counter does not come back to it too soon. -/
theorem Clear.push (h : Clear n next epoch counter log)
    (hperiod : ∀ k, k + 1 < n → next^[k + 1] (next counter) ≠ next counter) :
    Clear n next epoch (next counter) (((epoch, next counter) :: log).take n) := by
  refine clear_of_ne fun i k a ha he hk => ?_
  obtain ⟨-, ⟨rfl, rfl⟩ | ⟨j, rfl, hj⟩⟩ := getElem?_push ha
  · exact hperiod k (by omega)
  · rw [← Function.iterate_succ_apply]
    exact h.ne hj he (by omega)

/-- Entries of one epoch with the same number are the same entry. -/
theorem Apart.offset_eq (h : Apart log) {i j : Nat} {a b : ε × N} (ha : log[i]? = some a) (hb : log[j]? = some b)
    (he : a.1 = b.1) (hn : a.2 = b.2) : i = j := by
  obtain ⟨hi, rfl⟩ := List.getElem?_eq_some_iff.mp ha
  obtain ⟨hj, rfl⟩ := List.getElem?_eq_some_iff.mp hb
  rcases Nat.lt_trichotomy i j with hlt | heq | hlt
  · exact absurd hn (List.pairwise_iff_getElem.mp h i j hi hj hlt he)
  · exact heq
  · exact absurd hn.symm (List.pairwise_iff_getElem.mp h j i hj hi hlt he.symm)

end Numbers

end Ring
