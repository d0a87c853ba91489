import Mathlib.Logic.Function.Iterate
import Rohccxx.Lib.Octets

/-!
# Checksums by a register

A checksum that folds a register over the symbols of a message notices every change of a single symbol, as long as one
step loses nothing: the register after it determines the symbol, given the register before, and the other way round.

* `foldl_injective` — no later symbol makes two registers equal again.
* `foldl_set_ne` — so a message with one symbol changed has another checksum.
* `iterate_leftInverse` — a step of several shifts loses nothing if a shift can be undone.
-/

set_option autoImplicit false

namespace Checksum

variable {σ α : Type} {step : σ → α → σ}

/-- A step of the register loses nothing. -/
structure Lossless (step : σ → α → σ) : Prop where
  register : ∀ a, Function.Injective fun s => step s a
  symbol : ∀ s, Function.Injective (step s)

/-- Registers that differ differ after any symbols. -/
theorem Lossless.foldl_injective (h : Lossless step) (message : List α) :
    Function.Injective fun s => message.foldl step s := by
  induction message with
  | nil => exact fun _ _ heq => heq
  | cons a message ih => exact fun s t heq => h.register a (ih heq)

/-- **A single changed symbol is noticed**, wherever it stands. -/
theorem Lossless.foldl_set_ne (h : Lossless step) {message : List α} {i : Nat} (hi : i < message.length) {a : α}
    (hne : a ≠ message[i]) (s : σ) : (message.set i a).foldl step s ≠ message.foldl step s := by
  induction message generalizing i s with
  | nil => exact absurd hi (Nat.not_lt_zero i)
  | cons b message ih =>
    cases i with
    | zero => exact fun heq => hne (h.symbol s (h.foldl_injective message heq))
    | succ i => exact ih (Nat.lt_of_succ_lt_succ hi) hne (step s b)

/-- Messages of one length that differ in one place. -/
def DifferOnce (message message' : List α) : Prop :=
  message.length = message'.length ∧ ∃ i < message.length, ∀ j, message[j]? ≠ message'[j]? ↔ j = i

theorem differOnce_set {message : List α} {i : Nat} (hi : i < message.length) {a : α} (hne : a ≠ message[i]) :
    DifferOnce message (message.set i a) := by
  refine ⟨List.length_set.symm, i, hi, fun j => ?_⟩
  rw [List.getElem?_set]
  by_cases hij : i = j
  · subst hij
    simp [hi, hne.symm]
  · simp [hij, Ne.symm hij]

theorem DifferOnce.exists_set {message message' : List α} (h : DifferOnce message message') :
    ∃ (i : Nat) (hi : i < message.length) (a : α), a ≠ message[i] ∧ message' = message.set i a := by
  obtain ⟨hlen, i, hi, hall⟩ := h
  refine ⟨i, hi, message'[i], fun heq => ?_, ?_⟩
  · refine (hall i).mpr rfl ?_
    rw [List.getElem?_eq_getElem hi, List.getElem?_eq_getElem (hlen ▸ hi), heq]
  · refine List.ext_getElem? fun j => ?_
    by_cases hj : j = i
    · subst hj
      rw [List.getElem?_set_self hi, List.getElem?_eq_getElem (hlen ▸ hi)]
    · rw [List.getElem?_set_ne (Ne.symm hj)]
      exact (not_not.mp fun hne => hj ((hall j).mp hne)).symm

theorem Lossless.foldl_ne_of_differOnce (h : Lossless step) {message message' : List α}
    (hdiffer : DifferOnce message message') (s : σ) : message.foldl step s ≠ message'.foldl step s := by
  obtain ⟨i, hi, a, hne, rfl⟩ := hdiffer.exists_set
  exact (h.foldl_set_ne hi hne s).symm

/-- Shifts that can be undone one by one can be undone together. -/
theorem iterate_leftInverse {shift unshift : σ → σ} (h : Function.LeftInverse unshift shift) (n : Nat) :
    Function.LeftInverse unshift^[n] shift^[n] := h.iterate n

end Checksum
