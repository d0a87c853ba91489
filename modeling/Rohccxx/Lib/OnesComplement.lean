import Mathlib.Algebra.BigOperators.Group.List.Basic
import Mathlib.Data.List.Basic
import Rohccxx.Lib.Octets

/-!
# One's-complement sums

The 16-bit sum with end-around carry over the words of an octet string, an odd last octet counted as the high half of a
word.

* `toNat_total` — the sum is the natural sum modulo 0xFFFF, with 0xFFFF for the multiples that are not zero.
* `words_append` — after whole words the words go on with those of the rest.
* `total_eq_top_iff` — a string with its checksum in it adds up to 0xFFFF, and with no other word in that place that is
  not zero.
-/

set_option autoImplicit false

namespace OnesComplement

open Octets

/-! ## Residues -/

/-- What an accumulator with end-around carry and largest value `m` shows for the sum `n`: zero for zero only. -/
def residue (m n : Nat) : Nat := if n = 0 then 0 else (n - 1) % m + 1

theorem residue_of_le {m n : Nat} (h : n ≤ m) : residue m n = n := by
  unfold residue
  split
  · rename_i hn
    exact hn.symm
  · rw [Nat.mod_eq_of_lt (by omega)]
    omega

theorem residue_le {m : Nat} (hm : 0 < m) (n : Nat) : residue m n ≤ m := by
  unfold residue
  split
  · exact Nat.zero_le m
  · exact Nat.mod_lt _ hm

/-- Carries may be folded in early. -/
theorem residue_residue_add (m a b : Nat) : residue m (residue m a + b) = residue m (a + b) := by
  by_cases ha : a = 0
  · subst ha
    rfl
  · have hra : residue m a = (a - 1) % m + 1 := if_neg ha
    rw [hra]
    unfold residue
    rw [if_neg (by omega), if_neg (by omega)]
    have h₁ : (a - 1) % m + 1 + b - 1 = (a - 1) % m + b := by omega
    have h₂ : a + b - 1 = (a - 1) + b := by omega
    rw [h₁, h₂, Nat.mod_add_mod]

/-! ## End-around carry -/

/-- The sum of two words, a carry out of the high end added at the low end. -/
def plus (a b : UInt16) : UInt16 := if a + b < a then a + b + 1 else a + b

def total (ws : List UInt16) : UInt16 := ws.foldl plus 0

/-- The natural sum of a list of words. -/
def weight (ws : List UInt16) : Nat := (ws.map UInt16.toNat).sum

@[simp] theorem weight_nil : weight [] = 0 := rfl

@[simp] theorem weight_cons (w : UInt16) (ws : List UInt16) : weight (w :: ws) = w.toNat + weight ws := by
  simp [weight]

@[simp] theorem weight_append (vs ws : List UInt16) : weight (vs ++ ws) = weight vs + weight ws := by
  simp [weight]

theorem weight_le (ws : List UInt16) : weight ws ≤ 65535 * ws.length := by
  induction ws with
  | nil => exact Nat.le_refl 0
  | cons w ws ih =>
    have := w.toNat_lt
    rw [weight_cons, List.length_cons]
    omega

theorem toNat_plus (a b : UInt16) : (plus a b).toNat = residue 65535 (a.toNat + b.toNat) := by
  have ha := a.toNat_lt
  have hb := b.toNat_lt
  have hsum : (a + b).toNat = (a.toNat + b.toNat) % 65536 := UInt16.toNat_add a b
  have hiff : a + b < a ↔ (a + b).toNat < a.toNat := UInt16.lt_iff_toNat_lt
  unfold plus
  by_cases hcarry : a.toNat + b.toNat < 65536
  · rw [Nat.mod_eq_of_lt hcarry] at hsum
    rw [if_neg (by rw [hiff, hsum]; omega), hsum, residue_of_le (by omega)]
  · have hmod : (a.toNat + b.toNat) % 65536 = a.toNat + b.toNat - 65536 := by omega
    have hone : (a.toNat + b.toNat - 1) % 65535 = a.toNat + b.toNat - 1 - 65535 := by
      rw [Nat.mod_eq_sub_mod (by omega), Nat.mod_eq_of_lt (by omega)]
    rw [hmod] at hsum
    rw [if_pos (by rw [hiff, hsum]; omega), UInt16.toNat_add, hsum, UInt16.toNat_one]
    unfold residue
    rw [if_neg (by omega), hone, Nat.mod_eq_of_lt (by omega)]
    omega

/-- **The one's-complement sum is the natural sum with its carries folded in.** -/
theorem toNat_total (ws : List UInt16) : (total ws).toNat = residue 65535 (weight ws) := by
  have hfold : ∀ (acc : UInt16), (ws.foldl plus acc).toNat = residue 65535 (acc.toNat + weight ws) := by
    induction ws with
    | nil =>
      intro acc
      have := acc.toNat_lt
      rw [weight_nil, Nat.add_zero, residue_of_le (by omega)]
      rfl
    | cons w ws ih =>
      intro acc
      rw [List.foldl_cons, ih, toNat_plus, residue_residue_add, weight_cons, Nat.add_assoc]
  have h := hfold 0
  rwa [UInt16.toNat_zero, Nat.zero_add] at h

/-- The order of the words does not matter. -/
theorem total_perm {vs ws : List UInt16} (h : weight vs = weight ws) : total vs = total ws := by
  apply UInt16.toNat_inj.mp
  rw [toNat_total, toNat_total, h]

/-! ## Checksums -/

/-- The checksum to send with these words: the complement of their sum, and 0xFFFF in place of 0. -/
def checksum (ws : List UInt16) : UInt16 := if ~~~total ws = 0 then 0xFFFF else ~~~total ws

/-- **The checksum is the one word that is not zero with which the words add up.** -/
theorem total_eq_top_iff {ws : List UInt16} (hws : 0 < weight ws) (w : UInt16) :
    (w ≠ 0 ∧ total (w :: ws) = 0xFFFF) ↔ w = checksum ws := by
  have hw := w.toNat_lt
  have hzero : w ≠ 0 ↔ w.toNat ≠ 0 := not_congr UInt16.toNat_inj.symm
  have htop : total (w :: ws) = 0xFFFF ↔ residue 65535 (w.toNat + weight ws) = 65535 := by
    rw [← UInt16.toNat_inj, toNat_total, weight_cons]
    rfl
  have hnot : (~~~total ws).toNat = 65535 - residue 65535 (weight ws) := by
    rw [UInt16.toNat_not, toNat_total]
    rfl
  have hnotzero : ~~~total ws = 0 ↔ residue 65535 (weight ws) = 65535 := by
    have hle := residue_le (m := 65535) (by omega) (weight ws)
    rw [← UInt16.toNat_inj, hnot, UInt16.toNat_zero]
    omega
  have hcheck : (checksum ws).toNat =
      if residue 65535 (weight ws) = 65535 then 65535 else 65535 - residue 65535 (weight ws) := by
    unfold checksum
    by_cases h : ~~~total ws = 0
    · rw [if_pos h, if_pos (hnotzero.mp h)]
      rfl
    · rw [if_neg h, if_neg (fun hr => h (hnotzero.mpr hr)), hnot]
  rw [hzero, htop, ← UInt16.toNat_inj, hcheck, Nat.add_comm, ← residue_residue_add]
  have hle := residue_le (m := 65535) (by omega) (weight ws)
  have hpos : 0 < residue 65535 (weight ws) := by
    unfold residue
    rw [if_neg (by omega)]
    omega
  generalize residue 65535 (weight ws) = r at hle hpos
  unfold residue
  split <;> split <;> omega

/-! ## The words of an octet string -/

/-- The 16-bit words of an octet string, an odd last octet followed by a zero. -/
def words : Bytes → List UInt16
  | [] => []
  | [hi] => [ofBe16 hi 0]
  | hi :: lo :: rest => ofBe16 hi lo :: words rest

theorem length_words (bs : Bytes) : (words bs).length = (bs.length + 1) / 2 := by
  induction bs using words.induct with
  | case1 => rfl
  | case2 hi => simp [words]
  | case3 hi lo rest ih =>
    rw [words, List.length_cons, ih, List.length_cons, List.length_cons]
    omega

/-- Words after whole words. -/
theorem words_append {front : Bytes} (h : front.length % 2 = 0) (rest : Bytes) :
    words (front ++ rest) = words front ++ words rest := by
  induction front using words.induct with
  | case1 => rfl
  | case2 hi => simp at h
  | case3 hi lo front ih =>
    have he : front.length % 2 = 0 := by
      simp only [List.length_cons] at h
      omega
    rw [List.cons_append, List.cons_append, words, words, ih he, List.cons_append]

end OnesComplement
