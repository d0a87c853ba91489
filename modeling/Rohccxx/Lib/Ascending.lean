import Mathlib.Data.Finset.Card
import Mathlib.Data.List.Sort
import Mathlib.Order.RelClasses

/-!
# Ascending lists

Lists that ascend strictly along a total order stand for finite sets: such a list is known by its members. Merging two of
them is their union, so the merge inherits the laws of the union.

* `pairwise_snoc` — one more entry at the end, above the last one.
* `merge`, `mem_merge`, `pairwise_merge`, `length_merge` — the union of two ascending lists, and its size.
* `merge_comm`, `merge_self`, `merge_assoc`.
-/

set_option autoImplicit false

namespace Ascending

variable {α : Type} {r : α → α → Prop} {xs ys zs : List α} {x : α}

/-- The entries of two ascending lists in order, each once. -/
def merge (r : α → α → Prop) [DecidableRel r] : List α → List α → List α
  | [], ys => ys
  | x :: xs, [] => x :: xs
  | x :: xs, y :: ys =>
    if r x y then x :: merge r xs (y :: ys)
    else if r y x then y :: merge r (x :: xs) ys
    else x :: merge r xs ys
termination_by xs ys => xs.length + ys.length

theorem merge_nil (r : α → α → Prop) [DecidableRel r] (xs : List α) : merge r xs [] = xs := by
  cases xs <;> rw [merge]

/-! ## Order -/

/-- An entry above the last one of an ascending list continues it. -/
theorem pairwise_snoc [IsTrans α r] (h : xs.Pairwise r) (hlast : ∀ y ∈ xs.getLast?, r y x) :
    (xs ++ [x]).Pairwise r := by
  refine List.pairwise_append.mpr ⟨h, List.pairwise_singleton r x, fun y hy z hz => ?_⟩
  rw [List.mem_singleton.mp hz]
  rcases List.eq_nil_or_concat xs with rfl | ⟨front, last, rfl⟩
  · cases hy
  · rw [List.concat_eq_append] at h hy hlast
    have hl : r last x := hlast last (by simp)
    rcases List.mem_append.mp hy with hfront | hlast'
    · exact IsTrans.trans y last x ((List.pairwise_append.mp h).2.2 y hfront last List.mem_cons_self) hl
    · rw [List.mem_singleton.mp hlast']
      exact hl

/-- What continues an ascending list is above its last entry. -/
theorem above_last (h : (xs ++ x :: ys).Pairwise r) : ∀ y ∈ xs.getLast?, r y x :=
  fun y hy => (List.pairwise_append.mp h).2.2 y (List.mem_of_mem_getLast? hy) x List.mem_cons_self

section Merge

variable [IsStrictTotalOrder α r]

theorem eq_of_neither {a b : α} (hab : ¬r a b) (hba : ¬r b a) : a = b := Std.Trichotomous.trichotomous a b hab hba

variable [DecidableRel r]

theorem mem_merge : x ∈ merge r xs ys ↔ x ∈ xs ∨ x ∈ ys := by
  fun_induction merge r xs ys with
  | case1 ys => simp
  | case2 a as => simp
  | case3 a as b bs hab ih =>
    rw [List.mem_cons, ih, List.mem_cons (a := x) (b := a), or_assoc]
  | case4 a as b bs hab hba ih =>
    rw [List.mem_cons, ih, List.mem_cons (a := x) (b := b), or_left_comm]
  | case5 a as b bs hab hba ih =>
    obtain rfl : a = b := eq_of_neither hab hba
    rw [List.mem_cons, ih, List.mem_cons, List.mem_cons]
    tauto

theorem pairwise_merge (hx : xs.Pairwise r) (hy : ys.Pairwise r) : (merge r xs ys).Pairwise r := by
  fun_induction merge r xs ys with
  | case1 ys => exact hy
  | case2 a as => exact hx
  | case3 a as b bs hab ih =>
    obtain ⟨ha, has⟩ := List.pairwise_cons.mp hx
    refine List.pairwise_cons.mpr ⟨fun c hc => ?_, ih has hy⟩
    rcases mem_merge.mp hc with hc | hc
    · exact ha c hc
    · rcases List.mem_cons.mp hc with rfl | hc
      · exact hab
      · exact IsTrans.trans a b c hab ((List.pairwise_cons.mp hy).1 c hc)
  | case4 a as b bs hab hba ih =>
    obtain ⟨hb, hbs⟩ := List.pairwise_cons.mp hy
    refine List.pairwise_cons.mpr ⟨fun c hc => ?_, ih hx hbs⟩
    rcases mem_merge.mp hc with hc | hc
    · rcases List.mem_cons.mp hc with rfl | hc
      · exact hba
      · exact IsTrans.trans b a c hba ((List.pairwise_cons.mp hx).1 c hc)
    · exact hb c hc
  | case5 a as b bs hab hba ih =>
    obtain rfl : a = b := eq_of_neither hab hba
    obtain ⟨ha, has⟩ := List.pairwise_cons.mp hx
    obtain ⟨hb, hbs⟩ := List.pairwise_cons.mp hy
    refine List.pairwise_cons.mpr ⟨fun c hc => ?_, ih has hbs⟩
    rcases mem_merge.mp hc with hc | hc
    · exact ha c hc
    · exact hb c hc

/-- A merged list is known by its members. -/
theorem merge_eq_of_mem (hx : xs.Pairwise r) (hy : ys.Pairwise r) (hz : zs.Pairwise r)
    (h : ∀ a, a ∈ xs ∨ a ∈ ys ↔ a ∈ zs) : merge r xs ys = zs :=
  (pairwise_merge hx hy).eq_of_mem_iff hz fun a => mem_merge.trans (h a)

theorem merge_comm (hx : xs.Pairwise r) (hy : ys.Pairwise r) : merge r xs ys = merge r ys xs :=
  merge_eq_of_mem hx hy (pairwise_merge hy hx) fun _ => or_comm.trans mem_merge.symm

theorem merge_self (hx : xs.Pairwise r) : merge r xs xs = xs := merge_eq_of_mem hx hx hx fun _ => or_self_iff

theorem merge_assoc (hx : xs.Pairwise r) (hy : ys.Pairwise r) (hz : zs.Pairwise r) :
    merge r (merge r xs ys) zs = merge r xs (merge r ys zs) :=
  merge_eq_of_mem (pairwise_merge hx hy) hz (pairwise_merge hx (pairwise_merge hy hz)) fun a => by
    rw [mem_merge, mem_merge, mem_merge, or_assoc]

variable [DecidableEq α]

theorem toFinset_merge : (merge r xs ys).toFinset = xs.toFinset ∪ ys.toFinset := by
  ext a
  rw [List.mem_toFinset, mem_merge, Finset.mem_union, List.mem_toFinset, List.mem_toFinset]

theorem length_merge (hx : xs.Pairwise r) (hy : ys.Pairwise r) :
    (merge r xs ys).length = (xs.toFinset ∪ ys.toFinset).card := by
  rw [← toFinset_merge (r := r), List.toFinset_card_of_nodup (pairwise_merge hx hy).nodup]

end Merge

end Ascending
