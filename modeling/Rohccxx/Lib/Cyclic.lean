import Mathlib.Algebra.Order.Ring.Int
import Mathlib.Data.Int.ModEq

/-!
# Numbers on a cycle

The integers modulo `M`, as the numbers from 0 up to `M`. An interval of length `R` on the cycle starts at `l` and may wrap
around; where `R` divides `M` it holds exactly one number of each residue modulo `R` (`existsUnique_mem`). An interval
that reaches just below `half` under a reference and `half` above it holds, of the numbers of a residue, the one closest
to the reference, and of two that are equally close the upper one (`dist_le`, `eq_of_dist_eq`).
-/

set_option autoImplicit false

namespace Cyclic

variable {M R l u v x r half : ℤ}

/-! ## Intervals -/

/-- The numbers less than `R` above `l`. -/
structure Mem (M l R v : ℤ) : Prop where
  nonneg : 0 ≤ v
  lt : v < M
  above : (v - l) % M < R

theorem Mem.mod_eq (h : Mem M l R v) : v % M = v := Int.emod_eq_of_lt h.nonneg h.lt

/-- How far a number of the interval lies above the start is known from its residue. -/
theorem Mem.above_eq (h : Mem M l R v) (hM : 0 < M) (hR : R ∣ M) : (v - l) % M = (v - l) % R := by
  rw [← Int.emod_emod_of_dvd (v - l) hR]
  exact (Int.emod_eq_of_lt (Int.emod_nonneg _ (by omega)) h.above).symm

/-- Two numbers of the interval with the same residue are equal. -/
theorem Mem.eq_of_mod_eq (hu : Mem M l R u) (hv : Mem M l R v) (hM : 0 < M) (hR : R ∣ M) (h : u % R = v % R) : u = v := by
  have hsub : (u - l) % M = (v - l) % M := by
    rw [hu.above_eq hM hR, hv.above_eq hM hR]
    exact Int.ModEq.sub_right l h
  have hmod : u % M = v % M := by
    have := Int.ModEq.add_right l hsub
    rwa [Int.sub_add_cancel, Int.sub_add_cancel] at this
  rwa [hu.mod_eq, hv.mod_eq] at hmod

/-- The number of the interval with a given residue. -/
theorem exists_mem (l x : ℤ) (hM : 0 < M) (hpos : 0 < R) (hR : R ∣ M) : ∃ v, Mem M l R v ∧ v % R = x % R := by
  refine ⟨(l + (x - l) % R) % M, ⟨Int.emod_nonneg _ (by omega), Int.emod_lt_of_pos _ hM, ?_⟩, ?_⟩
  · have hle := Int.le_of_dvd hM hR
    have hlt := Int.emod_lt_of_pos (x - l) hpos
    have hnn := Int.emod_nonneg (x - l) (show R ≠ 0 by omega)
    rw [Int.emod_sub_emod, add_sub_cancel_left, Int.emod_eq_of_lt hnn (by omega)]
    exact hlt
  · rw [Int.emod_emod_of_dvd _ hR, Int.add_emod_emod, add_sub_cancel]

theorem existsUnique_mem (l x : ℤ) (hM : 0 < M) (hpos : 0 < R) (hR : R ∣ M) : ∃! v, Mem M l R v ∧ v % R = x % R := by
  obtain ⟨v, hv, hx⟩ := exists_mem l x hM hpos hR
  exact ⟨v, ⟨hv, hx⟩, fun u hu => hu.1.eq_of_mod_eq hv hM hR (hu.2.trans hx.symm)⟩

/-! ## Distances -/

/-- The shorter way round between two numbers. -/
def dist (M a b : ℤ) : ℤ := min ((a - b) % M) ((b - a) % M)

theorem neg_mod (hM : 0 < M) (a b : ℤ) : (b - a) % M = if (a - b) % M = 0 then 0 else M - (a - b) % M := by
  have hlt := Int.emod_lt_of_pos (a - b) hM
  have hnn := Int.emod_nonneg (a - b) (show M ≠ 0 by omega)
  have hneg : (b - a) % M = (M - (a - b) % M) % M := by
    rw [Int.sub_emod_emod, show M - (a - b) = b - a + M by omega, Int.add_emod_right]
  rw [hneg]
  split
  · rw [‹(a - b) % M = 0›, Int.sub_zero, Int.emod_self]
  · exact Int.emod_eq_of_lt (by omega) (by omega)

/-- The distance is known from how far the one lies above the other. -/
theorem dist_eq (hM : 0 < M) (a b : ℤ) : dist M a b = min ((a - b) % M) (M - (a - b) % M) := by
  have hlt := Int.emod_lt_of_pos (a - b) hM
  unfold dist
  rw [neg_mod hM]
  split <;> omega

/-- A multiple of `n` that is positive is at least `n`. -/
theorem le_of_mul_pos {n q : ℤ} (hn : 0 < n) (h : 0 < n * q) : n ≤ n * q := by
  have hq : 0 < q := (mul_pos_iff_of_pos_left hn).mp h
  exact le_mul_of_one_le_right (by omega) hq

/-- What lies up to `half` above the reference or less than that below it. -/
theorem Mem.near (h : Mem M (r - (half - 1)) (2 * half) v) (hM : 0 < M) (hhalf : 0 < half) :
    (v - r) % M ≤ half ∨ M - half < (v - r) % M := by
  have habove := h.above
  have hlt := Int.emod_lt_of_pos (v - r) hM
  have hnn := Int.emod_nonneg (v - r) (show M ≠ 0 by omega)
  rw [show v - (r - (half - 1)) = v - r + (half - 1) by omega, ← Int.emod_add_emod] at habove
  by_contra hfar
  rw [Int.emod_eq_of_lt (by omega) (by omega)] at habove
  omega

/-- The number of the interval is the closest of its residue, and the upper one of two that are equally close. -/
theorem Mem.closest (hv : Mem M (r - (half - 1)) (2 * half) v) (hhalf : 0 < half) (hR : 2 * half ∣ M) (hu₀ : 0 ≤ u)
    (hu : u < M) (h : u % (2 * half) = v % (2 * half)) :
    u = v ∨ dist M v r < dist M u r ∨ dist M v r = dist M u r ∧ (v - r) % M = half := by
  have hM : 0 < M := by omega
  have hnear := hv.near hM hhalf
  have hvn := Int.emod_nonneg (v - r) (show M ≠ 0 by omega)
  have hvl := Int.emod_lt_of_pos (v - r) hM
  have hun := Int.emod_nonneg (u - r) (show M ≠ 0 by omega)
  have hul := Int.emod_lt_of_pos (u - r) hM
  have hmod : (u - r) % M % (2 * half) = (v - r) % M % (2 * half) := by
    rw [Int.emod_emod_of_dvd _ hR, Int.emod_emod_of_dvd _ hR]
    exact Int.ModEq.sub_right r h
  obtain ⟨q, hq⟩ := Int.ModEq.dvd hmod.symm
  obtain ⟨m, hm⟩ := hR
  rw [dist_eq hM, dist_eq hM]
  generalize ha : (v - r) % M = a at *
  generalize hb : (u - r) % M = b at *
  by_cases heq : b = a
  · left
    have hsame : u % M = v % M := by
      have := Int.ModEq.add_right r (hb.trans (heq.trans ha.symm) : (u - r) % M = (v - r) % M)
      rwa [Int.sub_add_cancel, Int.sub_add_cancel] at this
    rwa [Int.emod_eq_of_lt hu₀ hu, hv.mod_eq] at hsame
  · right
    -- The two differ by a multiple of the length, and so do they the other way round.
    have hup : b > a → 2 * half ≤ b - a := fun hlt => by
      rw [hq]
      exact le_of_mul_pos (by omega) (by omega)
    have hdown : b < a → 2 * half ≤ a - b := fun hlt => by
      rw [show a - b = 2 * half * -q by rw [Int.mul_neg, ← hq]; omega]
      exact le_of_mul_pos (by omega) (by rw [Int.mul_neg, ← hq]; omega)
    have hround : 2 * half ≤ M - (b - a) := by
      rw [hq, hm, ← Int.mul_sub]
      refine le_of_mul_pos (by omega) ?_
      rw [Int.mul_sub, ← hq, ← hm]
      omega
    have hround' : 2 * half ≤ M - (a - b) := by
      rw [show M - (a - b) = 2 * half * (m + q) by rw [Int.mul_add, ← hq, ← hm]; omega]
      refine le_of_mul_pos (by omega) ?_
      rw [Int.mul_add, ← hq, ← hm]
      omega
    omega

/-! ## The closest of three -/

/-- Of three numbers the one closest to the reference; the first stays unless another one is strictly closer. -/
def closestOfThree (M r c₀ c₁ c₂ : ℤ) : ℤ :=
  let best := if dist M c₁ r < dist M c₀ r then c₁ else c₀
  let bestDist := if dist M c₁ r < dist M c₀ r then dist M c₁ r else dist M c₀ r
  if dist M c₂ r < bestDist then c₂ else best

/-- **Rounding to the nearest.** Three neighbours of a residue, the first of them the one behind the multiple of the length
that `half` above the reference rounds down to: the closest of them is the number of that residue in the interval. -/
theorem mem_closestOfThree {c₀ c₁ c₂ : ℤ} (hhalf : 0 < half) (hR : 2 * half ∣ M) (hlt : 2 * half < M)
    (h₀ : 0 ≤ c₀ ∧ c₀ < M) (h₁ : 0 ≤ c₁ ∧ c₁ < M) (h₂ : 0 ≤ c₂ ∧ c₂ < M) (hx₀ : 0 ≤ x) (hx : x < 2 * half)
    (hc₀ : c₀ ≡ r + half - (r + half) % (2 * half) + x [ZMOD M]) (hc₁ : c₁ ≡ c₀ + 2 * half [ZMOD M])
    (hc₂ : c₂ ≡ c₀ - 2 * half [ZMOD M]) :
    Mem M (r - (half - 1)) (2 * half) (closestOfThree M r c₀ c₁ c₂) ∧ closestOfThree M r c₀ c₁ c₂ % (2 * half) = x := by
  have hM : 0 < M := by omega
  have hfour : 4 * half ≤ M := by
    obtain ⟨m, rfl⟩ := hR
    have := le_of_mul_pos (n := 2 * half) (q := m - 1) (by omega) (by rw [Int.mul_sub]; omega)
    rw [Int.mul_sub] at this
    omega
  have hround := Int.emod_nonneg (r + half) (show 2 * half ≠ 0 by omega)
  have hround' := Int.emod_lt_of_pos (r + half) (show 0 < 2 * half by omega)
  have hres₀ : c₀ % (2 * half) = x := by
    have hdiv : r + half - (r + half) % (2 * half) + x ≡ x [ZMOD 2 * half] := by
      have := Int.ModEq.add_right x (Int.ModEq.sub_left (r + half) (Int.mod_modEq (r + half) (2 * half)))
      rwa [Int.sub_self, Int.zero_add] at this
    exact Eq.trans ((hc₀.of_dvd hR).trans hdiv) (Int.emod_eq_of_lt hx₀ hx)
  have hres₁ : c₁ % (2 * half) = c₀ % (2 * half) := (hc₁.of_dvd hR).trans (Int.add_emod_right _ _)
  have hres₂ : c₂ % (2 * half) = c₀ % (2 * half) := (hc₂.of_dvd hR).trans (Int.sub_emod_right _ _)
  have habove : (c₀ - (r - (half - 1))) % M = 2 * half - 1 - (r + half) % (2 * half) + x := by
    rw [Int.ModEq.sub_right (r - (half - 1)) hc₀,
      show r + half - (r + half) % (2 * half) + x - (r - (half - 1)) = 2 * half - 1 - (r + half) % (2 * half) + x by omega]
    exact Int.emod_eq_of_lt (by omega) (by omega)
  by_cases hin : (c₀ - (r - (half - 1))) % M < 2 * half
  · have hmem : Mem M (r - (half - 1)) (2 * half) c₀ := ⟨h₀.1, h₀.2, hin⟩
    have hno : ∀ c, 0 ≤ c → c < M → c % (2 * half) = c₀ % (2 * half) → ¬dist M c r < dist M c₀ r := by
      intro c hc hcM hmod hless
      rcases hmem.closest hhalf hR hc hcM hmod with rfl | h | h
      · omega
      · omega
      · omega
    have hpick : closestOfThree M r c₀ c₁ c₂ = c₀ := by
      unfold closestOfThree
      dsimp only
      rw [if_neg (hno c₁ h₁.1 h₁.2 hres₁), if_neg (hno c₁ h₁.1 h₁.2 hres₁), if_neg (hno c₂ h₂.1 h₂.2 hres₂)]
    rw [hpick]
    exact ⟨hmem, hres₀⟩
  · have habove₂ : (c₂ - (r - (half - 1))) % M = (c₀ - (r - (half - 1))) % M - 2 * half := by
      rw [Int.ModEq.sub_right (r - (half - 1)) hc₂,
        show c₀ - 2 * half - (r - (half - 1)) = c₀ - (r - (half - 1)) - 2 * half by omega, ← Int.emod_sub_emod]
      exact Int.emod_eq_of_lt (by omega) (by omega)
    have hmem : Mem M (r - (half - 1)) (2 * half) c₂ := ⟨h₂.1, h₂.2, by omega⟩
    have hbelow : (c₂ - r) % M ≠ half := by
      intro htop
      have : (c₂ - (r - (half - 1))) % M = 2 * half - 1 := by
        rw [show c₂ - (r - (half - 1)) = c₂ - r + (half - 1) by omega, ← Int.emod_add_emod, htop]
        rw [show half + (half - 1) = 2 * half - 1 by omega]
        exact Int.emod_eq_of_lt (by omega) (by omega)
      omega
    have hless : ∀ c, 0 ≤ c → c < M → c % (2 * half) = c₂ % (2 * half) → c = c₂ ∨ dist M c₂ r < dist M c r := by
      intro c hc hcM hmod
      rcases hmem.closest hhalf hR hc hcM hmod with h | h | h
      · exact Or.inl h
      · exact Or.inr h
      · exact absurd h.2 hbelow
    have hless₀ : dist M c₂ r < dist M c₀ r := by
      rcases hless c₀ h₀.1 h₀.2 hres₂.symm with h | h
      · rw [← h] at habove₂
        omega
      · exact h
    have hpick : closestOfThree M r c₀ c₁ c₂ = c₂ := by
      unfold closestOfThree
      dsimp only
      rcases hless c₁ h₁.1 h₁.2 (hres₁.trans hres₂.symm) with h | h
      · rw [h, if_pos hless₀, if_pos hless₀, if_neg (lt_irrefl _)]
      · rw [if_pos (by split <;> assumption)]
    rw [hpick]
    exact ⟨hmem, hres₂.trans hres₀⟩

end Cyclic
