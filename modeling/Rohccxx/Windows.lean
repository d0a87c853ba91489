import Rohccxx.Encoding
import Rohccxx.Lib.Cyclic

/-!
# Interpretation intervals

What the two LSB decoders compute, on the cycle of the values of a field. `decode_lsb_with_p` answers the one value of the
interval of length `2^width` from `reference - p` on that has the given low bits, and fails on widths, offsets and low
bits that do not go together. `LsbWindow::decode` answers the value closest to its reference, which is the one of the
interval for `p = 2^(k-1) - 1`.
-/

set_option autoImplicit false

namespace Rohccxx

/-! ## The interval decoder -/

/-- Widths, offset and low bits that go together. -/
structure LsbValid (lsb width p fieldWidth : Nat) : Prop where
  pos : 1 ≤ width
  le : width ≤ fieldWidth
  field : fieldWidth ≤ 32
  offset : p < 2 ^ width
  bits : lsb < 2 ^ width

/-- The values of the field that lie in the interval from `reference - p` on. -/
structure InLsbInterval (width reference p fieldWidth v : Nat) : Prop where
  lt : v < 2 ^ fieldWidth
  near : ((v : ℤ) - reference + p) % 2 ^ fieldWidth < 2 ^ width

theorem pow_dvd_pow_int {width fieldWidth : Nat} (h : width ≤ fieldWidth) : (2 : ℤ) ^ width ∣ 2 ^ fieldWidth :=
  pow_dvd_pow 2 h

theorem pow_pos_int (n : Nat) : (0 : ℤ) < 2 ^ n := pow_pos (by decide) n

/-- The interval is one of the cycle. -/
theorem inLsbInterval_iff {width reference p fieldWidth v : Nat} : InLsbInterval width reference p fieldWidth v ↔
    Cyclic.Mem (2 ^ fieldWidth) ((reference : ℤ) - p) (2 ^ width) v := by
  have hsub : (v : ℤ) - (reference - p) = v - reference + p := by omega
  constructor
  · rintro ⟨hlt, hnear⟩
    refine ⟨by omega, by exact_mod_cast hlt, ?_⟩
    rw [hsub]
    exact hnear
  · rintro ⟨-, hlt, habove⟩
    rw [hsub] at habove
    exact ⟨by exact_mod_cast hlt, habove⟩

/-- Of the reference only its value in the field counts. -/
theorem decodeLsbWithP_mod_reference (lsb width reference p fieldWidth : Nat) :
    decodeLsbWithP lsb width (reference % 2 ^ fieldWidth) p fieldWidth =
      decodeLsbWithP lsb width reference p fieldWidth := by
  unfold decodeLsbWithP
  dsimp only
  rw [Nat.mod_mod]

/-- The low bits of a value of the interval decode to that value. -/
theorem decodeLsbWithP_of_mem {width reference p fieldWidth v : Nat} (hpos : 1 ≤ width) (hle : width ≤ fieldWidth)
    (hfield : fieldWidth ≤ 32) (hp : p < 2 ^ width) (hv : InLsbInterval width reference p fieldWidth v) :
    decodeLsbWithP (v % 2 ^ width) width reference p fieldWidth = some v := by
  rcases Nat.lt_or_eq_of_le hle with hlt | rfl
  · rw [← decodeLsbWithP_mod_reference]
    have hnn := Int.emod_nonneg ((v : ℤ) - reference + p) (pow_pos_int fieldWidth).ne'
    obtain ⟨t, ht⟩ := Int.eq_ofNat_of_zero_le hnn
    have hnear := hv.near
    rw [ht] at hnear
    refine decodeLsbWithP_eq (t := t) hpos hlt hfield hp hv.lt (Nat.mod_lt _ (Nat.two_pow_pos _)) (by exact_mod_cast hnear) ?_
    -- `t` is how far the value lies above the start of the interval
    have hmod : ((v + p : Nat) : ℤ) ≡ (reference % 2 ^ fieldWidth + t : Nat) [ZMOD 2 ^ fieldWidth] := by
      push_cast
      have hsum : (v : ℤ) + p = reference + (v - reference + p) := by omega
      rw [hsum]
      refine Int.ModEq.add (Int.mod_modEq _ _).symm ?_
      rw [← ht]
      exact (Int.mod_modEq _ _).symm
    exact_mod_cast hmod
  · unfold decodeLsbWithP
    rw [if_neg (by omega)]
    dsimp only
    rw [Nat.mod_mod, if_neg (by omega), if_pos rfl, Nat.mod_eq_of_lt hv.lt]

/-- What does not go together is refused. -/
theorem decodeLsbWithP_eq_none {lsb width reference p fieldWidth : Nat} (h : ¬LsbValid lsb width p fieldWidth) :
    decodeLsbWithP lsb width reference p fieldWidth = none := by
  unfold decodeLsbWithP
  by_cases hw : width = 0 ∨ fieldWidth = 0 ∨ fieldWidth > 32 ∨ width > fieldWidth
  · rw [if_pos hw]
  · rw [if_neg hw]
    dsimp only
    refine if_pos ?_
    by_contra hok
    rw [not_or, not_not] at hok
    refine h ⟨by omega, by omega, by omega, by omega, ?_⟩
    rw [← hok.2]
    exact Nat.mod_lt _ (Nat.two_pow_pos _)

/-- The value with the given low bits. -/
theorem existsUnique_inLsbInterval {lsb width p fieldWidth : Nat} (h : LsbValid lsb width p fieldWidth)
    (reference : Nat) : ∃! v, InLsbInterval width reference p fieldWidth v ∧ v % 2 ^ width = lsb := by
  obtain ⟨v, ⟨hv, hlsb⟩, huniq⟩ := Cyclic.existsUnique_mem ((reference : ℤ) - p) lsb (pow_pos_int fieldWidth)
    (pow_pos_int width) (pow_dvd_pow_int h.le)
  obtain ⟨n, rfl⟩ := Int.eq_ofNat_of_zero_le hv.nonneg
  have hbits : (lsb : ℤ) % 2 ^ width = lsb := Int.emod_eq_of_lt (by omega) (by exact_mod_cast h.bits)
  rw [hbits] at hlsb huniq
  refine ⟨n, ⟨inLsbInterval_iff.mpr hv, by exact_mod_cast hlsb⟩, fun u ⟨hu, hmod⟩ => ?_⟩
  have hu' := huniq u ⟨inLsbInterval_iff.mp hu, by exact_mod_cast hmod⟩
  exact_mod_cast hu'

/-- What the decoder answers is the value of the interval with the given low bits. -/
theorem decodeLsbWithP_eq_some_iff {lsb width reference p fieldWidth : Nat} (v : Nat) :
    decodeLsbWithP lsb width reference p fieldWidth = some v ↔
      LsbValid lsb width p fieldWidth ∧ InLsbInterval width reference p fieldWidth v ∧ v % 2 ^ width = lsb := by
  refine ⟨fun h => ?_, fun ⟨hvalid, hv, hlsb⟩ => ?_⟩
  · by_cases hvalid : LsbValid lsb width p fieldWidth
    · obtain ⟨u, ⟨hu, hlsb⟩, -⟩ := existsUnique_inLsbInterval hvalid reference
      have hdec := decodeLsbWithP_of_mem hvalid.pos hvalid.le hvalid.field hvalid.offset hu
      rw [hlsb, h] at hdec
      cases hdec
      exact ⟨hvalid, hu, hlsb⟩
    · rw [decodeLsbWithP_eq_none hvalid] at h
      cases h
  · rw [← hlsb]
    exact decodeLsbWithP_of_mem hvalid.pos hvalid.le hvalid.field hvalid.offset hv

/-- **The interpretation interval.** The decoder answers exactly the value of the interval with the given low bits, there is
just one, and for a field as wide as the low bits it is them; whatever does not go together is refused. -/
theorem decodeLsbWithP_spec (lsb width reference p fieldWidth : Nat) :
    (∀ v, decodeLsbWithP lsb width reference p fieldWidth = some v ↔
      LsbValid lsb width p fieldWidth ∧ InLsbInterval width reference p fieldWidth v ∧ v % 2 ^ width = lsb) ∧
    (LsbValid lsb width p fieldWidth → ∃! v, InLsbInterval width reference p fieldWidth v ∧ v % 2 ^ width = lsb) ∧
    (LsbValid lsb width p fieldWidth → width = fieldWidth →
      decodeLsbWithP lsb width reference p fieldWidth = some lsb) ∧
    (∀ v, 1 ≤ width → width ≤ fieldWidth → fieldWidth ≤ 32 → p < 2 ^ width →
      InLsbInterval width reference p fieldWidth v →
        decodeLsbWithP (v % 2 ^ width) width reference p fieldWidth = some v) ∧
    (¬LsbValid lsb width p fieldWidth → decodeLsbWithP lsb width reference p fieldWidth = none) := by
  refine ⟨decodeLsbWithP_eq_some_iff, fun h => existsUnique_inLsbInterval h reference, fun h heq => ?_,
    fun v hpos hle hfield hp hv => decodeLsbWithP_of_mem hpos hle hfield hp hv, decodeLsbWithP_eq_none⟩
  subst heq
  have hin : InLsbInterval width reference p width lsb := ⟨h.bits, Int.emod_lt_of_pos _ (pow_pos_int width)⟩
  have hdec := decodeLsbWithP_of_mem h.pos h.le h.field h.offset hin
  rwa [Nat.mod_eq_of_lt h.bits] at hdec

/-- Of the 16 values from 0x000F on, that is one below the reference, 0x0013 has the low bits 3. -/
theorem decodeLsbWithP_spec_pt0 : decodeLsbWithP 3 4 0x10 1 16 = some 0x13 :=
  ((decodeLsbWithP_spec 3 4 0x10 1 16).1 0x13).mpr
    ⟨⟨by decide, by decide, by decide, by decide, by decide⟩, ⟨by decide, by decide⟩, by decide⟩

/-! ## The window decoder -/

namespace LsbWindow

/-- `dist_mod` on 16 bits; the source computes in `int` and narrows. -/
def distMod16 (a b : UInt16) : UInt16 :=
  let d := if a ≥ b then a - b else b - a
  let wrap := ((0xFFFF : UInt32) - d.toUInt32 + 1).toUInt16
  if d < wrap then d else wrap

/-- `LsbWindow<uint16_t>::decode`. What is computed in `int` is narrowed to 16 bits where it is assigned; `ref + half` and
its multiple of the range do not wrap on the way. -/
def decode16 (w : LsbWindow UInt16) (lsb : UInt16) (k : UInt8) : UInt16 :=
  let range := ((1 : UInt32) <<< k.toUInt32).toUInt16
  let half := range >>> 1
  let base := ((w.ref.toUInt32 + half.toUInt32) / range.toUInt32 * range.toUInt32).toUInt16
  let c0 := base + lsb
  let c1 := c0 + range
  let c2 := c0 - range
  let d0 := distMod16 c0 w.ref
  let d1 := distMod16 c1 w.ref
  let best := if d1 < d0 then c1 else c0
  let bestDist := if d1 < d0 then d1 else d0
  if distMod16 c2 w.ref < bestDist then c2 else best

end LsbWindow

/-- Of the values with the low bits `lsb` the one closest to the reference on the cycle of `bits` bits, and of two that are
equally close the one above it. -/
structure NearestValue (bits k reference lsb v : Nat) : Prop where
  lt : v < 2 ^ bits
  low : v % 2 ^ k = lsb
  nearest : ∀ u < 2 ^ bits, u % 2 ^ k = lsb → Cyclic.dist (2 ^ bits) v reference ≤ Cyclic.dist (2 ^ bits) u reference
  upper : ∀ u < 2 ^ bits, u % 2 ^ k = lsb → u ≠ v →
    Cyclic.dist (2 ^ bits) v reference = Cyclic.dist (2 ^ bits) u reference →
      ((v : ℤ) - reference) % 2 ^ bits = 2 ^ (k - 1)

/-- The value of the interval that reaches as far up as down is the nearest one. -/
theorem nearestValue_of_mem {bits k reference lsb v : Nat} (hk : 1 ≤ k) (hlt : k < bits)
    (hv : Cyclic.Mem (2 ^ bits) ((reference : ℤ) - (2 ^ (k - 1) - 1)) (2 * 2 ^ (k - 1)) v) (hlsb : v % 2 ^ k = lsb) :
    NearestValue bits k reference lsb v := by
  have hrange : (2 : ℤ) * 2 ^ (k - 1) = 2 ^ k := by
    rw [← pow_succ', Nat.sub_add_cancel hk]
  have hdvd : (2 : ℤ) * 2 ^ (k - 1) ∣ 2 ^ bits := hrange ▸ pow_dvd_pow_int (Nat.le_of_lt hlt)
  have hclosest : ∀ u : Nat, u < 2 ^ bits → u % 2 ^ k = lsb → u = v ∨
      Cyclic.dist (2 ^ bits) v reference < Cyclic.dist (2 ^ bits) u reference ∨
      Cyclic.dist (2 ^ bits) v reference = Cyclic.dist (2 ^ bits) u reference ∧
        ((v : ℤ) - reference) % 2 ^ bits = 2 ^ (k - 1) := by
    intro u hu hmod
    have hmod' : (u : ℤ) % (2 * 2 ^ (k - 1)) = v % (2 * 2 ^ (k - 1)) := by
      rw [hrange]
      exact_mod_cast hmod.trans hlsb.symm
    rcases hv.closest (pow_pos_int _) hdvd (by omega) (by exact_mod_cast hu) hmod' with h | h
    · exact Or.inl (by exact_mod_cast h)
    · exact Or.inr h
  refine ⟨by exact_mod_cast hv.lt, hlsb, fun u hu hmod => ?_, fun u hu hmod hne heq => ?_⟩
  · rcases hclosest u hu hmod with rfl | h | h
    · exact le_refl _
    · exact le_of_lt h
    · exact le_of_eq h.1
  · rcases hclosest u hu hmod with h | h | h
    · exact absurd h hne
    · exact absurd heq (ne_of_lt h)
    · exact h.2

/-- The interval decoder with `p = 2^(k-1) - 1` answers that value. -/
theorem decodeLsbWithP_of_nearest {bits k reference lsb v : Nat} (hk : 1 ≤ k) (hlt : k < bits) (hbits : bits ≤ 32)
    (hv : Cyclic.Mem (2 ^ bits) ((reference : ℤ) - (2 ^ (k - 1) - 1)) (2 * 2 ^ (k - 1)) v) (hlsb : v % 2 ^ k = lsb) :
    decodeLsbWithP lsb k reference (2 ^ (k - 1) - 1) bits = some v := by
  have hrange : (2 : ℤ) * 2 ^ (k - 1) = 2 ^ k := by
    rw [← pow_succ', Nat.sub_add_cancel hk]
  have hpos := Nat.two_pow_pos (k - 1)
  have hle : 2 ^ (k - 1) ≤ 2 ^ k := Nat.pow_le_pow_right (by decide) (Nat.sub_le k 1)
  rw [← hlsb]
  refine decodeLsbWithP_of_mem hk (Nat.le_of_lt hlt) hbits (by omega) (inLsbInterval_iff.mpr ?_)
  rw [Nat.cast_sub hpos, ← hrange]
  exact_mod_cast hv

/-- The candidates of the window decoder are three neighbours of a residue, from a multiple `base` of the range on. -/
theorem mem_of_candidates {bits k reference lsb base c₀ c₁ c₂ : Nat} (hk : 1 ≤ k) (hlt : k < bits) (hlsb : lsb < 2 ^ k)
    (hbase : (base : ℤ) ≡ (reference + 2 ^ (k - 1) : Nat) - (reference + 2 ^ (k - 1) : Nat) % 2 ^ k [ZMOD 2 ^ bits])
    (h₀ : c₀ = (base + lsb) % 2 ^ bits) (h₁ : c₁ = (c₀ + 2 ^ k) % 2 ^ bits)
    (h₂ : c₂ = (2 ^ bits - 2 ^ k + c₀) % 2 ^ bits) :
    Cyclic.Mem (2 ^ bits) ((reference : ℤ) - (2 ^ (k - 1) - 1)) (2 * 2 ^ (k - 1))
      (Cyclic.closestOfThree (2 ^ bits) reference c₀ c₁ c₂) ∧
    Cyclic.closestOfThree (2 ^ bits) reference c₀ c₁ c₂ % (2 * 2 ^ (k - 1)) = lsb := by
  have hrange : (2 : ℤ) * 2 ^ (k - 1) = 2 ^ k := by
    rw [← pow_succ', Nat.sub_add_cancel hk]
  have hpow : 2 ^ k < 2 ^ bits := Nat.pow_lt_pow_right (by decide) hlt
  have hM := Nat.two_pow_pos bits
  have hin : ∀ c : Nat, (0 : ℤ) ≤ (c % 2 ^ bits : Nat) ∧ ((c % 2 ^ bits : Nat) : ℤ) < 2 ^ bits := by
    intro c
    exact ⟨by omega, by exact_mod_cast Nat.mod_lt c hM⟩
  refine Cyclic.mem_closestOfThree (pow_pos_int _) (hrange ▸ pow_dvd_pow_int (Nat.le_of_lt hlt))
    (by rw [hrange]; exact_mod_cast hpow) (h₀ ▸ hin _) (h₁ ▸ hin _) (h₂ ▸ hin _) (by omega)
    (by rw [hrange]; exact_mod_cast hlsb) ?_ ?_ ?_
  · rw [hrange, h₀]
    push_cast
    refine (Int.mod_modEq _ _).trans (Int.ModEq.add_right _ ?_)
    exact_mod_cast hbase
  · rw [hrange, h₁]
    push_cast
    exact Int.mod_modEq _ _
  · rw [hrange, h₂]
    push_cast [Nat.le_of_lt hpow]
    refine (Int.mod_modEq _ _).trans ?_
    exact Int.modEq_iff_dvd.mpr ⟨-1, by omega⟩

/-- Rounding down to a multiple of the range, before or after the sum is reduced. -/
theorem base_modEq {M range x : Nat} (hR : range ∣ M) :
    ((x / range * range : Nat) : ℤ) ≡ x - x % range [ZMOD M] ∧
      ((x % M / range * range : Nat) : ℤ) ≡ x - x % range [ZMOD M] := by
  have hdiv : ∀ y : Nat, ((y / range * range : Nat) : ℤ) = y - y % range := by
    intro y
    have := Nat.div_add_mod' y range
    omega
  refine ⟨?_, ?_⟩
  · rw [hdiv]
  · rw [hdiv, ← Int.natCast_emod, Nat.mod_mod_of_dvd _ hR, Int.natCast_emod, Int.natCast_emod]
    exact Int.ModEq.sub_right _ (Int.mod_modEq _ _)

namespace LsbWindow

theorem toNat_distMod (a b : UInt32) : ((distMod a b).toNat : ℤ) = Cyclic.dist (2 ^ 32) a.toNat b.toNat := by
  have ha := a.toNat_lt
  have hb := b.toNat_lt
  have hwrap : ∀ d : UInt32, (~~~(0 : UInt32) - d + 1).toNat = (2 ^ 32 - d.toNat) % 2 ^ 32 := by
    intro d
    have hd := d.toNat_lt
    rw [UInt32.toNat_add, UInt32.toNat_sub, show (~~~(0 : UInt32)).toNat = 2 ^ 32 - 1 from rfl, UInt32.toNat_one]
    omega
  unfold distMod Cyclic.dist
  dsimp only
  rw [apply_ite UInt32.toNat, hwrap]
  simp only [UInt32.lt_iff_toNat_lt, hwrap, ge_iff_le, UInt32.le_iff_toNat_le]
  by_cases h : b.toNat ≤ a.toNat
  · rw [if_pos h, UInt32.toNat_sub_of_le _ _ h]
    split <;> omega
  · rw [if_neg h, UInt32.toNat_sub_of_le _ _ (UInt32.le_iff_toNat_le.mpr (by omega))]
    split <;> omega

theorem toNat_distMod16 (a b : UInt16) : ((distMod16 a b).toNat : ℤ) = Cyclic.dist (2 ^ 16) a.toNat b.toNat := by
  have ha := a.toNat_lt
  have hb := b.toNat_lt
  have hwrap : ∀ d : UInt16, ((0xFFFF : UInt32) - d.toUInt32 + 1).toUInt16.toNat = (2 ^ 16 - d.toNat) % 2 ^ 16 := by
    intro d
    have hd := d.toNat_lt
    rw [UInt32.toNat_toUInt16, UInt32.toNat_add, UInt32.toNat_sub, UInt16.toNat_toUInt32,
      show (0xFFFF : UInt32).toNat = 2 ^ 16 - 1 from rfl, UInt32.toNat_one]
    omega
  unfold distMod16 Cyclic.dist
  dsimp only
  rw [apply_ite UInt16.toNat, hwrap]
  simp only [UInt16.lt_iff_toNat_lt, hwrap, ge_iff_le, UInt16.le_iff_toNat_le]
  by_cases h : b.toNat ≤ a.toNat
  · rw [if_pos h, UInt16.toNat_sub_of_le _ _ h]
    split <;> omega
  · rw [if_neg h, UInt16.toNat_sub_of_le _ _ (UInt16.le_iff_toNat_le.mpr (by omega))]
    split <;> omega

/-- The choice among the candidates is that of the closest of three. -/
theorem toNat_decode (w : LsbWindow UInt32) (lsb : UInt32) (k : UInt8) {c₀ range : UInt32}
    (hrange : (1 : UInt32) <<< k.toUInt32 = range) (h₀ : (w.ref + range >>> 1) / range * range + lsb = c₀) :
    ((decode w lsb k).toNat : ℤ) =
      Cyclic.closestOfThree (2 ^ 32) w.ref.toNat c₀.toNat (c₀ + range).toNat (c₀ - range).toNat := by
  unfold decode Cyclic.closestOfThree
  dsimp only
  rw [hrange, h₀]
  simp only [← toNat_distMod, Nat.cast_lt, ← UInt32.lt_iff_toNat_lt]
  by_cases h₁ : distMod (c₀ + range) w.ref < distMod c₀ w.ref
  · simp only [if_pos h₁, Nat.cast_lt, ← UInt32.lt_iff_toNat_lt]
    split <;> rfl
  · simp only [if_neg h₁, Nat.cast_lt, ← UInt32.lt_iff_toNat_lt]
    split <;> rfl

theorem toNat_decode16 (w : LsbWindow UInt16) (lsb : UInt16) (k : UInt8) {c₀ range : UInt16}
    (hrange : ((1 : UInt32) <<< k.toUInt32).toUInt16 = range)
    (h₀ : ((w.ref.toUInt32 + (range >>> 1).toUInt32) / range.toUInt32 * range.toUInt32).toUInt16 + lsb = c₀) :
    ((decode16 w lsb k).toNat : ℤ) =
      Cyclic.closestOfThree (2 ^ 16) w.ref.toNat c₀.toNat (c₀ + range).toNat (c₀ - range).toNat := by
  unfold decode16 Cyclic.closestOfThree
  dsimp only
  rw [hrange, h₀]
  simp only [← toNat_distMod16, Nat.cast_lt, ← UInt16.lt_iff_toNat_lt]
  by_cases h₁ : distMod16 (c₀ + range) w.ref < distMod16 c₀ w.ref
  · simp only [if_pos h₁, Nat.cast_lt, ← UInt16.lt_iff_toNat_lt]
    split <;> rfl
  · simp only [if_neg h₁, Nat.cast_lt, ← UInt16.lt_iff_toNat_lt]
    split <;> rfl

/-- The value of the window decoder lies in the interval and has the low bits. -/
theorem mem_decode (w : LsbWindow UInt32) {lsb : UInt32} {k : UInt8} (hk : 1 ≤ k.toNat) (hlt : k.toNat < 32)
    (hlsb : lsb.toNat < 2 ^ k.toNat) :
    Cyclic.Mem (2 ^ 32) ((w.ref.toNat : ℤ) - (2 ^ (k.toNat - 1) - 1)) (2 * 2 ^ (k.toNat - 1)) (decode w lsb k).toNat ∧
      ((decode w lsb k).toNat : ℤ) % (2 * 2 ^ (k.toNat - 1)) = lsb.toNat := by
  have hpow : 2 ^ k.toNat < 2 ^ 32 := Nat.pow_lt_pow_right (by decide) hlt
  have hrange : ((1 : UInt32) <<< k.toUInt32).toNat = 2 ^ k.toNat := by
    rw [UInt32.toNat_shiftLeft, UInt8.toNat_toUInt32, UInt32.toNat_one, Nat.mod_eq_of_lt hlt, Nat.one_shiftLeft,
      Nat.mod_eq_of_lt hpow]
  have hhalf : ((1 : UInt32) <<< k.toUInt32 >>> 1).toNat = 2 ^ (k.toNat - 1) := by
    rw [UInt32.toNat_shiftRight, hrange, UInt32.toNat_one, Nat.shiftRight_eq_div_pow]
    exact Nat.pow_div hk (by decide)
  have href := w.ref.toNat_lt
  rw [toNat_decode w lsb k rfl rfl]
  refine mem_of_candidates hk hlt hlsb (base_modEq (Nat.pow_dvd_pow 2 (Nat.le_of_lt hlt))).2 ?_ ?_ ?_
  · have hle := Nat.div_mul_le_self ((w.ref.toNat + 2 ^ (k.toNat - 1)) % 2 ^ 32) (2 ^ k.toNat)
    rw [UInt32.toNat_add, UInt32.toNat_mul, UInt32.toNat_div, UInt32.toNat_add, hrange, hhalf,
      Nat.mod_eq_of_lt (a := _ / _ * _) (by omega)]
  · rw [UInt32.toNat_add, hrange]
  · rw [UInt32.toNat_sub, hrange]

theorem mem_decode16 (w : LsbWindow UInt16) {lsb : UInt16} {k : UInt8} (hk : 1 ≤ k.toNat) (hlt : k.toNat < 16)
    (hlsb : lsb.toNat < 2 ^ k.toNat) :
    Cyclic.Mem (2 ^ 16) ((w.ref.toNat : ℤ) - (2 ^ (k.toNat - 1) - 1)) (2 * 2 ^ (k.toNat - 1)) (decode16 w lsb k).toNat ∧
      ((decode16 w lsb k).toNat : ℤ) % (2 * 2 ^ (k.toNat - 1)) = lsb.toNat := by
  have hpow : 2 ^ k.toNat < 2 ^ 16 := Nat.pow_lt_pow_right (by decide) hlt
  have hrange : ((1 : UInt32) <<< k.toUInt32).toUInt16.toNat = 2 ^ k.toNat := by
    rw [UInt32.toNat_toUInt16, UInt32.toNat_shiftLeft, UInt8.toNat_toUInt32, UInt32.toNat_one,
      Nat.mod_eq_of_lt (a := k.toNat) (by omega), Nat.one_shiftLeft, Nat.mod_eq_of_lt (a := 2 ^ k.toNat) (by omega),
      Nat.mod_eq_of_lt hpow]
  have hhalf : (((1 : UInt32) <<< k.toUInt32).toUInt16 >>> 1).toNat = 2 ^ (k.toNat - 1) := by
    rw [UInt16.toNat_shiftRight, hrange, UInt16.toNat_one, Nat.shiftRight_eq_div_pow]
    exact Nat.pow_div hk (by decide)
  have hhalf' : 2 ^ (k.toNat - 1) ≤ 2 ^ k.toNat := Nat.pow_le_pow_right (by decide) (Nat.sub_le _ _)
  have href := w.ref.toNat_lt
  rw [toNat_decode16 w lsb k rfl rfl]
  refine mem_of_candidates hk hlt hlsb (base_modEq (Nat.pow_dvd_pow 2 (Nat.le_of_lt hlt))).1 ?_ ?_ ?_
  · have hle := Nat.div_mul_le_self (w.ref.toNat + 2 ^ (k.toNat - 1)) (2 ^ k.toNat)
    rw [UInt16.toNat_add, UInt32.toNat_toUInt16, UInt32.toNat_mul, UInt32.toNat_div, UInt32.toNat_add,
      UInt16.toNat_toUInt32, UInt16.toNat_toUInt32, UInt16.toNat_toUInt32, hrange, hhalf,
      Nat.mod_eq_of_lt (a := w.ref.toNat + _) (by omega), Nat.mod_eq_of_lt (a := _ / _ * _) (by omega), Nat.mod_add_mod]
  · rw [UInt16.toNat_add, hrange]
  · rw [UInt16.toNat_sub, hrange]

end LsbWindow

/-- What both decoders say of low bits, a width and a reference. -/
structure DecodersAgree (bits k reference lsb v : Nat) : Prop where
  interval : decodeLsbWithP lsb k reference (2 ^ (k - 1) - 1) bits = some v
  nearest : NearestValue bits k reference lsb v

theorem decodersAgree_of_mem {bits k reference lsb v : Nat} (hk : 1 ≤ k) (hlt : k < bits) (hbits : bits ≤ 32)
    (h : Cyclic.Mem (2 ^ bits) ((reference : ℤ) - (2 ^ (k - 1) - 1)) (2 * 2 ^ (k - 1)) v ∧
      (v : ℤ) % (2 * 2 ^ (k - 1)) = lsb) : DecodersAgree bits k reference lsb v := by
  have hlsb : v % 2 ^ k = lsb := by
    have hmod := h.2
    rw [← pow_succ', Nat.sub_add_cancel hk] at hmod
    exact_mod_cast hmod
  exact ⟨decodeLsbWithP_of_nearest hk hlt hbits h.1 hlsb, nearestValue_of_mem hk hlt h.1 hlsb⟩

/-- **The two decoders agree**, for windows of 16 and of 32 bits: with `p = 2^(k-1) - 1` the interval decoder answers what the
window decoder answers, the value nearest to the reference, and the upper one where two are equally near. -/
theorem decoders_agree :
    (∀ (w : LsbWindow UInt16) (lsb : UInt16) (k : UInt8), 1 ≤ k.toNat → k.toNat < 16 → lsb.toNat < 2 ^ k.toNat →
      DecodersAgree 16 k.toNat w.ref.toNat lsb.toNat (w.decode16 lsb k).toNat) ∧
    ∀ (w : LsbWindow UInt32) (lsb : UInt32) (k : UInt8), 1 ≤ k.toNat → k.toNat < 32 → lsb.toNat < 2 ^ k.toNat →
      DecodersAgree 32 k.toNat w.ref.toNat lsb.toNat (w.decode lsb k).toNat :=
  ⟨fun w _ _ hk hlt hlsb => decodersAgree_of_mem hk hlt (by decide) (w.mem_decode16 hk hlt hlsb),
    fun w _ _ hk hlt hlsb => decodersAgree_of_mem hk hlt (by decide) (w.mem_decode hk hlt hlsb)⟩

/-- Across the wrap: behind 0xFFFE the value that ends in 5 is 5, and half the range away it is the upper one. -/
theorem decoders_agree_wrap : DecodersAgree 16 4 0xFFFE 5 (LsbWindow.decode16 ⟨0xFFFE⟩ 5 4).toNat ∧
    DecodersAgree 32 4 0xFFFFFFFE 6 (LsbWindow.decode ⟨0xFFFFFFFE⟩ 6 4).toNat :=
  ⟨decoders_agree.1 ⟨0xFFFE⟩ 5 4 (by decide) (by decide) (by decide),
    decoders_agree.2 ⟨0xFFFFFFFE⟩ 6 4 (by decide) (by decide) (by decide)⟩

end Rohccxx
