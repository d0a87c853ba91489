import Mathlib.Algebra.GroupWithZero.Nat
import Mathlib.Data.List.Basic

/-!
# Octet strings

Octet strings as lists, big-endian words, fixed arrays filled from a shorter string, and writing into a buffer. The
two directions of the word codecs (`ofBe16_be16`, `be16_ofBe16` and their 32-bit forms) are proved through natural
numbers, so that nothing here depends on bit-blasting.
-/

set_option autoImplicit false

namespace Octets

abbrev Bytes := List UInt8

/-! ## Big-endian words -/

/-- The two octets of a 16-bit word, high octet first. -/
def be16 (v : UInt16) : Bytes := [(v >>> 8).toUInt8, v.toUInt8]

/-- The four octets of a 32-bit word, high octet first. -/
def be32 (v : UInt32) : Bytes := [(v >>> 24).toUInt8, (v >>> 16).toUInt8, (v >>> 8).toUInt8, v.toUInt8]

def ofBe16 (hi lo : UInt8) : UInt16 := (hi.toUInt16 <<< 8) ||| lo.toUInt16

def ofBe32 (a b c d : UInt8) : UInt32 :=
  (a.toUInt32 <<< 24) ||| (b.toUInt32 <<< 16) ||| (c.toUInt32 <<< 8) ||| d.toUInt32

@[simp] theorem length_be16 (v : UInt16) : (be16 v).length = 2 := rfl

@[simp] theorem length_be32 (v : UInt32) : (be32 v).length = 4 := rfl

theorem toNat_ofBe16 (hi lo : UInt8) : (ofBe16 hi lo).toNat = hi.toNat * 256 + lo.toNat := by
  have h₁ := hi.toNat_lt
  have h₂ := lo.toNat_lt
  have e := Nat.shiftLeft_add_eq_or_of_lt (i := 8) h₂ hi.toNat
  simp only [ofBe16, UInt16.toNat_or, UInt16.toNat_shiftLeft, UInt8.toNat_toUInt16, UInt16.reduceToNat]
  rw [Nat.mod_eq_of_lt (show 8 < 16 by omega)]
  have hs : hi.toNat <<< 8 = hi.toNat * 256 := Nat.shiftLeft_eq _ _
  rw [Nat.mod_eq_of_lt (by rw [hs]; omega), ← e, hs]

theorem ofBe16_be16 (v : UInt16) : ofBe16 (v >>> 8).toUInt8 v.toUInt8 = v := by
  apply UInt16.toNat_inj.mp
  rw [toNat_ofBe16]
  have := v.toNat_lt
  simp only [UInt16.toNat_toUInt8, UInt16.toNat_shiftRight, UInt16.reduceToNat, Nat.shiftRight_eq_div_pow,
    Nat.reduceMod, Nat.reducePow]
  omega

theorem be16_ofBe16 (hi lo : UInt8) : be16 (ofBe16 hi lo) = [hi, lo] := by
  have h₁ := hi.toNat_lt
  have h₂ := lo.toNat_lt
  simp only [be16, List.cons.injEq, and_true]
  constructor
  · apply UInt8.toNat_inj.mp
    simp only [UInt16.toNat_toUInt8, UInt16.toNat_shiftRight, UInt16.reduceToNat, Nat.shiftRight_eq_div_pow,
      Nat.reduceMod, Nat.reducePow, toNat_ofBe16]
    omega
  · apply UInt8.toNat_inj.mp
    simp only [UInt16.toNat_toUInt8, toNat_ofBe16]
    omega

theorem toNat_ofBe32 (a b c d : UInt8) :
    (ofBe32 a b c d).toNat = ((a.toNat * 256 + b.toNat) * 256 + c.toNat) * 256 + d.toNat := by
  have ha := a.toNat_lt
  have hb := b.toNat_lt
  have hc := c.toNat_lt
  have hd := d.toNat_lt
  simp only [ofBe32, UInt32.toNat_or, UInt32.toNat_shiftLeft, UInt8.toNat_toUInt32, UInt32.reduceToNat]
  simp only [Nat.reduceMod, Nat.reducePow]
  have s₁ : (a.toNat <<< 24) % 4294967296 = (a.toNat * 2 ^ 8) <<< 16 := by
    simp only [Nat.shiftLeft_eq, Nat.reducePow]; omega
  have s₂ : (b.toNat <<< 16) % 4294967296 = b.toNat <<< 16 := by
    simp only [Nat.shiftLeft_eq, Nat.reducePow]; omega
  have s₃ : (c.toNat <<< 8) % 4294967296 = c.toNat <<< 8 := by
    simp only [Nat.shiftLeft_eq, Nat.reducePow]; omega
  have e₁ : a.toNat * 2 ^ 8 ||| b.toNat = a.toNat * 256 + b.toNat := by
    have := Nat.shiftLeft_add_eq_or_of_lt (i := 8) hb a.toNat
    rw [Nat.shiftLeft_eq] at this
    omega
  rw [s₁, s₂, s₃, ← Nat.shiftLeft_or_distrib, e₁]
  have e₂ : (a.toNat * 256 + b.toNat) <<< 16 ||| c.toNat <<< 8 =
      ((a.toNat * 256 + b.toNat) * 256 + c.toNat) <<< 8 := by
    have := Nat.shiftLeft_add_eq_or_of_lt (i := 16) (b := c.toNat <<< 8)
      (by rw [Nat.shiftLeft_eq]; omega) (a.toNat * 256 + b.toNat)
    rw [← this, Nat.shiftLeft_eq, Nat.shiftLeft_eq, Nat.shiftLeft_eq]
    omega
  rw [e₂]
  have e₃ := Nat.shiftLeft_add_eq_or_of_lt (i := 8) hd ((a.toNat * 256 + b.toNat) * 256 + c.toNat)
  rw [← e₃, Nat.shiftLeft_eq]

theorem ofBe32_be32 (v : UInt32) :
    ofBe32 (v >>> 24).toUInt8 (v >>> 16).toUInt8 (v >>> 8).toUInt8 v.toUInt8 = v := by
  apply UInt32.toNat_inj.mp
  rw [toNat_ofBe32]
  have := v.toNat_lt
  simp only [UInt32.toNat_toUInt8, UInt32.toNat_shiftRight, UInt32.reduceToNat, Nat.shiftRight_eq_div_pow,
    Nat.reduceMod, Nat.reducePow]
  omega

theorem be32_ofBe32 (a b c d : UInt8) : be32 (ofBe32 a b c d) = [a, b, c, d] := by
  have ha := a.toNat_lt
  have hb := b.toNat_lt
  have hc := c.toNat_lt
  have hd := d.toNat_lt
  simp only [be32, List.cons.injEq, and_true]
  refine ⟨?_, ?_, ?_, ?_⟩ <;> apply UInt8.toNat_inj.mp <;>
    simp only [UInt32.toNat_toUInt8, UInt32.toNat_shiftRight, UInt32.reduceToNat, Nat.shiftRight_eq_div_pow,
      Nat.reduceMod, Nat.reducePow, toNat_ofBe32] <;> omega

/-! ## Octets one by one -/

/-- A property of octets that holds of all 256 of them, half octet by half octet. -/
theorem forall_octet {P : UInt8 → Prop} (h : ∀ hi lo : Fin 16, P (UInt8.ofNat (16 * hi + lo))) (b : UInt8) : P b := by
  have hb := b.toNat_lt
  have hhalf := h ⟨b.toNat / 16, by omega⟩ ⟨b.toNat % 16, by omega⟩
  have hsum : 16 * (b.toNat / 16) + b.toNat % 16 = b.toNat := by omega
  simpa only [hsum, UInt8.ofNat_toNat] using hhalf

theorem and_one_cases (b : UInt8) : b &&& 1 = 0 ∨ b &&& 1 = 1 :=
  forall_octet (P := fun b => b &&& 1 = 0 ∨ b &&& 1 = 1) (by decide) b

theorem and_three_cases (b : UInt8) : b &&& 3 = 0 ∨ b &&& 3 = 1 ∨ b &&& 3 = 2 ∨ b &&& 3 = 3 :=
  forall_octet (P := fun b => b &&& 3 = 0 ∨ b &&& 3 = 1 ∨ b &&& 3 = 2 ∨ b &&& 3 = 3) (by decide) b

/-! ## Fixed arrays -/

/-- An array of `n` octets cleared and then filled from the front. -/
def fillCopy (n : Nat) (bs : Bytes) : Vector UInt8 n := Vector.ofFn fun i => bs.getD i 0

/-- The first `len` octets of an array. -/
def stored {n : Nat} (v : Vector UInt8 n) (len : Nat) : Bytes := v.toList.take len

theorem stored_fillCopy {n : Nat} {bs : Bytes} (h : bs.length ≤ n) : stored (fillCopy n bs) bs.length = bs := by
  apply List.ext_getElem
  · simp [stored, h]
  · intro i h₁ h₂
    simp [stored, fillCopy, h₂]

/-- Copying a whole array gives the array. -/
theorem fillCopy_toList {n : Nat} (v : Vector UInt8 n) : fillCopy n v.toList = v := by
  apply Vector.ext
  intro i hi
  simp [fillCopy]

theorem fillCopy_nil (n : Nat) : fillCopy n [] = Vector.replicate n 0 := by
  apply Vector.ext
  intro i hi
  simp [fillCopy]

theorem length_stored {n : Nat} (v : Vector UInt8 n) {len : Nat} (h : len ≤ n) : (stored v len).length = len := by
  simp [stored, h]

@[simp] theorem stored_zero {n : Nat} (v : Vector UInt8 n) : stored v 0 = [] := rfl

/-! ## Slices -/

/-- `n` octets from position `i` on. -/
def slice (bs : Bytes) (i n : Nat) : Bytes := (bs.drop i).take n

theorem length_slice {bs : Bytes} {i n : Nat} (h : i + n ≤ bs.length) : (slice bs i n).length = n := by
  simp only [slice, List.length_take, List.length_drop]
  omega

theorem slice_append_slice {bs : Bytes} {i n j : Nat} (h : i + n = j) (m : Nat) :
    slice bs i n ++ slice bs j m = slice bs i (n + m) := by
  rw [slice, slice, slice, ← h, ← List.drop_drop, List.take_add]

theorem slice_append_drop {bs : Bytes} {i n j : Nat} (h : i + n = j) : slice bs i n ++ bs.drop j = bs.drop i := by
  rw [slice, ← h, ← List.drop_drop, List.take_append_drop]

theorem slice_one {bs : Bytes} {i : Nat} (h : i < bs.length) : slice bs i 1 = [bs.getD i 0] := by
  have hd : bs.getD i 0 = bs[i] := by simp [h]
  rw [slice, List.drop_eq_getElem_cons h, hd]
  rfl

theorem be16_slice {bs : Bytes} {i : Nat} (h : i + 2 ≤ bs.length) :
    be16 (ofBe16 (bs.getD i 0) (bs.getD (i + 1) 0)) = slice bs i 2 := by
  rw [be16_ofBe16, show 2 = 1 + 1 from rfl, ← slice_append_slice rfl, slice_one (by omega), slice_one (by omega)]
  rfl

theorem be32_slice {bs : Bytes} {i : Nat} (h : i + 4 ≤ bs.length) :
    be32 (ofBe32 (bs.getD i 0) (bs.getD (i + 1) 0) (bs.getD (i + 2) 0) (bs.getD (i + 3) 0)) = slice bs i 4 := by
  rw [be32_ofBe32, show 4 = 1 + 1 + 1 + 1 from rfl, ← slice_append_slice rfl, ← slice_append_slice rfl,
    ← slice_append_slice rfl, slice_one (by omega), slice_one (by omega), slice_one (by omega), slice_one (by omega)]
  rfl

theorem be16_injective {v w : UInt16} (h : be16 v = be16 w) : v = w := by
  simp only [be16, List.cons.injEq, and_true] at h
  rw [← ofBe16_be16 v, ← ofBe16_be16 w, h.1, h.2]

/-! ## Buffers -/

/-- The buffer `buf` after the octets `bs` were written at its front. -/
def overwrite (buf bs : Bytes) : Bytes := bs ++ buf.drop bs.length

@[simp] theorem overwrite_nil (buf : Bytes) : overwrite buf [] = buf := rfl

/-! ## Guards -/

section Guards

variable {p : Prop} [Decidable p] {β : Type}

theorem guard_bind (h : p) (f : Unit → Option β) : (guard p >>= f) = f () := by
  unfold guard
  rw [if_pos h]
  rfl

theorem guard_bind_of_not (h : ¬p) (f : Unit → Option β) : (guard p >>= f) = none := by
  unfold guard
  rw [if_neg h]
  rfl

/-- A guarded step gives a result where the guard holds and the rest does. -/
theorem guard_bind_eq_some {f : Unit → Option β} {b : β} : (guard p >>= f) = some b ↔ p ∧ f () = some b := by
  by_cases h : p
  · rw [guard_bind h, and_iff_right h]
  · rw [guard_bind_of_not h]
    exact iff_of_false (by simp) fun hp => h hp.1

end Guards

end Octets
