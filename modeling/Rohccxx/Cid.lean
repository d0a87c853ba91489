import Rohccxx.Lib.Octets

/-!
# CID encoding

`core/cid.hpp`: the two CID spaces and the one- or two-octet self-describing form of a large CID. The same form codes
list lengths (`encoding::write_sdvl_14`). A write returns the octets it appends; the room left is checked by the caller.
-/

set_option autoImplicit false

namespace Rohccxx

open Octets

/-! ## Bounded appends -/

/-- Append `bs` at the write position of a buffer of `cap` octets; the source's `if(end - p < n) return false;`. -/
def put (cap : Nat) (bs out : Bytes) : Option Bytes :=
  if out.length + bs.length ≤ cap then some (out ++ bs) else none

theorem put_eq_some {cap : Nat} {bs out r : Bytes} (h : put cap bs out = some r) : r = out ++ bs := by
  unfold put at h
  split at h
  · exact (Option.some.inj h).symm
  · cases h

theorem put_of_le {cap : Nat} {bs out : Bytes} (h : out.length + bs.length ≤ cap) : put cap bs out = some (out ++ bs) :=
  if_pos h

namespace Cid

def smallCidMax : Nat := 0x0F

def largeCidMax : Nat := 0x3FFF

def isSmall (value : Nat) : Bool := value ≤ smallCidMax

def isValidForSpace (value : Nat) (largeCidSpace : Bool) : Bool :=
  if largeCidSpace then value ≤ largeCidMax else isSmall value

/-- The octets `write_large` writes for a value in range. -/
def largeOctets (value : Nat) : Bytes :=
  if value ≤ 0x7F then [UInt8.ofNat value]
  else [(0x80 : UInt8) ||| (UInt8.ofNat (value >>> 8) &&& 0x3F), UInt8.ofNat value]

def writeLarge (cap value : Nat) (out : Bytes) : Option Bytes :=
  if value > largeCidMax then none else put cap (largeOctets value) out

/-- `read_large`: the value and the number of octets it took. -/
def readLarge (p : Bytes) : Option (Nat × Nat) :=
  match p with
  | [] => none
  | b :: rest =>
    if b &&& 0x80 = 0 then some ((b &&& 0x7F).toNat, 1)
    else if b &&& 0xC0 = 0x80 then
      match rest with
      | [] => none
      | b' :: _ =>
        let value := (b &&& 0x3F).toNat * 256 + b'.toNat
        if value ≤ 0x7F then none else some (value, 2)
    else none

def encodedLen (value : Nat) : Nat := if value ≤ 0x7F then 1 else 2

theorem encodedLen_le (value : Nat) : encodedLen value ≤ 2 := by
  unfold encodedLen
  split <;> omega

theorem length_largeOctets (value : Nat) : (largeOctets value).length = encodedLen value := by
  unfold largeOctets encodedLen
  split <;> simp_all

/-- The marker bits of a one-octet form. -/
theorem and_eq_zero_of_lt {n : Nat} (h : n ≤ 0x7F) :
    UInt8.ofNat n &&& 0x80 = 0 ∧ (UInt8.ofNat n &&& 0x7F).toNat = n := by
  have key : ∀ m : Fin 128, UInt8.ofNat m &&& 0x80 = 0 ∧ (UInt8.ofNat m &&& 0x7F).toNat = m := by decide
  exact key ⟨n, by omega⟩

theorem two_octet_marker {n : Nat} (h : n < 64) :
    ((0x80 : UInt8) ||| (UInt8.ofNat n &&& 0x3F)) &&& 0x80 ≠ 0 ∧ ((0x80 : UInt8) ||| (UInt8.ofNat n &&& 0x3F)) &&& 0xC0 = 0x80 ∧
      (((0x80 : UInt8) ||| (UInt8.ofNat n &&& 0x3F)) &&& 0x3F).toNat = n := by
  have key : ∀ m : Fin 64, ((0x80 : UInt8) ||| (UInt8.ofNat m &&& 0x3F)) &&& 0x80 ≠ 0 ∧
      ((0x80 : UInt8) ||| (UInt8.ofNat m &&& 0x3F)) &&& 0xC0 = 0x80 ∧
      (((0x80 : UInt8) ||| (UInt8.ofNat m &&& 0x3F)) &&& 0x3F).toNat = m := by decide
  exact key ⟨n, h⟩

/-- **A large CID reads back**, whatever follows it. -/
theorem readLarge_largeOctets {value : Nat} (h : value ≤ largeCidMax) (rest : Bytes) :
    readLarge (largeOctets value ++ rest) = some (value, encodedLen value) := by
  unfold largeOctets encodedLen
  by_cases hv : value ≤ 0x7F
  · obtain ⟨h₀, h₁⟩ := and_eq_zero_of_lt hv
    rw [if_pos hv, if_pos hv]
    simp only [List.cons_append, readLarge, h₀, h₁, if_true]
  · rw [if_neg hv, if_neg hv]
    have hs : value >>> 8 < 64 := by
      rw [Nat.shiftRight_eq_div_pow]; unfold largeCidMax at h; omega
    obtain ⟨h₀, h₁, h₂⟩ := two_octet_marker hs
    simp only [List.cons_append, readLarge, h₁, h₂, if_neg h₀, if_true, UInt8.toNat_ofNat', Nat.reducePow]
    have hr : value >>> 8 * 256 + value % 256 = value := by
      rw [Nat.shiftRight_eq_div_pow]; omega
    rw [hr, if_neg hv]

/-- The two octets of a long form. -/
theorem largeOctets_long {b b' : UInt8} (h : b &&& 0xC0 = 0x80) (hv : ¬(b &&& 0x3F).toNat * 256 + b'.toNat ≤ 0x7F) :
    (b &&& 0x3F).toNat * 256 + b'.toNat ≤ largeCidMax ∧
      largeOctets ((b &&& 0x3F).toNat * 256 + b'.toNat) = [b, b'] := by
  have hlt : (b &&& 0x3F).toNat < 64 := by
    rw [UInt8.toNat_and]
    exact Nat.lt_of_le_of_lt Nat.and_le_right (by decide)
  have hb' := b'.toNat_lt
  have hhi : ((b &&& 0x3F).toNat * 256 + b'.toNat) >>> 8 = (b &&& 0x3F).toNat := by
    rw [Nat.shiftRight_eq_div_pow]
    omega
  have hfirst : (0x80 : UInt8) ||| (b &&& 0x3F &&& 0x3F) = b :=
    forall_octet (P := fun b => b &&& 0xC0 = 0x80 → (0x80 : UInt8) ||| (b &&& 0x3F &&& 0x3F) = b) (by decide) b h
  have hsecond : UInt8.ofNat ((b &&& 0x3F).toNat * 256 + b'.toNat) = b' := by
    apply UInt8.toNat_inj.mp
    simp only [UInt8.toNat_ofNat', Nat.reducePow]
    omega
  refine ⟨by unfold largeCidMax; omega, ?_⟩
  unfold largeOctets
  rw [if_neg hv, hhi, UInt8.ofNat_toNat, hfirst, hsecond]

/-- **Only the shortest form is read.** -/
theorem readLarge_canonical {bs : Bytes} {value n : Nat} (h : readLarge bs = some (value, n)) :
    value ≤ largeCidMax ∧ bs.take n = largeOctets value := by
  unfold readLarge at h
  split at h
  · cases h
  · rename_i b rest
    split at h
    · rename_i hshort
      obtain ⟨rfl, rfl⟩ := Prod.mk.inj (Option.some.inj h)
      have hmask : b &&& 0x7F = b :=
        forall_octet (P := fun b => b &&& 0x80 = 0 → b &&& 0x7F = b) (by decide) b hshort
      have hle : b.toNat ≤ 0x7F := by
        rw [← hmask, UInt8.toNat_and]
        exact Nat.and_le_right
      rw [hmask]
      refine ⟨Nat.le_trans hle (by decide), ?_⟩
      unfold largeOctets
      rw [if_pos hle, UInt8.ofNat_toNat]
      rfl
    · split at h
      · rename_i hlong
        split at h
        · cases h
        · rename_i b' tail
          dsimp only at h
          split at h
          · cases h
          · rename_i hv
            obtain ⟨rfl, rfl⟩ := Prod.mk.inj (Option.some.inj h)
            obtain ⟨hmax, hoctets⟩ := largeOctets_long hlong hv
            exact ⟨hmax, by rw [hoctets]; rfl⟩
      · cases h

end Cid

end Rohccxx
