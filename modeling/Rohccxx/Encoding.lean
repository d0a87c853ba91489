import Rohccxx.Context
import Rohccxx.Cid

/-!
# Encoding methods

`core/lsb_window.hpp` and the part of `core/encoding_methods.hpp` the two entry points use: W-LSB fields, IP-ID offsets
and scaled RTP timestamps. The W-LSB decoder computes in 64 bits on values below `2^33`, so natural numbers stand for
its `uint64_t`.
-/

set_option autoImplicit false

namespace Rohccxx

open Octets

/-! ## The window decoder -/

namespace LsbWindow

/-- `dist_mod` on 32 bits: the shorter way round between two values. -/
def distMod (a b : UInt32) : UInt32 :=
  let d := if a ≥ b then a - b else b - a
  let wrap := ~~~(0 : UInt32) - d + 1
  if d < wrap then d else wrap

/-- `LsbWindow<uint32_t>::decode`: of three candidates the one closest to the reference. -/
def decode (w : LsbWindow UInt32) (lsb : UInt32) (k : UInt8) : UInt32 :=
  let range := (1 : UInt32) <<< k.toUInt32
  let half := range >>> 1
  let base := (w.ref + half) / range * range
  let c0 := base + lsb
  let c1 := c0 + range
  let c2 := c0 - range
  let d0 := distMod c0 w.ref
  let d1 := distMod c1 w.ref
  let best := if d1 < d0 then c1 else c0
  let bestDist := if d1 < d0 then d1 else d0
  if distMod c2 w.ref < bestDist then c2 else best

end LsbWindow

/-! ## W-LSB fields -/

inductive EncodedField where
  | rtpSequence
  | rtpTimestamp
  | ipId
  | ipIdOffset
  | udpChecksum
  | udpLiteCoverage
deriving DecidableEq, Repr

def naturalFieldWidth : EncodedField → Nat
  | .rtpTimestamp => 32
  | _ => 16

def defaultLsbWidth : EncodedField → Nat
  | .rtpSequence => 6
  | .rtpTimestamp => 8
  | field => naturalFieldWidth field

/-- `value & mask_for_width(width)`. -/
def leastSignificantBits (value width : Nat) : Nat := value % 2 ^ width

/-- `decode_lsb_with_p`: the value with these LSBs in the interval of length `2^width` that starts `p` below the
reference. The source works with `range - 1` as a bit mask; `range` is a power of two. -/
def decodeLsbWithP (lsb width reference p fieldWidth : Nat) : Option Nat :=
  if width = 0 ∨ fieldWidth = 0 ∨ fieldWidth > 32 ∨ width > fieldWidth then none
  else
    let range := 2 ^ width
    let modulus := 2 ^ fieldWidth
    if p ≥ range ∨ lsb % range ≠ lsb then none
    else if width = fieldWidth then some (lsb % modulus)
    else
      let ref := reference % modulus
      let lower := (ref + modulus - p % modulus) % modulus
      let candidate := lower / range * range + lsb
      let candidate :=
        if (candidate + modulus - lower) % modulus ≥ range then (candidate + range) % modulus else candidate
      some (candidate % modulus)

/-- The first candidate of `decode_lsb_with_p` for a value `t` above the lower end. -/
theorem lsb_candidate {range modulus lower m t : Nat} (hdvd : range ∣ modulus) (hl : lower < modulus) (ht : t < range)
    (h : m = lower + t ∨ m + modulus = lower + t) :
    lower / range * range + m % range = m ∨ lower / range * range + m % range < lower ∧
      (lower / range * range + m % range + range = m ∨ lower / range * range + m % range + range = m + modulus) := by
  have hpos : 0 < range := by omega
  have hld := Nat.div_add_mod' lower range
  have hlm := Nat.mod_lt lower hpos
  rcases h with rfl | h
  · by_cases hover : lower % range + t < range
    · left
      rw [Nat.add_mod, Nat.mod_eq_of_lt ht, Nat.mod_eq_of_lt hover]
      omega
    · right
      rw [Nat.add_mod, Nat.mod_eq_of_lt ht, Nat.mod_eq_sub_mod (by omega), Nat.mod_eq_of_lt (by omega)]
      omega
  · right
    obtain ⟨quot, rfl⟩ := hdvd
    obtain ⟨last, rfl⟩ : ∃ last, quot = last + 1 := ⟨quot - 1, by cases quot <;> simp_all⟩
    rw [Nat.mul_add, Nat.mul_one, Nat.mul_comm range last] at h hl ⊢
    -- The lower end lies in the last block.
    have hlast : lower / range = last := by
      refine Nat.div_eq_of_lt_le (by omega) ?_
      rw [Nat.add_mul, Nat.one_mul]
      exact hl
    rw [hlast, Nat.mod_eq_of_lt (show m < range by omega)]
    omega

/-- **LSB decoding**: of the values with these LSBs, the one less than `2^width` above `reference - p`. -/
theorem decodeLsbWithP_eq {width fieldWidth reference p m t : Nat} (hwidth : 0 < width) (hlt : width < fieldWidth)
    (hfield : fieldWidth ≤ 32) (hp : p < 2 ^ width) (hm : m < 2 ^ fieldWidth) (href : reference < 2 ^ fieldWidth)
    (ht : t < 2 ^ width) (hnear : (m + p) % 2 ^ fieldWidth = (reference + t) % 2 ^ fieldWidth) :
    decodeLsbWithP (m % 2 ^ width) width reference p fieldWidth = some m := by
  have hdvd : 2 ^ width ∣ 2 ^ fieldWidth := Nat.pow_dvd_pow 2 (Nat.le_of_lt hlt)
  have htwo : 2 ^ width * 2 ≤ 2 ^ fieldWidth := by
    rw [← Nat.pow_succ]
    exact Nat.pow_le_pow_right (by decide) hlt
  unfold decodeLsbWithP
  rw [if_neg (by omega)]
  dsimp only
  rw [Nat.mod_mod, if_neg (by omega), if_neg (by omega), Nat.mod_eq_of_lt href]
  generalize 2 ^ width = range at *
  generalize 2 ^ fieldWidth = modulus at *
  rw [Nat.mod_eq_of_lt (show p < modulus by omega)]
  have hlow : ∃ lower < modulus, (reference + modulus - p) % modulus = lower ∧
      (lower + p = reference ∨ lower + p = reference + modulus) := by
    by_cases hle : p ≤ reference
    · refine ⟨reference - p, by omega, ?_, by omega⟩
      rw [show reference + modulus - p = reference - p + modulus by omega, Nat.add_mod_right]
      exact Nat.mod_eq_of_lt (by omega)
    · exact ⟨reference + modulus - p, by omega, Nat.mod_eq_of_lt (by omega), by omega⟩
  obtain ⟨lower, hll, hlower, hp'⟩ := hlow
  rw [hlower]
  have hm' : m = lower + t ∨ m + modulus = lower + t := by
    have h₁ : (m + p) % modulus = if m + p < modulus then m + p else m + p - modulus := by
      split
      · exact Nat.mod_eq_of_lt (by omega)
      · rw [Nat.mod_eq_sub_mod (by omega), Nat.mod_eq_of_lt (by omega)]
    have h₂ : (reference + t) % modulus = if reference + t < modulus then reference + t else reference + t - modulus := by
      split
      · exact Nat.mod_eq_of_lt (by omega)
      · rw [Nat.mod_eq_sub_mod (by omega), Nat.mod_eq_of_lt (by omega)]
    rw [h₁, h₂] at hnear
    split at hnear <;> split at hnear <;> omega
  rcases lsb_candidate hdvd hll ht hm' with hc | ⟨hcl, hc⟩
  · have hin : ¬(m + modulus - lower) % modulus ≥ range := by
      rcases hm' with hm' | hm'
      · rw [show m + modulus - lower = t + modulus by omega, Nat.add_mod_right, Nat.mod_eq_of_lt (by omega)]
        omega
      · rw [Nat.mod_eq_of_lt (by omega)]
        omega
    rw [hc, if_neg hin, Nat.mod_eq_of_lt hm]
  · generalize lower / range * range + m % range = c at *
    have hout : (c + modulus - lower) % modulus ≥ range := by
      rw [Nat.mod_eq_of_lt (by omega)]
      omega
    rw [if_pos hout, Nat.mod_mod]
    rcases hc with hc | hc
    · rw [hc, Nat.mod_eq_of_lt hm]
    · rw [hc, Nat.add_mod_right, Nat.mod_eq_of_lt hm]

def encodeOffsetIpId (ipId sequence : UInt16) : UInt16 := ipId - sequence

def decodeOffsetIpId (offset sequence : UInt16) : UInt16 := sequence + offset

/-- `encode_field_lsb`; width 0 stands for the field's default. -/
def encodeFieldLsb (field : EncodedField) (value : Nat) (width : Nat) : Nat :=
  leastSignificantBits value (if width = 0 then defaultLsbWidth field else width)

def decodeFieldLsbWithP (field : EncodedField) (lsb reference width p : Nat) : Option Nat :=
  decodeLsbWithP lsb (if width = 0 then defaultLsbWidth field else width) reference p (naturalFieldWidth field)

def decodeFieldLsb (field : EncodedField) (lsb reference width : Nat) : Nat :=
  let effectiveWidth := if width = 0 then defaultLsbWidth field else width
  let defaultP := if effectiveWidth ≥ naturalFieldWidth field then 0 else 2 ^ (effectiveWidth - 1)
  (decodeFieldLsbWithP field lsb reference effectiveWidth defaultP).getD 0

def decodeIpIdOffsetLsbWithP (offsetLsb sequence referenceOffset : UInt16) (width p : Nat) : Option UInt16 := do
  let offset ← decodeFieldLsbWithP .ipIdOffset offsetLsb.toNat referenceOffset.toNat width p
  return decodeOffsetIpId (UInt16.ofNat offset) sequence

/-! ## Timestamps -/

/-- `infer_timestamp_stride`: the stride and residue two packets suggest. `seq_delta` is promoted to 32 bits. -/
def inferTimestampStride (previousSeq : UInt16) (previousTs : UInt32) (currentSeq : UInt16) (currentTs : UInt32) :
    Option (UInt32 × UInt32) :=
  let seqDelta := (currentSeq - previousSeq).toUInt32
  let tsDelta := currentTs - previousTs
  if seqDelta = 0 ∨ tsDelta = 0 ∨ tsDelta % seqDelta ≠ 0 then none
  else
    let stride := tsDelta / seqDelta
    if stride > 1000 then none
    else some (stride, if stride = 0 then 0 else currentTs % stride)

structure ScaledTimestamp where
  scaled : UInt32
  residue : UInt32

def scaleTimestamp (timestamp stride : UInt32) : ScaledTimestamp :=
  ⟨if stride = 0 then timestamp else timestamp / stride, if stride = 0 then 0 else timestamp % stride⟩

def unscaleTimestamp (scaled stride residue : UInt32) : UInt32 :=
  if stride = 0 then scaled else scaled * stride + residue

def advanceTimerScaledTimestamp (referenceTimestamp timestampStride elapsedTimerTicks : UInt32) : Option UInt32 :=
  if timestampStride = 0 then none else some (referenceTimestamp + timestampStride * elapsedTimerTicks)

def decodeScaledLsb (scaledLsb : UInt32) (width : UInt8) (referenceTimestamp stride residue : UInt32) : UInt32 :=
  if stride = 0 then LsbWindow.decode ⟨referenceTimestamp⟩ scaledLsb width
  else unscaleTimestamp (LsbWindow.decode ⟨referenceTimestamp / stride⟩ scaledLsb width) stride residue

def decodeScaledLsbWithTimestampPrediction (scaledLsb : UInt32) (width : UInt8) (predictedTimestamp
    fallbackReferenceTimestamp stride residue : UInt32) : UInt32 :=
  let predictedScaled := scaleTimestamp predictedTimestamp stride
  if stride ≠ 0 ∧ encodeFieldLsb .rtpTimestamp predictedScaled.scaled.toNat width.toNat = scaledLsb.toNat then
    predictedTimestamp
  else decodeScaledLsb scaledLsb width fallbackReferenceTimestamp stride residue

def decodeTimerScaledLsb (scaledLsb : UInt32) (width : UInt8) (referenceTimestamp timestampStride elapsedTimerTicks
    residue : UInt32) : Option UInt32 := do
  let advanced ← advanceTimerScaledTimestamp referenceTimestamp timestampStride elapsedTimerTicks
  return decodeScaledLsbWithTimestampPrediction scaledLsb width advanced advanced timestampStride residue

/-! ## Lists -/

def emptyListMarker : UInt8 := 0x00

def isEmptyList (marker : UInt8) : Bool := marker = emptyListMarker

def writeEmptyList (cap : Nat) (out : Bytes) : Option Bytes := put cap [emptyListMarker] out

def writeSdvl14 (cap value : Nat) (out : Bytes) : Option Bytes := Cid.writeLarge cap value out

def readSdvl14 (p : Bytes) : Option (Nat × Nat) := Cid.readLarge p

end Rohccxx
