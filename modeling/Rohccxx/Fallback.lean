import Rohccxx.Receive

/-!
# The Uncompressed fallback

An IR of the Uncompressed profile carries its packet whole and names nothing of the context before it, so it is exact
from any state of the decompressor.

* `emitUncompressedIr_isSome` — when the emitter writes such a unit.
* `uncompressed_ir_exact` — the way through the decompressor, with the context that is left.
-/

set_option autoImplicit false

namespace Rohccxx

open Octets

/-! ## The emitter -/

section Emitter

variable {ctx : Context} {packet : Bytes}

/-- The octets of a unit in front of its packet, the CRC among them. -/
def fallbackHeader (ctx : Context) : Bytes := irSealed (irFront ctx 0xFD 0x00) []

theorem length_fallbackHeader (ctx : Context) :
    (fallbackHeader ctx).length = (!ctx.largeCid && decide (ctx.cid > 0)).toNat + 3 +
      (if ctx.largeCid then Cid.encodedLen ctx.cid else 0) := by
  unfold fallbackHeader
  rw [length_irSealed]
  unfold irFront addCidOctets largeCidOctets
  cases ctx.largeCid with
  | true => simp [Cid.length_largeOctets]; omega
  | false => by_cases hzero : ctx.cid = 0 <;> simp [hzero, Nat.pos_of_ne_zero]

theorem length_fallbackHeader_le (ctx : Context) : (fallbackHeader ctx).length ≤ 5 := by
  rw [length_fallbackHeader]
  have := Cid.encodedLen_le ctx.cid
  cases hlarge : ctx.largeCid with
  | true => simp; omega
  | false =>
    have : (decide (ctx.cid > 0)).toNat ≤ 1 := Bool.toNat_le _
    simp only [Bool.not_false, Bool.true_and, Bool.false_eq_true, if_false]
    omega

/-- The emitter writes every packet on every CID of its space, given room. -/
theorem emitUncompressedIr_isSome (h : CidFits ctx) {cap : Nat} (hcap : (fallbackHeader ctx).length + packet.length ≤ cap) :
    (emitUncompressedIr cap ctx packet).isSome = true := by
  rw [length_fallbackHeader] at hcap
  unfold CidFits Cid.isValidForSpace at h
  unfold emitUncompressedIr writeLargeCidIfNeeded Cid.writeLarge
  cases hlarge : ctx.largeCid with
  | true =>
    rw [hlarge] at hcap h
    simp only [if_true, decide_eq_true_eq] at h
    simp only [Bool.not_true, Bool.false_and, Bool.toNat_false, if_true] at hcap
    have hlen := Cid.length_largeOctets ctx.cid
    have hput : put cap (Cid.largeOctets ctx.cid) [0xFD] = some ([0xFD] ++ Cid.largeOctets ctx.cid) :=
      put_of_le (by rw [List.length_singleton]; omega)
    simp only [if_true, Bool.true_and, Bool.not_true, Bool.false_and, Bool.or_false, decide_eq_true_eq, Bool.false_eq_true,
      if_false, List.nil_append]
    rw [if_neg (by omega), if_neg (by omega), if_neg (by omega), hput]
    rfl
  | false =>
    rw [hlarge] at hcap h
    simp only [Bool.false_eq_true, if_false] at h
    have hsmall : ctx.cid ≤ 15 := of_decide_eq_true h
    simp only [Bool.not_false, Bool.true_and, Bool.false_eq_true, if_false] at hcap ⊢
    by_cases hzero : ctx.cid = 0
    · simp only [hzero, gt_iff_lt, Nat.lt_irrefl, decide_false, Bool.toNat_false, if_false] at hcap ⊢
      have hs : Cid.isSmall 0 = true := by decide
      simp only [hs, Bool.not_true, Bool.false_and, Bool.or_false, Bool.false_eq_true, if_false]
      rw [if_neg (by omega)]
      rfl
    · have hpos : ctx.cid > 0 := Nat.pos_of_ne_zero hzero
      simp only [hpos, decide_true, Bool.toNat_true, if_true] at hcap ⊢
      simp only [h, Bool.not_true, Bool.false_and, Bool.or_false, Bool.false_eq_true, if_false]
      rw [if_neg (by omega)]
      rfl

end Emitter

/-! ## The decompressor -/

/-- What an IR of the Uncompressed profile leaves on its CID. -/
def fallbackContext (cid : Nat) (largeCid : Bool) : Context :=
  { ({} : Context) with
    cid := cid, largeCid := largeCid, profile := .uncompressed, mode := .uncompressed
    rohcState := .dynamicEstablished, txCount := 1, profileHasBeenUsed := true }

section Decompressor

variable {packet : Bytes}

/-- **The fallback is exact from any state.** The unit of any packet on any CID of its space goes through, whatever
context stood there: the packet comes out, and an established Uncompressed context is left on the CID. -/
theorem uncompressed_ir_exact {ctx : Context} (hip : isUncompressedIpPayload packet = true) (hcid : CidFits ctx) :
    (∀ emitCap, 5 + packet.length ≤ emitCap → (emitUncompressedIr emitCap ctx packet).isSome = true) ∧
      ∀ (emitCap : Nat) (unit : Bytes), emitUncompressedIr emitCap ctx packet = some unit →
        ∀ (dec : Decompressor) (out : Bytes) (cap : Nat), dec.integrity = none → dec.largeCidSpace = ctx.largeCid →
          (dec.contexts.get ctx.cid).isSome = true → packet.length ≤ cap →
          (rohcDecompress4 dec unit out cap).1 = 0 ∧
            (rohcDecompress4 dec unit out cap).2.out.take (rohcDecompress4 dec unit out cap).2.outLen = packet ∧
            (rohcDecompress4 dec unit out cap).2.handle.contexts.get ctx.cid =
              some (fallbackContext ctx.cid ctx.largeCid) := by
  refine ⟨fun emitCap hcap => ?_, fun emitCap unit hunit dec out cap hint hspace hget hcap => ?_⟩
  · have hle := length_fallbackHeader_le ctx
    exact emitUncompressedIr_isSome hcid (by omega)
  · obtain ⟨-, rfl, -⟩ := emitUncompressedIr_eq hunit
    obtain ⟨before, hbefore⟩ := Option.isSome_iff_exists.mp hget
    have h := receive_whole_delivered hint hspace hcid hbefore hip out hcap
    refine ⟨h.rc, h.output, ?_⟩
    rw [h.contexts]
    change (dec.contexts.set ctx.cid (fallbackContext ctx.cid dec.largeCidSpace)).get ctx.cid = _
    rw [ContextTable.get_set_self hget, hspace]

/-- A 20-octet IPv4 header on CID 3, towards a table that has seen nothing. -/
theorem uncompressed_ir_exact_add_cid :
    (rohcDecompress4 { contexts := .init 15, largeCidSpace := false }
      ([0xE3, 0xFD, 0x00, 0x2D, 0x45, 0, 0, 20] ++ List.replicate 16 0) [] 64).1 = 0 := by
  have hcid : CidFits { ({} : Context) with cid := 3 } := by
    unfold CidFits
    decide
  have h := (@uncompressed_ir_exact ([0x45, 0, 0, 20] ++ List.replicate 16 0) { ({} : Context) with cid := 3 }
    (by decide) hcid).2 64
    ([0xE3, 0xFD, 0x00, 0x2D, 0x45, 0, 0, 20] ++ List.replicate 16 0) (by decide)
    { contexts := .init 15, largeCidSpace := false } [] 64 rfl rfl (ContextTable.get_isSome.mpr (by decide)) (by decide)
  exact h.1

end Decompressor

end Rohccxx
