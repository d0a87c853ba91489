import Rohccxx.Calls

/-!
# No unit goes around its ICV

With an integrity algorithm in force, a call that returns 0 has compared the end of the unit with the HMAC of the packet
it hands over (`rohcDecompress4_authentic`), whichever block rebuilt the packet and however many segments the unit came
in.
-/

set_option autoImplicit false

namespace Rohccxx

open Octets

/-- HMAC-SHA-256. -/
def hmacSha256 (key data : Bytes) : Bytes :=
  let short := if key.length > 64 then Sha256.digest key else key
  let keyBlock := short ++ List.replicate (64 - short.length) 0
  Sha256.digest (keyBlock.map (· ^^^ 0x5C) ++ Sha256.digest (keyBlock.map (· ^^^ 0x36) ++ data))

theorem length_digest (data : Bytes) : (Sha256.digest data).length = 32 := by
  simp [Sha256.digest]

/-- What `compute_icv` answers for a keyed algorithm. -/
theorem computeIcv_keyed {algorithm : IntegrityAlgorithm} {key data mac : Bytes} {n : Nat} (hk : algorithm ≠ .none)
    (h : computeIcv algorithm key data n = some mac) :
    n ≤ 32 ∧ mac = (hmacSha256 key data).take n := by
  cases algorithm with
  | none => exact absurd rfl hk
  | unsupported => cases h
  | hmacSha256 =>
    unfold computeIcv at h
    dsimp only at h
    split at h
    · cases h
    · rename_i hn
      cases h
      exact ⟨by omega, rfl⟩

/-- With an algorithm in force, the ICV of a frame is the end of its unit. -/
theorem Meets.icv_eq {live : Live} {unit : Bytes} {f : Frame} (h : Meets live unit f) (ht : f.parsed.type ≠ .segment)
    {integrity : Integrity} (hi : live.handle.integrity = some integrity) (hlen : 0 < integrity.icvLen) :
    integrity.icvLen ≤ unit.length ∧ f.icv = unit.drop (unit.length - integrity.icvLen) := by
  obtain ⟨parsed, hopen, htype⟩ := h.icv
  simp only [openUnit, hi, Option.bind_eq_bind, Option.bind_eq_some_iff] at hopen
  obtain ⟨whole, -, hopen⟩ := hopen
  split at hopen
  · rename_i hs
    obtain ⟨rfl, -⟩ := Prod.mk.inj (Option.some.inj hopen)
    rcases hs with hs | hs
    · exact absurd (htype.symm.trans hs) ht
    · omega
  · split at hopen
    · cases hopen
    · rename_i hle
      obtain ⟨body, -, e⟩ := Option.map_eq_some_iff.mp hopen
      exact ⟨by omega, (Prod.mk.inj e).2.symm⟩

/-- **Authenticity.** The unit a call decoded ends in the first octets of the HMAC, under the configured key, of the
packet in the output buffer. -/
theorem rohcDecompress4_authentic (decomp : Decompressor) (input out : Bytes) (cap : Nat) (integrity : Integrity)
    (hi : decomp.integrity = some integrity) (hkeyed : integrity.algorithm ≠ .none) (hlen : 0 < integrity.icvLen)
    (h : (rohcDecompress4 decomp input out cap).1 = 0) :
    ∃ unit f mid, decodedBy decomp input out cap = some (unit, f, mid) ∧ integrity.icvLen ≤ 32 ∧
      integrity.icvLen ≤ unit.length ∧
      unit.drop (unit.length - integrity.icvLen) =
        (hmacSha256 integrity.key ((rohcDecompress4 decomp input out cap).2.out.take
          (rohcDecompress4 decomp input out cap).2.outLen)).take integrity.icvLen := by
  obtain ⟨unit, f, mid, ctx, octets, d⟩ := rohcDecompress4_zero h
  obtain ⟨-, -, ht⟩ := decodes_spec d.decoded
  have hi' : mid.handle.integrity = some integrity := d.spared.settings.integrity.trans hi
  obtain ⟨hle, hicv⟩ := d.meets.icv_eq ht hi' hlen
  have hn : f.icv.length = integrity.icvLen := by
    rw [hicv, List.length_drop]
    omega
  have hne : f.icv ≠ [] := by
    intro e
    rw [e] at hn
    exact absurd hn (by simp; omega)
  obtain ⟨mac, hmac, heq⟩ := d.icv integrity (d.meets.integrity.trans hi') hne
  rw [hn] at hmac heq
  obtain ⟨h32, rfl⟩ := computeIcv_keyed hkeyed hmac
  refine ⟨unit, f, mid, d.decoded, h32, hle, ?_⟩
  rw [d.delivered.output, ← hicv, ← heq]
  -- The digest has 32 octets, so nothing of the padding is compared.
  have : integrity.icvLen ≤ ((hmacSha256 integrity.key octets).take integrity.icvLen).length := by
    rw [List.length_take, hmacSha256, length_digest]
    omega
  rw [List.take_append_of_le_length this, List.take_take, Nat.min_self]

/-- A fresh handle that expects one octet of HMAC-SHA-256 under the key 1. -/
def keyedDecompressor : Decompressor := { freshDecompressor with integrity := some ⟨.hmacSha256, [1], 1⟩ }

/-- A 20-octet IPv4 packet in a profile-0 IR, its ICV behind it. -/
def authenticatedUnit : Bytes :=
  [0xFD, 0x00, 97, 0x45, 0, 0, 20, 0, 1, 0, 0, 64, 59, 0, 0, 10, 0, 0, 1, 10, 0, 0, 2, 198]

theorem rohcDecompress4_authentic_whole :
    ∃ unit f mid, decodedBy keyedDecompressor authenticatedUnit [] 30 = some (unit, f, mid) ∧ 1 ≤ 32 ∧ 1 ≤ unit.length ∧
      unit.drop (unit.length - 1) = (hmacSha256 [1] ((rohcDecompress4 keyedDecompressor authenticatedUnit [] 30).2.out.take
        (rohcDecompress4 keyedDecompressor authenticatedUnit [] 30).2.outLen)).take 1 :=
  rohcDecompress4_authentic keyedDecompressor authenticatedUnit [] 30 ⟨.hmacSha256, [1], 1⟩ rfl (by decide) (by decide)
    (by decide +kernel)

end Rohccxx
