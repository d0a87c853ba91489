import Rohccxx.Delivery

/-!
# Compact units on the wire

The units of one small CID that are not refreshes: formal units and private ones behind an optional Add-CID octet. Here
is how a call gets from their octets to the context, what a PT-0 octet holds, and which MSN its bits stand for.
-/

set_option autoImplicit false

namespace Rohccxx

open Octets

/-! ## From the octets to the context -/

/-- The Add-CID octet of a small CID. -/
def smallCidOctets (cid : Nat) : Bytes := if cid > 0 then [0xE0 ||| (UInt8.ofNat cid &&& 0x0F)] else []

/-- How a compact unit is parsed, its CID corrected. -/
def compactParsed (cid : Nat) (packet : Bytes) : ParsedRohcPacket :=
  ⟨smallCidOctets cid ++ packet, packet, cid, decide (cid ≠ 0), false, 0, packetTypeOf packet, 0⟩

/-- The frame of a call with a compact unit. -/
def compactFrame (dec : Decompressor) (cid : Nat) (d : Context) (packet out : Bytes) (cap : Nat) : Frame :=
  callFrame dec out cap (compactParsed cid packet) cid d

/-- The first octets below the refreshes. -/
theorem compact_octet {b : UInt8} (h : b < 0xC0) :
    b &&& 0xF0 ≠ 0xE0 ∧ isFeedbackPacketStart b = false ∧ detectPacketType b ≠ .ir ∧ detectPacketType b ≠ .irDyn ∧
      detectPacketType b ≠ .unknown :=
  forall_octet (P := fun b => b < 0xC0 → b &&& 0xF0 ≠ 0xE0 ∧ isFeedbackPacketStart b = false ∧
    detectPacketType b ≠ .ir ∧ detectPacketType b ≠ .irDyn ∧ detectPacketType b ≠ .unknown) (by decide) b h

theorem packetTypeOf_compact {packet : Bytes} (h : u8At packet 0 < 0xC0) :
    packetTypeOf packet ≠ .ir ∧ packetTypeOf packet ≠ .irDyn ∧ packetTypeOf packet ≠ .unknown := by
  unfold packetTypeOf
  split
  · decide
  · obtain ⟨-, -, h₁, h₂, h₃⟩ := compact_octet h
    exact ⟨h₁, h₂, h₃⟩

/-- The CID a parser takes from the unit itself. -/
def embeddedCid (cid : Nat) (packet : Bytes) : Nat :=
  if packetTypeOf packet = .foRtp ∧ cid = 0 then ((u8At packet 0 >>> 2) &&& 0x0F).toNat else cid

theorem parseRohcPacket_compact {cid : Nat} (hcid : cid ≤ 0x0F) {packet : Bytes} (hne : packet ≠ [])
    (h : u8At packet 0 < 0xC0) :
    parseRohcPacket (smallCidOctets cid ++ packet) false =
      some { compactParsed cid packet with cid := embeddedCid cid packet } := by
  obtain ⟨h₁, h₂, h₃⟩ := packetTypeOf_compact h
  obtain ⟨b, rest, rfl⟩ := List.exists_cons_of_ne_nil hne
  obtain ⟨hadd, -⟩ := compact_octet h
  unfold parseRohcPacket smallCidOctets
  by_cases h0 : cid = 0
  · subst h0
    simp only [gt_iff_lt, Nat.lt_irrefl, if_false, List.nil_append]
    rw [if_neg (by simp), if_neg (fun hh => hadd hh.2)]
    unfold parseRohcPacketBody readPacketCid
    simp [h₁, h₂, h₃, compactParsed, embeddedCid, smallCidOctets]
  · obtain ⟨f₁, f₂, -⟩ := addCid_octet_fields hcid
    rw [if_pos (Nat.pos_of_ne_zero h0)]
    simp only [List.cons_append, List.nil_append]
    rw [if_neg (by simp), if_pos ⟨rfl, f₁⟩, if_neg (by simp), u8At_cons_zero, f₂]
    unfold parseRohcPacketBody readPacketCid
    simp [h₁, h₂, h₃, compactParsed, embeddedCid, smallCidOctets, h0, Nat.pos_of_ne_zero]

/-- **A call with a compact unit goes to the context of its CID**. A unit of type RTP without Add-CID carries PT-0 bits in
place of a CID, so there the context must be one in which PT-0 is live. -/
theorem enters_compact {dec : Decompressor} {cid : Nat} {d : Context} {packet : Bytes} (hint : dec.integrity = none)
    (hspace : dec.largeCidSpace = false) (hcid : cid ≤ 0x0F) (hget : dec.contexts.get cid = some d) (hne : packet ≠ [])
    (h : u8At packet 0 < 0xC0)
    (hlive : packetTypeOf packet = .foRtp → cid = 0 → u8At packet 0 &&& 0x80 = 0 ∧
      livePt0ContextSupported d false 0 false = true) (out : Bytes) (cap : Nat) :
    Enters dec (smallCidOctets cid ++ packet) out cap (compactFrame dec cid d packet out cap) := by
  have hparse := parseRohcPacket_compact hcid hne h
  rw [← hspace] at hparse
  have hstart : isFeedbackPacketStart (u8At (smallCidOctets cid ++ packet) 0) = false := by
    unfold smallCidOctets
    split
    · exact (addCid_octet_fields hcid).2.2
    · exact (compact_octet h).2.1
  refine Enters.of_parsed hint hstart hparse ?_ hget
  have hpos := List.length_pos_iff.mpr hne
  unfold selectCid embeddedCid
  by_cases h0 : cid = 0
  · subst h0
    by_cases ht : packetTypeOf packet = .foRtp
    · obtain ⟨hbit, hd⟩ := hlive ht rfl
      have hstate : d.rohcState = .dynamicEstablished := by
        unfold livePt0ContextSupported at hd
        split at hd
        · cases hd
        · rename_i hn
          simp only [not_or, ne_eq, not_not] at hn
          exact hn.1
      simp [compactParsed, hspace, hpos, hbit, hget, hd, hstate]
    · simp [compactParsed, ht]
  · simp [compactParsed, h0]

/-! ## PT-0 -/

/-- The octet of a CRC-3 PT-0. -/
def pt0Octet (msn : UInt16) (crc : UInt8) : UInt8 := UInt8.ofNat (msn.toNat % 16 * 8 + crc.toNat % 8)

theorem writeFormalCoBase_pt0Crc3 {profile : Profile} (hp : formalCoVariantValidForProfile profile .pt0Crc3 = true)
    (msn : UInt16) (crc : UInt8) :
    writeFormalCoBase 1 profile .pt0Crc3 { msn := msn } crc = some [pt0Octet msn crc] := by
  have hbits : ∀ m < 16, ∀ c < 8,
      ((((BitWriter.mk [0] 0).writeBits 0 1).writeBits m 4).writeBits c 3).buf = [UInt8.ofNat (m * 8 + c)] := by
    decide +kernel
  unfold writeFormalCoBase
  simp only [hp, Nat.reduceGT, Bool.not_true, List.replicate]
  simp [hbits _ (Nat.mod_lt msn.toNat (by decide : 16 > 0)) _ (Nat.mod_lt crc.toNat (by decide : 8 > 0)), pt0Octet]

/-- A CRC-3 PT-0 on a small CID. -/
theorem emitFormalCo_pt0Crc3 {cap cid : Nat} {profile : Profile} {msn : UInt16} {input formal : Bytes}
    (h : emitFormalCo cap profile .pt0Crc3 cid false { msn := msn } input = some formal) :
    formal = smallCidOctets cid ++ [pt0Octet msn (crc3 input)] ∧
      formalCoVariantValidForProfile profile .pt0Crc3 = true := by
  unfold emitFormalCo at h
  split at h
  · cases h
  · rename_i hno
    have hp : formalCoVariantValidForProfile profile .pt0Crc3 = true := by
      by_contra hp
      exact hno (.inl (by simpa using hp))
    have hlen : formalCoBaseLen profile .pt0Crc3 = 1 := by simp [formalCoBaseLen, hp]
    have hcrc : formalCoHeaderCrc .pt0Crc3 input = crc3 input := rfl
    rw [hlen, hcrc, writeFormalCoBase_pt0Crc3 hp] at h
    simp [smallCidOctets] at h ⊢
    exact ⟨h.2.symm, hp⟩

/-- The MSN bits of a PT-0. -/
theorem readFormalCoBase_pt0Crc3 {profile : Profile} (hp : formalCoVariantValidForProfile profile .pt0Crc3 = true)
    (msn : UInt16) (crc : UInt8) (rest : Bytes) :
    readFormalCoBase (pt0Octet msn crc :: rest) 1 profile .pt0Crc3 =
      some { msn := UInt16.ofNat (msn.toNat % 16), headerCrc := UInt8.ofNat (crc.toNat % 8) } := by
  have hbits : ∀ m < 16, ∀ c < 8, readBits [UInt8.ofNat (m * 8 + c)] 0 1 = 0 ∧
      readBits [UInt8.ofNat (m * 8 + c)] 1 4 = m ∧ readBits [UInt8.ofNat (m * 8 + c)] 5 3 = c := by
    decide +kernel
  obtain ⟨h₀, h₁, h₂⟩ := hbits _ (Nat.mod_lt msn.toNat (by decide : 16 > 0)) _ (Nat.mod_lt crc.toNat (by decide : 8 > 0))
  change readBits [pt0Octet msn crc] 0 1 = 0 at h₀
  change readBits [pt0Octet msn crc] 1 4 = _ at h₁
  change readBits [pt0Octet msn crc] 5 3 = _ at h₂
  rw [show pt0Octet msn crc :: rest = [pt0Octet msn crc] ++ rest from rfl]
  unfold readFormalCoBase
  simp only [hp, Nat.reduceEqDiff, Bool.not_true]
  rw [readBits_append (by simp), readBits_append (by simp), readBits_append (by simp)]
  simp [h₀, h₁, h₂]

/-- **The MSN behind the bits of a PT-0**, for a decoder whose own MSN is at most `formal_pt0_forward_limit` behind. -/
theorem decodeForwardFormalPt0Msn_eq {d : Context} {msn : UInt16} (hpos : 0 < (msn - d.msn).toNat)
    (hle : (msn - d.msn).toNat ≤ (formalPt0ForwardLimit d).toNat) :
    decodeForwardFormalPt0Msn d (UInt16.ofNat (msn.toNat % 16)) = some msn := by
  have hm := msn.toNat_lt
  have hd := d.msn.toNat_lt
  have hsub : (msn - d.msn).toNat = (msn.toNat + 65536 - d.msn.toNat) % 65536 := by
    rw [UInt16.toNat_sub]
    omega
  have hlsb : (UInt16.ofNat (msn.toNat % 16)).toNat = msn.toNat % 16 := by
    rw [UInt16.toNat_ofNat']
    omega
  have hin : ¬UInt16.ofNat (msn.toNat % 16) > 0x0F := by
    rw [gt_iff_lt, UInt16.lt_iff_toNat_lt, hlsb, Nat.not_lt]
    exact Nat.le_of_lt_succ (Nat.mod_lt _ (by decide))
  have hdec : ∀ p ≤ 11, (msn - d.msn).toNat ≤ 15 - p →
      decodeLsbWithP (msn.toNat % 16) 4 d.msn.toNat p 16 = some msn.toNat := by
    intro p hp hle
    exact decodeLsbWithP_eq (t := (msn - d.msn).toNat + p) (by decide) (by decide) (by decide) (by omega) hm hd
      (by omega) (by omega)
  unfold decodeForwardFormalPt0Msn
  unfold formalPt0ForwardLimit at hle
  rw [if_neg hin, hlsb]
  by_cases h₀ : d.reorderRatio = 0
  · have hle' : (msn - d.msn).toNat ≤ 15 - 1 := by simpa [h₀] using hle
    simp [h₀, hdec 1 (by decide) hle', hpos, hle']
  by_cases h₁ : d.reorderRatio = 1
  · have hle' : (msn - d.msn).toNat ≤ 15 - 3 := by simpa [h₁] using hle
    simp [h₁, hdec 3 (by decide) hle', hpos, hle']
  by_cases h₂ : d.reorderRatio = 2
  · have hle' : (msn - d.msn).toNat ≤ 15 - 7 := by simpa [h₂] using hle
    simp [h₂, hdec 7 (by decide) hle', hpos, hle']
  by_cases h₃ : d.reorderRatio = 3
  · have hle' : (msn - d.msn).toNat ≤ 15 - 11 := by simpa [h₃] using hle
    simp [h₃, hdec 11 (by decide) hle', hpos, hle']
  · rw [if_neg h₀, if_neg h₁, if_neg h₂, if_neg h₃] at hle
    exact absurd (Nat.lt_of_lt_of_le hpos hle) (Nat.lt_irrefl 0)

end Rohccxx
