import Rohccxx.Headers
import Rohccxx.Receive

/-!
# Delivering a standard IR

A standard IR of a captured context, at any decompressor whose context has the CID: with one meaning and room for the
packet it is delivered, and the packet that comes out is the one that went in if and only if that was regular.
-/

set_option autoImplicit false

namespace Rohccxx

open Octets

/-! ## Sizes -/

/-- What the lists of an RTP header can add to a payload. -/
theorem HasRtp.length_le {rtp : RtpContext} {rtpPacket : Bytes} {view : RtpPayloadView} (h : HasRtp rtp rtpPacket view) :
    rtpPacket.length ≤ view.payloadLen + 583 ∧ view.payloadOffset + view.payloadLen ≤ rtpPacket.length := by
  have hoff := h.offset
  have hlen := h.len
  have h₁ := le_of_stored_eq h.csrcList (by omega)
  have h₂ := le_of_stored_eq h.extension (by omega)
  have h₃ : rtp.paddingLen ≤ 255 := by
    have hl := congrArg List.length h.padding
    rw [padding_slice (by omega)] at hl
    simp only [stored, List.length_take, Vector.length_toList] at hl
    omega
  omega

/-- A packet whose payload fits a unit is far shorter than an IP packet can be. -/
theorem length_le_of_payload {ctx : Context} {packet payload : Bytes} {view : ParsedIpView} {profile : Profile}
    (hip : HasIp ctx packet view) (h : HasUpper ctx packet view profile payload)
    (hpay : payload.length ≤ segmentBufferMax) : packet.length ≤ 0xFFFF := by
  unfold segmentBufferMax at hpay
  have hhead : view.headerLen ≤ 168 := by
    cases h6 : view.isIpv6 with
    | true =>
      obtain ⟨hs, -, -, hl, -⟩ := parseIpView_ipv6 hip.parsed h6
      obtain ⟨hv6, hext⟩ := hip.v6 h6
      have hfit := hs.fits
      have := le_of_stored_eq hv6.extensions (by omega)
      omega
    | false =>
      obtain ⟨hs, -, hl, -⟩ := parseIpView_ipv4 hip.parsed h6
      have hv4 := hip.v4 h6
      have hfit := hs.fits
      have hhead := hv4.headerLen
      have := le_of_stored_eq hv4.options (by omega)
      omega
  have hfit := hip.fits
  cases h with
  | udp header fits protocol => rw [List.length_drop] at hpay; omega
  | udpLite header fits coverage protocol => rw [List.length_drop] at hpay; omega
  | esp header fits protocol noList noOptions => rw [List.length_drop] at hpay; omega
  | ip protocol => rw [List.length_drop] at hpay; omega
  | rtp header rtp extras fits protocol =>
    obtain ⟨h₁, h₂⟩ := rtp.length_le
    rw [length_slice h₂] at hpay
    rw [List.length_drop] at h₁
    omega
  | rtpUdpLite header rtp extras fits coverage protocol =>
    obtain ⟨h₁, h₂⟩ := rtp.length_le
    rw [length_slice h₂] at hpay
    rw [List.length_drop] at h₁
    omega

/-! ## Flags -/

/-- The reserved flag of an IPv4 packet is clear. -/
def ReservedClear (packet : Bytes) : Prop := u8At packet 6 &&& 0x80 = 0

/-- The flag octets of a packet that is not a fragment. -/
theorem flagOctets_of_whole {packet : Bytes} (h : Ipv4.isFragmented (u16At packet 6) = false) :
    u8At packet 7 = 0 ∧ u8At packet 6 &&& 0x3F = 0 := by
  have h0 : (u16At packet 6 &&& 0x3FFF) = 0 := by simpa [Ipv4.isFragmented] using h
  have hn := congrArg UInt16.toNat h0
  have hm : ∀ n : Nat, n &&& 0x3FFF = n % 2 ^ 14 := fun n => Nat.and_two_pow_sub_one_eq_mod n 14
  have hm' : ∀ n : Nat, n &&& 0x3F = n % 2 ^ 6 := fun n => Nat.and_two_pow_sub_one_eq_mod n 6
  simp only [UInt16.toNat_and, UInt16.reduceToNat, hm, u16At, toNat_ofBe16, Nat.reduceAdd] at hn
  have h₁ := (u8At packet 6).toNat_lt
  have h₂ := (u8At packet 7).toNat_lt
  constructor
  · apply UInt8.toNat_inj.mp
    simp only [UInt8.reduceToNat]
    omega
  · apply UInt8.toNat_inj.mp
    simp only [UInt8.toNat_and, UInt8.reduceToNat, hm']
    omega

/-- The flags of a packet that is not a fragment: a legacy chain carries them all, a standard one only DF. -/
theorem flags_of_whole {packet : Bytes} (h : Ipv4.isFragmented (u16At packet 6) = false) (hlen : 8 ≤ packet.length) :
    [Job.wireFlags packet <<< 5, 0] = slice packet 6 2 ∧
      ([dfOnly (Job.wireFlags packet) <<< 5, 0] = slice packet 6 2 ↔ ReservedClear packet) := by
  obtain ⟨h₇, h₆⟩ := flagOctets_of_whole h
  rw [← u8At_pair (by omega), Job.wireFlags, u16At, ReservedClear]
  change u8At packet (6 + 1) = 0 at h₇
  rw [h₇]
  generalize u8At packet 6 = b at h₆
  refine forall_octet (P := fun b => b &&& 0x3F = 0 →
    [((ofBe16 b 0 >>> 13) &&& 0x07).toUInt8 <<< 5, 0] = [b, 0] ∧
      ([dfOnly ((ofBe16 b 0 >>> 13) &&& 0x07).toUInt8 <<< 5, 0] = [b, 0] ↔ b &&& 0x80 = 0)) ?_ b h₆
  decide +kernel

/-! ## Delivery -/

/-- The fields a builder computes are right; a standard chain also loses the reserved flag. -/
def RegularPacket (packet : Bytes) (view : ParsedIpView) (profile : Profile) : Prop :=
  profile = .uncompressed ∨
    (if view.isIpv6 then RegularIpv6 packet
      else RegularIpv4 packet ∧ (profileUsesFormalPt0 profile = true → ReservedClear packet)) ∧
    RegularUpper packet view profile

/-- The protocol a standard decoder asks for. -/
theorem Chosen.requiredProtocol {packet : Bytes} {view : ParsedIpView} {profile : Profile}
    (h : Chosen packet view profile) (hstd : profileUsesFormalPt0 profile = true) {protocol : UInt8}
    (hp : protocol = view.terminalProtocol) : protocol = (Rohccxx.requiredProtocol profile).getD protocol := by
  obtain ⟨h₁, -, h₃⟩ := h.fields
  cases profile with
  | rtp => exact hp.trans (h₁ (Or.inr rfl)).1
  | udp => exact hp.trans (h₁ (Or.inl rfl)).1
  | esp => exact hp.trans (h₃ rfl)
  | ip => rfl
  | uncompressed | llaRtp | rtpUdpLite | udpLite => cases hstd

/-- A standard IR as a branch of the compressor sends it. -/
structure SentIr (job : Job) (profile : Profile) (previous : Context) (payload : Bytes) (c : Context) : Prop where
  isStandard : profileUsesFormalPt0 profile = true
  chosen : Chosen job.packet job.view profile
  sends : SendsIr profile c
  holds : job.Holds profile previous payload c
  version : profile = .rtp → c.rtp.vpxcc >>> 6 = 2
  short : payload.length ≤ segmentBufferMax

section SentIr

variable {dec : Decompressor} {job : Job} {profile : Profile} {previous c d : Context} {payload : Bytes}
  (h : SentIr job profile previous payload c) (hlists : profile = .rtp → NoLists (irBase dec profile c d).rtp)

include h

theorem SentIr.length_le : job.packet.length ≤ 0xFFFF := length_le_of_payload h.holds.ip h.holds.upper h.short

/-- The flags behind a standard chain. -/
theorem SentIr.regularIp_iff (flags : UInt8)
    (hf : job.view.isIpv6 = false → flags = dfOnly (Job.wireFlags job.packet)) :
    RegularIp flags job.packet job.view ∧ RegularUpper job.packet job.view profile ↔
      RegularPacket job.packet job.view profile := by
  have hne : profile ≠ .uncompressed := by
    rintro rfl
    cases h.isStandard
  unfold RegularIp RegularPacket
  cases h6 : job.view.isIpv6 with
  | true => simp [hne]
  | false =>
    obtain ⟨hs, -⟩ := parseIpView_ipv4 h.holds.ip.parsed h6
    have hmin := hs.minLen
    have hfit := hs.fits
    obtain ⟨-, hiff⟩ := flags_of_whole (h.chosen.whole h6) (by omega)
    rw [hf h6]
    simp [hne, hiff, h.isStandard]

include hlists

/-- What a standard IR leaves behind holds the headers of the packet. -/
theorem SentIr.holds_irAfter :
    HasIp (irAfter dec profile c d) job.packet job.view ∧
      HasUpper (irAfter dec profile c d) job.packet job.view profile payload ∧
      (job.view.isIpv6 = false → (irAfter dec profile c d).ipv4Flags = dfOnly (Job.wireFlags job.packet)) ∧
      (irAfter dec profile c d).profile = profile ∧
      (profile = .esp → (irAfter dec profile c d).legacyEspPayloadIncludesHeader = false) := by
  obtain ⟨h₄, h₆, ht, hr, hp, -⟩ :=
    (irFrame dec profile c d [] [] 0).irGates_frame profile (irDecoded profile c (irBase dec profile c d))
  obtain ⟨hi, hf⟩ := hasIp_irDecoded h.holds.ip h.sends.ip (h.holds.honest h.isStandard) profile
    (irBase dec profile c d)
  have hu := hasUpper_irDecoded (d := irBase dec profile c d) h.sends h.isStandard h.holds.ip h.holds.protocol
    h.holds.upper fun hp => ⟨h.version hp, hlists hp⟩
  refine ⟨hi.of_ip h₄ h₆, hu.of_eq ht hr (congrArg Ipv4Context.ipv4Protocol h₄), fun hv => ?_, hp.trans ?_, ?_⟩
  · rw [← h.holds.flags hv, ← hf hv]
    exact congrArg Ipv4Context.ipv4Flags h₄
  · rfl
  · rintro rfl
    exact (congrArg TransportContext.legacyEspPayloadIncludesHeader ht).trans
      (congrArg TransportContext.legacyEspPayloadIncludesHeader (esp_irDecoded c (irBase dec .esp c d)))

variable (hint : dec.integrity = none) (hspace : dec.largeCidSpace = c.largeCid)
  (hget : dec.contexts.get c.cid = some d) (hamb : irAmbiguous profile c (irBase dec profile c d) payload = false)
  (out : Bytes) {cap : Nat}

include hint hspace hget hamb

/-- **A standard IR with one meaning is delivered**, and regular packets come out as they went in. -/
theorem SentIr.delivered (hcap : job.packet.length ≤ cap) :
    ∃ octets, Delivered ⟨dec, out, cap⟩ c.cid (irAfter dec profile c d) octets
        (rohcDecompress4 dec (irUnit profile c ++ payload) out cap) ∧
      (octets = job.packet ↔ RegularPacket job.packet job.view profile) := by
  obtain ⟨hi, hu, hf, hp, hsep⟩ := h.holds_irAfter hlists
  obtain ⟨-, hterm⟩ := protocol_irDecoded h.holds.ip h.sends.ip h.holds.protocol profile (irBase dec profile c d)
  obtain ⟨octets, hbuild, -, hiff⟩ := rebuild_eq_iff hp hi hu hsep h.length_le hcap
  refine ⟨octets, ?_, hiff.trans (h.regularIp_iff _ hf)⟩
  exact receive_ir_delivered hint hspace h.sends.fits hget h.isStandard
    (h.chosen.requiredProtocol h.isStandard hterm) payload out cap hamb hbuild

/-- Without room for the packet it is refused. -/
theorem SentIr.refused_of_no_room (hcap : cap < job.packet.length) :
    (rohcDecompress4 dec (irUnit profile c ++ payload) out cap).1 ≠ 0 := by
  obtain ⟨hi, hu, hf, hp, hsep⟩ := h.holds_irAfter hlists
  obtain ⟨-, hterm⟩ := protocol_irDecoded h.holds.ip h.sends.ip h.holds.protocol profile (irBase dec profile c d)
  exact receive_ir_refused hint hspace h.sends.fits hget h.isStandard
    (h.chosen.requiredProtocol h.isStandard hterm) payload out cap hamb
    (rebuild_eq_none hp hi hu hsep h.length_le hcap)

end SentIr

/-- A standard IR with two meanings is refused. -/
theorem SentIr.refused_of_ambiguous {dec : Decompressor} {job : Job} {profile : Profile} {previous c d : Context}
    {payload : Bytes} (h : SentIr job profile previous payload c) (hint : dec.integrity = none)
    (hspace : dec.largeCidSpace = c.largeCid) (hget : dec.contexts.get c.cid = some d)
    (hamb : irAmbiguous profile c (irBase dec profile c d) payload = true) (out : Bytes) (cap : Nat) :
    (rohcDecompress4 dec (irUnit profile c ++ payload) out cap).1 ≠ 0 := by
  obtain ⟨-, hterm⟩ := protocol_irDecoded h.holds.ip h.sends.ip h.holds.protocol profile (irBase dec profile c d)
  exact receive_ir_ambiguous hint hspace h.sends.fits hget h.isStandard
    (h.chosen.requiredProtocol h.isStandard hterm) payload out cap hamb

end Rohccxx
