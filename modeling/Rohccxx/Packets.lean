import Rohccxx.Build

/-!
# Regular packets

A builder recomputes the version octet, the length fields and the header checksum. It therefore gives back the packet it
was captured from exactly when these fields of the packet were right. The lemmas take the packet apart in the slices the
builder writes.
-/

set_option autoImplicit false

namespace Rohccxx

open Octets

theorem be16_u16At {packet : Bytes} {i : Nat} (h : i + 2 ≤ packet.length) : be16 (u16At packet i) = slice packet i 2 :=
  be16_slice h

theorem be32_u32At {packet : Bytes} {i : Nat} (h : i + 4 ≤ packet.length) : be32 (u32At packet i) = slice packet i 4 :=
  be32_slice h

theorem u8At_pair {packet : Bytes} {i : Nat} (h : i + 2 ≤ packet.length) :
    [u8At packet i, u8At packet (i + 1)] = slice packet i 2 := by
  rw [← be16_u16At h]
  exact (be16_ofBe16 _ _).symm

theorem be16_eq_slice_iff {packet : Bytes} {i : Nat} (h : i + 2 ≤ packet.length) (v : UInt16) :
    be16 v = slice packet i 2 ↔ u16At packet i = v := by
  rw [← be16_u16At h]
  exact ⟨fun e => (be16_injective e).symm, fun e => e ▸ rfl⟩

/-! ## IPv4 headers -/

/-- The header length an IPv4 packet states. -/
def ipv4HeaderLen (packet : Bytes) : Nat := (u8At packet 0 &&& 0x0F).toNat * 4

/-- The header of a packet with its checksum field cleared. -/
def clearedHeader (packet : Bytes) : Bytes :=
  slice packet 0 10 ++ [0, 0] ++ slice packet 12 (ipv4HeaderLen packet - 12)

/-- The fields of an IPv4 header that depend on the rest of the packet are right. -/
structure RegularIpv4 (packet : Bytes) : Prop where
  total : (u16At packet 2).toNat = packet.length
  checksum : u16At packet 10 = ipv4Checksum (clearedHeader packet)

/-- The context has the IPv4 header of the packet, the flags apart. -/
structure HasIpv4 (ctx : Context) (packet : Bytes) : Prop where
  version : ctx.ipVersion = 4
  tos : ctx.ipv4Tos = u8At packet 1
  id : ctx.ipv4Id = u16At packet 4
  ttl : ctx.ipv4Ttl = u8At packet 8
  protocol : ctx.ipv4Protocol = u8At packet 9
  saddr : ctx.ipv4Saddr = u32At packet 12
  daddr : ctx.ipv4Daddr = u32At packet 16
  headerLen : 20 + ctx.ipv4OptionsLen = ipv4HeaderLen packet
  options : stored ctx.ipv4Options ctx.ipv4OptionsLen = slice packet 20 ctx.ipv4OptionsLen

/-- A packet with an IPv4 header. -/
structure Ipv4Shaped (packet : Bytes) : Prop where
  version : u8At packet 0 >>> 4 = 4
  minLen : 20 ≤ ipv4HeaderLen packet
  fits : ipv4HeaderLen packet ≤ packet.length

theorem ipv4Shaped_of_parse {packet : Bytes} {hlen : Nat} (h : Ipv4.parse packet = some hlen) :
    Ipv4Shaped packet ∧ hlen = ipv4HeaderLen packet := by
  unfold Ipv4.parse at h
  split at h
  · cases h
  · dsimp only at h
    split at h
    · cases h
    · split at h
      · cases h
      · rename_i hv hl
        simp only [not_or, Nat.not_lt] at hl
        exact ⟨⟨by simpa using hv, hl.1, hl.2⟩, (Option.some.inj h).symm⟩

/-- The version octet is determined by the header length. -/
theorem versionOctet_eq {packet : Bytes} (h : Ipv4Shaped packet) :
    (0x40 : UInt8) ||| UInt8.ofNat (ipv4HeaderLen packet / 4) = u8At packet 0 := by
  have hv := h.version
  unfold ipv4HeaderLen
  rw [Nat.mul_div_cancel _ (by decide)]
  generalize u8At packet 0 = b at hv
  exact forall_octet (P := fun b => b >>> 4 = 4 → (0x40 : UInt8) ||| UInt8.ofNat (b &&& 0x0F).toNat = b)
    (by decide) b hv

/-- The header a builder writes, field by field. -/
theorem ipv4Header_eq (ctx : Context) (protocol : UInt8) (total : Nat) :
    ipv4Header ctx protocol total =
      [(0x40 : UInt8) ||| UInt8.ofNat ((20 + ctx.ipv4OptionsLen) / 4), ctx.ipv4Tos] ++
      (be16 (UInt16.ofNat total) ++ (be16 ctx.ipv4Id ++ ([ctx.ipv4Flags <<< 5, 0] ++ ([ctx.ipv4Ttl, protocol] ++
      (be16 (ipv4Checksum (ipv4HeaderRaw ctx protocol total (stored ctx.ipv4Options ctx.ipv4OptionsLen))) ++
      (be32 ctx.ipv4Saddr ++ (be32 ctx.ipv4Daddr ++ stored ctx.ipv4Options ctx.ipv4OptionsLen))))))) := by
  unfold ipv4Header fillChecksum
  generalize ipv4Checksum _ = checksum
  simp [ipv4HeaderRaw, be16, be32]

/-- A packet in the slices of its IPv4 header. -/
theorem ipv4_slices (packet : Bytes) (n : Nat) :
    packet = slice packet 0 2 ++ (slice packet 2 2 ++ (slice packet 4 2 ++ (slice packet 6 2 ++ (slice packet 8 2 ++
      (slice packet 10 2 ++ (slice packet 12 4 ++ (slice packet 16 4 ++ (slice packet 20 n ++
        packet.drop (20 + n))))))))) := by
  simp only [slice_append_drop, Nat.reduceAdd, List.drop_zero]

theorem append_eq_append_iff_of_length {a b c d : Bytes} (h : a.length = b.length) :
    a ++ c = b ++ d ↔ a = b ∧ c = d :=
  ⟨fun e => List.append_inj e h, fun ⟨e₁, e₂⟩ => e₁ ▸ e₂ ▸ rfl⟩

/-- The header the builder sums up is that of the packet. -/
theorem ipv4HeaderRaw_eq_cleared {ctx : Context} {packet : Bytes} (hs : Ipv4Shaped packet) (h : HasIpv4 ctx packet)
    (htotal : be16 (UInt16.ofNat packet.length) = slice packet 2 2)
    (hflags : [ctx.ipv4Flags <<< 5, 0] = slice packet 6 2) :
    ipv4HeaderRaw ctx (u8At packet 9) packet.length (stored ctx.ipv4Options ctx.ipv4OptionsLen) =
      clearedHeader packet := by
  have hmin := hs.minLen
  have hfit := hs.fits
  have e : ipv4HeaderRaw ctx (u8At packet 9) packet.length (stored ctx.ipv4Options ctx.ipv4OptionsLen) =
      [(0x40 : UInt8) ||| UInt8.ofNat ((20 + ctx.ipv4OptionsLen) / 4), ctx.ipv4Tos] ++
        be16 (UInt16.ofNat packet.length) ++ be16 ctx.ipv4Id ++ [ctx.ipv4Flags <<< 5, 0] ++
        [ctx.ipv4Ttl, u8At packet 9] ++ [0, 0] ++ (be32 ctx.ipv4Saddr ++ be32 ctx.ipv4Daddr ++
        stored ctx.ipv4Options ctx.ipv4OptionsLen) := by
    simp [ipv4HeaderRaw]
  rw [e, h.headerLen, versionOctet_eq hs, h.tos, h.id, h.ttl, h.saddr, h.daddr, h.options, htotal, hflags,
    u8At_pair (by omega), u8At_pair (by omega), be16_u16At (by omega), be32_u32At (by omega), be32_u32At (by omega)]
  simp only [slice_append_slice, Nat.reduceAdd]
  unfold clearedHeader
  rw [← h.headerLen]
  congr 2
  omega

/-- **What the IPv4 builder gives back**: the packet the context was captured from, if and only if that was regular and
its flags are those of the context. -/
theorem ipv4Header_append_eq_iff {ctx : Context} {packet : Bytes} (hs : Ipv4Shaped packet) (h : HasIpv4 ctx packet)
    (hlen : packet.length ≤ 0xFFFF) :
    ipv4Header ctx (u8At packet 9) packet.length ++ packet.drop (ipv4HeaderLen packet) = packet ↔
      RegularIpv4 packet ∧ [ctx.ipv4Flags <<< 5, 0] = slice packet 6 2 := by
  have hmin := hs.minLen
  have hfit := hs.fits
  have hraw := ipv4HeaderRaw_eq_cleared hs h
  have htot : be16 (UInt16.ofNat packet.length) = slice packet 2 2 ↔ (u16At packet 2).toNat = packet.length := by
    rw [be16_eq_slice_iff (by omega), ← UInt16.toNat_inj]
    simp only [UInt16.toNat_ofNat', Nat.reducePow]
    rw [Nat.mod_eq_of_lt (by omega)]
  have hsum : ∀ v, be16 v = slice packet 10 2 ↔ u16At packet 10 = v := be16_eq_slice_iff (by omega)
  rw [ipv4Header_eq]
  generalize hc : ipv4Checksum (ipv4HeaderRaw _ _ _ _) = checksum
  rw [h.headerLen, versionOctet_eq hs, h.tos, h.id, h.ttl, h.saddr, h.daddr, h.options, ← h.headerLen,
    u8At_pair (by omega), u8At_pair (by omega), be16_u16At (by omega), be32_u32At (by omega), be32_u32At (by omega)]
  conv_lhs => rhs; rw [ipv4_slices packet ctx.ipv4OptionsLen]
  have l₂ : (slice packet 2 2).length = 2 := length_slice (by omega)
  have l₆ : (slice packet 6 2).length = 2 := length_slice (by omega)
  have l₁₀ : (slice packet 10 2).length = 2 := length_slice (by omega)
  simp only [List.append_assoc, List.append_cancel_left_eq]
  rw [append_eq_append_iff_of_length (by rw [l₂]; rfl), List.append_cancel_left_eq,
    append_eq_append_iff_of_length (by rw [l₆]; rfl), List.append_cancel_left_eq,
    append_eq_append_iff_of_length (by rw [l₁₀]; rfl)]
  constructor
  · rintro ⟨ht, hf, hk, -⟩
    refine ⟨⟨htot.mp ht, ?_⟩, hf⟩
    rw [(hsum checksum).mp hk, ← hc, hraw ht hf]
  · rintro ⟨⟨ht, hk⟩, hf⟩
    have ht' := htot.mpr ht
    refine ⟨ht', hf, (hsum checksum).mpr ?_, rfl⟩
    rw [hk, ← hc, hraw ht' hf]

/-! ## IPv6 headers -/

/-- The context has the IPv6 header and the extension headers of the packet. -/
structure HasIpv6 (ctx : Context) (packet : Bytes) : Prop where
  version : ctx.ipVersion = 6
  trafficClass : ctx.ipv6TrafficClass = (u32At packet 0 >>> 20).toUInt8
  flowLabel : ctx.ipv6FlowLabel = u32At packet 0 &&& 0x000FFFFF
  nextHeader : ctx.ipv6NextHeader = u8At packet 6
  hopLimit : ctx.ipv6HopLimit = u8At packet 7
  saddr : ctx.ipv6Saddr.toList = slice packet 8 16
  daddr : ctx.ipv6Daddr.toList = slice packet 24 16
  extensions : stored ctx.ipv6Extensions ctx.ipv6ExtensionLen = slice packet 40 ctx.ipv6ExtensionLen

/-- A packet with an IPv6 header and `extensionLen` octets of extension headers. -/
structure Ipv6Shaped (packet : Bytes) (extensionLen : Nat) : Prop where
  version : u8At packet 0 >>> 4 = 6
  fits : 40 + extensionLen ≤ packet.length

/-- The payload length of an IPv6 packet is right. -/
def RegularIpv6 (packet : Bytes) : Prop := (u16At packet 4).toNat + 40 = packet.length

/-- Version, traffic class and flow label put together again. -/
theorem firstWord_eq {w : UInt32} (h : w.toNat / 2 ^ 28 = 6) :
    (0x60000000 : UInt32) ||| ((w >>> 20).toUInt8.toUInt32 <<< 20) ||| ((w &&& 0x000FFFFF) &&& 0x000FFFFF) = w := by
  apply UInt32.toNat_inj.mp
  have hw := w.toNat_lt
  have hm : ∀ n : Nat, n &&& 0x000FFFFF = n % 2 ^ 20 := fun n => Nat.and_two_pow_sub_one_eq_mod n 20
  simp only [UInt32.toNat_or, UInt32.toNat_shiftLeft, UInt8.toNat_toUInt32, UInt32.toNat_toUInt8, UInt32.toNat_and,
    UInt32.toNat_shiftRight, UInt32.reduceToNat, Nat.reduceMod, hm, Nat.shiftRight_eq_div_pow]
  have s₁ : (w.toNat / 2 ^ 20 % 2 ^ 8) <<< 20 % 2 ^ 32 = (w.toNat / 2 ^ 20 % 2 ^ 8) <<< 20 := by
    simp only [Nat.shiftLeft_eq]; omega
  have s₂ : 1610612736 = (6 <<< 8) <<< 20 := by decide
  have s₃ : 6 <<< 8 ||| w.toNat / 2 ^ 20 % 2 ^ 8 = w.toNat / 2 ^ 20 := by
    have := Nat.shiftLeft_add_eq_or_of_lt (i := 8) (b := w.toNat / 2 ^ 20 % 2 ^ 8) (by omega) 6
    rw [← this, Nat.shiftLeft_eq]
    omega
  rw [s₁, s₂, ← Nat.shiftLeft_or_distrib, s₃]
  have s₄ := Nat.shiftLeft_add_eq_or_of_lt (i := 20) (b := w.toNat % 2 ^ 20 % 2 ^ 20) (by omega) (w.toNat / 2 ^ 20)
  rw [← s₄, Nat.shiftLeft_eq]
  omega

theorem ipv6Version_eq {packet : Bytes} (h : u8At packet 0 >>> 4 = 6) : (u32At packet 0).toNat / 2 ^ 28 = 6 := by
  have h₁ := congrArg UInt8.toNat h
  simp only [UInt8.toNat_shiftRight, UInt8.reduceToNat, Nat.reduceMod, Nat.shiftRight_eq_div_pow] at h₁
  have h₂ := (u8At packet 1).toNat_lt
  have h₃ := (u8At packet 2).toNat_lt
  have h₄ := (u8At packet 3).toNat_lt
  rw [u32At, toNat_ofBe32]
  simp only [Nat.zero_add]
  omega

/-- **What the IPv6 builder gives back**. -/
theorem ipv6Header_append_eq_iff {ctx : Context} {packet : Bytes} (hs : Ipv6Shaped packet ctx.ipv6ExtensionLen)
    (h : HasIpv6 ctx packet) (hlen : packet.length ≤ 40 + 0xFFFF) :
    ipv6Header ctx (packet.length - 40) ++ packet.drop (40 + ctx.ipv6ExtensionLen) = packet ↔ RegularIpv6 packet := by
  have hfit := hs.fits
  have htot : be16 (UInt16.ofNat (packet.length - 40)) = slice packet 4 2 ↔ RegularIpv6 packet := by
    rw [be16_eq_slice_iff (by omega), ← UInt16.toNat_inj, RegularIpv6]
    simp only [UInt16.toNat_ofNat', Nat.reducePow]
    rw [Nat.mod_eq_of_lt (by omega)]
    omega
  have hsplit : packet = slice packet 0 4 ++ (slice packet 4 2 ++ (slice packet 6 2 ++ (slice packet 8 16 ++
      (slice packet 24 16 ++ (slice packet 40 ctx.ipv6ExtensionLen ++ packet.drop (40 + ctx.ipv6ExtensionLen)))))) := by
    simp only [slice_append_drop, Nat.reduceAdd, List.drop_zero]
  unfold ipv6Header
  rw [h.trafficClass, h.flowLabel, h.nextHeader, h.hopLimit, h.saddr, h.daddr, h.extensions,
    firstWord_eq (ipv6Version_eq hs.version), be32_u32At (by omega), u8At_pair (by omega)]
  conv_lhs => rhs; rw [hsplit]
  have l₄ : (slice packet 4 2).length = 2 := length_slice (by omega)
  simp only [List.append_assoc, List.append_cancel_left_eq]
  rw [append_eq_append_iff_of_length (by rw [l₄]; rfl), htot]
  simp

/-! ## Transport headers -/

/-- The context has the ports and the checksum of the UDP header at an offset. -/
structure HasUdp (ctx : Context) (packet : Bytes) (offset : Nat) : Prop where
  sport : ctx.udpSport = u16At packet offset
  dport : ctx.udpDport = u16At packet (offset + 2)
  check : ctx.udpCheck = u16At packet (offset + 6)

theorem udpHeader_append_eq_iff {ctx : Context} {packet : Bytes} {offset : Nat} (h : HasUdp ctx packet offset)
    (hfit : offset + 8 ≤ packet.length) (length : UInt16) :
    udpHeader ctx length ++ packet.drop (offset + 8) = packet.drop offset ↔ u16At packet (offset + 4) = length := by
  have hsplit : packet.drop offset = slice packet offset 2 ++ (slice packet (offset + 2) 2 ++
      (slice packet (offset + 4) 2 ++ (slice packet (offset + 6) 2 ++ packet.drop (offset + 8)))) := by
    rw [slice_append_drop (by omega), slice_append_drop (by omega), slice_append_drop (by omega),
      slice_append_drop (by omega)]
  unfold udpHeader
  rw [h.sport, h.dport, h.check, be16_u16At (by omega), be16_u16At (by omega), be16_u16At (by omega), hsplit]
  have l₄ : (slice packet (offset + 4) 2).length = 2 := length_slice (by omega)
  simp only [List.append_assoc, List.append_cancel_left_eq]
  rw [append_eq_append_iff_of_length (by rw [l₄]; rfl), be16_eq_slice_iff (by omega)]
  simp

/-- The context has the ESP header at an offset. -/
structure HasEsp (ctx : Context) (packet : Bytes) (offset : Nat) : Prop where
  spi : ctx.espSpi = u32At packet offset
  sequence : ctx.espSequence = u32At packet (offset + 4)

theorem espHeader_append {ctx : Context} {packet : Bytes} {offset : Nat} (h : HasEsp ctx packet offset)
    (hfit : offset + 8 ≤ packet.length) :
    be32 ctx.espSpi ++ be32 ctx.espSequence ++ packet.drop (offset + 8) = packet.drop offset := by
  rw [h.spi, h.sequence, be32_u32At (by omega), be32_u32At (by omega), List.append_assoc,
    slice_append_drop (by omega), slice_append_drop (by omega)]

/-- The context has the RTP header of `rtpPacket`, with its lists, and the payload lies where `view` says. -/
structure HasRtp (rtp : RtpContext) (rtpPacket : Bytes) (view : RtpPayloadView) : Prop where
  vpxcc : rtp.vpxcc = u8At rtpPacket 0
  mpt : rtp.mpt = u8At rtpPacket 1
  seq : rtp.lastSeq = u16At rtpPacket 2
  ts : rtp.lastTs = u32At rtpPacket 4
  ssrc : rtp.ssrc = u32At rtpPacket 8
  csrcList : stored rtp.csrcList rtp.csrcListLen = slice rtpPacket 12 rtp.csrcListLen
  extension : stored rtp.extensionBytes rtp.extensionLen = slice rtpPacket (12 + rtp.csrcListLen) rtp.extensionLen
  padding : stored rtp.paddingBytes rtp.paddingLen = rtpPacket.drop (rtpPacket.length - rtp.paddingLen)
  offset : view.payloadOffset = 12 + rtp.csrcListLen + rtp.extensionLen
  len : view.payloadOffset + view.payloadLen + rtp.paddingLen = rtpPacket.length

/-- The RTP builder gives back the RTP packet. -/
theorem rtpWire_eq {rtp : RtpContext} {rtpPacket : Bytes} {view : RtpPayloadView} (h : HasRtp rtp rtpPacket view) :
    rtpWire rtp (slice rtpPacket view.payloadOffset view.payloadLen) = rtpPacket := by
  have hoff := h.offset
  have hlen := h.len
  have hpad : rtpPacket.length - rtp.paddingLen = view.payloadOffset + view.payloadLen := by omega
  unfold rtpWire
  rw [h.vpxcc, h.mpt, h.seq, h.ts, h.ssrc, h.csrcList, h.extension, h.padding, hpad, u8At_pair (by omega),
    be16_u16At (by omega), be32_u32At (by omega), be32_u32At (by omega)]
  simp only [List.append_assoc]
  rw [slice_append_drop rfl, slice_append_drop (by omega), slice_append_drop (by omega), slice_append_drop (by omega),
    slice_append_drop (by omega), slice_append_drop (by omega), slice_append_drop (by omega), List.drop_zero]

end Rohccxx
