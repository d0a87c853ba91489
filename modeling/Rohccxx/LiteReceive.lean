import Rohccxx.Delivery
import Rohccxx.LiteRoundTrip

/-!
# UDP-Lite units at the decompressor

The legacy chains carry every header field, lists and flags included, so a context they were read into holds the headers
of the packet. An IR of the UDP-Lite profiles is taken in the modes O and R when the transport follows the IPv6 header
directly, and refused otherwise.
-/

set_option autoImplicit false

namespace Rohccxx

open Octets Reader

/-! ## Decoded headers -/

section Legacy

variable {c d e : Context} {packet : Bytes} {view : ParsedIpView}

/-- Behind both IP chains, with other fields read in between. -/
theorem hasIp_copyLegacy (h : HasIp c packet view) (hip : LegacyIp c)
    (he : e.toIpv4Context = (copyLegacyStatic c d).toIpv4Context)
    (he₆ : e.toIpv6Context = (copyLegacyStatic c d).toIpv6Context) :
    HasIp (copyLegacyDynamic c e) packet view ∧
      (view.isIpv6 = false → (copyLegacyDynamic c e).ipv4Flags = c.ipv4Flags) := by
  cases h6 : view.isIpv6 with
  | false =>
    have hc := h.v4 h6
    have hn : c.ipVersion ≠ 6 := by rw [hc.version]; decide
    have hle : c.ipv4OptionsLen ≤ 40 := by
      rcases hip with ⟨-, h⟩ | ⟨h, -⟩
      · exact h
      · exact absurd h hn
    have hopt := stored_fillCopy_of_length (length_stored c.ipv4Options hle) hle
    simp only [copyLegacyStatic, if_neg hn] at he
    simp only [copyLegacyDynamic, if_neg hn, copyOptions]
    refine ⟨⟨h.parsed, fun _ => ?_, fun hn => by simp [h6] at hn⟩, fun _ => trivial⟩
    refine ⟨?_, hc.tos, hc.id, hc.ttl, ?_, ?_, ?_, hc.headerLen, hopt.trans hc.options⟩ <;> simp only [he]
    · exact hc.protocol
    · exact hc.saddr
    · exact hc.daddr
  | true =>
    obtain ⟨hc, hext⟩ := h.v6 h6
    have hv : c.ipVersion = 6 := hc.version
    have hle : c.ipv6ExtensionLen ≤ 128 := by
      rcases hip with ⟨h, -⟩ | ⟨-, h⟩
      · rw [hv] at h
        exact absurd h (by decide)
      · omega
    have hlist := stored_fillCopy_of_length (length_stored c.ipv6Extensions hle) hle
    simp only [copyLegacyStatic, if_pos hv] at he he₆
    simp only [copyLegacyDynamic, if_pos hv, copyExtensions]
    refine ⟨⟨h.parsed, fun hn => by simp [h6] at hn, fun _ => ⟨?_, hext⟩⟩, fun hn => by cases hn⟩
    refine ⟨?_, hc.trafficClass, ?_, ?_, hc.hopLimit, ?_, ?_, hlist.trans hc.extensions⟩
    · simp only [he]
    · rw [hc.flowLabel]
      apply UInt32.toBitVec_inj.mp
      simp [BitVec.and_assoc]
    · simp only [he₆]
      exact hc.nextHeader
    · simp only [he₆]
      exact hc.saddr
    · simp only [he₆]
      exact hc.daddr

theorem copyLegacyDynamic_frame (c e : Context) :
    (copyLegacyDynamic c e).toTransportContext = e.toTransportContext ∧ (copyLegacyDynamic c e).rtp = e.rtp ∧
      (copyLegacyDynamic c e).toControl = e.toControl := by
  unfold copyLegacyDynamic copyExtensions copyOptions
  split <;> exact ⟨rfl, rfl, rfl⟩

theorem hasIp_udpLiteIrDecoded (h : HasIp c packet view) (hip : LegacyIp c) (d : Context) :
    HasIp (udpLiteIrDecoded c d) packet view ∧
      (view.isIpv6 = false → (udpLiteIrDecoded c d).ipv4Flags = c.ipv4Flags) := by
  obtain ⟨hi, hf⟩ := hasIp_copyLegacy (d := d) (e := copyPorts c (copyLegacyStatic c d)) h hip rfl rfl
  exact ⟨hi.of_ip rfl rfl, hf⟩

theorem hasUpper_udpLiteIrDecoded {payload : Bytes} (h : HasUpper c packet view .udpLite payload) (d : Context) :
    HasUpper (udpLiteIrDecoded c d) packet view .udpLite payload := by
  cases h with
  | udpLite header fits coverage protocol =>
    obtain ⟨ht, -⟩ := copyLegacyDynamic_frame c (copyPorts c (copyLegacyStatic c d))
    have hs := congrArg TransportContext.udpSport ht
    have hd := congrArg TransportContext.udpDport ht
    exact .udpLite ⟨Eq.trans hs header.sport, Eq.trans hd header.dport, header.check⟩ fits coverage protocol

theorem hasIp_rtpUdpLiteIrDecoded (h : HasIp c packet view) (hip : LegacyIp c) (d : Context) :
    HasIp (rtpUdpLiteIrDecoded c d) packet view ∧
      (view.isIpv6 = false → (rtpUdpLiteIrDecoded c d).ipv4Flags = c.ipv4Flags) := by
  obtain ⟨hi, hf⟩ := hasIp_copyLegacy (d := d) (e := copySsrc c (copyPorts c (copyLegacyStatic c d))) h hip rfl rfl
  exact ⟨hi.of_ip rfl rfl, hf⟩

/-- The lists of an RTP header in a copy of it. -/
theorem hasRtp_copyExtras {rtp other : RtpContext} {rtpPacket : Bytes} {payload : RtpPayloadView} {bodyLen : Nat}
    (h : HasRtp rtp rtpPacket payload) (hok : ExtrasOk rtp bodyLen) (hheader : HasRtpHeader other rtpPacket) :
    HasRtp (copyExtras rtp other) rtpPacket payload := by
  have hel := extensionLen_le hok.extensionValid
  exact ⟨hheader.vpxcc, hheader.mpt, hheader.seq, hheader.ts, hheader.ssrc,
    (stored_fillCopy_of_length (length_stored _ hok.csrcLe) hok.csrcLe).trans h.csrcList,
    (stored_fillCopy_of_length (length_stored _ hel) hel).trans h.extension,
    (stored_fillCopy_of_length (length_stored _ hok.paddingLe) hok.paddingLe).trans h.padding, h.offset, h.len⟩

theorem hasUpper_rtpUdpLiteIrDecoded {payload : Bytes} {bodyLen : Nat}
    (h : HasUpper c packet view .rtpUdpLite payload) (hextras : rtpExtrasBodyLen c.rtp = some bodyLen) (d : Context) :
    HasUpper (rtpUdpLiteIrDecoded c d) packet view .rtpUdpLite payload := by
  cases h with
  | @rtpUdpLite lists header rtp extras fits coverage protocol =>
    have hok := (rtpExtrasBodyLen_iff _ _).mp hextras
    obtain ⟨ht, hr, -⟩ := copyLegacyDynamic_frame c (copySsrc c (copyPorts c (copyLegacyStatic c d)))
    have hrtp : HasRtp (copyRtp c.rtp (copyLegacyDynamic c (copySsrc c (copyPorts c (copyLegacyStatic c d)))).rtp)
        (packet.drop (view.headerLen + 8)) lists := by
      refine hasRtp_copyExtras rtp hok ⟨rtp.vpxcc, rtp.mpt, rtp.seq, rtp.ts, ?_⟩
      rw [hr]
      exact rtp.ssrc
    have hex := (rtpExtrasBodyLen_iff _ _).mpr (extrasOk_copyExtras hok
      { (copyLegacyDynamic c (copySsrc c (copyPorts c (copyLegacyStatic c d)))).rtp with
        vpxcc := c.rtp.vpxcc, mpt := c.rtp.mpt, lastSeq := c.rtp.lastSeq, lastTs := c.rtp.lastTs } rfl)
    have hs := congrArg TransportContext.udpSport ht
    have hd := congrArg TransportContext.udpDport ht
    refine .rtpUdpLite ⟨Eq.trans hs header.sport, Eq.trans hd header.dport, header.check⟩ ?_ ?_ fits coverage protocol
    · exact ⟨hrtp.vpxcc, hrtp.mpt, hrtp.seq, hrtp.ts, hrtp.ssrc, hrtp.csrcList, hrtp.extension, hrtp.padding,
        hrtp.offset, hrtp.len⟩
    · exact Option.isSome_iff_exists.mpr ⟨bodyLen, hex⟩

end Legacy

/-! ## IRs of the UDP-Lite profiles -/

/-- The profiles of this module, with the list body only one of them has. -/
def IsLite (profile : Profile) (bodyLen : Nat) : Prop := profile = .udpLite ∧ bodyLen = 0 ∨ profile = .rtpUdpLite

/-- The context after a UDP-Lite IR of `c`. -/
def liteDecoded (profile : Profile) (c d : Context) : Context :=
  if profile = .rtpUdpLite then rtpUdpLiteIrDecoded c d else udpLiteIrDecoded c d

/-- A decoder takes the IR in a mode it knows, when the chains agree on the protocol. -/
def LiteAccepted (c : Context) : Prop := LegacyConsistent c ∧ c.mode ≠ .uncompressed

instance (c : Context) : Decidable (LegacyConsistent c) :=
  inferInstanceAs (Decidable (c.ipVersion = 6 → c.ipv4Protocol = c.ipv6NextHeader))

instance (c : Context) : Decidable (LiteAccepted c) :=
  inferInstanceAs (Decidable (LegacyConsistent c ∧ c.mode ≠ .uncompressed))

section LiteIr

variable {profile : Profile} {c d : Context} {bodyLen : Nat} (hlite : IsLite profile bodyLen)
  (hs : SendsLite profile c bodyLen) (hproto : c.ipv4Protocol = 136)

include hlite hs hproto

theorem decodeIrOf_lite (h : SameCid c d) (payload : Bytes) :
    Frame.decodeIrOf profile (liteIrUnit profile c bodyLen ++ payload) d =
      if LiteAccepted c then some (liteDecoded profile c d, (liteIrUnit profile c bodyLen).length) else none := by
  rcases hlite with ⟨rfl, rfl⟩ | rfl
  · change decodeIrUdpLite _ d = _
    unfold decodeIrUdpLite
    by_cases hc : LegacyConsistent c
    · by_cases hm : c.mode = .uncompressed
      · rw [if_neg (fun h : LiteAccepted c => h.2 hm), (refuses_decodeIrUdpLite_mode h hs hproto hc hm).run_eq payload]
      · rw [if_pos (show LiteAccepted c from ⟨hc, hm⟩), (reads_decodeIrUdpLite h hs hproto hc hm).run_eq payload]
        rfl
    · rw [if_neg (fun h : LiteAccepted c => hc h.1), (refuses_decodeIrUdpLite_next h hs hc).run_eq payload]
  · change decodeIrRtpUdpLite _ d = _
    unfold decodeIrRtpUdpLite
    by_cases hc : LegacyConsistent c
    · by_cases hm : c.mode = .uncompressed
      · rw [if_neg (fun h : LiteAccepted c => h.2 hm), (refuses_decodeIrRtpUdpLite_mode h hs hproto hc hm).run_eq payload]
      · rw [if_pos (show LiteAccepted c from ⟨hc, hm⟩), (reads_decodeIrRtpUdpLite h hs hproto hc hm).run_eq payload]
        rfl
    · rw [if_neg (fun h : LiteAccepted c => hc h.1), (refuses_decodeIrRtpUdpLite_next h hs hc).run_eq payload]

end LiteIr

section ReceiveLite

variable {dec : Decompressor} {profile : Profile} {c d : Context} {bodyLen : Nat}

/-- The frame of a call with the IR of a UDP-Lite flow. -/
def liteFrame (dec : Decompressor) (profile : Profile) (c d : Context) (bodyLen : Nat) (payload out : Bytes)
    (cap : Nat) : Frame :=
  callFrame dec out cap (refreshParsed c 0xFD profile.octet
    (crc8 (irFront c 0xFD profile.octet ++ 0 :: (liteStatic profile c ++ liteDynamic profile c bodyLen)) ::
      (liteStatic profile c ++ liteDynamic profile c bodyLen ++ legacyModeOctet c.mode :: payload))) c.cid d

/-- The context a UDP-Lite IR leaves behind. -/
def liteAfter (dec : Decompressor) (profile : Profile) (c d : Context) : Context :=
  (irFrame dec profile c d [] [] 0).irGates profile (liteDecoded profile c (irBase dec profile c d))

theorem liteIrUnit_append (profile : Profile) (c : Context) (bodyLen : Nat) (payload : Bytes) :
    liteIrUnit profile c bodyLen ++ payload = irFront c 0xFD profile.octet ++
      crc8 (irFront c 0xFD profile.octet ++ 0 :: (liteStatic profile c ++ liteDynamic profile c bodyLen)) ::
        (liteStatic profile c ++ liteDynamic profile c bodyLen ++ legacyModeOctet c.mode :: payload) := by
  simp [liteIrUnit, irSealed]

theorem decoderPacket_liteFrame (payload out : Bytes) (cap : Nat) :
    decoderPacket (liteFrame dec profile c d bodyLen payload out cap).parsed = liteIrUnit profile c bodyLen ++ payload :=
  (decoderPacket_refreshParsed c _ _ _).trans (liteIrUnit_append profile c bodyLen payload).symm

theorem payloadAfterHeader_liteFrame (payload out : Bytes) (cap : Nat) :
    payloadAfterHeader (decoderPacket (liteFrame dec profile c d bodyLen payload out cap).parsed)
      (liteIrUnit profile c bodyLen).length = some payload := by
  rw [decoderPacket_liteFrame, payloadAfterHeader_append]

variable (hint : dec.integrity = none) (hspace : dec.largeCidSpace = c.largeCid)
  (hget : dec.contexts.get c.cid = some d) (hlite : IsLite profile bodyLen) (hs : SendsLite profile c bodyLen)
  (hproto : c.ipv4Protocol = 136) (payload out : Bytes) (cap : Nat)

include hint hspace hget hlite hs hproto

theorem enters_liteIr :
    Enters dec (liteIrUnit profile c bodyLen ++ payload) out cap (liteFrame dec profile c d bodyLen payload out cap) ∧
    ∀ again live, (liteFrame dec profile c d bodyLen payload out cap).decode again live =
      if LiteAccepted c then (liteFrame dec profile c d bodyLen payload out cap).finishUnit live
        { ctx := liteAfter dec profile c d, headerLen := (liteIrUnit profile c bodyLen).length }
      else (liteFrame dec profile c d bodyLen payload out cap).failDecode live := by
  have hoct : profile.octet ≠ 0 := by rcases hlite with ⟨rfl, -⟩ | rfl <;> decide
  have hincoming : Frame.incomingProfile profile.octet = some profile := by
    rcases hlite with ⟨rfl, -⟩ | rfl <;> rfl
  refine ⟨?_, fun again live => ?_⟩
  · rw [liteIrUnit_append]
    exact enters_refresh hint hspace hs.fits hget (Or.inl rfl) _ _ out cap
  · have hbit : u8At (liteFrame dec profile c d bodyLen payload out cap).packet 0 &&& 0x80 ≠ 0 := by
      change (0xFD : UInt8) &&& 0x80 ≠ 0
      decide
    rw [Frame.decode_of_refresh again live hbit (Or.inl ⟨rfl, hoct⟩)]
    have hd := decodeIrOf_lite hlite hs hproto (sameCid_irBase profile d hspace hs.fits) payload
    have hu : (liteFrame dec profile c d bodyLen payload out cap).decodeIrUnit =
        if LiteAccepted c then
          some { ctx := liteAfter dec profile c d, headerLen := (liteIrUnit profile c bodyLen).length }
        else none := by
      unfold Frame.decodeIrUnit
      rw [show (liteFrame dec profile c d bodyLen payload out cap).parsed.profileId = profile.octet from rfl, hincoming]
      simp only [Option.bind_eq_bind, Option.bind_some, decoderPacket_liteFrame]
      change (do
        let r ← Frame.decodeIrOf profile (liteIrUnit profile c bodyLen ++ payload) (irBase dec profile c d)
        _) = _
      rw [hd]
      split <;> rfl
    change Frame.decodeInPlace _ .ir false live = _
    unfold Frame.decodeInPlace Frame.decodeUnit
    simp only [hu]
    split_ifs <;> rfl

/-- A UDP-Lite IR that nobody can read is refused. -/
theorem receive_liteIr_refused (hacc : ¬LiteAccepted c) :
    (rohcDecompress4 dec (liteIrUnit profile c bodyLen ++ payload) out cap).1 ≠ 0 := by
  obtain ⟨he, hd⟩ := enters_liteIr hint hspace hget hlite hs hproto payload out cap
  refine he.refused fun again live => ?_
  rw [hd, if_neg hacc]
  exact Frame.failDecode_ne_zero _

/-- **A UDP-Lite IR is delivered** when its packet can be rebuilt. -/
theorem receive_liteIr_delivered (hacc : LiteAccepted c) {octets : Bytes}
    (hbuild : Frame.rebuild cap (liteAfter dec profile c d) payload = some octets) :
    Delivered ⟨dec, out, cap⟩ c.cid (liteAfter dec profile c d) octets
      (rohcDecompress4 dec (liteIrUnit profile c bodyLen ++ payload) out cap) := by
  obtain ⟨he, hd⟩ := enters_liteIr hint hspace hget hlite hs hproto payload out cap
  refine he.delivered fun again live => ?_
  rw [hd, if_pos hacc]
  exact Frame.finishUnit_delivered (f := liteFrame dec profile c d bodyLen payload out cap)
    (d := ⟨liteAfter dec profile c d, (liteIrUnit profile c bodyLen).length, none⟩) rfl rfl
    (payloadAfterHeader_liteFrame payload out cap) hbuild

end ReceiveLite

/-! ## Delivery -/

/-- A UDP-Lite IR as a branch of the compressor sends it. -/
structure SentLiteIr (job : Job) (profile : Profile) (previous : Context) (payload : Bytes) (c : Context)
    (bodyLen : Nat) : Prop where
  isLite : IsLite profile bodyLen
  chosen : Chosen job.packet job.view profile
  sends : SendsLite profile c bodyLen
  holds : job.Holds profile previous payload c
  short : payload.length ≤ segmentBufferMax

section SentLiteIr

variable {dec : Decompressor} {job : Job} {profile : Profile} {previous c d : Context} {payload : Bytes} {bodyLen : Nat}
  (h : SentLiteIr job profile previous payload c bodyLen)

include h

theorem SentLiteIr.length_le : job.packet.length ≤ 0xFFFF := length_le_of_payload h.holds.ip h.holds.upper h.short

theorem SentLiteIr.protocol : c.ipv4Protocol = 136 := by
  refine h.holds.protocol.trans (h.chosen.fields.2.1 ?_).1
  rcases h.isLite with ⟨h, -⟩ | h
  · exact Or.inl h
  · exact Or.inr h

/-- A legacy chain carries all flags of a packet that is not a fragment. -/
theorem SentLiteIr.regularIp_iff (flags : UInt8) (hf : job.view.isIpv6 = false → flags = Job.wireFlags job.packet) :
    RegularIp flags job.packet job.view ∧ RegularUpper job.packet job.view profile ↔
      RegularPacket job.packet job.view profile := by
  have hne : profile ≠ .uncompressed := by rcases h.isLite with ⟨rfl, -⟩ | rfl <;> decide
  have hformal : profileUsesFormalPt0 profile = false := by rcases h.isLite with ⟨rfl, -⟩ | rfl <;> rfl
  unfold RegularIp RegularPacket
  cases h6 : job.view.isIpv6 with
  | true => simp [hne]
  | false =>
    obtain ⟨hs, -⟩ := parseIpView_ipv4 h.holds.ip.parsed h6
    have hmin := hs.minLen
    have hfit := hs.fits
    obtain ⟨hflags, -⟩ := flags_of_whole (h.chosen.whole h6) (by omega)
    rw [hf h6]
    simp [hne, hflags, hformal]

/-- What a UDP-Lite IR leaves behind holds the headers of the packet. -/
theorem SentLiteIr.holds_liteAfter (dec : Decompressor) (d : Context) :
    HasIp (liteAfter dec profile c d) job.packet job.view ∧
      HasUpper (liteAfter dec profile c d) job.packet job.view profile payload ∧
      (job.view.isIpv6 = false → (liteAfter dec profile c d).ipv4Flags = Job.wireFlags job.packet) ∧
      (liteAfter dec profile c d).profile = profile := by
  obtain ⟨h₄, h₆, ht, hr, hp, -⟩ :=
    (irFrame dec profile c d [] [] 0).irGates_frame profile (liteDecoded profile c (irBase dec profile c d))
  have hdecoded : HasIp (liteDecoded profile c (irBase dec profile c d)) job.packet job.view ∧
      HasUpper (liteDecoded profile c (irBase dec profile c d)) job.packet job.view profile payload ∧
      (job.view.isIpv6 = false → (liteDecoded profile c (irBase dec profile c d)).ipv4Flags = c.ipv4Flags) ∧
      (liteDecoded profile c (irBase dec profile c d)).profile = profile := by
    unfold liteDecoded
    rcases h.isLite with ⟨rfl, -⟩ | rfl
    · obtain ⟨hi, hf⟩ := hasIp_udpLiteIrDecoded h.holds.ip h.sends.ip (irBase dec .udpLite c d)
      exact ⟨hi, hasUpper_udpLiteIrDecoded h.holds.upper _, hf, rfl⟩
    · obtain ⟨hi, hf⟩ := hasIp_rtpUdpLiteIrDecoded h.holds.ip h.sends.ip (irBase dec .rtpUdpLite c d)
      exact ⟨hi, hasUpper_rtpUdpLiteIrDecoded h.holds.upper (h.sends.extras rfl) _, hf, rfl⟩
  obtain ⟨hi, hu, hf, hprofile⟩ := hdecoded
  refine ⟨hi.of_ip h₄ h₆, hu.of_eq ht hr (congrArg Ipv4Context.ipv4Protocol h₄), fun hv => ?_, hp.trans hprofile⟩
  rw [← h.holds.flags hv, ← hf hv]
  exact congrArg Ipv4Context.ipv4Flags h₄

variable (hint : dec.integrity = none) (hspace : dec.largeCidSpace = c.largeCid)
  (hget : dec.contexts.get c.cid = some d) (out : Bytes) {cap : Nat}

include hint hspace hget

/-- **A UDP-Lite IR is delivered**, and regular packets come out as they went in. -/
theorem SentLiteIr.delivered (hacc : LiteAccepted c) (hcap : job.packet.length ≤ cap) :
    ∃ octets, Delivered ⟨dec, out, cap⟩ c.cid (liteAfter dec profile c d) octets
        (rohcDecompress4 dec (liteIrUnit profile c bodyLen ++ payload) out cap) ∧
      (octets = job.packet ↔ RegularPacket job.packet job.view profile) := by
  obtain ⟨hi, hu, hf, hp⟩ := h.holds_liteAfter dec d
  have hne : profile ≠ .esp := by rcases h.isLite with ⟨rfl, -⟩ | rfl <;> decide
  obtain ⟨octets, hbuild, -, hiff⟩ := rebuild_eq_iff hp hi hu (fun he => absurd he hne) h.length_le hcap
  refine ⟨octets, ?_, hiff.trans (h.regularIp_iff _ hf)⟩
  exact receive_liteIr_delivered hint hspace hget h.isLite h.sends h.protocol payload out cap hacc hbuild

/-- Without room for the packet it is refused. -/
theorem SentLiteIr.refused_of_no_room (hcap : cap < job.packet.length) :
    (rohcDecompress4 dec (liteIrUnit profile c bodyLen ++ payload) out cap).1 ≠ 0 := by
  obtain ⟨hi, hu, hf, hp⟩ := h.holds_liteAfter dec d
  have hne : profile ≠ .esp := by rcases h.isLite with ⟨rfl, -⟩ | rfl <;> decide
  by_cases hacc : LiteAccepted c
  · obtain ⟨he, hd⟩ := enters_liteIr hint hspace hget h.isLite h.sends h.protocol payload out cap
    refine he.refused fun again live => ?_
    rw [hd, if_pos hacc]
    exact Frame.finishUnit_refused rfl (payloadAfterHeader_liteFrame payload out cap)
      (rebuild_eq_none hp hi hu (fun he => absurd he hne) h.length_le hcap)
  · exact receive_liteIr_refused hint hspace hget h.isLite h.sends h.protocol payload out cap hacc

end SentLiteIr

end Rohccxx
