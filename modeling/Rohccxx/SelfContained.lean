import Rohccxx.AlikeIr
import Rohccxx.FirstPacket
import Rohccxx.LegacyChains

/-!
# IR units are self-contained

Two decompressors with the same CID space are given one IR, and both accept it. What they hand out is built from the
decoded contexts, which agree on all the builders read (`ipPacket_eq_iff`), the lists of an RTP header apart: the standard
grammar does not carry them, and the decoder leaves those of the context before. So the outputs are equal if and only if
these lists are (`ir_self_contained`).
-/

set_option autoImplicit false

namespace Rohccxx

open Octets Reader

/-! ## What a builder makes -/

/-- The protocol number the IPv4 builders write. -/
def builtProtocol (ctx : Context) : UInt8 :=
  match ctx.profile with
  | .udp | .rtp => 17
  | .udpLite | .rtpUdpLite => 136
  | _ => ctx.ipv4Protocol

/-- What stands behind the IP header of a rebuilt packet. -/
def builtUpper (ctx : Context) (payload : Bytes) : Bytes :=
  if ctx.profile = .esp ∧ ctx.legacyEspPayloadIncludesHeader = true then payload
  else upperOctets ctx payload ctx.profile

def ipPacket (ctx : Context) (upper : Bytes) : Bytes :=
  if ctx.ipVersion = 6 then ipv6Header ctx (ctx.ipv6ExtensionLen + upper.length) ++ upper
  else ipv4Header ctx (builtProtocol ctx) (20 + ctx.ipv4OptionsLen + upper.length) ++ upper

/-- The profiles an IR can name, profile 0 apart. -/
def Incoming (p : Profile) : Prop := ∃ profileId, Frame.incomingProfile profileId = some p

theorem incoming_cases {p : Profile} (h : Incoming p) :
    p = .rtp ∨ p = .udp ∨ p = .esp ∨ p = .ip ∨ p = .rtpUdpLite ∨ p = .udpLite := by
  obtain ⟨profileId, h⟩ := h
  revert h
  unfold Frame.incomingProfile
  split_ifs <;> intro h <;> cases h <;> simp

section Built

variable {cap : Nat} {ctx : Context} {payload upper octets : Bytes}

theorem emitIpv4_eq {protocol : UInt8} (h : emitIpv4 cap ctx protocol upper = some octets) :
    octets = ipv4Header ctx protocol (20 + ctx.ipv4OptionsLen + upper.length) ++ upper :=
  (Option.some.inj (Option.ite_none_left_eq_some.mp h).2).symm

theorem emitIpv6_eq (h : emitIpv6 cap ctx upper = some octets) :
    octets = ipv6Header ctx (ctx.ipv6ExtensionLen + upper.length) ++ upper :=
  (Option.some.inj (Option.ite_none_left_eq_some.mp h).2).symm

/-- Both IP builders at once. -/
theorem ipPacket_of_emit (cap : Nat) (h : (if ctx.ipVersion = 6 then emitIpv6 cap ctx upper
    else emitIpv4 cap ctx (builtProtocol ctx) upper) = some octets) : octets = ipPacket ctx upper := by
  unfold ipPacket
  split
  · rename_i h6
    rw [if_pos h6] at h
    exact emitIpv6_eq h
  · rename_i h4
    rw [if_neg h4] at h
    exact emitIpv4_eq h

theorem rebuild_udp (hp : ctx.profile = .udp ∨ ctx.profile = .udpLite)
    (h : Frame.rebuild cap ctx payload = some octets) : octets = ipPacket ctx (builtUpper ctx payload) := by
  refine ipPacket_of_emit cap (Eq.trans ?_ h)
  rcases hp with e | e <;>
    simp [Frame.rebuild, builtUpper, builtProtocol, upperOctets, e, buildIpv6UdpPacket, buildUdpPacket]

theorem rebuild_ip (hp : ctx.profile = .ip) (h : Frame.rebuild cap ctx payload = some octets) :
    octets = ipPacket ctx (builtUpper ctx payload) := by
  refine ipPacket_of_emit cap (Eq.trans ?_ h)
  simp [Frame.rebuild, builtUpper, builtProtocol, upperOctets, hp, buildIpv6IpPacket, buildIpPacket]

theorem rebuild_esp (hp : ctx.profile = .esp) (h : Frame.rebuild cap ctx payload = some octets) :
    octets = ipPacket ctx (builtUpper ctx payload) := by
  refine ipPacket_of_emit cap (Eq.trans ?_ h)
  by_cases hl : ctx.legacyEspPayloadIncludesHeader = true
  · simp [Frame.rebuild, builtUpper, builtProtocol, hp, hl, buildIpv6IpPacket, buildIpPacket]
  · simp only [Frame.rebuild, hp, if_neg hl, buildEspPacket] at h ⊢
    rw [if_neg (Option.ite_none_left_eq_some.mp h).1]
    simp [builtUpper, builtProtocol, upperOctets, hp, hl, buildIpv6IpPacket, buildIpPacket]

theorem rebuild_rtp (hp : ctx.profile = .rtp ∨ ctx.profile = .rtpUdpLite)
    (h : Frame.rebuild cap ctx payload = some octets) :
    octets = ipPacket ctx (builtUpper ctx payload) ∧ (rtpExtrasBodyLen ctx.rtp).isSome = true := by
  have hsome : (rtpExtrasBodyLen ctx.rtp).isSome = true := by
    cases hx : rtpExtrasBodyLen ctx.rtp with
    | some n => rfl
    | none =>
      rcases hp with e | e <;> simp [Frame.rebuild, e, buildIpv6RtpPacket, buildRtpPacket, hx] at h
  obtain ⟨n, hn⟩ := Option.isSome_iff_exists.mp hsome
  refine ⟨ipPacket_of_emit cap (Eq.trans ?_ h), hsome⟩
  rcases hp with e | e <;>
    simp [Frame.rebuild, builtUpper, builtProtocol, upperOctets, e, buildIpv6RtpPacket, buildRtpPacket, hn]

/-- **What is rebuilt** does not depend on the room. -/
theorem rebuild_eq (hp : Incoming ctx.profile) (h : Frame.rebuild cap ctx payload = some octets) :
    octets = ipPacket ctx (builtUpper ctx payload) := by
  rcases incoming_cases hp with e | e | e | e | e | e
  · exact (rebuild_rtp (.inl e) h).1
  · exact rebuild_udp (.inl e) h
  · exact rebuild_esp e h
  · exact rebuild_ip e h
  · exact (rebuild_rtp (.inr e) h).1
  · exact rebuild_udp (.inr e) h

end Built

/-! ## Packets of two contexts -/

section Two

variable {a b : Context} (hip : SameIp a.toIpv4Context a.toIpv6Context b.toIpv4Context b.toIpv6Context)

include hip

theorem ipv4Header_alike (h4 : a.ipVersion ≠ 6) (protocol : UInt8) (total : Nat) :
    ipv4Header a protocol total = ipv4Header b protocol total := by
  obtain ⟨h₁, h₂, h₃, h₄⟩ := hip.dynamic.v4 h4
  obtain ⟨h₅, h₆⟩ := hip.static.v4 h4
  obtain ⟨h₇, h₈⟩ := hip.lists.v4 h4
  simp only [ipv4Header, ipv4HeaderRaw, h₁, h₂, h₃, h₄, h₅, h₆, h₇, h₈]

theorem ipv6Header_alike (h6 : a.ipVersion = 6) (upperLen : Nat) : ipv6Header a upperLen = ipv6Header b upperLen := by
  obtain ⟨h₁, h₂, h₃⟩ := hip.dynamic.v6 h6
  obtain ⟨h₄, h₅, h₆⟩ := hip.static.v6 h6
  obtain ⟨h₇, h₈⟩ := hip.lists.v6 h6
  simp only [ipv6Header, h₁, h₂, h₃, h₄, h₅, h₆, h₇, h₈]

/-- The packets are equal if and only if they are equal behind the IP header. -/
theorem ipPacket_eq_iff (hprofile : a.profile = b.profile) {u v : Bytes} : ipPacket a u = ipPacket b v ↔ u = v := by
  have hproto : builtProtocol a = builtProtocol b := by
    unfold builtProtocol
    rw [hprofile, hip.static.protocol]
  unfold ipPacket
  rw [← hip.static.version]
  by_cases h6 : a.ipVersion = 6
  · rw [if_pos h6, if_pos h6, ipv6Header_alike hip h6, (hip.lists.v6 h6).1]
    constructor
    · refine fun h => (List.append_inj h ?_).2
      simp [ipv6Header]
    · rintro rfl
      rfl
  · rw [if_neg h6, if_neg h6, hproto, ipv4Header_alike hip h6, (hip.lists.v4 h6).1]
    constructor
    · refine fun h => (List.append_inj h ?_).2
      simp [ipv4Header, ipv4HeaderRaw, fillChecksum]
    · rintro rfl
      rfl

end Two

/-! ## RTP packets of two contexts -/

section Rtp

variable {a b : RtpContext} {payload : Bytes}

theorem stored_append_inj {n len len' : Nat} {v w : Vector UInt8 n} {x y : Bytes} (hl : len = len')
    (h : stored v len ++ x = stored w len' ++ y) : stored v len = stored w len' ∧ x = y :=
  List.append_inj h (by simp [stored, hl])

theorem getElem?_stored_append {n len i : Nat} (v : Vector UInt8 n) (x : Bytes) (hi : i < len) (hn : i < n) :
    (stored v len ++ x)[i]? = some v[i] := by
  have hlen : i < (stored v len).length := by
    simp only [stored, List.length_take, Vector.length_toList]
    omega
  rw [List.getElem?_append_left hlen]
  simp [stored, hi, hn]

theorem extensionLen_of_valid {r : RtpContext} (h : rtpExtensionBytesValid r = true) (h0 : r.extensionLen ≠ 0) :
    4 ≤ r.extensionLen ∧
      4 + (ofBe16 (r.extensionBytes.get 2) (r.extensionBytes.get 3)).toNat * 4 = r.extensionLen := by
  unfold rtpExtensionBytesValid at h
  rw [if_neg h0] at h
  split at h
  · cases h
  · exact ⟨by omega, of_decide_eq_true h⟩

/-- A header extension says how long it is. -/
theorem extensionLen_eq {n m : Nat} {x y : Bytes} (ha : ExtrasOk a n) (hb : ExtrasOk b m) (hv : a.vpxcc = b.vpxcc)
    (h : stored a.extensionBytes a.extensionLen ++ x = stored b.extensionBytes b.extensionLen ++ y) :
    a.extensionLen = b.extensionLen := by
  have hboth : a.extensionLen ≠ 0 ↔ b.extensionLen ≠ 0 := by
    rw [← ha.extension, ← hb.extension, hv]
  by_cases h0 : b.extensionLen = 0
  · rw [h0]
    by_contra hne
    exact hboth.mp hne h0
  · obtain ⟨ha4, hal⟩ := extensionLen_of_valid ha.extensionValid (hboth.mpr h0)
    obtain ⟨hb4, hbl⟩ := extensionLen_of_valid hb.extensionValid h0
    -- The length is in the third and fourth octet, which both packets have in one place.
    have hoctet : ∀ i : Fin 256, i.val < 4 → a.extensionBytes.get i = b.extensionBytes.get i := by
      intro i hi
      have hget := congrArg (fun l : Bytes => l[i.val]?) h
      simp only [getElem?_stored_append a.extensionBytes x (show i < a.extensionLen by omega) (by omega),
        getElem?_stored_append b.extensionBytes y (show i < b.extensionLen by omega) (by omega)] at hget
      exact Option.some.inj hget
    rw [← hal, ← hbl, hoctet 2 (by decide), hoctet 3 (by decide)]

/-- **The lists are in the packet**: two RTP headers with one fixed part make one packet if and only if they have the
same lists. -/
theorem rtpWire_eq_iff (hf : rtpFixed a = rtpFixed b) (ha : (rtpExtrasBodyLen a).isSome = true)
    (hb : (rtpExtrasBodyLen b).isSome = true) : rtpWire a payload = rtpWire b payload ↔ rtpLists a = rtpLists b := by
  obtain ⟨n, ha⟩ := Option.isSome_iff_exists.mp ha
  obtain ⟨m, hb⟩ := Option.isSome_iff_exists.mp hb
  have ha := (rtpExtrasBodyLen_iff a n).mp ha
  have hb := (rtpExtrasBodyLen_iff b m).mp hb
  simp only [rtpFixed, Prod.mk.injEq] at hf
  obtain ⟨h₁, h₂, h₃, h₄, h₅⟩ := hf
  have hcsrc : a.csrcListLen = b.csrcListLen := by rw [ha.csrcLen, hb.csrcLen, h₁]
  unfold rtpWire rtpLists
  rw [RtpLists.mk.injEq, h₁, h₂, h₃, h₄, h₅]
  simp only [List.append_assoc, List.append_cancel_left_eq]
  constructor
  · intro h
    obtain ⟨hc, h⟩ := stored_append_inj hcsrc h
    obtain ⟨he, h⟩ := stored_append_inj (extensionLen_eq ha hb h₁ h) h
    exact ⟨hc, he, List.append_cancel_left h⟩
  · rintro ⟨hc, he, hp⟩
    rw [hc, he, hp]

end Rtp

/-! ## Upper parts of two contexts -/

section Upper

variable {a b : Context} {payload : Bytes}

theorem udpHeader_alike (h : udpOf a.toTransportContext = udpOf b.toTransportContext) (v : UInt16) :
    udpHeader a v = udpHeader b v := by
  simp only [udpOf, Prod.mk.injEq] at h
  simp only [udpHeader, h]

/-- UDP-Lite has the coverage as well. -/
theorem udpLite_alike (h : udpLiteOf a.toTransportContext = udpLiteOf b.toTransportContext) :
    udpHeader a a.udpLengthOrCoverage = udpHeader b b.udpLengthOrCoverage := by
  simp only [udpLiteOf, Prod.mk.injEq] at h
  simp only [udpHeader, h]

theorem builtUpper_of_ne_esp {ctx : Context} (h : ctx.profile ≠ .esp) :
    builtUpper ctx payload = upperOctets ctx payload ctx.profile := by
  rw [builtUpper, if_neg fun he => h he.1]

/-- The lists make the difference between two RTP packets. -/
theorem builtUpper_rtp_iff (hpa : a.profile = .rtp) (hpb : b.profile = .rtp)
    (hudp : udpOf a.toTransportContext = udpOf b.toTransportContext) (hf : rtpFixed a.rtp = rtpFixed b.rtp)
    (ha : (rtpExtrasBodyLen a.rtp).isSome = true) (hb : (rtpExtrasBodyLen b.rtp).isSome = true) :
    builtUpper a payload = builtUpper b payload ↔ rtpLists a.rtp = rtpLists b.rtp := by
  rw [← @rtpWire_eq_iff a.rtp b.rtp payload hf ha hb, builtUpper_of_ne_esp (by rw [hpa]; decide),
    builtUpper_of_ne_esp (by rw [hpb]; decide), hpa, hpb]
  simp only [upperOctets, udpHeader_alike hudp]
  constructor
  · intro h
    exact (List.append_inj h (by rw [length_udpHeader, length_udpHeader])).2
  · intro h
    rw [h]

theorem rtpLists_of_view {r s : RtpContext} (h : rtpView r = rtpView s) : rtpLists r = rtpLists s := by
  simp only [rtpView, RtpView.mk.injEq, Prod.mk.injEq] at h
  simp only [rtpLists, h]

theorem rtpWire_of_view {r s : RtpContext} (h : rtpView r = rtpView s) : rtpWire r payload = rtpWire s payload := by
  simp only [rtpView, rtpFixed, RtpView.mk.injEq, Prod.mk.injEq] at h
  simp only [rtpWire, h]

theorem espBuilt_alike (hpa : a.profile = .esp) (hpb : b.profile = .esp)
    (h : espBuilt a.toTransportContext = espBuilt b.toTransportContext) : builtUpper a payload = builtUpper b payload := by
  unfold espBuilt at h
  unfold builtUpper
  rw [hpa, hpb]
  by_cases hl : a.legacyEspPayloadIncludesHeader = true <;> by_cases hr : b.legacyEspPayloadIncludesHeader = true
  · rw [if_pos ⟨rfl, hl⟩, if_pos ⟨rfl, hr⟩]
  · rw [if_pos hl, if_neg hr] at h
    cases h
  · rw [if_neg hl, if_pos hr] at h
    cases h
  · rw [if_neg hl, if_neg hr] at h
    simp only [Option.some.injEq, Prod.mk.injEq] at h
    simp [hl, hr, upperOctets, h]

/-- The condition under which two accepted IRs lead to one packet: where the standard grammar reads an RTP IR, the
contexts hold the same lists. -/
def ListsAgree (p : Profile) (bs : Bytes) (a b : Context) : Prop :=
  p = .rtp → readsStandardRtp bs a = true → rtpLists a.rtp = rtpLists b.rtp

section Decoded

variable {p : Profile} {bs : Bytes} {a' b' : Context} {n m : Nat} (hab : Labelled a b)
  (ha : Frame.decodeIrOf p bs a = some (a', n)) (hb : Frame.decodeIrOf p bs b = some (b', m))

include ha

theorem profile_decodeIrOf : a'.profile = p := by
  obtain ⟨state, -, h⟩ := Frame.decodeIrOf_gates ha
  exact congrArg Control.profile h

include hab hb

/-- **Two decoded IRs**: as long as each other, with one IP header, and with one upper part if and only if the lists the
unit does not carry agree. -/
theorem decodeIrOf_built (hp : Incoming p)
    (hxa : p = .rtp → (rtpExtrasBodyLen a'.rtp).isSome = true)
    (hxb : p = .rtp → (rtpExtrasBodyLen b'.rtp).isSome = true) :
    m = n ∧ SameIp a'.toIpv4Context a'.toIpv6Context b'.toIpv4Context b'.toIpv6Context ∧
      (builtUpper a' payload = builtUpper b' payload ↔ ListsAgree p bs a b) := by
  have hpa := profile_decodeIrOf ha
  have hpb := profile_decodeIrOf hb
  rcases incoming_cases hp with rfl | rfl | rfl | rfl | rfl | rfl
  · obtain ⟨hn, -, hip, hudp, hf⟩ := decodeIrRtp_alike hab ha hb
    refine ⟨hn, hip, ?_⟩
    rw [builtUpper_rtp_iff hpa hpb hudp hf (hxa rfl) (hxb rfl)]
    cases hs : readsStandardRtp bs a with
    | true =>
      rw [decodeIrRtp_lists ha hs, decodeIrRtp_lists hb ((readsStandardRtp_alike hab).symm.trans hs)]
      exact ⟨fun h _ _ => h, fun h => h rfl hs⟩
    | false =>
      refine iff_of_true (rtpLists_of_view (decodeIrRtp_alike_legacy hab ha hb hs)) fun _ h => ?_
      rw [hs] at h
      cases h
  · obtain ⟨hn, -, hip, hudp, -⟩ := decodeIrUdp_alike hab ha hb
    refine ⟨hn, hip, iff_of_true ?_ fun hp => by cases hp⟩
    simp only [builtUpper, hpa, hpb, upperOctets, udpHeader_alike hudp, reduceCtorEq, false_and, if_false]
  · obtain ⟨hn, -, hip, hesp, -⟩ := decodeIrEsp_alike hab ha hb
    refine ⟨hn, hip, iff_of_true ?_ fun hp => by cases hp⟩
    exact espBuilt_alike hpa hpb hesp
  · obtain ⟨hn, -, hip, -⟩ := decodeIrIp_alike hab ha hb
    refine ⟨hn, hip, iff_of_true ?_ fun hp => by cases hp⟩
    simp only [builtUpper, hpa, hpb, upperOctets, reduceCtorEq, false_and, if_false]
  · obtain ⟨t, e, -, hip, hudp, hview⟩ := alike_decodeIrRtpUdpLiteLegacy.run_some hab ha
    cases e.symm.trans hb
    refine ⟨rfl, hip, iff_of_true ?_ fun hp => by cases hp⟩
    simp only [builtUpper, hpa, hpb, upperOctets, udpLite_alike hudp, rtpWire_of_view hview, reduceCtorEq, false_and,
      if_false]
  · obtain ⟨t, e, -, hip, hudp, -⟩ := alike_decodeIrUdpLiteLegacy.run_some hab ha
    cases e.symm.trans hb
    refine ⟨rfl, hip, iff_of_true ?_ fun hp => by cases hp⟩
    simp only [builtUpper, hpa, hpb, upperOctets, udpLite_alike hudp, reduceCtorEq, false_and, if_false]

end Decoded

end Upper

/-! ## Calls -/

/-- The type octet of an IR. -/
theorem first_of_ir {packet : Bytes} (h : packetTypeOf packet = .ir) : u8At packet 0 &&& 0xFE = 0xFC := by
  unfold packetTypeOf at h
  split at h
  · cases h
  · revert h
    generalize u8At packet 0 = b
    revert b
    exact forall_octet (P := fun b => detectPacketType b = .ir → b &&& 0xFE = 0xFC) (by decide)

/-- An IR starts with its type octet, or with an Add-CID octet before it. -/
theorem not_feedback_of_ir {u : Bytes} {space : Bool} {parsed : ParsedRohcPacket}
    (hp : parseRohcPacket u space = some parsed) (hir : parsed.type = .ir) :
    isFeedbackPacketStart (u8At u 0) = false ∧ u8At parsed.packet 0 &&& 0x80 ≠ 0 := by
  have hfirst := first_of_ir ((type_parseRohcPacket hp).symm.trans hir)
  refine ⟨?_, forall_octet (P := fun b => b &&& 0xFE = 0xFC → b &&& 0x80 ≠ 0) (by decide) _ hfirst⟩
  unfold parseRohcPacket at hp
  split at hp
  · cases hp
  · split at hp
    · rename_i hadd
      exact forall_octet (P := fun b => b &&& 0xF0 = 0xE0 → isFeedbackPacketStart b = false) (by decide) _ hadd.2
    · rw [packet_parseRohcPacketBody hp] at hfirst
      exact forall_octet (P := fun b => b &&& 0xFE = 0xFC → isFeedbackPacketStart b = false) (by decide) _ hfirst

theorem selectCid_of_ir {dec : Decompressor} {parsed : ParsedRohcPacket} (hir : parsed.type = .ir)
    (hbit : u8At parsed.packet 0 &&& 0x80 ≠ 0) : selectCid dec parsed = (parsed.cid, parsed.cid) := by
  unfold selectCid
  simp [hbit, hir]

namespace Frame

variable {f : Frame} {live : Live}

/-- A profile-0 IR delivers what is behind its header. -/
theorem decode_uncompressedIr {again : Live → Bytes → Return} (hir : f.parsed.type = .ir) (hprofile : f.parsed.profileId = 0)
    (h : (f.decode again live).1 = 0) :
    ∃ ctx, Delivered live f.cid ctx (f.parsed.wire.drop f.uncompressedIrHeaderLen) (f.decode again live) := by
  have h₁ : f.normalPacket live = none := by simp [normalPacket, hir]
  unfold decode at h ⊢
  rw [h₁, Option.getD_none] at h ⊢
  unfold uncompressedIr at h ⊢
  rw [if_pos ⟨hir, hprofile⟩] at h ⊢
  dsimp only at h ⊢
  split at h
  · exact absurd h (fail_ne_zero _)
  · rename_i h₂
    rw [if_neg h₂]
    split at h
    · exact absurd h (fail_ne_zero _)
    · rename_i h₃
      rw [if_neg h₃]
      exact ⟨_, (commit_zero h).2⟩

/-- Any other IR delivers what its decoded context rebuilds. -/
theorem decode_ir {again : Live → Bytes → Return} (hir : f.parsed.type = .ir) (hprofile : f.parsed.profileId ≠ 0)
    (hbit : u8At f.packet 0 &&& 0x80 ≠ 0) (h : (f.decode again live).1 = 0) :
    ∃ p ctx n payload room octets, incomingProfile f.parsed.profileId = some p ∧
      decodeIrOf p (decoderPacket f.parsed) (f.irContext p) = some (ctx, n) ∧
      payloadAfterHeader (decoderPacket f.parsed) n = some payload ∧
      rebuild room (f.irGates p ctx) payload = some octets ∧
      Delivered live f.cid (f.irGates p ctx) octets (f.decode again live) := by
  have hf : f.feedbackUnit f.parsed.type live = none := by simp [feedbackUnit, hir]
  have hs : f.segmentUnit f.parsed.type again live = none := by simp [segmentUnit, hir]
  rw [decode_of_top_bit again live hbit (by simp [hir]) (by simp [hir]) (fun hn => hprofile hn.2), hf, hs,
    Option.getD_none, Option.getD_none, hir] at h ⊢
  unfold decodeInPlace at h ⊢
  cases hd : f.decodeUnit .ir false with
  | none =>
    rw [hd] at h
    exact absurd h (failDecode_ne_zero _)
  | some d =>
    rw [hd] at h
    dsimp only at h ⊢
    obtain ⟨payload, octets, hpay, ⟨room, hbuild⟩, -, hdelivered⟩ := finishUnit_rebuilt h
    simp only [decodeUnit, decodeIrUnit, Option.bind_eq_bind, Option.bind_eq_some_iff] at hd
    obtain ⟨p, hp, ⟨ctx, n⟩, hdec, hd⟩ := hd
    cases hd
    exact ⟨p, ctx, n, payload, room, octets, hp, hdec, hpay, hbuild, hdelivered⟩

end Frame

/-- **A call with an IR**: the packet of a profile-0 IR is in the unit; any other is rebuilt from the decoded context. -/
theorem decompress_ir {dec : Decompressor} {u out : Bytes} {cap : Nat} {parsed : ParsedRohcPacket}
    (hi : dec.integrity = none) (hp : parseRohcPacket u dec.largeCidSpace = some parsed) (hir : parsed.type = .ir)
    (h : (rohcDecompress4 dec u out cap).1 = 0) :
    ∃ f : Frame, dec.contexts.get parsed.cid = some f.before ∧ f.cid = parsed.cid ∧ f.parsed = parsed ∧
      f.largeCidSpace = dec.largeCidSpace ∧ f.ctx = labelContext dec f.cid f.before ∧
      ∃ octets, (rohcDecompress4 dec u out cap).2.out.take (rohcDecompress4 dec u out cap).2.outLen = octets ∧
        ((parsed.profileId = 0 ∧ octets = parsed.wire.drop f.uncompressedIrHeaderLen) ∨
          ∃ p ctx n payload room, Frame.incomingProfile parsed.profileId = some p ∧
            Frame.decodeIrOf p (decoderPacket parsed) (f.irContext p) = some (ctx, n) ∧
            payloadAfterHeader (decoderPacket parsed) n = some payload ∧
            Frame.rebuild room (f.irGates p ctx) payload = some octets) := by
  obtain ⟨hfb, hbit⟩ := not_feedback_of_ir hp hir
  rw [rohcDecompress4, decompressNested] at h ⊢
  obtain ⟨unit, f, henter, e⟩ := decompressCall_zero h
  have hmeets := enter_meets henter
  simp only [enter, skipFeedback_of_not_start _ hfb, openUnit, hp, hi, selectCid_of_ir hir hbit, Option.bind_eq_bind,
    Option.bind_some, Option.bind_eq_some_iff] at henter
  obtain ⟨before, hget, hf⟩ := henter
  have hframe : f.parsed = parsed ∧ f.cid = parsed.cid ∧ f.before = before := by
    cases hf
    exact ⟨rfl, rfl, rfl⟩
  obtain ⟨hparsed, hcid, hbefore⟩ := hframe
  refine ⟨f, by rw [hbefore]; exact hget, hcid, hparsed, hmeets.largeCidSpace, hmeets.labelled, ?_⟩
  rw [e] at h ⊢
  rw [← hparsed] at hir hbit
  by_cases hprofile : f.parsed.profileId = 0
  · obtain ⟨ctx, hd⟩ := Frame.decode_uncompressedIr hir hprofile h
    rw [← hparsed]
    exact ⟨_, hd.output, .inl ⟨hprofile, rfl⟩⟩
  · obtain ⟨p, ctx, n, payload, room, octets, hin, hdec, hpay, hbuild, hd⟩ := Frame.decode_ir hir hprofile hbit h
    rw [← hparsed]
    exact ⟨octets, hd.output, .inr ⟨p, ctx, n, payload, room, hin, hdec, hpay, hbuild⟩⟩

/-- The gates are not in the packet. -/
theorem irGates_built (f : Frame) (p : Profile) (ctx : Context) (payload : Bytes) :
    (f.irGates p ctx).profile = ctx.profile ∧ (f.irGates p ctx).rtp = ctx.rtp ∧
      ipPacket (f.irGates p ctx) (builtUpper (f.irGates p ctx) payload) = ipPacket ctx (builtUpper ctx payload) := by
  unfold Frame.irGates
  dsimp only
  split
  · exact ⟨rfl, rfl, rfl⟩
  · split
    · exact ⟨rfl, rfl, rfl⟩
    · split
      · exact ⟨rfl, rfl, rfl⟩
      · exact ⟨rfl, rfl, rfl⟩

/-- The RTP part of the context an RTP IR is decoded into: nothing is left of a context of another profile. -/
def rtpBefore (dec : Decompressor) (cid : Nat) : RtpContext :=
  match dec.contexts.get cid with
  | some ctx => if ctx.rohcState ≠ .noContext ∧ ctx.profile ≠ .rtp then {} else ctx.rtp
  | none => {}

theorem irContext_labels {f : Frame} {dec : Decompressor} (hl : f.ctx = labelContext dec f.cid f.before)
    (hs : f.largeCidSpace = dec.largeCidSpace) (p : Profile) :
    (f.irContext p).cid = f.cid ∧ (f.irContext p).largeCid = dec.largeCidSpace := by
  unfold Frame.irContext
  split
  · exact ⟨rfl, hs⟩
  · rw [hl]
    split <;> exact ⟨rfl, rfl⟩

theorem irContext_rtp {f : Frame} {dec : Decompressor} (hl : f.ctx = labelContext dec f.cid f.before)
    (hget : dec.contexts.get f.cid = some f.before) : (f.irContext .rtp).rtp = rtpBefore dec f.cid := by
  unfold Frame.irContext rtpBefore
  rw [hget]
  dsimp only
  split
  · rfl
  · rw [hl]
    split <;> rfl

/-- The standard RTP grammar reads the IR. -/
def isStandardRtpIr (parsed : ParsedRohcPacket) (largeCidSpace : Bool) : Bool :=
  parsed.profileId == 0x01 &&
    readsStandardRtp (decoderPacket parsed) { ({} : Context) with cid := parsed.cid, largeCid := largeCidSpace }

section SelfContained

variable {d₁ d₂ : Decompressor} {u out₁ out₂ : Bytes} {cap₁ cap₂ : Nat} {parsed : ParsedRohcPacket}

theorem incomingProfile_rtp {profileId : UInt8} {p : Profile} (h : Frame.incomingProfile profileId = some p) :
    p = .rtp ↔ profileId = 0x01 := by
  unfold Frame.incomingProfile at h
  split_ifs at h with h₁ <;> cases h <;> simp [h₁]

/-- What an IR hands out is built from the context it was decoded into. -/
theorem built_of_ir {f : Frame} {profileId : UInt8} {p : Profile} {bs payload octets : Bytes} {ctx base : Context}
    {n room : Nat} (hin : Frame.incomingProfile profileId = some p) (hdec : Frame.decodeIrOf p bs base = some (ctx, n))
    (hbuild : Frame.rebuild room (f.irGates p ctx) payload = some octets) :
    octets = ipPacket ctx (builtUpper ctx payload) ∧ (p = .rtp → (rtpExtrasBodyLen ctx.rtp).isSome = true) := by
  obtain ⟨hprofile, hrtp, hbuilt⟩ := irGates_built f p ctx payload
  have hp : (f.irGates p ctx).profile = p := hprofile.trans (profile_decodeIrOf hdec)
  refine ⟨hbuilt ▸ rebuild_eq (by rw [hp]; exact ⟨_, hin⟩) hbuild, fun h => ?_⟩
  rw [← hrtp]
  exact (rebuild_rtp (.inl (hp.trans h)) hbuild).2

/-- **IR units are self-contained but for the lists of a standard RTP IR**: two decompressors that accept it hand out the
same packet if and only if, when the unit is such an IR, the contexts it was decoded into hold the same CSRC list, header
extension and padding. -/
theorem ir_self_contained (hspace : d₁.largeCidSpace = d₂.largeCidSpace) (hi₁ : d₁.integrity = none)
    (hi₂ : d₂.integrity = none) (hp : parseRohcPacket u d₁.largeCidSpace = some parsed) (hir : parsed.type = .ir)
    (h₁ : (rohcDecompress4 d₁ u out₁ cap₁).1 = 0) (h₂ : (rohcDecompress4 d₂ u out₂ cap₂).1 = 0) :
    (rohcDecompress4 d₁ u out₁ cap₁).2.out.take (rohcDecompress4 d₁ u out₁ cap₁).2.outLen =
        (rohcDecompress4 d₂ u out₂ cap₂).2.out.take (rohcDecompress4 d₂ u out₂ cap₂).2.outLen ↔
      (isStandardRtpIr parsed d₁.largeCidSpace = true →
        rtpLists (rtpBefore d₁ parsed.cid) = rtpLists (rtpBefore d₂ parsed.cid)) := by
  obtain ⟨f₁, hget₁, hc₁, hf₁, hs₁, hl₁, o₁, e₁, hcase₁⟩ := decompress_ir hi₁ hp hir h₁
  rw [hspace] at hp
  obtain ⟨f₂, hget₂, hc₂, hf₂, hs₂, hl₂, o₂, e₂, hcase₂⟩ := decompress_ir hi₂ hp hir h₂
  rw [e₁, e₂]
  rcases hcase₁ with ⟨hzero, rfl⟩ | ⟨p, ctx₁, n₁, payload₁, room₁, hin, hdec₁, hpay₁, hbuild₁⟩
  · rcases hcase₂ with ⟨-, rfl⟩ | ⟨p, ctx₂, n₂, payload₂, room₂, hin, -⟩
    · refine iff_of_true ?_ fun h => ?_
      · simp only [Frame.uncompressedIrHeaderLen, hf₁, hf₂]
      · simp [isStandardRtpIr, hzero] at h
    · rw [hzero] at hin
      cases hin
  · rcases hcase₂ with ⟨hzero, -⟩ | ⟨p', ctx₂, n₂, payload₂, room₂, hin', hdec₂, hpay₂, hbuild₂⟩
    · rw [hzero] at hin
      cases hin
    · cases hin.symm.trans hin'
      obtain ⟨hcid₁, hlarge₁⟩ := irContext_labels hl₁ hs₁ p
      obtain ⟨hcid₂, hlarge₂⟩ := irContext_labels hl₂ hs₂ p
      have hab : Labelled (f₁.irContext p) (f₂.irContext p) :=
        ⟨⟨by rw [hcid₁, hcid₂, hc₁, hc₂], by rw [hlarge₁, hlarge₂, hspace]⟩, trivial, rfl, rfl⟩
      obtain ⟨ho₁, hx₁⟩ := built_of_ir hin hdec₁ hbuild₁
      obtain ⟨ho₂, hx₂⟩ := built_of_ir hin hdec₂ hbuild₂
      obtain ⟨rfl, hip, hupper⟩ := @decodeIrOf_built _ _ payload₁ _ _ _ _ _ _ hab hdec₁ hdec₂ ⟨_, hin⟩ hx₁ hx₂
      cases hpay₁.symm.trans hpay₂
      have hprofile := (profile_decodeIrOf hdec₁).trans (profile_decodeIrOf hdec₂).symm
      rw [ho₁, ho₂, ipPacket_eq_iff hip hprofile, hupper]
      by_cases hrtp : p = .rtp
      · subst hrtp
        have hid := (incomingProfile_rtp hin).mp rfl
        have hread : readsStandardRtp (decoderPacket parsed) (f₁.irContext .rtp) = isStandardRtpIr parsed d₁.largeCidSpace := by
          rw [isStandardRtpIr, hid, ← readsStandardRtp_alike
            (show Labelled (f₁.irContext .rtp) { ({} : Context) with cid := parsed.cid, largeCid := d₁.largeCidSpace } from
              ⟨⟨hcid₁.trans hc₁, hlarge₁⟩, trivial, rfl, rfl⟩)]
          rfl
        rw [← hc₁] at hget₁
        rw [← hc₂] at hget₂
        rw [ListsAgree, hread, irContext_rtp hl₁ hget₁, irContext_rtp hl₂ hget₂, hc₁, hc₂]
        exact ⟨fun h => h rfl, fun h _ => h⟩
      · refine iff_of_true (fun h => absurd h hrtp) fun h => ?_
        simp only [isStandardRtpIr, Bool.and_eq_true, beq_iff_eq] at h
        exact absurd ((incomingProfile_rtp hin).mpr h.1) hrtp

end SelfContained

/-- A legacy RTP IR with a header extension of four octets. -/
def extensionIr (crc first : UInt8) : Bytes :=
  [253, 1, crc, 64, 17, 10, 0, 0, 1, 10, 0, 0, 2, 16, 0, 32, 0, 0, 0, 0, 9, 0, 64, 0, 1, 0, 0, 0, 0, 144, 96, 0, 1,
    0, 0, 0, 0, 128, 9, 2, 0, 0, 4, 0, first, 1, 0, 0, 4]

/-- A standard RTP IR for the same flow, its extension bit set. -/
def standardRtpIr : Bytes :=
  [253, 1, 3, 64, 17, 10, 0, 0, 1, 10, 0, 0, 2, 16, 0, 32, 0, 0, 0, 0, 9, 2, 0, 64, 0, 2, 0, 0, 1, 96, 0, 2,
    0, 0, 0, 160]

/-- The decompressor after the legacy IR. -/
def extensionDecompressor (crc first : UInt8) : Decompressor :=
  (rohcDecompress4 freshDecompressor (extensionIr crc first) [] 100).2.handle

/-- A legacy IR overwrites the extension of the context before. -/
theorem ir_self_contained_legacy :
    (rohcDecompress4 freshDecompressor (extensionIr 93 16) [] 44).2.out.take
        (rohcDecompress4 freshDecompressor (extensionIr 93 16) [] 44).2.outLen =
      (rohcDecompress4 (extensionDecompressor 99 190) (extensionIr 93 16) [] 50).2.out.take
        (rohcDecompress4 (extensionDecompressor 99 190) (extensionIr 93 16) [] 50).2.outLen ↔
      (isStandardRtpIr ⟨extensionIr 93 16, extensionIr 93 16, 0, false, false, 0, .ir, 1⟩ false = true →
        rtpLists (rtpBefore freshDecompressor 0) = rtpLists (rtpBefore (extensionDecompressor 99 190) 0)) :=
  ir_self_contained (by decide +kernel) (by decide +kernel) (by decide +kernel) (by decide +kernel) rfl
    (by decide +kernel) (by decide +kernel)

/-- Two decompressors that differ in an older extension hand out different packets for one standard IR. -/
theorem ir_not_self_contained :
    ¬∀ (d₁ d₂ : Decompressor) (u out₁ out₂ : Bytes) (cap₁ cap₂ : Nat) (parsed : ParsedRohcPacket),
      d₁.largeCidSpace = d₂.largeCidSpace → d₁.integrity = none → d₂.integrity = none →
      parseRohcPacket u d₁.largeCidSpace = some parsed → parsed.type = .ir →
      (rohcDecompress4 d₁ u out₁ cap₁).1 = 0 → (rohcDecompress4 d₂ u out₂ cap₂).1 = 0 →
      (rohcDecompress4 d₁ u out₁ cap₁).2.out.take (rohcDecompress4 d₁ u out₁ cap₁).2.outLen =
        (rohcDecompress4 d₂ u out₂ cap₂).2.out.take (rohcDecompress4 d₂ u out₂ cap₂).2.outLen := by
  intro h
  have hout := h (extensionDecompressor 99 190) (extensionDecompressor 93 16) standardRtpIr [] [] 100 100
    ⟨standardRtpIr, standardRtpIr, 0, false, false, 0, .ir, 1⟩ (by decide +kernel) (by decide +kernel)
    (by decide +kernel) (by decide +kernel) rfl (by decide +kernel) (by decide +kernel)
  revert hout
  decide +kernel

end Rohccxx
