import Rohccxx.Capture
import Rohccxx.Decompress

/-!
# From a context to a packet

`HasIp` and `HasUpper` say that a context holds the headers of a packet, in any profile. Then `rebuild` succeeds, its
packet has the length of the original, and it is the original if and only if the fields a builder computes were right
(`rebuild_eq_iff`).
-/

set_option autoImplicit false

namespace Rohccxx

open Octets

/-! ## IP -/

/-- The context holds the IP headers of the packet, the IPv4 flags apart. -/
structure HasIp (ctx : Context) (packet : Bytes) (view : ParsedIpView) : Prop where
  parsed : parseIpView packet = some view
  v4 : view.isIpv6 = false → HasIpv4 ctx packet
  v6 : view.isIpv6 = true → HasIpv6 ctx packet ∧ ctx.ipv6ExtensionLen = view.extensionLen

/-- The IP fields a builder computes are right, and the flags are those of the context. -/
def RegularIp (flags : UInt8) (packet : Bytes) (view : ParsedIpView) : Prop :=
  if view.isIpv6 then RegularIpv6 packet else RegularIpv4 packet ∧ [flags <<< 5, 0] = slice packet 6 2

theorem HasIp.version {ctx : Context} {packet : Bytes} {view : ParsedIpView} (h : HasIp ctx packet view) :
    ctx.ipVersion = if view.isIpv6 then 6 else 4 := by
  cases h6 : view.isIpv6 with
  | true => exact (h.v6 h6).1.version
  | false => exact (h.v4 h6).version

theorem HasIp.version_eq_six {ctx : Context} {packet : Bytes} {view : ParsedIpView} (h : HasIp ctx packet view) :
    ctx.ipVersion = 6 ↔ view.isIpv6 = true := by
  rw [h.version]
  cases view.isIpv6 <;> simp

theorem HasIp.fits {ctx : Context} {packet : Bytes} {view : ParsedIpView} (h : HasIp ctx packet view) :
    view.headerLen ≤ packet.length := by
  cases h6 : view.isIpv6 with
  | true =>
    obtain ⟨hs, -, -, hl, -⟩ := parseIpView_ipv6 h.parsed h6
    have := hs.fits
    omega
  | false =>
    obtain ⟨hs, -, hl, -⟩ := parseIpView_ipv4 h.parsed h6
    have := hs.fits
    omega

/-- The headers do not depend on the IP-ID behaviour, nor on the flags. -/
theorem HasIp.of_ip {a b : Context} {packet : Bytes} {view : ParsedIpView} (h : HasIp a packet view)
    {behavior flags : UInt8} {sequential : Bool}
    (h₄ : b.toIpv4Context =
      { a.toIpv4Context with ipv4IdBehavior := behavior, ipv4IdSequential := sequential, ipv4Flags := flags })
    (h₆ : b.toIpv6Context = a.toIpv6Context) : HasIp b packet view := by
  refine ⟨h.parsed, fun hv => ?_, fun hv => ?_⟩
  · have h := h.v4 hv
    constructor <;> rw [h₄]
    exacts [h.version, h.tos, h.id, h.ttl, h.protocol, h.saddr, h.daddr, h.headerLen, h.options]
  · obtain ⟨h, he⟩ := h.v6 hv
    refine ⟨?_, by rw [h₆]; exact he⟩
    constructor
    · rw [h₄]
      exact h.version
    all_goals rw [h₆]
    exacts [h.trafficClass, h.flowLabel, h.nextHeader, h.hopLimit, h.saddr, h.daddr, h.extensions]

theorem length_fillChecksum (hdr : Bytes) : (fillChecksum hdr).length = hdr.length := by
  simp [fillChecksum]

theorem length_ipv4Header {ctx : Context} (h : ctx.ipv4OptionsLen ≤ 40) (protocol : UInt8) (total : Nat) :
    (ipv4Header ctx protocol total).length = 20 + ctx.ipv4OptionsLen := by
  have hs := length_stored ctx.ipv4Options h
  simp only [ipv4Header, length_fillChecksum, ipv4HeaderRaw, List.length_append, List.length_cons, List.length_nil,
    length_be16, length_be32, hs]

theorem length_ipv6Header {ctx : Context} (h : ctx.ipv6ExtensionLen ≤ 128) (upperLen : Nat) :
    (ipv6Header ctx upperLen).length = 40 + ctx.ipv6ExtensionLen := by
  have hs := length_stored ctx.ipv6Extensions h
  simp only [ipv6Header, List.length_append, List.length_cons, List.length_nil, length_be16, length_be32, hs,
    Vector.length_toList]

/-- A list that equals a slice of the packet is no longer than its array. -/
theorem le_of_stored_eq {n len i : Nat} {v : Vector UInt8 n} {packet : Bytes} (h : stored v len = slice packet i len)
    (hfit : i + len ≤ packet.length) : len ≤ n := by
  have hl := congrArg List.length h
  rw [length_slice hfit] at hl
  simp only [stored, List.length_take, Vector.length_toList] at hl
  omega

/-- Octets that start with a header of the right length are the packet if and only if header and rest are. -/
theorem append_eq_iff_drop {header upper packet : Bytes} (hlen : header.length ≤ packet.length) :
    header ++ upper = packet ↔
      upper = packet.drop header.length ∧ header ++ packet.drop header.length = packet := by
  constructor
  · rintro rfl
    simp
  · rintro ⟨rfl, h⟩
    exact h

/-- **The IP builders**: with room they succeed, and give back the packet if and only if it was regular and `upper` is
the rest of it. -/
theorem emitIp_eq_iff {ctx : Context} {packet upper : Bytes} {view : ParsedIpView} {cap : Nat}
    (h : HasIp ctx packet view) (hupper : view.headerLen + upper.length = packet.length)
    (hlen : packet.length ≤ 0xFFFF) (hcap : packet.length ≤ cap) :
    ∃ octets, (if ctx.ipVersion = 6 then emitIpv6 cap ctx upper else emitIpv4 cap ctx view.terminalProtocol upper) =
        some octets ∧ octets.length = packet.length ∧
      (octets = packet ↔ RegularIp ctx.ipv4Flags packet view ∧ upper = packet.drop view.headerLen) := by
  cases h6 : view.isIpv6 with
  | true =>
    obtain ⟨hs, -, -, hl, -⟩ := parseIpView_ipv6 h.parsed h6
    obtain ⟨hv6, hext⟩ := h.v6 h6
    have hfit := hs.fits
    rw [← hext] at hs
    have hle := le_of_stored_eq hv6.extensions (by omega)
    have hhl := length_ipv6Header hle (packet.length - 40)
    have hup : ctx.ipv6ExtensionLen + upper.length = packet.length - 40 := by omega
    refine ⟨ipv6Header ctx (packet.length - 40) ++ upper, ?_, ?_, ?_⟩
    · unfold emitIpv6
      dsimp only
      rw [if_pos hv6.version, hup, if_neg (by omega)]
    · rw [List.length_append, hhl]
      omega
    · rw [append_eq_iff_drop (by omega), hhl, ipv6Header_append_eq_iff hs hv6 (by omega), RegularIp, if_pos h6,
        show 40 + ctx.ipv6ExtensionLen = view.headerLen by omega]
      exact and_comm
  | false =>
    obtain ⟨hs, -, hl, hp⟩ := parseIpView_ipv4 h.parsed h6
    have hv4 := h.v4 h6
    have hfit := hs.fits
    have hmin := hs.minLen
    have hhead := hv4.headerLen
    have hle := le_of_stored_eq hv4.options (by omega)
    have hhl := length_ipv4Header hle (u8At packet 9) packet.length
    have hup : 20 + ctx.ipv4OptionsLen + upper.length = packet.length := by omega
    refine ⟨ipv4Header ctx (u8At packet 9) packet.length ++ upper, ?_, ?_, ?_⟩
    · unfold emitIpv4
      dsimp only
      rw [if_neg (by rw [hv4.version]; decide), hup, if_neg (by omega), hp]
    · rw [List.length_append, hhl]
      omega
    · rw [append_eq_iff_drop (by omega), hhl, hv4.headerLen, ipv4Header_append_eq_iff hs hv4 hlen, RegularIp,
        if_neg (by simp [h6]), hl]
      exact and_comm

/-! ## What is behind the IP header -/

/-- The context and the payload hold what is behind the IP header of the packet. -/
inductive HasUpper (ctx : Context) (packet : Bytes) (view : ParsedIpView) : Profile → Bytes → Prop where
  | udp (header : HasUdp ctx packet view.headerLen) (fits : view.headerLen + 8 ≤ packet.length)
    (protocol : view.terminalProtocol = 17) : HasUpper ctx packet view .udp (packet.drop (view.headerLen + 8))
  | udpLite (header : HasUdp ctx packet view.headerLen) (fits : view.headerLen + 8 ≤ packet.length)
    (coverage : ctx.udpLengthOrCoverage = u16At packet (view.headerLen + 4))
    (protocol : view.terminalProtocol = 136) :
    HasUpper ctx packet view .udpLite (packet.drop (view.headerLen + 8))
  | esp (header : HasEsp ctx packet view.headerLen) (fits : view.headerLen + 8 ≤ packet.length)
    (protocol : ctx.ipv4Protocol = view.terminalProtocol)
    (noList : view.isIpv6 = true → view.extensionLen = 0) (noOptions : view.isIpv6 = false → view.headerLen = 20) :
    HasUpper ctx packet view .esp (packet.drop (view.headerLen + 8))
  | ip (protocol : ctx.ipv4Protocol = view.terminalProtocol) :
    HasUpper ctx packet view .ip (packet.drop view.headerLen)
  | rtp {payload : RtpPayloadView} (header : HasUdp ctx packet view.headerLen)
    (rtp : HasRtp ctx.rtp (packet.drop (view.headerLen + 8)) payload)
    (extras : (rtpExtrasBodyLen ctx.rtp).isSome = true) (fits : view.headerLen + 8 ≤ packet.length)
    (protocol : view.terminalProtocol = 17) :
    HasUpper ctx packet view .rtp (slice (packet.drop (view.headerLen + 8)) payload.payloadOffset payload.payloadLen)
  | rtpUdpLite {payload : RtpPayloadView} (header : HasUdp ctx packet view.headerLen)
    (rtp : HasRtp ctx.rtp (packet.drop (view.headerLen + 8)) payload)
    (extras : (rtpExtrasBodyLen ctx.rtp).isSome = true) (fits : view.headerLen + 8 ≤ packet.length)
    (coverage : ctx.udpLengthOrCoverage = u16At packet (view.headerLen + 4))
    (protocol : view.terminalProtocol = 136) :
    HasUpper ctx packet view .rtpUdpLite
      (slice (packet.drop (view.headerLen + 8)) payload.payloadOffset payload.payloadLen)

/-- Only transport fields, RTP and the protocol matter behind the IP header. -/
theorem HasUpper.of_eq {a b : Context} {packet payload : Bytes} {view : ParsedIpView} {profile : Profile}
    (h : HasUpper a packet view profile payload) (ht : b.toTransportContext = a.toTransportContext)
    (hr : b.rtp = a.rtp) (hp : b.ipv4Protocol = a.ipv4Protocol) : HasUpper b packet view profile payload := by
  cases h with
  | udp header fits protocol =>
    exact .udp ⟨by rw [ht]; exact header.sport, by rw [ht]; exact header.dport, by rw [ht]; exact header.check⟩ fits
      protocol
  | udpLite header fits coverage protocol =>
    exact .udpLite ⟨by rw [ht]; exact header.sport, by rw [ht]; exact header.dport, by rw [ht]; exact header.check⟩
      fits (by rw [ht]; exact coverage) protocol
  | esp header fits protocol noList noOptions =>
    exact .esp ⟨by rw [ht]; exact header.spi, by rw [ht]; exact header.sequence⟩ fits (hp.trans protocol) noList
      noOptions
  | ip protocol => exact .ip (hp.trans protocol)
  | rtp header rtp extras fits protocol =>
    exact .rtp ⟨by rw [ht]; exact header.sport, by rw [ht]; exact header.dport, by rw [ht]; exact header.check⟩
      (by rw [hr]; exact rtp) (by rw [hr]; exact extras) fits protocol
  | rtpUdpLite header rtp extras fits coverage protocol =>
    exact .rtpUdpLite ⟨by rw [ht]; exact header.sport, by rw [ht]; exact header.dport, by rw [ht]; exact header.check⟩
      (by rw [hr]; exact rtp) (by rw [hr]; exact extras) fits (by rw [ht]; exact coverage) protocol

/-- The UDP length of the packet is right; the other profiles carry what stands in its place. -/
def RegularUpper (packet : Bytes) (view : ParsedIpView) : Profile → Prop
  | .udp | .rtp => (u16At packet (view.headerLen + 4)).toNat = packet.length - view.headerLen
  | _ => True

/-- The octets a builder puts behind the IP header. -/
def upperOctets (ctx : Context) (payload : Bytes) : Profile → Bytes
  | .udp => udpHeader ctx (UInt16.ofNat (8 + payload.length)) ++ payload
  | .udpLite => udpHeader ctx ctx.udpLengthOrCoverage ++ payload
  | .esp => be32 ctx.espSpi ++ be32 ctx.espSequence ++ payload
  | .rtp => udpHeader ctx (UInt16.ofNat (8 + (rtpWire ctx.rtp payload).length)) ++ rtpWire ctx.rtp payload
  | .rtpUdpLite => udpHeader ctx ctx.udpLengthOrCoverage ++ rtpWire ctx.rtp payload
  | _ => payload

theorem length_udpHeader (ctx : Context) (v : UInt16) : (udpHeader ctx v).length = 8 := by simp [udpHeader]

theorem ofNat_eq_iff_toNat {v : UInt16} {n : Nat} (h : n ≤ 0xFFFF) : v = UInt16.ofNat n ↔ v.toNat = n := by
  rw [← UInt16.toNat_inj, UInt16.toNat_ofNat', Nat.mod_eq_of_lt (by omega)]

/-- What the builder puts behind the IP header, against the packet. -/
theorem HasUpper.octets {ctx : Context} {packet payload : Bytes} {view : ParsedIpView} {profile : Profile}
    (h : HasUpper ctx packet view profile payload) (hfit : view.headerLen ≤ packet.length)
    (hlen : packet.length ≤ 0xFFFF) :
    view.headerLen + (upperOctets ctx payload profile).length = packet.length ∧
      (upperOctets ctx payload profile = packet.drop view.headerLen ↔ RegularUpper packet view profile) := by
  cases h with
  | udp header fits protocol =>
    have hl : 8 + (packet.drop (view.headerLen + 8)).length = packet.length - view.headerLen := by
      rw [List.length_drop]; omega
    constructor
    · rw [upperOctets, List.length_append, length_udpHeader]
      omega
    · rw [upperOctets, udpHeader_append_eq_iff header fits, hl, RegularUpper]
      exact ofNat_eq_iff_toNat (by omega)
  | udpLite header fits coverage protocol =>
    constructor
    · rw [upperOctets, List.length_append, length_udpHeader, List.length_drop]
      omega
    · rw [upperOctets, udpHeader_append_eq_iff header fits, coverage]
      simp [RegularUpper]
  | esp header fits =>
    constructor
    · simp only [upperOctets, List.length_append, length_be32, List.length_drop]
      omega
    · rw [upperOctets, espHeader_append header fits]
      simp [RegularUpper]
  | ip =>
    constructor
    · simp only [upperOctets, List.length_drop]
      omega
    · simp [upperOctets, RegularUpper]
  | rtp header rtp extras fits protocol =>
    have hl : 8 + (packet.drop (view.headerLen + 8)).length = packet.length - view.headerLen := by
      rw [List.length_drop]; omega
    simp only [upperOctets, rtpWire_eq rtp]
    constructor
    · rw [List.length_append, length_udpHeader]
      omega
    · rw [udpHeader_append_eq_iff header fits, hl, RegularUpper]
      exact ofNat_eq_iff_toNat (by omega)
  | rtpUdpLite header rtp extras fits coverage protocol =>
    simp only [upperOctets, rtpWire_eq rtp]
    constructor
    · rw [List.length_append, length_udpHeader, List.length_drop]
      omega
    · rw [udpHeader_append_eq_iff header fits, coverage]
      simp [RegularUpper]

/-- The builder of a profile is the IP builder on the octets of that profile; ESP checks the room once more. -/
theorem rebuild_eq_emitIp {ctx : Context} {packet payload : Bytes} {view : ParsedIpView} {profile : Profile}
    (cap : Nat) (hprofile : ctx.profile = profile) (h : HasUpper ctx packet view profile payload) (hip : HasIp ctx packet view)
    (separate : profile = .esp → ctx.legacyEspPayloadIncludesHeader = false) :
    (Frame.rebuild cap ctx payload =
      if ctx.ipVersion = 6 then emitIpv6 cap ctx (upperOctets ctx payload profile)
      else emitIpv4 cap ctx view.terminalProtocol (upperOctets ctx payload profile)) ∨
    (Frame.rebuild cap ctx payload = none ∧ (cap < packet.length ∨ 0xFFFF < packet.length)) := by
  unfold Frame.rebuild
  cases h with
  | udp header fits protocol =>
    left
    simp only [hprofile, buildIpv6UdpPacket, buildUdpPacket, upperOctets, protocol]
    simp
  | udpLite header fits coverage protocol =>
    left
    simp only [hprofile, buildIpv6UdpPacket, buildUdpPacket, upperOctets, protocol]
    simp
  | esp header fits protocol noList noOptions =>
    simp only [hprofile, separate rfl, Bool.false_eq_true, if_false, buildEspPacket, upperOctets, buildIpv6IpPacket,
      buildIpPacket, protocol]
    simp only [List.length_append, length_be32, List.length_drop]
    by_cases h6 : ctx.ipVersion = 6
    · have hv := hip.version_eq_six.mp h6
      obtain ⟨hs, -, -, hl, -⟩ := parseIpView_ipv6 hip.parsed hv
      have hext := (hip.v6 hv).2
      have h0 := noList hv
      simp only [if_pos h6]
      split
      · exact Or.inr ⟨rfl, by omega⟩
      · exact Or.inl rfl
    · have hv : view.isIpv6 = false := by simpa using mt hip.version_eq_six.mpr h6
      have h20 := noOptions hv
      simp only [if_neg h6]
      split
      · exact Or.inr ⟨rfl, by omega⟩
      · exact Or.inl rfl
  | ip protocol =>
    left
    simp only [hprofile, buildIpv6IpPacket, buildIpPacket, upperOctets, protocol]
  | rtp header rtp extras fits protocol =>
    left
    obtain ⟨n, hn⟩ := Option.isSome_iff_exists.mp extras
    simp only [hprofile, buildIpv6RtpPacket, buildRtpPacket, upperOctets, protocol, hn, Option.bind_eq_bind,
      Option.bind_some]
    simp
  | rtpUdpLite header rtp extras fits coverage protocol =>
    left
    obtain ⟨n, hn⟩ := Option.isSome_iff_exists.mp extras
    simp only [hprofile, buildIpv6RtpPacket, buildRtpPacket, upperOctets, protocol, hn, Option.bind_eq_bind,
      Option.bind_some]
    simp

section Rebuild

variable {ctx : Context} {packet payload : Bytes} {view : ParsedIpView} {profile : Profile} {cap : Nat}
  (hprofile : ctx.profile = profile) (hip : HasIp ctx packet view) (h : HasUpper ctx packet view profile payload)
  (separate : profile = .esp → ctx.legacyEspPayloadIncludesHeader = false) (hlen : packet.length ≤ 0xFFFF)

include hprofile hip h separate hlen

/-- **Rebuilding**: a context with the headers of a packet gives back a packet of that length, and the packet itself if
and only if the computed fields were right. -/
theorem rebuild_eq_iff (hcap : packet.length ≤ cap) :
    ∃ octets, Frame.rebuild cap ctx payload = some octets ∧ octets.length = packet.length ∧
      (octets = packet ↔ RegularIp ctx.ipv4Flags packet view ∧ RegularUpper packet view profile) := by
  obtain ⟨hl, hu⟩ := h.octets hip.fits hlen
  obtain ⟨octets, he, hlo, hiff⟩ := emitIp_eq_iff hip hl hlen hcap
  refine ⟨octets, ?_, hlo, ?_⟩
  · rcases rebuild_eq_emitIp cap hprofile h hip separate with e | ⟨-, hn⟩
    · exact e.trans he
    · omega
  · rw [hiff, hu]

/-- Without room for the packet nothing is built. -/
theorem rebuild_eq_none (hcap : cap < packet.length) : Frame.rebuild cap ctx payload = none := by
  obtain ⟨hl, -⟩ := h.octets hip.fits hlen
  rcases rebuild_eq_emitIp cap hprofile h hip separate with e | ⟨e, -⟩
  · rw [e]
    cases h6 : view.isIpv6 with
    | true =>
      obtain ⟨-, -, -, hh, -⟩ := parseIpView_ipv6 hip.parsed h6
      have hext := (hip.v6 h6).2
      rw [if_pos (hip.version_eq_six.mpr h6), emitIpv6, if_pos (by omega)]
    | false =>
      obtain ⟨-, -, hh, -⟩ := parseIpView_ipv4 hip.parsed h6
      have hhead := (hip.v4 h6).headerLen
      rw [if_neg (by rw [hip.version_eq_six, h6]; decide), emitIpv4, if_pos (by omega)]
  · exact e

end Rebuild

end Rohccxx
