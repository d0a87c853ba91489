import Rohccxx.Build

/-!
# Fixed headers and general builders

A formal PT-0 unit carries a CRC over the header that `build_fixed_*_ipv4_header` writes, and the other paths emit the
packet of `build_*_packet`. Both put the same octets down one by one; here a fixed header is the front of the general
packet of the same context, for every payload of the length it was asked for.

* `fixedIpv4Header_append` — without options the fixed IPv4 header is the general one.
* `Agrees` — a fixed builder against its general builder, instantiated by the four pairs.
-/

set_option autoImplicit false

namespace Rohccxx

open Octets

section Fixed

variable {ctx : Context} {header payload : Bytes} {cap : Nat}

/-- Without options the fixed IPv4 header is the general one. -/
theorem fixedIpv4Header_append (hopt : ctx.ipv4OptionsLen = 0) (protocol : UInt8) (total : Nat) (transport : Bytes) :
    fixedIpv4Header ctx protocol total transport = ipv4Header ctx protocol total ++ transport := by
  have hversion : (0x40 : UInt8) ||| UInt8.ofNat ((20 + 0) / 4) = 0x45 := by decide
  simp only [fixedIpv4Header, ipv4Header, ipv4HeaderRaw, hopt, stored_zero, hversion, List.append_nil]

/-- The IPv4 header without options fills 20 octets. -/
theorem length_ipv4Header_bare (hopt : ctx.ipv4OptionsLen = 0) (protocol : UInt8) (total : Nat) :
    (ipv4Header ctx protocol total).length = 20 := by
  simp [ipv4Header, ipv4HeaderRaw, fillChecksum, hopt]

/-- The general IPv4 builder on a transport header and a payload, in the terms of the fixed header. -/
theorem emitIpv4_of_fixed {transport : Bytes} (hopt : ctx.ipv4OptionsLen = 0) (protocol : UInt8)
    (hsize : 20 + transport.length + payload.length ≤ 0xFFFF) (hcap : 20 + transport.length + payload.length ≤ cap) :
    emitIpv4 cap ctx protocol (transport ++ payload) =
      some (fixedIpv4Header ctx protocol (20 + transport.length + payload.length) transport ++ payload) := by
  have htotal : 20 + 0 + (transport ++ payload).length = 20 + transport.length + payload.length := by
    rw [List.length_append]; omega
  unfold emitIpv4
  rw [hopt, htotal]
  dsimp only
  rw [if_neg (by omega), fixedIpv4Header_append hopt, List.append_assoc]

theorem length_fixedIpv4Header (hopt : ctx.ipv4OptionsLen = 0) (protocol : UInt8) (total : Nat) (transport : Bytes) :
    (fixedIpv4Header ctx protocol total transport).length = 20 + transport.length := by
  rw [fixedIpv4Header_append hopt, List.length_append, length_ipv4Header_bare hopt]

/-- A first octet of RTP without CSRCs, extension and padding needs no lists. -/
theorem rtpExtrasBodyLen_bare {rtp : RtpContext} (hbits : rtp.vpxcc &&& 0x3F = 0) (hcsrc : rtp.csrcListLen = 0)
    (hext : rtp.extensionLen = 0) (hpad : rtp.paddingLen = 0) : rtpExtrasBodyLen rtp = some 0 := by
  have hparts : ∀ b : UInt8, b &&& 0x3F = 0 → b &&& 0x0F = 0 ∧ b &&& 0x10 = 0 ∧ b &&& 0x20 = 0 :=
    forall_octet (P := fun b => b &&& 0x3F = 0 → b &&& 0x0F = 0 ∧ b &&& 0x10 = 0 ∧ b &&& 0x20 = 0) (by decide)
  obtain ⟨h0, h1, h2⟩ := hparts _ hbits
  simp [rtpExtrasBodyLen, h0, h1, h2, hcsrc, hext, hpad]

end Fixed

/-! ## The four pairs -/

/-- A fixed builder agrees with a general one on a context: what it writes is the front of the general packet of every
payload of that length, given room, and it writes nothing where the general one writes nothing however large the
buffer. -/
structure Agrees (fixed : Context → Nat → Option Bytes) (general : Nat → Context → Bytes → Option Bytes)
    (ctx : Context) : Prop where
  front : ∀ (payload header : Bytes) (cap : Nat), fixed ctx payload.length = some header →
    header.length + payload.length ≤ cap → general cap ctx payload = some (header ++ payload)
  refused : ∀ payload : Bytes, (∀ cap, general cap ctx payload = none) → fixed ctx payload.length = none

section Pairs

variable {ctx : Context}

/-- It is enough to compare what is written. -/
theorem Agrees.of_front {fixed : Context → Nat → Option Bytes} {general : Nat → Context → Bytes → Option Bytes}
    (h : ∀ (payload header : Bytes) (cap : Nat), fixed ctx payload.length = some header →
      header.length + payload.length ≤ cap → general cap ctx payload = some (header ++ payload)) :
    Agrees fixed general ctx := by
  refine ⟨h, fun payload hnone => ?_⟩
  cases hfixed : fixed ctx payload.length with
  | none => rfl
  | some header =>
    have hsome := h payload header _ hfixed (Nat.le_refl _)
    rw [hnone] at hsome
    cases hsome

theorem agrees_rtp (hprofile : ctx.profile = .rtp) : Agrees buildFixedRtpIpv4Header buildRtpPacket ctx := by
  refine .of_front fun payload header cap h hcap => ?_
  unfold buildFixedRtpIpv4Header at h
  split at h
  · cases h
  rename_i hok
  simp only [not_or, Decidable.not_not, gt_iff_lt, Nat.not_lt] at hok
  obtain ⟨-, hopt, hbits, hcsrc, hext, hpad, hsize⟩ := hok
  cases h
  rw [length_fixedIpv4Header hopt] at hcap
  have hwire : rtpWire ctx.rtp payload = ([ctx.rtp.vpxcc, ctx.rtp.mpt] ++ be16 ctx.rtp.lastSeq ++ be32 ctx.rtp.lastTs ++
      be32 ctx.rtp.ssrc) ++ payload := by
    simp only [rtpWire, hcsrc, hext, hpad, stored_zero, List.append_nil]
  unfold buildRtpPacket
  rw [rtpExtrasBodyLen_bare hbits hcsrc hext hpad]
  simp only [Option.bind_eq_bind, Option.bind_some, hprofile, reduceCtorEq, if_false]
  have hlen : (udpHeader ctx (UInt16.ofNat (20 + payload.length)) ++ [ctx.rtp.vpxcc, ctx.rtp.mpt] ++
      be16 ctx.rtp.lastSeq ++ be32 ctx.rtp.lastTs ++ be32 ctx.rtp.ssrc).length = 20 := rfl
  have hudp : 8 + (rtpWire ctx.rtp payload).length = 20 + payload.length := by
    rw [hwire, List.length_append]
    show 8 + (12 + payload.length) = 20 + payload.length
    omega
  rw [hudp, hwire]
  have hemit := @emitIpv4_of_fixed ctx payload cap _ hopt 17 (by rw [hlen]; omega) (by rw [hlen] at hcap ⊢; omega)
  rw [hlen] at hemit
  simpa only [List.append_assoc] using hemit

theorem agrees_udp : Agrees buildFixedUdpIpv4Header buildUdpPacket ctx := by
  refine .of_front fun payload header cap h hcap => ?_
  unfold buildFixedUdpIpv4Header at h
  split at h
  · cases h
  rename_i hok
  simp only [not_or, Decidable.not_not, gt_iff_lt, Nat.not_lt] at hok
  obtain ⟨hprofile, -, hopt, hsize⟩ := hok
  cases h
  rw [length_fixedIpv4Header hopt] at hcap
  have hlen : (udpHeader ctx (UInt16.ofNat (8 + payload.length))).length = 8 := rfl
  unfold buildUdpPacket
  simp only [hprofile, reduceCtorEq, if_false]
  have hemit := @emitIpv4_of_fixed ctx payload cap _ hopt 17 (by rw [hlen]; omega) hcap
  rw [hlen] at hemit
  exact hemit

theorem agrees_esp (hprotocol : ctx.ipv4Protocol = 50) : Agrees buildFixedEspIpv4Header buildEspPacket ctx := by
  refine .of_front fun payload header cap h hcap => ?_
  unfold buildFixedEspIpv4Header at h
  split at h
  · cases h
  rename_i hok
  simp only [not_or, Decidable.not_not, gt_iff_lt, Nat.not_lt] at hok
  obtain ⟨-, hversion, hopt, hsize⟩ := hok
  cases h
  rw [length_fixedIpv4Header hopt] at hcap
  have hlen : (be32 ctx.espSpi ++ be32 ctx.espSequence).length = 8 := rfl
  rw [hlen] at hcap
  unfold buildEspPacket
  have hnot6 : ¬ (4 : UInt8) = 6 := by decide
  simp only [hversion, hnot6, if_false, List.length_append, length_be32]
  rw [if_neg (by omega)]
  unfold buildIpPacket
  rw [hprotocol]
  have hemit := @emitIpv4_of_fixed ctx payload cap _ hopt 50 (by rw [hlen]; omega) (by rw [hlen]; omega)
  rw [hlen] at hemit
  exact hemit

theorem agrees_ip : Agrees buildFixedIpIpv4Header buildIpPacket ctx := by
  refine .of_front fun payload header cap h hcap => ?_
  unfold buildFixedIpIpv4Header at h
  split at h
  · cases h
  rename_i hok
  simp only [not_or, Decidable.not_not, gt_iff_lt, Nat.not_lt] at hok
  obtain ⟨-, -, hopt, hsize⟩ := hok
  cases h
  rw [length_fixedIpv4Header hopt] at hcap
  exact @emitIpv4_of_fixed ctx payload cap [] hopt ctx.ipv4Protocol (by rw [List.length_nil]; omega) hcap

/-- **Every fixed builder writes the front of the packet of its general builder**, and refuses what that one refuses:
the RTP builder on a context of the RTP profile and the ESP builder on one whose IPv4 protocol is 50, as their callers
guarantee, the other two on every context. -/
theorem fixed_headers_agree :
    (∀ ctx : Context, ctx.profile = .rtp → Agrees buildFixedRtpIpv4Header buildRtpPacket ctx) ∧
      (∀ ctx : Context, Agrees buildFixedUdpIpv4Header buildUdpPacket ctx) ∧
      (∀ ctx : Context, ctx.ipv4Protocol = 50 → Agrees buildFixedEspIpv4Header buildEspPacket ctx) ∧
      ∀ ctx : Context, Agrees buildFixedIpIpv4Header buildIpPacket ctx :=
  ⟨fun _ => agrees_rtp, fun _ => agrees_udp, fun _ => agrees_esp, fun _ => agrees_ip⟩

/-- A context for RTP over UDP and IPv4 with two octets of payload. -/
theorem fixed_headers_agree_rtp : ∃ header : Bytes,
    buildFixedRtpIpv4Header { profile := .rtp, ipVersion := 4 } 2 = some header ∧ header.length = 40 ∧
      buildRtpPacket 42 { profile := .rtp, ipVersion := 4 } [1, 2] = some (header ++ [1, 2]) := by
  refine ⟨_, rfl, rfl, ?_⟩
  exact (fixed_headers_agree.1 { profile := .rtp, ipVersion := 4 } rfl).front [1, 2] _ 42 rfl (by decide)

end Pairs

end Rohccxx
