import Rohccxx.Calls
import Rohccxx.Delivery
import Rohccxx.Lib.Runs

/-!
# The native C++ classes

`core/compressor.cpp` and `core/decompressor.cpp`: `rohccxx::Compressor` and `rohccxx::Decompressor` serve one IPv4/RTP
flow on one CID. The compressor sends nothing but whole IRs; the decompressor tells an IR from an IR-DYN by the first octet
of the unit, so that behind an Add-CID octet it never finds an IR (`native_round_trip`).
-/

set_option autoImplicit false

namespace Rohccxx

open Octets Reader

/-! ## The compressor -/

/-- `rohccxx::Compressor`, the lock and the LLA settings apart. -/
structure NativeCompressor where
  cid : Nat
  contextTable : ContextTable

/-- `init_rtp_context` without an RTP header. -/
def initRtpContext (tbl : ContextTable) (cid : Nat) : ContextTable :=
  match tbl.get cid with
  | none => tbl
  | some ctx =>
    tbl.set cid { ctx with cid := cid, profile := .rtp, mode := .optimistic, txCount := 0, nackCount := 0 }

/-- The constructor; `maxCid` 0 stands for the CID itself. -/
def NativeCompressor.new (cid maxCid : Nat) : NativeCompressor :=
  ⟨cid, initRtpContext (ContextTable.init (if maxCid = 0 then cid else maxCid)) cid⟩

namespace Native

/-- The stride is inferred once and then kept. -/
def inferStride (rtp : RtpContext) (seq : UInt16) (ts : UInt32) : RtpContext :=
  if rtp.initialized ≠ 0 ∧ rtp.tsStride = 0 then
    match inferTimestampStride rtp.lastSeq rtp.lastTs seq ts with
    | some (stride, residue) => { rtp with tsStride := stride, tsResidue := residue }
    | none => rtp
  else rtp

/-- How the IP-ID of the packet follows from that of the packet before. -/
def idBehavior (had : Bool) (previousId id : UInt16) (previousSeq seq : UInt16) : UInt8 :=
  if had then
    let idDelta := id - previousId
    let seqDelta := seq - previousSeq
    if id = 0 ∧ previousId = 0 then 3
    else if idDelta ≠ 0 ∧ idDelta = seqDelta then 0
    else
      let swappedDelta := swap16 id - swap16 previousId
      if swappedDelta ≠ 0 ∧ swappedDelta = seqDelta then 1 else 2
  else if id = 0 then 3 else 2

/-- `capture_rtp_packet`: header lengths, checksums and the RTP version are not looked at. -/
def captureRtpPacket (ctx : Context) (packet : Bytes) : Option Context :=
  if packet.length < 40 then none
  else if Ipv4.isFragmented (u16At packet 6) then none
  else if u8At packet 0 >>> 4 ≠ 4 ∨ u8At packet 0 &&& 0x0F ≠ 5 ∨ u8At packet 9 ≠ 17 then none
  else
    let had := decide (ctx.rtp.initialized ≠ 0)
    let id := u16At packet 4
    let check := u16At packet 26
    let seq := u16At packet 30
    let ts := u32At packet 32
    let behavior := idBehavior had ctx.ipv4Id id ctx.rtp.lastSeq seq
    let rtp := inferStride ctx.rtp seq ts
    let rtp := { rtp with
      vpxcc := u8At packet 28, mpt := u8At packet 29, lastSeq := seq, lastTs := ts, ssrc := u32At packet 36 }
    some { ctx with
      ipVersion := 4, ipv4Tos := u8At packet 1, ipv4Ttl := u8At packet 8, ipv4Id := id
      ipv4Flags := ((u16At packet 6 >>> 13) &&& 0x07).toUInt8
      ipv4Saddr := u32At packet 12, ipv4Daddr := u32At packet 16, ipv4Protocol := u8At packet 9
      udpSport := u16At packet 20, udpDport := u16At packet 22, udpCheck := check, udpChecksumUsed := check ≠ 0
      msn := seq, ipv4IdBehavior := behavior, ipv4IdSequential := had && decide (behavior ≤ 1)
      rtp := if had then rtp else { rtp with seqWindow := ⟨seq⟩, tsWindow := ⟨ts⟩, initialized := 1 } }

end Native

/-- The context `compress` would send the packet with. -/
def NativeCompressor.captured (comp : NativeCompressor) (packet : Bytes) : Option Context := do
  let ctx ← comp.contextTable.get comp.cid
  Native.captureRtpPacket { ctx with profile := .rtp, mode := .optimistic } packet

/-- The emitter the state calls for, and the state after it. -/
def Native.emit (cap : Nat) (ctx : Context) : Option (Bytes × Context) := do
  match ctx.rohcState with
  | .noContext => return (← emitIrRtp cap ctx, { ctx with rohcState := .staticEstablished })
  | .staticEstablished | .dynamicEstablished =>
    return (← emitIrDynRtp cap ctx, { ctx with rohcState := .dynamicEstablished })

/-- `Compressor::compress` into a buffer of `cap` octets: the unit, unless it answers -1; then the context is put back. -/
def NativeCompressor.compress (comp : NativeCompressor) (packet : Bytes) (cap : Nat) :
    Option (Bytes × NativeCompressor) := do
  if cap = 0 then none
  else
    let captured ← comp.captured packet
    let (header, ctx) ← Native.emit cap captured
    let payload := packet.drop 40
    if header.length > cap ∨ payload.length > cap - header.length then none
    else return (header ++ payload, { comp with contextTable := comp.contextTable.set comp.cid ctx })

/-! ## The decompressor -/

/-- `rohccxx::Decompressor`, the lock and the LLA settings apart. -/
structure NativeDecompressor where
  cid : Nat
  contextTable : ContextTable

/-- The constructor; unlike that of the compressor it does not label the context with the CID. -/
def NativeDecompressor.new (cid maxCid : Nat) : NativeDecompressor :=
  ⟨cid, ContextTable.init (if maxCid = 0 then cid else maxCid)⟩

namespace Native

/-- The forty octets of header that `build_rtp_packet_from_context` writes. -/
def rtpHeader (ctx : Context) (total payloadLen : Nat) : Bytes :=
  fillChecksum ([0x45, ctx.ipv4Tos] ++ be16 (UInt16.ofNat total) ++ be16 ctx.ipv4Id ++
      [(ctx.ipv4Flags &&& 0x07) <<< 5, 0, ctx.ipv4Ttl, 17, 0, 0] ++ be32 ctx.ipv4Saddr ++ be32 ctx.ipv4Daddr) ++
    udpHeader ctx (UInt16.ofNat (20 + payloadLen)) ++ [ctx.rtp.vpxcc, ctx.rtp.mpt] ++ be16 ctx.rtp.lastSeq ++
    be32 ctx.rtp.lastTs ++ be32 ctx.rtp.ssrc

def buildRtpPacketFromContext (cap : Nat) (ctx : Context) (payload : Bytes) : Option Bytes :=
  let total := 40 + payload.length
  if total > 0xFFFF ∨ cap < total then none else some (rtpHeader ctx total payload.length ++ payload)

/-- The decoder the first octet of the unit calls for: the context and the length of the header. -/
def decode (unit : Bytes) (ctx : Context) : Option (Context × Nat) :=
  if u8At unit 0 &&& 0xFE = 0xFC then decodeIrRtp unit ctx
  else
    match Reader.exec (decodeIrDynRtp unit) ctx with
    | (some headerLen, decoded) => some (decoded, headerLen)
    | (none, _) => none

end Native

/-- The context `decompress` starts to decode in. -/
def NativeDecompressor.base (dec : NativeDecompressor) : Option Context := do
  let ctx ← dec.contextTable.get dec.cid
  return { ctx with profile := .rtp, mode := .optimistic }

/-- `Decompressor::decompress` into a buffer of `cap` octets: the packet, unless it answers -1. -/
def NativeDecompressor.decompress (dec : NativeDecompressor) (unit : Bytes) (cap : Nat) :
    Option (Bytes × NativeDecompressor) := do
  if unit.length = 0 then none
  else
    let (decoded, headerLen) ← Native.decode unit (← dec.base)
    if headerLen > unit.length ∨ decoded.ipVersion ≠ 4 then none
    else
      let packet ← Native.buildRtpPacketFromContext cap decoded (unit.drop headerLen)
      return (packet, { dec with contextTable := dec.contextTable.set dec.cid decoded })

/-! ## What the compressor sends -/

/-- The context holds the headers of an IPv4/UDP/RTP packet without options and lists. -/
structure HoldsRtp (ctx : Context) (packet : Bytes) : Prop where
  ipv4 : HasIpv4 ctx packet
  udp : HasUdp ctx packet 20
  rtp : HasRtpHeader ctx.rtp (packet.drop 28)

namespace Native

theorem idBehavior_honest (had : Bool) (previousId id previousSeq seq : UInt16)
    (h : idBehavior had previousId id previousSeq seq &&& 0x03 = 3) : id = 0 := by
  by_contra hzero
  unfold idBehavior at h
  dsimp only at h
  have hboth : ¬(id = 0 ∧ previousId = 0) := fun hz => hzero hz.1
  simp only [if_neg hzero, if_neg hboth] at h
  revert h
  split_ifs <;> decide

/-- What the tests of `captureRtpPacket` say about the packet. -/
structure Capturable (packet : Bytes) : Prop where
  minLen : 40 ≤ packet.length
  whole : Ipv4.isFragmented (u16At packet 6) = false
  version : u8At packet 0 >>> 4 = 4
  ihl : u8At packet 0 &&& 0x0F = 5
  protocol : u8At packet 9 = 17

theorem Capturable.headerLen {packet : Bytes} (h : Capturable packet) : ipv4HeaderLen packet = 20 := by
  rw [ipv4HeaderLen, h.ihl]
  rfl

theorem Capturable.shaped {packet : Bytes} (h : Capturable packet) : Ipv4Shaped packet := by
  have hmin := h.minLen
  exact ⟨h.version, Nat.le_of_eq h.headerLen.symm, by rw [h.headerLen]; omega⟩

theorem inferStride_header (rtp : RtpContext) (seq : UInt16) (ts : UInt32) :
    ∃ stride residue, inferStride rtp seq ts = { rtp with tsStride := stride, tsResidue := residue } := by
  unfold inferStride
  split
  · split
    · exact ⟨_, _, rfl⟩
    · exact ⟨_, _, rfl⟩
  · exact ⟨_, _, rfl⟩

theorem captureRtpPacket_eq {before ctx : Context} {packet : Bytes} (h : captureRtpPacket before packet = some ctx) :
    Capturable packet ∧ ctx.ipVersion = 4 ∧ (ctx.ipv4OptionsLen = 0 → HoldsRtp ctx packet) ∧ IdHonest ctx ∧
      ctx.ipv4Flags = Job.wireFlags packet ∧ ctx.cid = before.cid ∧ ctx.largeCid = before.largeCid := by
  unfold captureRtpPacket at h
  split at h
  · cases h
  · rename_i hlen
    split at h
    · cases h
    · rename_i hfrag
      split at h
      · cases h
      · rename_i hshape
        simp only [not_or, ne_eq, Decidable.not_not] at hshape
        obtain ⟨hv, hihl, hp⟩ := hshape
        have hc : Capturable packet := ⟨by omega, by simpa using hfrag, hv, hihl, hp⟩
        obtain ⟨stride, residue, hrtp⟩ := inferStride_header before.rtp (u16At packet 30) (u32At packet 32)
        simp only [hrtp, Option.some.injEq] at h
        subst h
        refine ⟨hc, rfl, fun hopt => ⟨?_, ⟨rfl, rfl, rfl⟩, ?_⟩, ?_, rfl, rfl, rfl⟩
        · refine ⟨rfl, rfl, rfl, rfl, rfl, rfl, rfl, ?_, ?_⟩
          · rw [hopt, hc.headerLen]
          · rw [hopt]
            simp [slice]
        · dsimp only
          split <;> refine ⟨?_, ?_, ?_, ?_, ?_⟩ <;> simp [u8At_drop, u16At_drop, u32At_drop]
        · exact fun _ h => idBehavior_honest _ _ _ _ _ h

/-- Both emitters write the standard IR. -/
theorem emit_eq {cap : Nat} {captured ctx : Context} {header : Bytes} (h : emit cap captured = some (header, ctx)) :
    SendsIr .rtp captured ∧ header = irUnit .rtp captured ∧ ctx.cid = captured.cid ∧
      ctx.largeCid = captured.largeCid := by
  unfold emit at h
  have hemit : emitIrRtp cap captured = some header ∧ ∃ state, ctx = { captured with rohcState := state } := by
    split at h <;>
      simp only [emitIrDynRtp, Option.bind_eq_bind, Option.bind_eq_some_iff, Option.pure_def, Option.some.injEq,
        Prod.mk.injEq] at h <;>
      obtain ⟨unit, hu, rfl, rfl⟩ := h <;> exact ⟨hu, _, rfl⟩
  obtain ⟨he, state, rfl⟩ := hemit
  obtain ⟨hfits, hip, hplain, rfl⟩ := emitIrRtp_eq he
  exact ⟨⟨hfits, hip, fun _ => hplain⟩, rfl, rfl, rfl⟩

end Native

/-- What a call of `compress` that accepts has done. -/
structure NativeSent (comp : NativeCompressor) (packet unit : Bytes) (c : Context) (comp' : NativeCompressor) : Prop where
  captured : comp.captured packet = some c
  capturable : Native.Capturable packet
  holds : HoldsRtp c packet
  honest : IdHonest c
  flags : c.ipv4Flags = Job.wireFlags packet
  sends : SendsIr .rtp c
  unit_eq : unit = irUnit .rtp c ++ packet.drop 40
  table : ∃ ctx, ctx.cid = c.cid ∧ ctx.largeCid = c.largeCid ∧
    comp' = { comp with contextTable := comp.contextTable.set comp.cid ctx }

theorem NativeCompressor.compress_eq {comp comp' : NativeCompressor} {packet unit : Bytes} {cap : Nat}
    (h : comp.compress packet cap = some (unit, comp')) : ∃ c, NativeSent comp packet unit c comp' := by
  unfold NativeCompressor.compress at h
  split at h
  · cases h
  · simp only [Option.bind_eq_bind, Option.bind_eq_some_iff, Prod.exists] at h
    obtain ⟨c, hc, header, ctx, he, h⟩ := h
    split at h
    · cases h
    · cases h
      obtain ⟨hs, rfl, hcid, hl⟩ := Native.emit_eq he
      have hcap := hc
      simp only [NativeCompressor.captured, Option.bind_eq_bind, Option.bind_eq_some_iff] at hcap
      obtain ⟨before, -, hcap⟩ := hcap
      obtain ⟨hcapt, hver, hholds, honest, hflags, -, -⟩ := Native.captureRtpPacket_eq hcap
      have hopt : c.ipv4OptionsLen = 0 := by
        rcases hs.ip with ⟨-, h0⟩ | ⟨h6, -⟩
        · exact h0
        · rw [hver] at h6
          exact absurd h6 (by decide)
      exact ⟨c, hc, hcapt, hholds hopt, honest, hflags, hs, rfl, ctx, hcid, hl, rfl⟩

/-! ## What the decompressor makes of it -/

namespace Native

/-- An IR-DYN decoder whose context has CID 0 wants the packet type first. -/
theorem decodeIrDynRtp_refuses {bs : Bytes} {d : Context} (hd : d.cid = 0) (hdl : d.largeCid = false) (h : u8At bs 0 ≠ 0xF8) :
    (Reader.exec (decodeIrDynRtp bs) d).1 = none := by
  unfold Reader.exec
  split
  · rename_i n c' hm
    obtain ⟨_, _, h₁, hm⟩ := Proc.bind_eq_ok hm
    cases h₁
    obtain ⟨crc, c₁, hhead, -⟩ := Proc.bind_eq_ok hm
    obtain ⟨_, _, h₁, hhead⟩ := Proc.bind_eq_ok hhead
    cases h₁
    obtain ⟨_, _, h₁, hhead⟩ := Proc.bind_eq_ok hhead
    obtain ⟨-, rfl⟩ := Proc.require_eq_ok h₁
    obtain ⟨_, _, h₁, hhead⟩ := Proc.bind_eq_ok hhead
    have hsmall : hasSmallCid d = false := by simp [hasSmallCid, hd, hdl]
    simp only [irDynAddCid, hsmall] at h₁
    cases h₁
    obtain ⟨b, _, h₁, hhead⟩ := Proc.bind_eq_ok hhead
    obtain ⟨_, _, h₂, -⟩ := Proc.bind_eq_ok hhead
    obtain ⟨hb, -⟩ := Proc.require_eq_ok h₂
    have := u8_eq_ok h₁
    exact absurd (this.symm.trans (of_decide_eq_true hb)) h
  · rfl

section Decode

variable {c d : Context} {payload : Bytes} (hs : SendsIr .rtp c) (hlarge : c.largeCid = false)

include hs hlarge

/-- On CID 0 the unit is taken for the IR that it is. -/
theorem decode_irUnit (hproto : terminalProtocol c = 17) (hcid : c.cid = 0) (hd : d.cid = 0)
    (hdl : d.largeCid = false) :
    decode (irUnit .rtp c ++ payload) d =
      if irAmbiguous .rtp c d payload then none else some (irDecoded .rtp c d, (irUnit .rtp c).length) := by
  have hfirst : u8At (irUnit .rtp c ++ payload) 0 = 0xFD := by
    simp [irUnit, irSealed, irFront, addCidOctets, largeCidOctets, hcid, hlarge, u8At]
  unfold decode
  rw [hfirst, if_pos (by decide)]
  exact decodeIrCompatible_irUnit ⟨hs.fits, hd.trans hcid.symm, hdl.trans hlarge.symm⟩ .rtp hproto payload

/-- Behind an Add-CID octet the unit is taken for an IR-DYN, and refused. -/
theorem decode_irUnit_addCid (hcid : c.cid ≠ 0) (hd : d.cid = 0) (hdl : d.largeCid = false) :
    decode (irUnit .rtp c ++ payload) d = none := by
  have hle := hs.fits.small hlarge
  have hfirst : u8At (irUnit .rtp c ++ payload) 0 = 0xE0 ||| (UInt8.ofNat c.cid &&& 0x0F) := by
    simp [irUnit, irSealed, irFront, addCidOctets, hlarge, Nat.pos_of_ne_zero hcid, u8At]
  have hoctet : ∀ b : UInt8, ((0xE0 : UInt8) ||| (b &&& 0x0F)) &&& 0xFE ≠ 0xFC ∧ (0xE0 : UInt8) ||| (b &&& 0x0F) ≠ 0xF8 :=
    forall_octet (P := fun b => ((0xE0 : UInt8) ||| (b &&& 0x0F)) &&& 0xFE ≠ 0xFC ∧ (0xE0 : UInt8) ||| (b &&& 0x0F) ≠ 0xF8)
      (by decide)
  obtain ⟨hir, hdyn⟩ := hoctet (UInt8.ofNat c.cid)
  unfold decode
  rw [hfirst, if_neg hir]
  have h := @decodeIrDynRtp_refuses (irUnit .rtp c ++ payload) d hd hdl (by rw [hfirst]; exact hdyn)
  split
  · rename_i he
    rw [he] at h
    cases h
  · rfl

end Decode

/-- The header is that of the general builder; the mask on the flags does nothing. -/
theorem rtpHeader_eq {ctx : Context} (hopt : ctx.ipv4OptionsLen = 0) (total payloadLen : Nat) :
    rtpHeader ctx total payloadLen = ipv4Header ctx 17 total ++ (udpHeader ctx (UInt16.ofNat (20 + payloadLen)) ++
      ([ctx.rtp.vpxcc, ctx.rtp.mpt] ++ be16 ctx.rtp.lastSeq ++ be32 ctx.rtp.lastTs ++ be32 ctx.rtp.ssrc)) := by
  have hmask : (ctx.ipv4Flags &&& 0x07) <<< 5 = ctx.ipv4Flags <<< 5 :=
    forall_octet (P := fun b => (b &&& 0x07) <<< 5 = b <<< 5) (by decide) ctx.ipv4Flags
  have hver : (0x40 : UInt8) ||| UInt8.ofNat ((20 + 0) / 4) = 0x45 := by decide
  simp only [rtpHeader, ipv4Header, ipv4HeaderRaw, hmask, hver, hopt, stored_zero, List.append_nil, List.append_assoc]

/-- The fixed RTP header and the rest of the packet. -/
theorem rtpFixed_append {rtp : RtpContext} {packet : Bytes} (h : HasRtpHeader rtp (packet.drop 28))
    (hlen : 40 ≤ packet.length) :
    [rtp.vpxcc, rtp.mpt] ++ be16 rtp.lastSeq ++ be32 rtp.lastTs ++ be32 rtp.ssrc ++ packet.drop 40 = packet.drop 28 := by
  have hl : (packet.drop 28).length = packet.length - 28 := List.length_drop
  rw [h.vpxcc, h.mpt, h.seq, h.ts, h.ssrc, u8At_pair (by omega), be16_u16At (by omega), be32_u32At (by omega),
    be32_u32At (by omega), show packet.drop 40 = (packet.drop 28).drop 12 by rw [List.drop_drop]]
  simp only [List.append_assoc]
  rw [slice_append_drop rfl, slice_append_drop (by omega), slice_append_drop (by omega), slice_append_drop (by omega),
    List.drop_zero]

/-- **The builder**: a context with the headers of a packet gives back that packet if and only if the computed fields
were right. -/
theorem buildRtpPacketFromContext_eq_iff {ctx : Context} {packet : Bytes} {cap : Nat} (hc : Capturable packet)
    (h : HoldsRtp ctx packet) (hopt : ctx.ipv4OptionsLen = 0) (hlen : packet.length ≤ 0xFFFF) (hcap : packet.length ≤ cap) :
    ∃ octets, buildRtpPacketFromContext cap ctx (packet.drop 40) = some octets ∧
      (octets = packet ↔ (RegularIpv4 packet ∧ [ctx.ipv4Flags <<< 5, 0] = slice packet 6 2) ∧
        (u16At packet 24).toNat = packet.length - 20) := by
  have hmin := hc.minLen
  have hdrop : (packet.drop 40).length = packet.length - 40 := List.length_drop
  have htotal : 40 + (packet.drop 40).length = packet.length := by omega
  have hudp : 20 + (packet.drop 40).length = packet.length - 20 := by omega
  refine ⟨rtpHeader ctx packet.length (packet.drop 40).length ++ packet.drop 40, ?_, ?_⟩
  · unfold buildRtpPacketFromContext
    simp only [htotal]
    rw [if_neg (by omega)]
  · have hip := ipv4Header_append_eq_iff hc.shaped h.ipv4 hlen
    rw [hc.headerLen, hc.protocol] at hip
    have hudpIff := udpHeader_append_eq_iff h.udp (by omega) (UInt16.ofNat (packet.length - 20))
    have hhl : (ipv4Header ctx 17 packet.length).length = 20 := by
      rw [length_ipv4Header (by omega), hopt]
    rw [rtpHeader_eq hopt, hudp]
    simp only [List.append_assoc]
    have hfixed := rtpFixed_append h.rtp hmin
    simp only [List.append_assoc] at hfixed
    rw [hfixed, append_eq_iff_drop (by omega), hhl, hip, hudpIff, ofNat_eq_iff_toNat (by omega)]
    exact and_comm

end Native

/-! ## The pair -/

namespace Native

/-- The IPv4/UDP/RTP packets the classes are meant for. -/
structure WellFormed (packet : Bytes) : Prop where
  ipv4 : RegularIpv4 packet
  reserved : ReservedClear packet
  udpLength : (u16At packet 24).toNat = packet.length - 20
  version : u8At packet 28 >>> 6 = 2

/-- The decoded context has the IPv4 header; of the flags only DF has travelled. -/
theorem ipv4_irDecoded {c : Context} {packet : Bytes} (hs : SendsIr .rtp c) (hc : Capturable packet)
    (h : HoldsRtp c packet) (honest : IdHonest c) (d : Context) :
    HasIpv4 (irDecoded .rtp c d) packet ∧ (irDecoded .rtp c d).ipv4Flags = dfOnly c.ipv4Flags := by
  have hparse : parseIpView packet = some ⟨false, 20, 0, u8At packet 9⟩ := by
    have hmin := hc.minLen
    have hl : (u8At packet 0 &&& 0x0F).toNat * 4 = 20 := hc.headerLen
    have hshort : ¬packet.length < 20 := by omega
    have hfits : ¬(20 < 20 ∨ 20 > packet.length) := by omega
    simp only [parseIpView, Ipv4.parse, hc.version, hl, if_neg hshort, if_neg hfits, ne_eq, not_true_eq_false, if_false]
  have hip : HasIp c packet ⟨false, 20, 0, u8At packet 9⟩ := ⟨hparse, fun _ => h.ipv4, nofun⟩
  obtain ⟨hdip, hflags⟩ := hasIp_irDecoded hip hs.ip honest .rtp d
  exact ⟨hdip.v4 rfl, hflags rfl⟩

/-- An RTP header of version 2 is decoded whole. -/
theorem holdsRtp_irDecoded {c : Context} {packet : Bytes} (hs : SendsIr .rtp c) (hc : Capturable packet)
    (h : HoldsRtp c packet) (honest : IdHonest c) (hver : u8At packet 28 >>> 6 = 2) (d : Context) :
    HoldsRtp (irDecoded .rtp c d) packet := by
  obtain ⟨hv4, -⟩ := ipv4_irDecoded hs hc h honest d
  have ht := udp_irDecoded (Or.inr rfl) c d
  obtain ⟨stride, residue, hr⟩ := rtp_irDecoded c d
  obtain ⟨h₁, h₂, h₃, -⟩ := hs.rtp rfl
  have hvpxcc : c.rtp.vpxcc = 0x80 := plainRtp_vpxcc h₁ h₂ h₃ (by rw [h.rtp.vpxcc, u8At_drop]; exact hver)
  refine ⟨hv4, ⟨by rw [ht]; exact h.udp.sport, by rw [ht]; exact h.udp.dport, by rw [ht]; exact h.udp.check⟩, ?_⟩
  rw [hr]
  exact ⟨hvpxcc.symm.trans h.rtp.vpxcc, h.rtp.mpt, h.rtp.seq, h.rtp.ts, h.rtp.ssrc⟩

/-- Decoding does not touch the labels. -/
theorem labels_irDecoded (c d : Context) :
    (irDecoded .rtp c d).cid = d.cid ∧ (irDecoded .rtp c d).largeCid = d.largeCid := by
  obtain ⟨-, -, hstatic⟩ := copyIpStatic_frame c d
  obtain ⟨-, -, hdynamic⟩ := copyIpDynamic_frame false c
    (copyTransportStatic .rtp c { copyIpStatic c d with legacyEspPayloadIncludesHeader := false })
  have hc := congrArg Control.cid hdynamic
  have hl := congrArg Control.largeCid hdynamic
  have hsc := congrArg Control.cid hstatic
  have hsl := congrArg Control.largeCid hstatic
  exact ⟨hc.trans hsc, hl.trans hsl⟩

end Native

/-- One packet and the room the caller gives both calls. -/
structure NativeCall where
  packet : Bytes
  unitCap : Nat
  packetCap : Nat

/-- A compressor and the decompressor its units are handed to. -/
structure NativePair where
  comp : NativeCompressor
  dec : NativeDecompressor

/-- Both classes constructed for one CID. -/
def NativePair.new (cid maxCid maxCid' : Nat) : NativePair :=
  ⟨NativeCompressor.new cid maxCid, NativeDecompressor.new cid maxCid'⟩

/-- A packet is compressed and its unit handed over at once; the answer is what comes out, if both calls accept. -/
def NativePair.exchange (pair : NativePair) (call : NativeCall) : Option Bytes × NativePair :=
  match pair.comp.compress call.packet call.unitCap with
  | none => (none, pair)
  | some (unit, comp) =>
    match pair.dec.decompress unit call.packetCap with
    | none => (none, ⟨comp, pair.dec⟩)
    | some (packet, dec) => (some packet, ⟨comp, dec⟩)

/-- The pair as a machine whose calls are packets. -/
def nativeMachine : Runs.Machine NativePair NativeCall (Option Bytes) where
  next pair call := (pair.exchange call).2
  obs pair call := (pair.exchange call).1

/-- A well-formed packet that the compressor accepts, with room for it on the other side. -/
structure NativePair.Accepts (pair : NativePair) (call : NativeCall) : Prop where
  accepted : (pair.comp.compress call.packet call.unitCap).isSome = true
  wellFormed : Native.WellFormed call.packet
  room : call.packet.length ≤ call.packetCap

/-- The legacy grammar reads the octets of the IR for this packet as well, and differently. -/
def NativePair.ambiguous (pair : NativePair) (packet : Bytes) : Bool :=
  match pair.comp.captured packet, pair.dec.base with
  | some c, some d => irAmbiguous .rtp c d (packet.drop 40)
  | _, _ => false

/-- The condition under which a packet comes through. -/
def NativePair.Readable (pair : NativePair) (call : NativeCall) : Prop :=
  pair.comp.cid = 0 ∧ pair.ambiguous call.packet = false

instance (pair : NativePair) (call : NativeCall) : Decidable (pair.Readable call) :=
  inferInstanceAs (Decidable (_ ∧ _))

/-- The contexts of both classes carry the labels their constructors gave them. -/
structure NativePair.Labelled (pair : NativePair) : Prop where
  cid : pair.dec.cid = pair.comp.cid
  comp : ∃ c, pair.comp.contextTable.get pair.comp.cid = some c ∧ c.cid = pair.comp.cid ∧ c.largeCid = false
  dec : ∃ d, pair.dec.contextTable.get pair.dec.cid = some d ∧ d.cid = 0 ∧ d.largeCid = false

theorem initRtpContext_get {max cid : Nat} (h : cid ≤ max) :
    ∃ c, (initRtpContext (ContextTable.init max) cid).get cid = some c ∧ c.cid = cid ∧ c.largeCid = false := by
  have hget := ContextTable.get_init h
  simp only [initRtpContext, hget]
  exact ⟨_, ContextTable.get_set_self (by rw [hget]; rfl), rfl, rfl⟩

theorem NativePair.labelled_new {cid maxCid maxCid' : Nat} (h : maxCid = 0 ∨ cid ≤ maxCid)
    (h' : maxCid' = 0 ∨ cid ≤ maxCid') : (NativePair.new cid maxCid maxCid').Labelled := by
  have hle : cid ≤ if maxCid = 0 then cid else maxCid := by split <;> omega
  have hle' : cid ≤ if maxCid' = 0 then cid else maxCid' := by split <;> omega
  exact ⟨rfl, initRtpContext_get hle, _, ContextTable.get_init hle', rfl, rfl⟩

section Exchange

variable {pair : NativePair} {call : NativeCall} {c : Context} {comp' : NativeCompressor} {unit : Bytes}

/-- What the compressor of a labelled pair sends. -/
theorem NativePair.Labelled.sent {cap : Nat} (h : pair.Labelled)
    (hsend : pair.comp.compress call.packet cap = some (unit, comp')) :
    ∃ c, NativeSent pair.comp call.packet unit c comp' ∧ c.cid = pair.comp.cid ∧ c.largeCid = false := by
  obtain ⟨c, hsent⟩ := NativeCompressor.compress_eq hsend
  obtain ⟨before, hget, hcid, hlarge⟩ := h.comp
  have hcap := hsent.captured
  simp only [NativeCompressor.captured, hget, Option.bind_eq_bind, Option.bind_some] at hcap
  obtain ⟨-, -, -, -, -, hc, hl⟩ := Native.captureRtpPacket_eq hcap
  exact ⟨c, hsent, hc.trans hcid, hl.trans hlarge⟩

/-- The context the decompressor decodes in. -/
theorem NativePair.Labelled.base (h : pair.Labelled) :
    ∃ d, pair.dec.base = some d ∧ d.cid = 0 ∧ d.largeCid = false := by
  obtain ⟨before, hget, hcid, hlarge⟩ := h.dec
  exact ⟨{ before with profile := .rtp, mode := .optimistic }, by simp [NativeDecompressor.base, hget], hcid, hlarge⟩

/-- What the decompressor of the pair makes of it: a packet built from the decoded context, or nothing. -/
theorem NativePair.Labelled.received (h : pair.Labelled) (hsent : NativeSent pair.comp call.packet unit c comp')
    (hcid : c.cid = pair.comp.cid) (hlarge : c.largeCid = false) (cap : Nat) :
    ∃ decoded, decoded.cid = 0 ∧ decoded.largeCid = false ∧ (∃ d, decoded = irDecoded .rtp c d) ∧
      pair.dec.decompress unit cap =
        if pair.Readable call then
          (Native.buildRtpPacketFromContext cap decoded (call.packet.drop 40)).map
            fun packet => (packet, { pair.dec with contextTable := pair.dec.contextTable.set pair.dec.cid decoded })
        else none := by
  obtain ⟨d, hbase, hdc, hdl⟩ := h.base
  obtain ⟨hcid', hlarge'⟩ := Native.labels_irDecoded c d
  refine ⟨_, hcid'.trans hdc, hlarge'.trans hdl, ⟨d, rfl⟩, ?_⟩
  have hnonempty : unit.length ≠ 0 := by
    rw [hsent.unit_eq, irUnit, List.length_append, length_irSealed]
    omega
  unfold NativeDecompressor.decompress
  simp only [if_neg hnonempty, hbase, Option.bind_eq_bind, Option.bind_some]
  rw [hsent.unit_eq]
  by_cases hzero : pair.comp.cid = 0
  · have hproto : terminalProtocol c = 17 := by
      rw [terminalProtocol, if_neg (by rw [hsent.holds.ipv4.version]; decide), hsent.holds.ipv4.protocol]
      exact hsent.capturable.protocol
    have hamb : pair.ambiguous call.packet = irAmbiguous .rtp c d (call.packet.drop 40) := by
      simp only [NativePair.ambiguous, hsent.captured, hbase]
    rw [Native.decode_irUnit hsent.sends hlarge hproto (hcid.trans hzero) hdc hdl, ← hamb]
    cases hread : pair.ambiguous call.packet with
    | true => simp [NativePair.Readable, hread]
    | false =>
      obtain ⟨hv4, -⟩ := Native.ipv4_irDecoded hsent.sends hsent.capturable hsent.holds hsent.honest d
      have hversion := hv4.version
      have hlen : ¬((irUnit .rtp c).length > (irUnit .rtp c ++ call.packet.drop 40).length ∨
          (irDecoded .rtp c d).ipVersion ≠ 4) := by
        simp [hversion]
      rw [if_neg (by decide), if_pos (show pair.Readable call from ⟨hzero, hread⟩)]
      simp only [Option.bind_some, if_neg hlen, List.drop_left, Option.pure_def, Option.map_eq_bind, Function.comp_def]
  · rw [Native.decode_irUnit_addCid hsent.sends hlarge (by rw [hcid]; exact hzero) hdc hdl, if_neg (fun hr => hzero hr.1)]
    rfl

/-- The labels stay. -/
theorem NativePair.Labelled.exchange (h : pair.Labelled) : (pair.exchange call).2.Labelled := by
  unfold NativePair.exchange
  cases hsend : pair.comp.compress call.packet call.unitCap with
  | none => exact h
  | some sent =>
    obtain ⟨unit, comp'⟩ := sent
    obtain ⟨c, hsent, hcid, hlarge⟩ := h.sent hsend
    obtain ⟨before, hget, -, -⟩ := h.comp
    obtain ⟨ctx, hc, hl, htable⟩ := hsent.table
    have hcomp : ∃ c', comp'.contextTable.get comp'.cid = some c' ∧ c'.cid = comp'.cid ∧ c'.largeCid = false := by
      rw [htable]
      exact ⟨ctx, ContextTable.get_set_self (by rw [hget]; rfl), hc.trans hcid, hl.trans hlarge⟩
    have hsame : comp'.cid = pair.comp.cid := by rw [htable]
    dsimp only
    obtain ⟨decoded, hdc, hdl, -, hrecv⟩ := h.received hsent hcid hlarge call.packetCap
    obtain ⟨d, hdget, -, -⟩ := h.dec
    rw [hrecv]
    have hkept : (NativePair.mk comp' pair.dec).Labelled := ⟨h.cid.trans hsame.symm, hcomp, h.dec⟩
    split
    · exact hkept
    · rename_i packet dec hdec
      split at hdec
      · obtain ⟨octets, -, he⟩ := Option.map_eq_some_iff.mp hdec
        cases he
        exact ⟨h.cid.trans hsame.symm, hcomp, decoded, ContextTable.get_set_self (by rw [hdget]; rfl), hdc, hdl⟩
      · cases hdec

/-- **One packet**: it comes through unaltered if and only if its unit can be read. -/
theorem NativePair.Labelled.exchange_iff (h : pair.Labelled) (ha : pair.Accepts call) :
    (pair.exchange call).1 = some call.packet ↔ pair.Readable call := by
  obtain ⟨sent, hsend⟩ := Option.isSome_iff_exists.mp ha.accepted
  obtain ⟨unit, comp'⟩ := sent
  obtain ⟨c, hsent, hcid, hlarge⟩ := h.sent hsend
  obtain ⟨decoded, -, -, ⟨d, rfl⟩, hrecv⟩ := h.received hsent hcid hlarge call.packetCap
  have hw := ha.wellFormed
  have hmin := hsent.capturable.minLen
  have hlen : call.packet.length ≤ 0xFFFF := by
    have := hw.ipv4.total
    have := (u16At call.packet 2).toNat_lt
    omega
  have hholds := Native.holdsRtp_irDecoded hsent.sends hsent.capturable hsent.holds hsent.honest hw.version d
  obtain ⟨hv4, hflags⟩ := Native.ipv4_irDecoded hsent.sends hsent.capturable hsent.holds hsent.honest d
  have hopt := hv4.headerLen
  rw [hsent.capturable.headerLen] at hopt
  obtain ⟨octets, hbuild, hiff⟩ := Native.buildRtpPacketFromContext_eq_iff hsent.capturable hholds (by omega) hlen ha.room
  have hregular : octets = call.packet := by
    refine hiff.mpr ⟨⟨hw.ipv4, ?_⟩, hw.udpLength⟩
    rw [hflags, hsent.flags]
    exact (flags_of_whole hsent.capturable.whole (by omega)).2.mpr hw.reserved
  unfold NativePair.exchange
  simp only [hsend, hrecv, hbuild, Option.map_some, hregular]
  by_cases hr : pair.Readable call
  · simp [hr]
  · simp [hr]

end Exchange

/-! ## Round trip -/

/-- An IPv4/UDP/RTP packet with two octets of payload. -/
def shortRtpPacket : Bytes :=
  [69, 0, 0, 42, 0, 1, 64, 0, 64, 17, 38, 192, 10, 0, 0, 1, 10, 0, 0, 2, 16, 0, 32, 0, 0, 22, 0, 0, 128, 96, 0, 1,
    0, 0, 0, 0, 0, 0, 0, 9, 7, 8]

/-- The packet after `shortRtpPacket`. -/
def nextRtpPacket : Bytes :=
  [69, 0, 0, 42, 0, 2, 64, 0, 64, 17, 38, 191, 10, 0, 0, 1, 10, 0, 0, 2, 16, 0, 32, 0, 0, 22, 0, 0, 128, 96, 0, 2,
    0, 0, 0, 160, 0, 0, 0, 9, 7, 8]

theorem wellFormed_shortRtp : Native.WellFormed shortRtpPacket :=
  ⟨⟨by decide +kernel, by decide +kernel⟩, (by decide +kernel : u8At shortRtpPacket 6 &&& 0x80 = 0), by decide +kernel,
    by decide +kernel⟩

theorem wellFormed_nextRtp : Native.WellFormed nextRtpPacket :=
  ⟨⟨by decide +kernel, by decide +kernel⟩, (by decide +kernel : u8At nextRtpPacket 6 &&& 0x80 = 0), by decide +kernel,
    by decide +kernel⟩

/-- **The native pair**: over any sequence of well-formed packets that the compressor accepts, every packet comes through
unaltered if and only if the CID is 0 and no unit has a second reading. -/
theorem native_round_trip {cid maxCid maxCid' : Nat} (h : maxCid = 0 ∨ cid ≤ maxCid) (h' : maxCid' = 0 ∨ cid ≤ maxCid')
    {calls : List NativeCall}
    (ha : nativeMachine.Allowed NativePair.Accepts (NativePair.new cid maxCid maxCid') calls) :
    (∀ l ∈ nativeMachine.trace (NativePair.new cid maxCid maxCid') calls, l.2 = some l.1.packet) ↔
      nativeMachine.Allowed NativePair.Readable (NativePair.new cid maxCid maxCid') calls :=
  Runs.Machine.forall_trace_iff (fun hl _ => hl.exchange) (fun hl ha => hl.exchange_iff ha)
    (NativePair.labelled_new h h') ha

/-- Two calls on CID 0 meet the condition. -/
theorem native_round_trip_zero :
    nativeMachine.Allowed NativePair.Readable (NativePair.new 0 0 0)
        [⟨shortRtpPacket, 100, 100⟩, ⟨nextRtpPacket, 100, 42⟩] ∧
      ∀ l ∈ nativeMachine.trace (NativePair.new 0 0 0) [⟨shortRtpPacket, 100, 100⟩, ⟨nextRtpPacket, 100, 42⟩],
        l.2 = some l.1.packet := by
  have haccepts : nativeMachine.Allowed NativePair.Accepts (NativePair.new 0 0 0)
      [⟨shortRtpPacket, 100, 100⟩, ⟨nextRtpPacket, 100, 42⟩] :=
    ⟨⟨by decide +kernel, wellFormed_shortRtp, by decide⟩, ⟨by decide +kernel, wellFormed_nextRtp, by decide⟩, trivial⟩
  have hreadable : nativeMachine.Allowed NativePair.Readable (NativePair.new 0 0 0)
      [⟨shortRtpPacket, 100, 100⟩, ⟨nextRtpPacket, 100, 42⟩] := ⟨by decide +kernel, by decide +kernel, trivial⟩
  exact ⟨hreadable, (native_round_trip (Or.inl rfl) (Or.inl rfl) haccepts).mpr hreadable⟩

/-- On CID 1 the first IR is refused: it starts with an Add-CID octet. -/
theorem native_round_trip_fails :
    ¬∀ (cid : Nat) (calls : List NativeCall), cid ≤ 15 →
      nativeMachine.Allowed NativePair.Accepts (NativePair.new cid 0 0) calls →
      ∀ l ∈ nativeMachine.trace (NativePair.new cid 0 0) calls, l.2 = some l.1.packet := by
  intro h
  have hcall := h 1 [⟨shortRtpPacket, 100, 100⟩] (by decide)
    ⟨⟨by decide +kernel, wellFormed_shortRtp, by decide⟩, trivial⟩ _ List.mem_cons_self
  revert hcall
  decide +kernel

end Rohccxx
