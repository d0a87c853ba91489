import Rohccxx.Lla
import Rohccxx.Native

/-!
# No-header packets

RFC 4362 reception in both implementations. The context is advanced to the header the packet stands for before the packet
is built, so a packet that cannot be built costs a step (`receiveNhp_atomic_iff`).
-/

set_option autoImplicit false

namespace Rohccxx

open Octets

/-! ## The native decompressor -/

namespace Native

/-- One step in sequence number, in IP-ID if it is sequential, and in timestamp by the stride. -/
def advance (ctx : Context) : Context :=
  { ctx with
    ipv4Id := if ctx.ipVersion = 4 ∧ ctx.ipv4IdSequential then ctx.ipv4Id + 1 else ctx.ipv4Id
    rtp := { ctx.rtp with
      lastSeq := ctx.rtp.lastSeq + 1
      lastTs := if ctx.rtp.tsStride > 0 then ctx.rtp.lastTs + ctx.rtp.tsStride else ctx.rtp.lastTs } }

end Native

/-- `Decompressor::rfc4362_receive_nhp` into a buffer of `cap` octets: the packet, unless it answers -1. -/
def NativeDecompressor.receiveNhp (lla : Option LlaSettings) (dec : NativeDecompressor) (payload : Bytes) (cap : Nat) :
    Option Bytes × NativeDecompressor :=
  match lla with
  | none => (none, dec)
  | some settings =>
    if !canEmitNoHeaderPacketForFlow settings.contract settings.flow then (none, dec)
    else
      match dec.contextTable.get dec.cid with
      | none => (none, dec)
      | some ctx =>
        if !llaContextReady ctx then (none, dec)
        else
          (Native.buildRtpPacketFromContext cap (Native.advance ctx) payload,
            { dec with contextTable := dec.contextTable.set dec.cid (Native.advance ctx) })

/-! ## What can be built -/

/-- The packets the context has for the payload: its lists agree with the first octet of its RTP header, and the headers
and the payload fit the length fields and the buffer. -/
def RtpPacketFits (cap : Nat) (ctx : Context) (payload : Bytes) : Prop :=
  (rtpExtrasBodyLen ctx.rtp).isSome = true ∧
    if ctx.ipVersion = 6 then
      let upperLen := ctx.ipv6ExtensionLen + (8 + (rtpWire ctx.rtp payload).length)
      upperLen ≤ 0xFFFF ∧ 40 + upperLen ≤ cap
    else
      let total := 20 + ctx.ipv4OptionsLen + (8 + (rtpWire ctx.rtp payload).length)
      total ≤ 0xFFFF ∧ total ≤ cap

theorem emitIpv4_isSome {cap : Nat} {ctx : Context} {protocol : UInt8} {upper : Bytes} :
    (emitIpv4 cap ctx protocol upper).isSome = true ↔
      20 + ctx.ipv4OptionsLen + upper.length ≤ 0xFFFF ∧ 20 + ctx.ipv4OptionsLen + upper.length ≤ cap := by
  unfold emitIpv4
  dsimp only
  split
  · exact ⟨nofun, fun h => by omega⟩
  · exact ⟨fun _ => by omega, fun _ => rfl⟩

theorem emitIpv6_isSome {cap : Nat} {ctx : Context} {upper : Bytes} :
    (emitIpv6 cap ctx upper).isSome = true ↔
      ctx.ipv6ExtensionLen + upper.length ≤ 0xFFFF ∧ 40 + (ctx.ipv6ExtensionLen + upper.length) ≤ cap := by
  unfold emitIpv6
  dsimp only
  split
  · exact ⟨nofun, fun h => by omega⟩
  · exact ⟨fun _ => by omega, fun _ => rfl⟩

theorem length_udpHeader_append (ctx : Context) (lengthOrCoverage : UInt16) (wire : Bytes) :
    (udpHeader ctx lengthOrCoverage ++ wire).length = 8 + wire.length := by
  rw [List.length_append]
  rfl

theorem buildRtp_isSome {cap : Nat} {ctx : Context} {payload : Bytes} :
    (if ctx.ipVersion = 6 then buildIpv6RtpPacket cap ctx payload else buildRtpPacket cap ctx payload).isSome = true ↔
      RtpPacketFits cap ctx payload := by
  unfold RtpPacketFits
  cases hextras : rtpExtrasBodyLen ctx.rtp with
  | none => simp [buildIpv6RtpPacket, buildRtpPacket, hextras]
  | some bodyLen =>
    by_cases h6 : ctx.ipVersion = 6
    · rw [if_pos h6, if_pos h6, buildIpv6RtpPacket, hextras, Option.bind_eq_bind, Option.bind_some, emitIpv6_isSome,
        length_udpHeader_append]
      exact (and_iff_right rfl).symm
    · rw [if_neg h6, if_neg h6, buildRtpPacket, hextras, Option.bind_eq_bind, Option.bind_some, emitIpv4_isSome,
        length_udpHeader_append]
      exact (and_iff_right rfl).symm

/-- The step of a no-header packet does not change what fits. -/
theorem rtpPacketFits_advance {cap : Nat} {ctx : Context} {payload : Bytes} :
    RtpPacketFits cap (advanceNoHeader ctx) payload ↔ RtpPacketFits cap ctx payload := by
  have hextras : rtpExtrasBodyLen (advanceNoHeader ctx).rtp = rtpExtrasBodyLen ctx.rtp := rfl
  have hwire : (rtpWire (advanceNoHeader ctx).rtp payload).length = (rtpWire ctx.rtp payload).length := by
    simp only [rtpWire, advanceNoHeader, List.length_append, length_be16, length_be32, List.length_cons,
      List.length_nil]
  unfold RtpPacketFits
  rw [hextras, hwire]
  exact Iff.rfl

/-- An advance shows in the sequence number. -/
theorem ne_of_lastSeq_succ {a b : Context} (h : b.rtp.lastSeq = a.rtp.lastSeq + 1) : b ≠ a := by
  rintro rfl
  have hnat := congrArg UInt16.toNat h
  rw [UInt16.toNat_add, UInt16.toNat_one] at hnat
  have hlt := b.rtp.lastSeq.toNat_lt
  omega

/-- No header packet is looked at: there is no contract, no context, or the context is not established. -/
def NoHeaderRefused (lla : Option LlaSettings) (ctx : Option Context) : Prop :=
  lla = none ∨ ∀ c, ctx = some c → llaContextReady c = false

theorem ready_of_not_refused {lla : Option LlaSettings} {ctx : Option Context} (h : ¬ NoHeaderRefused lla ctx) :
    ∃ settings c, lla = some settings ∧ ctx = some c ∧ llaContextReady c = true := by
  simp only [NoHeaderRefused, not_or, not_forall, Bool.not_eq_false] at h
  obtain ⟨hlla, c, hget, hready⟩ := h
  obtain ⟨settings, hsettings⟩ := Option.ne_none_iff_exists'.mp hlla
  exact ⟨settings, c, hsettings, hget, hready⟩

/-! ## The C API -/

section Receive

variable {lla : Option LlaSettings} {live : Live} {cid : Nat} {payload : Bytes}

theorem receiveNhp_of_refused (h : NoHeaderRefused lla (live.handle.contexts.get cid)) :
    receiveNhp lla live cid payload = (-1, live) := by
  unfold receiveNhp
  cases lla with
  | none => rfl
  | some settings =>
    have hready := h.resolve_left nofun
    simp only [LlaSettings.canEmitNoHeaderPacketForFlow, Bool.not_true, Bool.false_eq_true, if_false]
    cases hget : live.handle.contexts.get cid with
    | none => rfl
    | some ctx => simp only [hready ctx hget, Bool.not_false, if_true]

/-- What becomes of a call that is not refused. -/
theorem receiveNhp_of_ready {settings : LlaSettings} {ctx : Context} (hget : live.handle.contexts.get cid = some ctx)
    (hready : llaContextReady ctx = true) :
    receiveNhp (some settings) live cid payload =
      match (if (advanceNoHeader ctx).ipVersion = 6 then buildIpv6RtpPacket live.outLen (advanceNoHeader ctx) payload
        else buildRtpPacket live.outLen (advanceNoHeader ctx) payload) with
      | none => (live.setCtx cid (advanceNoHeader ctx)).failWithFeedback (advanceNoHeader ctx).cid
      | some octets =>
        (0, { live.setCtx cid (advanceNoHeader ctx) with
          handle := { (live.setCtx cid (advanceNoHeader ctx)).handle with hasFeedback := false }
          out := overwrite live.out octets, outLen := octets.length }) := by
  unfold receiveNhp
  simp only [LlaSettings.canEmitNoHeaderPacketForFlow, Bool.not_true, Bool.false_eq_true, if_false, hget, hready]
  rfl

/-- The answer depends on the contexts and the buffer alone. -/
theorem receiveNhp_congr {live' : Live} (hctx : live'.handle.contexts = live.handle.contexts) (hout : live'.out = live.out)
    (hlen : live'.outLen = live.outLen) :
    (receiveNhp lla live' cid payload).1 = (receiveNhp lla live cid payload).1 ∧
      (receiveNhp lla live' cid payload).2.out = (receiveNhp lla live cid payload).2.out := by
  by_cases hrefused : NoHeaderRefused lla (live.handle.contexts.get cid)
  · rw [receiveNhp_of_refused hrefused, receiveNhp_of_refused (by rw [hctx]; exact hrefused)]
    exact ⟨rfl, hout⟩
  · obtain ⟨settings, ctx, rfl, hget, hready⟩ := ready_of_not_refused hrefused
    rw [receiveNhp_of_ready hget hready, receiveNhp_of_ready (by rw [hctx]; exact hget) hready, hlen]
    split
    · exact ⟨rfl, hout⟩
    · exact ⟨rfl, by rw [hout]⟩

/-- A call that fails leaves the contexts as they are, and repeated with another buffer it gives what it would have given
there in the first place. -/
def ReceiveNhpAtomic (lla : Option LlaSettings) (live : Live) (cid : Nat) (payload : Bytes) : Prop :=
  (receiveNhp lla live cid payload).1 = -1 →
    (receiveNhp lla live cid payload).2.handle.contexts = live.handle.contexts ∧
      ∀ out outLen,
        let again := receiveNhp lla { (receiveNhp lla live cid payload).2 with out := out, outLen := outLen } cid payload
        let first := receiveNhp lla { live with out := out, outLen := outLen } cid payload
        again.1 = first.1 ∧ again.2.out = first.2.out

theorem receiveNhpAtomic_of_contexts
    (h : (receiveNhp lla live cid payload).1 = -1 →
      (receiveNhp lla live cid payload).2.handle.contexts = live.handle.contexts) :
    ReceiveNhpAtomic lla live cid payload :=
  fun hret => ⟨h hret, fun _ _ => receiveNhp_congr (h hret) rfl rfl⟩

theorem receiveNhpAtomic_iff :
    ReceiveNhpAtomic lla live cid payload ↔ ∀ ctx, live.handle.contexts.get cid = some ctx → lla.isSome = true →
      llaContextReady ctx = true → RtpPacketFits live.outLen ctx payload := by
  constructor
  · intro h ctx hget hlla hready
    obtain ⟨settings, rfl⟩ := Option.isSome_iff_exists.mp hlla
    by_contra hfits
    rw [← rtpPacketFits_advance, ← buildRtp_isSome, Bool.not_eq_true, Option.isSome_eq_false_iff,
      Option.isNone_iff_eq_none] at hfits
    rw [ReceiveNhpAtomic, receiveNhp_of_ready hget hready, hfits] at h
    have hkept := congrArg (·.get cid) (h rfl).1
    have hset : (live.handle.contexts.set cid (advanceNoHeader ctx)).get cid = live.handle.contexts.get cid := hkept
    rw [ContextTable.get_set_self (by rw [hget]; rfl), hget] at hset
    exact ne_of_lastSeq_succ (by rfl) (Option.some.inj hset)
  · intro h
    refine receiveNhpAtomic_of_contexts fun hret => ?_
    by_cases hrefused : NoHeaderRefused lla (live.handle.contexts.get cid)
    · rw [receiveNhp_of_refused hrefused]
    · obtain ⟨settings, ctx, rfl, hget, hready⟩ := ready_of_not_refused hrefused
      have hfits : RtpPacketFits live.outLen (advanceNoHeader ctx) payload :=
        rtpPacketFits_advance.mpr (h ctx hget rfl hready)
      rw [← buildRtp_isSome] at hfits
      obtain ⟨octets, hbuilt⟩ := Option.isSome_iff_exists.mp hfits
      rw [receiveNhp_of_ready hget hready, hbuilt] at hret
      exact nomatch hret

end Receive

/-! ## The native class -/

namespace NativeDecompressor

variable {lla : Option LlaSettings} {dec : NativeDecompressor} {payload : Bytes} {cap : Nat}

theorem receiveNhp_of_refused (h : NoHeaderRefused lla (dec.contextTable.get dec.cid)) :
    dec.receiveNhp lla payload cap = (none, dec) := by
  unfold receiveNhp
  cases lla with
  | none => rfl
  | some settings =>
    have hready := h.resolve_left nofun
    simp only [LlaSettings.canEmitNoHeaderPacketForFlow, Bool.not_true, Bool.false_eq_true, if_false]
    cases hget : dec.contextTable.get dec.cid with
    | none => rfl
    | some ctx => simp only [hready ctx hget, Bool.not_false, if_true]

theorem receiveNhp_of_ready {settings : LlaSettings} {ctx : Context} (hget : dec.contextTable.get dec.cid = some ctx)
    (hready : llaContextReady ctx = true) :
    dec.receiveNhp (some settings) payload cap =
      (Native.buildRtpPacketFromContext cap (Native.advance ctx) payload,
        { dec with contextTable := dec.contextTable.set dec.cid (Native.advance ctx) }) := by
  unfold receiveNhp
  simp only [LlaSettings.canEmitNoHeaderPacketForFlow, Bool.not_true, Bool.false_eq_true, if_false, hget, hready]

/-- A call that fails leaves the object as it is. -/
def ReceiveNhpAtomic (lla : Option LlaSettings) (dec : NativeDecompressor) (payload : Bytes) (cap : Nat) : Prop :=
  (dec.receiveNhp lla payload cap).1 = none → (dec.receiveNhp lla payload cap).2 = dec

theorem receiveNhpAtomic_iff :
    ReceiveNhpAtomic lla dec payload cap ↔ ∀ ctx, dec.contextTable.get dec.cid = some ctx → lla.isSome = true →
      llaContextReady ctx = true → 40 + payload.length ≤ 0xFFFF ∧ 40 + payload.length ≤ cap := by
  constructor
  · intro h ctx hget hlla hready
    obtain ⟨settings, rfl⟩ := Option.isSome_iff_exists.mp hlla
    by_contra hfits
    rw [ReceiveNhpAtomic, receiveNhp_of_ready hget hready] at h
    have hnone : Native.buildRtpPacketFromContext cap (Native.advance ctx) payload = none := if_pos (by omega)
    have hset := congrArg (fun d : NativeDecompressor => d.contextTable.get dec.cid) (h hnone)
    dsimp only at hset
    rw [ContextTable.get_set_self (by rw [hget]; rfl), hget] at hset
    exact ne_of_lastSeq_succ (by rfl) (Option.some.inj hset)
  · intro h hnone
    by_cases hrefused : NoHeaderRefused lla (dec.contextTable.get dec.cid)
    · rw [receiveNhp_of_refused hrefused]
    · obtain ⟨settings, ctx, rfl, hget, hready⟩ := ready_of_not_refused hrefused
      have hfits := h ctx hget rfl hready
      rw [receiveNhp_of_ready hget hready, Native.buildRtpPacketFromContext, if_neg (by omega)] at hnone
      exact nomatch hnone

end NativeDecompressor

/-! ## Atomicity -/

/-- **No-header reception.** A call that fails leaves no trace exactly where it was refused from the start or, the context
being established, the packet can be built. -/
theorem receiveNhp_atomic_iff (lla : Option LlaSettings) (live : Live) (cid : Nat) (dec : NativeDecompressor) (cap : Nat)
    (payload : Bytes) :
    (ReceiveNhpAtomic lla live cid payload ↔ ∀ ctx, live.handle.contexts.get cid = some ctx → lla.isSome = true →
        llaContextReady ctx = true → RtpPacketFits live.outLen ctx payload) ∧
      (dec.ReceiveNhpAtomic lla payload cap ↔ ∀ ctx, dec.contextTable.get dec.cid = some ctx → lla.isSome = true →
        llaContextReady ctx = true → 40 + payload.length ≤ 0xFFFF ∧ 40 + payload.length ≤ cap) :=
  ⟨receiveNhpAtomic_iff, NativeDecompressor.receiveNhpAtomic_iff⟩

/-- A contract with everything in it. -/
def fullContract : LlaSettings :=
  ⟨⟨true, true, true, true, true, true, true, true⟩, ⟨true, true, true, true, true⟩, by decide⟩

/-- The context of an RTP flow whose dynamic part is established. -/
def establishedRtp : Context :=
  { profile := .rtp, rohcState := .dynamicEstablished, ipVersion := 4, ipv4Ttl := 64, ipv4Protocol := 17
    rtp := { vpxcc := 0x80, initialized := 1 } }

/-- Without room for the packet both implementations advance all the same. -/
theorem receiveNhp_not_atomic :
    let table := (ContextTable.init 0).set 0 establishedRtp
    ¬ ReceiveNhpAtomic (some fullContract) ⟨{ contexts := table, largeCidSpace := false }, [], 0⟩ 0 [] ∧
      ¬ NativeDecompressor.ReceiveNhpAtomic (some fullContract) ⟨0, table⟩ [] 0 := by
  refine ⟨fun h => ?_, fun h => ?_⟩
  · obtain ⟨-, hfits⟩ := receiveNhpAtomic_iff.mp h establishedRtp rfl rfl (by decide)
    exact absurd hfits (by decide)
  · have hfits := NativeDecompressor.receiveNhpAtomic_iff.mp h establishedRtp rfl rfl (by decide)
    exact absurd hfits (by decide)

/-! ## Native emission -/

/-- `Compressor::rfc4362_emit_nhp`: any packet that compresses will do. The unit is written to a scratch buffer. -/
def NativeCompressor.emitNhp (lla : Option LlaSettings) (comp : NativeCompressor) (packet : Bytes) :
    Bool × NativeCompressor :=
  match lla with
  | none => (false, comp)
  | some settings =>
    if !canEmitNoHeaderPacketForFlow settings.contract settings.flow then (false, comp)
    else
      match comp.contextTable.get comp.cid with
      | none => (false, comp)
      | some ctx =>
        if !llaContextReady ctx then (false, comp)
        else
          match comp.compress packet 512 with
          | none => (false, comp)
          | some (_, comp) => (true, comp)

/-- A unit has room for its payload. -/
theorem NativeCompressor.compress_length {comp comp' : NativeCompressor} {packet unit : Bytes} {cap : Nat}
    (h : comp.compress packet cap = some (unit, comp')) : packet.length ≤ 40 + cap := by
  unfold NativeCompressor.compress at h
  split at h
  · cases h
  · simp only [Option.bind_eq_bind, Option.bind_eq_some_iff, Prod.exists] at h
    obtain ⟨c, -, header, ctx, -, h⟩ := h
    split at h
    · cases h
    · rename_i hfits
      rw [List.length_drop] at hfits
      omega

/-- What an emission asked of the packet. -/
theorem NativeCompressor.emitNhp_eq {lla : Option LlaSettings} {comp : NativeCompressor} {packet : Bytes}
    (h : (comp.emitNhp lla packet).1 = true) : Native.Capturable packet ∧ packet.length ≤ 552 := by
  unfold NativeCompressor.emitNhp at h
  cases lla with
  | none => cases h
  | some settings =>
    simp only [LlaSettings.canEmitNoHeaderPacketForFlow, Bool.not_true, Bool.false_eq_true, if_false] at h
    split at h
    · cases h
    · split at h
      · cases h
      · split at h
        · cases h
        · rename_i hcompress
          obtain ⟨c, hsent⟩ := NativeCompressor.compress_eq hcompress
          exact ⟨hsent.capturable, NativeCompressor.compress_length hcompress⟩

namespace Native

/-- The packet is the one a context stands for: every field of its headers is that of the context, and those that are
computed are right. -/
structure Predicted (ctx : Context) (packet : Bytes) : Prop where
  tos : ctx.ipv4Tos = u8At packet 1
  id : ctx.ipv4Id = u16At packet 4
  flags : [ctx.ipv4Flags <<< 5, 0] = slice packet 6 2
  ttl : ctx.ipv4Ttl = u8At packet 8
  saddr : ctx.ipv4Saddr = u32At packet 12
  daddr : ctx.ipv4Daddr = u32At packet 16
  udp : HasUdp ctx packet 20
  rtp : HasRtpHeader ctx.rtp (packet.drop 28)
  regular : RegularIpv4 packet
  udpLength : (u16At packet 24).toNat = packet.length - 20

section Build

variable {ctx : Context} {packet : Bytes} {cap : Nat}

/-- What the native builder does not look at. -/
def plainIpv4 (ctx : Context) : Context := { ctx with ipVersion := 4, ipv4Protocol := 17, ipv4OptionsLen := 0 }

theorem Predicted.holds (h : Predicted ctx packet) (hc : Capturable packet) : HoldsRtp (plainIpv4 ctx) packet := by
  refine ⟨⟨rfl, h.tos, h.id, h.ttl, hc.protocol.symm, h.saddr, h.daddr, hc.headerLen.symm, ?_⟩,
    ⟨h.udp.sport, h.udp.dport, h.udp.check⟩, h.rtp⟩
  simp [plainIpv4, slice]

/-- The header, octet by octet but for the IPv4 checksum. -/
theorem rtpHeader_octets (ctx : Context) (total payloadLen : Nat) : ∃ hi lo : UInt8, rtpHeader ctx total payloadLen =
    [0x45, ctx.ipv4Tos] ++ (be16 (UInt16.ofNat total) ++ (be16 ctx.ipv4Id ++
      ([(ctx.ipv4Flags &&& 0x07) <<< 5, 0, ctx.ipv4Ttl, 17, hi, lo] ++ (be32 ctx.ipv4Saddr ++ (be32 ctx.ipv4Daddr ++
      (be16 ctx.udpSport ++ (be16 ctx.udpDport ++ (be16 (UInt16.ofNat (20 + payloadLen)) ++ (be16 ctx.udpCheck ++
      ([ctx.rtp.vpxcc, ctx.rtp.mpt] ++ (be16 ctx.rtp.lastSeq ++ (be32 ctx.rtp.lastTs ++ be32 ctx.rtp.ssrc)))))))))))) :=
  ⟨_, _, rfl⟩

/-- Its fields can be read off it. -/
theorem holds_of_rtpHeader {rest : Bytes} {total payloadLen : Nat} (hc : Capturable packet)
    (h : rtpHeader ctx total payloadLen ++ rest = packet) : HoldsRtp (plainIpv4 ctx) packet := by
  obtain ⟨hi, lo, hoctets⟩ := rtpHeader_octets ctx total payloadLen
  rw [hoctets] at h
  refine ⟨⟨rfl, ?_, ?_, ?_, hc.protocol.symm, ?_, ?_, hc.headerLen.symm, ?_⟩, ⟨?_, ?_, ?_⟩, ⟨?_, ?_, ?_, ?_, ?_⟩⟩ <;>
    subst h <;>
    simp [plainIpv4, slice, be16, be32, u16At, u32At, ofBe16_be16, ofBe32_be32]

/-- The native builder gives a packet exactly where the context predicts it and there is room. -/
theorem buildRtpPacketFromContext_eq_some (hc : Capturable packet) (hlen : packet.length ≤ 0xFFFF) :
    buildRtpPacketFromContext cap ctx (packet.drop 40) = some packet ↔ packet.length ≤ cap ∧ Predicted ctx packet := by
  have hmin := hc.minLen
  have hdrop : (packet.drop 40).length = packet.length - 40 := List.length_drop
  constructor
  · intro h
    have hcap : packet.length ≤ cap := by
      unfold buildRtpPacketFromContext at h
      dsimp only at h
      split at h
      · cases h
      · omega
    have hheader : rtpHeader ctx (40 + (packet.drop 40).length) (packet.drop 40).length ++ packet.drop 40 = packet := by
      rw [buildRtpPacketFromContext, if_neg (by omega)] at h
      exact Option.some.inj h
    have hholds := holds_of_rtpHeader hc hheader
    obtain ⟨octets, hbuild, hiff⟩ := buildRtpPacketFromContext_eq_iff hc hholds rfl hlen hcap
    have heq : octets = packet := Option.some.inj (hbuild.symm.trans h)
    obtain ⟨⟨hregular, hflags⟩, hudp⟩ := hiff.mp heq
    exact ⟨hcap, hholds.ipv4.tos, hholds.ipv4.id, hflags, hholds.ipv4.ttl, hholds.ipv4.saddr, hholds.ipv4.daddr,
      ⟨hholds.udp.sport, hholds.udp.dport, hholds.udp.check⟩, hholds.rtp, hregular, hudp⟩
  · rintro ⟨hcap, h⟩
    obtain ⟨octets, hbuild, hiff⟩ := buildRtpPacketFromContext_eq_iff hc (h.holds hc) rfl hlen hcap
    have heq : octets = packet := hiff.mpr ⟨⟨h.regular, h.flags⟩, h.udpLength⟩
    exact hbuild.trans (congrArg some heq)

end Build

/-- What a context says of the last header, and of how the next one follows from it. -/
structure HeaderFields where
  version : UInt8
  tos : UInt8
  id : UInt16
  idSequential : Bool
  flags : UInt8
  ttl : UInt8
  saddr : UInt32
  daddr : UInt32
  sport : UInt16
  dport : UInt16
  check : UInt16
  vpxcc : UInt8
  mpt : UInt8
  seq : UInt16
  ts : UInt32
  ssrc : UInt32
  stride : UInt32
deriving DecidableEq

def headerFields (ctx : Context) : HeaderFields :=
  ⟨ctx.ipVersion, ctx.ipv4Tos, ctx.ipv4Id, ctx.ipv4IdSequential, ctx.ipv4Flags, ctx.ipv4Ttl, ctx.ipv4Saddr, ctx.ipv4Daddr,
    ctx.udpSport, ctx.udpDport, ctx.udpCheck, ctx.rtp.vpxcc, ctx.rtp.mpt, ctx.rtp.lastSeq, ctx.rtp.lastTs, ctx.rtp.ssrc,
    ctx.rtp.tsStride⟩

/-- Contexts that agree on them predict the same packets. -/
theorem Predicted.of_agree {c d : Context} {packet : Bytes} (h : headerFields c = headerFields d)
    (p : Predicted (advance c) packet) : Predicted (advance d) packet := by
  simp only [headerFields, HeaderFields.mk.injEq] at h
  obtain ⟨hversion, htos, hid, hsequential, hflags, httl, hsaddr, hdaddr, hsport, hdport, hcheck, hvpxcc, hmpt, hseq, hts,
    hssrc, hstride⟩ := h
  have hid' : (advance d).ipv4Id = (advance c).ipv4Id := by simp only [advance, hversion, hsequential, hid]
  have hseq' : (advance d).rtp.lastSeq = (advance c).rtp.lastSeq := by simp only [advance, hseq]
  have hts' : (advance d).rtp.lastTs = (advance c).rtp.lastTs := by simp only [advance, hstride, hts]
  have hflags' : (advance d).ipv4Flags = (advance c).ipv4Flags := hflags.symm
  refine ⟨htos.symm.trans p.tos, hid'.trans p.id, ?_, httl.symm.trans p.ttl, hsaddr.symm.trans p.saddr,
    hdaddr.symm.trans p.daddr, ⟨hsport.symm.trans p.udp.sport, hdport.symm.trans p.udp.dport,
      hcheck.symm.trans p.udp.check⟩, ⟨hvpxcc.symm.trans p.rtp.vpxcc, hmpt.symm.trans p.rtp.mpt, hseq'.trans p.rtp.seq,
      hts'.trans p.rtp.ts, hssrc.symm.trans p.rtp.ssrc⟩, p.regular, p.udpLength⟩
  rw [hflags']
  exact p.flags

end Native

/-- Both ends of the pair have a context, and they agree on its header fields. -/
def NativePair.InStep (pair : NativePair) : Prop :=
  (pair.comp.contextTable.get pair.comp.cid).isSome = true ∧
    (pair.comp.contextTable.get pair.comp.cid).map Native.headerFields =
      (pair.dec.contextTable.get pair.dec.cid).map Native.headerFields

instance (pair : NativePair) : Decidable pair.InStep := inferInstanceAs (Decidable (_ ∧ _))

theorem NativePair.InStep.contexts {pair : NativePair} (h : pair.InStep) :
    ∃ c d, pair.comp.contextTable.get pair.comp.cid = some c ∧ pair.dec.contextTable.get pair.dec.cid = some d ∧
      Native.headerFields c = Native.headerFields d := by
  obtain ⟨hsome, hfields⟩ := h
  obtain ⟨c, hc⟩ := Option.isSome_iff_exists.mp hsome
  rw [hc, Option.map_some] at hfields
  obtain ⟨d, hd, heq⟩ := Option.map_eq_some_iff.mp hfields.symm
  exact ⟨c, d, hc, hd, heq.symm⟩

/-- The compressor's context predicts the packet. -/
def NativePair.Predicts (pair : NativePair) (packet : Bytes) : Prop :=
  ∃ c, pair.comp.contextTable.get pair.comp.cid = some c ∧ Native.Predicted (Native.advance c) packet

/-- The decompressor takes packets without header: it has a contract, an established context and room. -/
def NativePair.Listens (pair : NativePair) (lla : Option LlaSettings) (packet : Bytes) (cap : Nat) : Prop :=
  lla.isSome = true ∧ (pair.dec.contextTable.get pair.dec.cid).any llaContextReady = true ∧ packet.length ≤ cap

instance (pair : NativePair) (lla : Option LlaSettings) (packet : Bytes) (cap : Nat) :
    Decidable (pair.Listens lla packet cap) := inferInstanceAs (Decidable (_ ∧ _ ∧ _))

/-- **No-header emission.** The payload of a packet sent without its header gives that packet back exactly where the other
end listens and the packet is the one predicted. -/
theorem native_noHeader_iff {pair : NativePair} (h : pair.InStep) {lla : Option LlaSettings} {packet : Bytes}
    (hsent : (pair.comp.emitNhp lla packet).1 = true) (lla' : Option LlaSettings) (cap : Nat) :
    (pair.dec.receiveNhp lla' (packet.drop 40) cap).1 = some packet ↔
      pair.Listens lla' packet cap ∧ pair.Predicts packet := by
  obtain ⟨c, d, hc, hd, hagree⟩ := h.contexts
  obtain ⟨hcapt, hlen⟩ := NativeCompressor.emitNhp_eq hsent
  have hpredicts : pair.Predicts packet ↔ Native.Predicted (Native.advance d) packet := by
    constructor
    · rintro ⟨c', hc', hp⟩
      obtain rfl : c = c' := Option.some.inj (hc.symm.trans hc')
      exact hp.of_agree hagree
    · exact fun hp => ⟨c, hc, hp.of_agree hagree.symm⟩
  rw [hpredicts]
  by_cases hrefused : NoHeaderRefused lla' (pair.dec.contextTable.get pair.dec.cid)
  · rw [NativeDecompressor.receiveNhp_of_refused hrefused]
    refine ⟨nofun, ?_⟩
    rintro ⟨⟨hlla, hready, -⟩, -⟩
    rw [hd, Option.any_some] at hready
    rcases hrefused with rfl | hno
    · exact nomatch hlla
    · exact absurd hready (by rw [hno d hd]; decide)
  · obtain ⟨settings, d', rfl, hget, hready⟩ := ready_of_not_refused hrefused
    obtain rfl : d = d' := Option.some.inj (hd.symm.trans hget)
    rw [NativeDecompressor.receiveNhp_of_ready hd hready, Native.buildRtpPacketFromContext_eq_some hcapt (by omega)]
    exact ⟨fun hp => ⟨⟨rfl, by rw [hd]; exact hready, hp.1⟩, hp.2⟩, fun hp => ⟨hp.1.2.2, hp.2⟩⟩

/-- A packet like `shortRtpPacket` with sequence number `seq` and the octet `mpt`. -/
def steadyRtpPacket (mpt seq : UInt8) : Bytes :=
  [69, 0, 0, 42, 0, 1, 64, 0, 64, 17, 38, 192, 10, 0, 0, 1, 10, 0, 0, 2, 16, 0, 32, 0, 0, 22, 0, 0, 128, mpt, 0, seq,
    0, 0, 0, 0, 0, 0, 0, 9, 7, 8]

/-- Two packets have gone through. -/
def steadyPair : NativePair :=
  nativeMachine.after (NativePair.new 0 0 0) [⟨steadyRtpPacket 96 1, 100, 100⟩, ⟨steadyRtpPacket 96 2, 100, 100⟩]

/-- The header both ends hold then. -/
def steadyHeader : Context :=
  { ipv4Id := 1, ipv4Flags := 2, ipv4Ttl := 64, ipv4Saddr := 0x0A000001, ipv4Daddr := 0x0A000002, udpSport := 4096
    udpDport := 8192, rtp := { vpxcc := 128, mpt := 96, lastSeq := 2, ssrc := 9 } }

theorem predicts_steady : steadyPair.Predicts (steadyRtpPacket 96 3) := by
  have hfields : (steadyPair.comp.contextTable.get steadyPair.comp.cid).map Native.headerFields =
      some (Native.headerFields steadyHeader) := by decide +kernel
  obtain ⟨c, hc, hagree⟩ := Option.map_eq_some_iff.mp hfields
  exact ⟨c, hc, Native.Predicted.of_agree hagree.symm ⟨by decide, by decide, by decide, by decide, by decide, by decide,
    ⟨by decide, by decide, by decide⟩, ⟨by decide, by decide, by decide, by decide, by decide⟩,
    ⟨by decide, by decide +kernel⟩, by decide⟩⟩

/-- The third packet is the one predicted, and comes back. -/
theorem native_noHeader_steady :
    steadyPair.Listens (some fullContract) (steadyRtpPacket 96 3) 100 ∧ steadyPair.Predicts (steadyRtpPacket 96 3) ∧
      (steadyPair.dec.receiveNhp (some fullContract) ((steadyRtpPacket 96 3).drop 40) 100).1 =
        some (steadyRtpPacket 96 3) := by
  have hlistens : steadyPair.Listens (some fullContract) (steadyRtpPacket 96 3) 100 := by decide +kernel
  exact ⟨hlistens, predicts_steady,
    (@native_noHeader_iff steadyPair (by decide +kernel) (some fullContract) _ (by decide +kernel) _ _).mpr
      ⟨hlistens, predicts_steady⟩⟩

/-- The next packet has the marker set. It goes out without a header all the same and comes back without the marker. -/
theorem native_noHeader_marker :
    ¬∀ (pair : NativePair) (lla lla' : Option LlaSettings) (packet : Bytes) (cap : Nat), pair.InStep →
      (pair.comp.emitNhp lla packet).1 = true → pair.Listens lla' packet cap →
      (pair.dec.receiveNhp lla' (packet.drop 40) cap).1 = some packet := by
  intro h
  have hback := h steadyPair (some fullContract) (some fullContract) (steadyRtpPacket 224 3) 100 (by decide +kernel)
    (by decide +kernel) (by decide +kernel)
  revert hback
  decide +kernel

end Rohccxx
