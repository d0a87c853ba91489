import Rohccxx.Isolation
import Rohccxx.Lib.TwoRuns
import Rohccxx.WellFormed

/-!
# What an IR depends on

Two runs of an IR decoder on contexts that agree on nothing but the labels. `Along ip f g` says how far the contexts agree
by then: on the IP fields `ip` and on the transport and RTP fields `f` and `g`. At the end they agree on everything the
builders read, except for the lists of an RTP header that the standard grammar reads: these are still those of the context
before (`decodeIrRtp_lists`).
-/

set_option autoImplicit false

namespace Rohccxx

open Octets Reader

/-! ## How far two contexts agree -/

/-- Version, protocol and addresses. -/
structure SameStatic (a₄ : Ipv4Context) (a₆ : Ipv6Context) (b₄ : Ipv4Context) (b₆ : Ipv6Context) : Prop where
  version : a₄.ipVersion = b₄.ipVersion
  protocol : a₄.ipv4Protocol = b₄.ipv4Protocol
  v4 : a₄.ipVersion ≠ 6 → a₄.ipv4Saddr = b₄.ipv4Saddr ∧ a₄.ipv4Daddr = b₄.ipv4Daddr
  v6 : a₄.ipVersion = 6 → a₆.ipv6NextHeader = b₆.ipv6NextHeader ∧ a₆.ipv6Saddr = b₆.ipv6Saddr ∧
    a₆.ipv6Daddr = b₆.ipv6Daddr

/-- The options or extension headers. -/
structure SameLists (a₄ : Ipv4Context) (a₆ : Ipv6Context) (b₄ : Ipv4Context) (b₆ : Ipv6Context) : Prop where
  v4 : a₄.ipVersion ≠ 6 → a₄.ipv4OptionsLen = b₄.ipv4OptionsLen ∧ a₄.ipv4Options = b₄.ipv4Options
  v6 : a₄.ipVersion = 6 → a₆.ipv6ExtensionLen = b₆.ipv6ExtensionLen ∧ a₆.ipv6Extensions = b₆.ipv6Extensions

/-- The other fields of the dynamic chain. -/
structure SameDynamic (a₄ : Ipv4Context) (a₆ : Ipv6Context) (b₄ : Ipv4Context) (b₆ : Ipv6Context) : Prop where
  v4 : a₄.ipVersion ≠ 6 → a₄.ipv4Tos = b₄.ipv4Tos ∧ a₄.ipv4Ttl = b₄.ipv4Ttl ∧ a₄.ipv4Id = b₄.ipv4Id ∧
    a₄.ipv4Flags = b₄.ipv4Flags
  v6 : a₄.ipVersion = 6 → a₆.ipv6TrafficClass = b₆.ipv6TrafficClass ∧ a₆.ipv6FlowLabel = b₆.ipv6FlowLabel ∧
    a₆.ipv6HopLimit = b₆.ipv6HopLimit

/-- Everything the builders read of an IP header. -/
structure SameIp (a₄ : Ipv4Context) (a₆ : Ipv6Context) (b₄ : Ipv4Context) (b₆ : Ipv6Context) : Prop where
  static : SameStatic a₄ a₆ b₄ b₆
  dynamic : SameDynamic a₄ a₆ b₄ b₆
  lists : SameLists a₄ a₆ b₄ b₆

section Along

variable {β γ : Type}

/-- The contexts agree on their labels, on the IP fields `ip`, on the transport fields `f` and on the RTP fields `g`. -/
def Along (ip : Ipv4Context → Ipv6Context → Ipv4Context → Ipv6Context → Prop) (f : TransportContext → β)
    (g : RtpContext → γ) (a b : Context) : Prop :=
  (a.cid = b.cid ∧ a.largeCid = b.largeCid) ∧ ip a.toIpv4Context a.toIpv6Context b.toIpv4Context b.toIpv6Context ∧
    f a.toTransportContext = f b.toTransportContext ∧ g a.rtp = g b.rtp

/-- No IP field is known to agree. -/
def AnyIp (_ : Ipv4Context) (_ : Ipv6Context) (_ : Ipv4Context) (_ : Ipv6Context) : Prop := True

variable {ip : Ipv4Context → Ipv6Context → Ipv4Context → Ipv6Context → Prop} 
  {f : TransportContext → β} {g : RtpContext → γ} {bs : Bytes}

/-! ## Heads and tails -/

theorem readLargeCidIfPresent_eq {a b : Context} (h : a.cid = b.cid ∧ a.largeCid = b.largeCid) (bs : Bytes) :
    readLargeCidIfPresent bs a = readLargeCidIfPresent bs b := by
  unfold readLargeCidIfPresent
  rw [h.1, h.2]

theorem alike_readLargeCidIfPresent {R : Context → Context → Prop} (ctx : Context) :
    Alike R R (readLargeCidIfPresent bs ctx) (readLargeCidIfPresent bs ctx) :=
  .ite Iff.rfl (fun _ => .pure) fun _ =>
    .keep .available fun _ => .keep .scan fun _ => .keep .require fun _ => .keep .take fun _ => .pure

theorem alike_legacyIrHead (minLen : Nat) (code : UInt8) :
    Alike (Along ip f g) (Along ip f g) (legacyIrHead bs minLen code) (legacyIrHead bs minLen code) := by
  refine .value fun a b h => ?_
  have hcid := h.1
  have hadd : readAddCid bs a minLen = readAddCid bs b minLen := by
    unfold readAddCid
    rw [hcid.1, hcid.2]
  rw [hadd, readLargeCidIfPresent_eq hcid, hcid.1, hcid.2]
  refine .keep .require fun _ => .keep ?_ fun _ => .keep .available fun _ => .keep .u8 fun _ => .keep .require fun _ => ?_
  · exact .ite Iff.rfl (fun _ => .keep .require fun _ => .keep .u8 fun _ => .require) fun _ => .pure
  · exact .keep (alike_readLargeCidIfPresent b) fun _ => .keep .available fun _ => .keep .u8 fun _ =>
      .keep .require fun _ => .keep .u8 fun _ => .pure

theorem alike_readLegacyMode : Alike (Along ip f g) (Along ip f g) (readLegacyMode bs) (readLegacyMode bs) :=
  .keep .available fun _ => .keep .peek fun _ => .keep .require fun _ => .keep .require fun _ => .update fun _ _ h => h

theorem alike_legacyIrTail (crc : Nat × UInt8) :
    Alike (Along ip f g) (Along ip f g) (legacyIrTail bs crc) (legacyIrTail bs crc) :=
  .keep .pos fun _ => .keep .require fun _ => .keep alike_readLegacyMode fun _ => .keep .u8 fun _ => .pure

/-! ## IP chains -/

/-- Two contexts of one version with the same protocol, as the legacy chain leaves them half way. -/
def SameProtocol (v : UInt8) (a₄ : Ipv4Context) (_ : Ipv6Context) (b₄ : Ipv4Context) (_ : Ipv6Context) : Prop :=
  a₄.ipVersion = v ∧ b₄.ipVersion = v ∧ a₄.ipv4Protocol = b₄.ipv4Protocol

def BothVersion (v : UInt8) (a₄ : Ipv4Context) (_ : Ipv6Context) (b₄ : Ipv4Context) (_ : Ipv6Context) : Prop :=
  a₄.ipVersion = v ∧ b₄.ipVersion = v

theorem alike_readIpStaticChain :
    Alike (Along ip f g) (Along SameStatic f g) (readIpStaticChain bs) (readIpStaticChain bs) := by
  refine .keep .available fun _ => .keep .u8 fun first => .ite Iff.rfl (fun _ => ?_) fun _ =>
    .ite Iff.rfl (fun _ => ?_) fun _ => .reject
  · have hversion : Alike (Along ip f g) (Along (BothVersion 4) f g)
        (update fun ctx => { ctx with ipVersion := 4 }) (update fun ctx => { ctx with ipVersion := 4 }) :=
      .update fun _ _ h => ⟨h.1, ⟨rfl, rfl⟩, h.2.2⟩
    refine .bind hversion fun _ => .keep .available fun _ => .keep .u8 fun protocol => ?_
    have hprotocol : Alike (Along (BothVersion 4) f g) (Along (SameProtocol 4) f g)
        (update fun ctx => { ctx with ipv4Protocol := protocol })
        (update fun ctx => { ctx with ipv4Protocol := protocol }) :=
      .update fun _ _ h => ⟨h.1, ⟨h.2.1.1, h.2.1.2, rfl⟩, h.2.2⟩
    refine .bind hprotocol fun _ => .keep .need fun _ => .keep .u32 fun saddr => .keep .u32 fun daddr => ?_
    refine .update fun a b h => ⟨h.1, ⟨h.2.1.1.trans h.2.1.2.1.symm, h.2.1.2.2, fun _ => ⟨rfl, rfl⟩, fun h6 => ?_⟩,
      h.2.2⟩
    exact absurd (h.2.1.1.symm.trans h6) (by decide)
  · have hversion : Alike (Along ip f g) (Along (BothVersion 6) f g)
        (update fun ctx => { ctx with ipVersion := 6 }) (update fun ctx => { ctx with ipVersion := 6 }) :=
      .update fun _ _ h => ⟨h.1, ⟨rfl, rfl⟩, h.2.2⟩
    refine .bind hversion fun _ => .keep .need fun _ => .keep .u8 fun next => .keep .take fun saddr =>
      .keep .take fun daddr => ?_
    exact .update fun a b h => ⟨h.1, ⟨h.2.1.1.trans h.2.1.2.symm, rfl, fun h4 => absurd h.2.1.1 h4,
      fun _ => ⟨rfl, rfl, rfl⟩⟩, h.2.2⟩

/-- All but the list that ends a legacy dynamic chain, for contexts of one version. -/
def SameButList (isV6 : Prop) (a₄ : Ipv4Context) (a₆ : Ipv6Context) (b₄ : Ipv4Context) (b₆ : Ipv6Context) : Prop :=
  (SameStatic a₄ a₆ b₄ b₆ ∧ SameDynamic a₄ a₆ b₄ b₆) ∧ (a₄.ipVersion = 6 ↔ isV6)

theorem alike_readIpv4OptionsList :
    Alike (Along (SameButList False) f g) (Along SameIp f g) (readIpv4OptionsList bs) (readIpv4OptionsList bs) := by
  refine .keep .available fun _ => .keep .u8 fun marker => ?_
  have hclear : Alike (Along (SameButList False) f g) (Along SameIp f g)
      (update fun ctx => { ctx with ipv4OptionsLen := 0, ipv4Options := Vector.replicate 40 0 })
      (update fun ctx => { ctx with ipv4OptionsLen := 0, ipv4Options := Vector.replicate 40 0 }) :=
    .update fun _ _ h => ⟨h.1, ⟨⟨h.2.1.1.1.1, h.2.1.1.1.2, h.2.1.1.1.3, h.2.1.1.1.4⟩, ⟨h.2.1.1.2.1, h.2.1.1.2.2⟩,
      ⟨fun _ => ⟨rfl, rfl⟩, fun h6 => (h.2.1.2.mp h6).elim⟩⟩, h.2.2⟩
  refine .bind hclear fun _ => .ite Iff.rfl (fun _ => .pure) fun _ => .keep .require fun _ => .keep .require fun _ =>
    .keep .need fun _ => .keep .take fun options => .update fun _ _ h => ⟨h.1, ⟨?_, ?_, ?_⟩, h.2.2⟩
  · exact ⟨h.2.1.1.1, h.2.1.1.2, h.2.1.1.3, h.2.1.1.4⟩
  · exact ⟨h.2.1.2.1, h.2.1.2.2⟩
  · exact ⟨fun _ => ⟨rfl, rfl⟩, h.2.1.3.2⟩

theorem alike_readIpv6ExtensionsList :
    Alike (Along (SameButList True) f g) (Along SameIp f g) (readIpv6ExtensionsList bs) (readIpv6ExtensionsList bs) := by
  refine .keep .available fun _ => .keep .u8 fun marker => ?_
  have hclear : Alike (Along (SameButList True) f g) (Along SameIp f g)
      (update fun ctx => { ctx with ipv6ExtensionLen := 0, ipv6Extensions := Vector.replicate 128 0 })
      (update fun ctx => { ctx with ipv6ExtensionLen := 0, ipv6Extensions := Vector.replicate 128 0 }) :=
    .update fun _ _ h => ⟨h.1, ⟨⟨h.2.1.1.1.1, h.2.1.1.1.2, h.2.1.1.1.3, h.2.1.1.1.4⟩, ⟨h.2.1.1.2.1, h.2.1.1.2.2⟩,
      ⟨fun h4 => absurd (h.2.1.2.mpr trivial) h4, fun _ => ⟨rfl, rfl⟩⟩⟩, h.2.2⟩
  refine .bind hclear fun _ => .ite Iff.rfl (fun _ => .pure) fun _ => .keep .require fun _ => .keep .require fun _ =>
    .keep .need fun _ => .keep .take fun extensions => .update fun _ _ h => ⟨h.1, ⟨?_, ?_, ?_⟩, h.2.2⟩
  · exact ⟨h.2.1.1.1, h.2.1.1.2, h.2.1.1.3, h.2.1.1.4⟩
  · exact ⟨h.2.1.2.1, h.2.1.2.2⟩
  · exact ⟨h.2.1.3.1, fun _ => ⟨rfl, rfl⟩⟩

/-- The static fields of contexts of one version. -/
def StaticOf (isV6 : Prop) (a₄ : Ipv4Context) (a₆ : Ipv6Context) (b₄ : Ipv4Context) (b₆ : Ipv6Context) : Prop :=
  SameStatic a₄ a₆ b₄ b₆ ∧ (a₄.ipVersion = 6 ↔ isV6)

theorem alike_readIpDynamicChain :
    Alike (Along SameStatic f g) (Along SameIp f g) (readIpDynamicChain bs) (readIpDynamicChain bs) := by
  refine .value_eq fun a b h => ?_
  have hversion : a.ipVersion = b.ipVersion := h.2.1.version
  refine .ite (by rw [hversion]) (fun h6 => ?_) fun h4 => ?_
  · refine .mono (show Alike (Along (StaticOf True) f g) (Along SameIp f g) _ _ from ?_) ?_ fun _ _ h => h
    · refine .keep .need fun _ => .keep .u8 fun trafficClass => .keep .u8 fun x => .keep .u8 fun y => .keep .u8 fun z => ?_
      refine .keep .u8 fun hopLimit => .keep .u8 fun protocol => .bind (.update ?_) fun _ => alike_readIpv6ExtensionsList
      exact fun _ _ h => ⟨h.1, ⟨⟨⟨h.2.1.1.1, rfl, h.2.1.1.3, h.2.1.1.4⟩,
        ⟨fun h4 => absurd (h.2.1.2.mpr trivial) h4, fun _ => ⟨rfl, rfl, rfl⟩⟩⟩, h.2.1.2⟩, h.2.2⟩
    · rintro _ _ ⟨rfl, rfl⟩
      exact ⟨h.1, ⟨h.2.1, iff_of_true h6 trivial⟩, h.2.2⟩
  · refine .mono (show Alike (Along (StaticOf False) f g) (Along SameIp f g) _ _ from ?_) ?_ fun _ _ h => h
    · refine .keep .need fun _ => .keep .u8 fun tos => .keep .u8 fun ttl => .keep .u16 fun id => .keep .u8 fun flags => ?_
      refine .bind (.update ?_) fun _ => alike_readIpv4OptionsList
      exact fun _ _ h => ⟨h.1, ⟨⟨⟨h.2.1.1.1, h.2.1.1.2, h.2.1.1.3, h.2.1.1.4⟩,
        ⟨fun _ => ⟨rfl, rfl, rfl, rfl⟩, fun h6 => (h.2.1.2.mp h6).elim⟩⟩, h.2.1.2⟩, h.2.2⟩
    · rintro _ _ ⟨rfl, rfl⟩
      exact ⟨h.1, ⟨h.2.1, iff_of_false h4 id⟩, h.2.2⟩

theorem alike_readLegacyIpDynamicConsistent :
    Alike (Along SameStatic f g) (Along SameIp f g) (readLegacyIpDynamicConsistent bs)
      (readLegacyIpDynamicConsistent bs) := by
  refine .value fun a b h => .bind alike_readIpDynamicChain fun _ => .value fun a' b' h' => ?_
  have hterminal : (if a.ipVersion = 6 then a.ipv6NextHeader else a.ipv4Protocol) =
      if b.ipVersion = 6 then b.ipv6NextHeader else b.ipv4Protocol := by
    rw [← h.2.1.version, ← h.2.1.protocol]
    split
    · exact (h.2.1.v6 ‹_›).1
    · rfl
  have hversion : a'.ipVersion = b'.ipVersion := h'.2.1.static.version
  have hprotocol : a'.ipv4Protocol = b'.ipv4Protocol := h'.2.1.static.protocol
  simp only [hterminal, hversion, hprotocol]
  exact .require

/-! ## Transport chains -/

/-- No field is known to agree. -/
def noField {σ : Type} (_ : σ) : Unit := ()

def portsOf (t : TransportContext) : UInt16 × UInt16 := (t.udpSport, t.udpDport)

def udpOf (t : TransportContext) : UInt16 × UInt16 × UInt16 := (t.udpSport, t.udpDport, t.udpCheck)

def udpLiteOf (t : TransportContext) : UInt16 × UInt16 × UInt16 × UInt16 :=
  (t.udpSport, t.udpDport, t.udpLengthOrCoverage, t.udpCheck)

theorem alike_readUdpPorts : Alike (Along ip f g) (Along ip portsOf g) (readUdpPorts bs) (readUdpPorts bs) :=
  .keep .u16 fun _ => .keep .u16 fun _ => .update fun _ _ h => ⟨h.1, h.2.1, rfl, h.2.2.2⟩

theorem alike_setCheck (check : UInt16) : Alike (Along ip portsOf g) (Along ip udpOf g)
    (update fun ctx => { ctx with udpCheck := check }) (update fun ctx => { ctx with udpCheck := check }) :=
  .update fun _ _ h => ⟨h.1, h.2.1, congrArg (fun v : UInt16 × UInt16 => (v.1, v.2, check)) h.2.2.1, h.2.2.2⟩

theorem alike_setCoverage (coverage check : UInt16) : Alike (Along ip portsOf g) (Along ip udpLiteOf g)
    (update fun ctx => { ctx with udpLengthOrCoverage := coverage, udpCheck := check })
    (update fun ctx => { ctx with udpLengthOrCoverage := coverage, udpCheck := check }) :=
  .update fun _ _ h => ⟨h.1, h.2.1, congrArg (fun v : UInt16 × UInt16 => (v.1, v.2, coverage, check)) h.2.2.1,
    h.2.2.2⟩

theorem alike_setSsrc (ssrc : UInt32) : Alike (Along ip f g) (Along ip f RtpContext.ssrc)
    (update fun ctx => ctx.withRtp fun rtp => { rtp with ssrc := ssrc })
    (update fun ctx => ctx.withRtp fun rtp => { rtp with ssrc := ssrc }) :=
  .update fun _ _ h => ⟨h.1, h.2.1, h.2.2.1, rfl⟩

/-- The fixed RTP header. -/
def rtpFixed (r : RtpContext) : UInt8 × UInt8 × UInt16 × UInt32 × UInt32 := (r.vpxcc, r.mpt, r.lastSeq, r.lastTs, r.ssrc)

/-- Everything a builder reads of an RTP header. -/
structure RtpView where
  fixed : UInt8 × UInt8 × UInt16 × UInt32 × UInt32
  csrc : Nat × Vector UInt8 60
  extension : Nat × Vector UInt8 256
  padding : Nat × Vector UInt8 255

def rtpView (r : RtpContext) : RtpView where
  fixed := rtpFixed r
  csrc := (r.csrcListLen, r.csrcList)
  extension := (r.extensionLen, r.extensionBytes)
  padding := (r.paddingLen, r.paddingBytes)

theorem rtpExtrasBodyLen_eq {a b : RtpContext} (h : rtpView a = rtpView b) : rtpExtrasBodyLen a = rtpExtrasBodyLen b := by
  simp only [rtpView, rtpFixed, RtpView.mk.injEq, Prod.mk.injEq] at h
  obtain ⟨⟨hv, -⟩, ⟨hc, -⟩, ⟨hx, hxs⟩, hp, hps⟩ := h
  unfold rtpExtrasBodyLen rtpExtensionBytesValid
  rw [hv, hc, hx, hxs, hp, hps]

theorem alike_readRtpExtrasList :
    Alike (Along ip f rtpFixed) (Along ip f rtpView) (readRtpExtrasList bs) (readRtpExtrasList bs) := by
  have hclear : Alike (Along ip f rtpFixed) (Along ip f rtpView)
      (update fun ctx => ctx.withRtp RtpContext.clearExtras) (update fun ctx => ctx.withRtp RtpContext.clearExtras) :=
    .update fun a b h => ⟨h.1, h.2.1, h.2.2.1, by
      have hq := h.2.2.2
      simp only [rtpFixed, Prod.mk.injEq] at hq
      simp only [Context.withRtp, RtpContext.clearExtras, rtpView, rtpFixed, hq]⟩
  refine .bind hclear fun _ => .keep .available fun _ => .keep .u8 fun marker => .ite Iff.rfl (fun _ => ?_) fun _ => ?_
  · refine .update fun a b h => ⟨h.1, h.2.1, h.2.2.1, ?_⟩
    have hq := h.2.2.2
    simp only [rtpView, rtpFixed, Prod.mk.injEq, RtpView.mk.injEq] at hq
    simp only [Context.withRtp, rtpView, rtpFixed, hq]
  · refine .keep .require fun _ => .keep .scan fun r => .keep .require fun _ => .keep .take fun _ => .keep .need fun _ =>
      .keep .u8 fun flags => .keep .require fun _ => .keep .u8 fun count => .keep .u16 fun extLen =>
      .keep .u8 fun padLen => .value fun a b h => ?_
    have hv : a.rtp.vpxcc = b.rtp.vpxcc := congrArg (fun v : RtpView => v.fixed.1) h.2.2.2
    rw [hv]
    refine .keep .require fun _ => .keep .take fun csrc => .keep .take fun ext => .keep .take fun pad => ?_
    refine .keep (.update fun a b h => ⟨h.1, h.2.1, h.2.2.1, ?_⟩) fun _ => .value fun a b h => ?_
    · have hq := h.2.2.2
      simp only [rtpView, rtpFixed, Prod.mk.injEq, RtpView.mk.injEq] at hq
      simp only [Context.withRtp, rtpView, rtpFixed, hq]
    · rw [rtpExtrasBodyLen_eq h.2.2.2]
      exact .require

theorem alike_readRtpDynamicChain :
    Alike (Along ip f RtpContext.ssrc) (Along ip f rtpView) (readRtpDynamicChain bs) (readRtpDynamicChain bs) := by
  refine .keep .u8 fun vpxcc => .keep .u8 fun mpt => .keep .u16 fun seq => .keep .u32 fun ts => ?_
  refine .bind (.update fun a b h => ⟨h.1, h.2.1, h.2.2.1, ?_⟩) fun _ => alike_readRtpExtrasList
  simp only [Context.withRtp, rtpFixed, h.2.2.2]

end Along

/-! ## The legacy grammar -/

section Legacy

variable {bs : Bytes}

/-- Contexts with the same labels. -/
abbrev Labelled : Context → Context → Prop := Along AnyIp noField noField

/-- What the ESP builder reads: with the older framing the header is in the payload. -/
def espBuilt (t : TransportContext) : Option (UInt32 × UInt32) :=
  if t.legacyEspPayloadIncludesHeader then none else some (t.espSpi, t.espSequence)

theorem alike_decodeIrEspLegacy :
    Alike Labelled (Along SameIp espBuilt noField) (decodeIrEspLegacy bs) (decodeIrEspLegacy bs) := by
  refine .keep (alike_legacyIrHead _ _) fun crc => .bind alike_readIpStaticChain fun _ =>
    .bind alike_readLegacyIpDynamicConsistent fun _ => .value fun a b h => ?_
  rw [h.2.1.static.protocol]
  exact .keep .require fun _ => .keep (alike_legacyIrTail _) fun _ => .update fun _ _ h => ⟨h.1, h.2.1, rfl, rfl⟩

theorem alike_decodeIrIpLegacy :
    Alike Labelled (Along SameIp noField noField) (decodeIrIpLegacy bs) (decodeIrIpLegacy bs) :=
  .keep (alike_legacyIrHead _ _) fun _ => .bind alike_readIpStaticChain fun _ =>
    .bind alike_readLegacyIpDynamicConsistent fun _ => .keep .available fun _ => .keep (alike_legacyIrTail _) fun _ =>
    .update fun _ _ h => h

theorem alike_decodeIrUdpLiteLegacy :
    Alike Labelled (Along SameIp udpLiteOf noField) (decodeIrUdpLiteLegacy bs) (decodeIrUdpLiteLegacy bs) := by
  refine .keep (alike_legacyIrHead _ _) fun crc => .bind alike_readIpStaticChain fun _ => .keep .available fun _ =>
    .bind alike_readUdpPorts fun _ => .bind alike_readLegacyIpDynamicConsistent fun _ => .value fun a b h => ?_
  rw [h.2.1.static.protocol]
  exact .keep .require fun _ => .keep .available fun _ => .keep .u16 fun coverage => .keep .u16 fun check =>
    .bind (alike_setCoverage _ _) fun _ => .keep .available fun _ => .keep (alike_legacyIrTail _) fun _ =>
    .update fun _ _ h => h

theorem alike_decodeIrUdpLegacy :
    Alike Labelled (Along SameIp udpOf noField) (decodeIrUdpLegacy bs) (decodeIrUdpLegacy bs) := by
  refine .keep (alike_legacyIrHead _ _) fun crc => .bind alike_readIpStaticChain fun _ => .keep .available fun _ =>
    .bind alike_readUdpPorts fun _ => .bind alike_readLegacyIpDynamicConsistent fun _ => .value fun a b h => ?_
  rw [h.2.1.static.protocol]
  exact .keep .require fun _ => .keep .available fun _ => .keep .u16 fun check => .bind (alike_setCheck _) fun _ =>
    .keep .available fun _ => .keep (alike_legacyIrTail _) fun _ => .update fun _ _ h => h

/-- The IP-ID behaviour is not in the packet. -/
theorem SameIp.sequential {a₄ b₄ : Ipv4Context} {a₆ b₆ : Ipv6Context} (h : SameIp a₄ a₆ b₄ b₆) (x y : Bool) :
    SameIp { a₄ with ipv4IdSequential := x } a₆ { b₄ with ipv4IdSequential := y } b₆ :=
  ⟨⟨h.static.version, h.static.protocol, h.static.v4, h.static.v6⟩, ⟨h.dynamic.v4, h.dynamic.v6⟩,
    ⟨h.lists.v4, h.lists.v6⟩⟩

theorem alike_decodeIrRtpUdpLiteLegacy :
    Alike Labelled (Along SameIp udpLiteOf rtpView) (decodeIrRtpUdpLiteLegacy bs) (decodeIrRtpUdpLiteLegacy bs) := by
  refine .keep (alike_legacyIrHead _ _) fun crc => .bind alike_readIpStaticChain fun _ => .keep .available fun _ =>
    .bind alike_readUdpPorts fun _ => .keep .u32 fun ssrc => .bind (alike_setSsrc _) fun _ =>
    .bind alike_readLegacyIpDynamicConsistent fun _ => .value fun a b h => ?_
  rw [h.2.1.static.protocol]
  exact .keep .require fun _ => .keep .available fun _ => .keep .u16 fun coverage => .keep .u16 fun check =>
    .bind (alike_setCoverage _ _) fun _ => .bind alike_readRtpDynamicChain fun _ => .keep .available fun _ =>
    .keep (alike_legacyIrTail _) fun _ => .update fun _ _ h => ⟨h.1, h.2.1.sequential _ _, h.2.2⟩

theorem alike_decodeIrRtpLegacy :
    Alike Labelled (Along SameIp udpOf rtpView) (decodeIrRtpLegacy bs) (decodeIrRtpLegacy bs) := by
  refine .keep (alike_legacyIrHead _ _) fun crc => .bind alike_readIpStaticChain fun _ => .keep .available fun _ =>
    .bind alike_readUdpPorts fun _ => .keep .u32 fun ssrc => .bind (alike_setSsrc _) fun _ =>
    .bind alike_readLegacyIpDynamicConsistent fun _ => .value fun a b h => ?_
  rw [h.2.1.static.protocol]
  exact .keep .require fun _ => .keep .available fun _ => .keep .u16 fun check => .bind (alike_setCheck _) fun _ =>
    .bind alike_readRtpDynamicChain fun _ => .keep .available fun _ => .keep (alike_legacyIrTail _) fun _ =>
    .update fun _ _ h => ⟨h.1, h.2.1.sequential _ _, h.2.2⟩

end Legacy

/-! ## The standard grammar -/

section Standard

variable {β γ : Type} {ip : Ipv4Context → Ipv6Context → Ipv4Context → Ipv6Context → Prop} {f : TransportContext → β}
  {g : RtpContext → γ} {bs : Bytes}

/-- What the standard static chain writes. -/
structure SameFixed (a₄ : Ipv4Context) (a₆ : Ipv6Context) (b₄ : Ipv4Context) (b₆ : Ipv6Context) : Prop where
  static : SameStatic a₄ a₆ b₄ b₆
  lists : SameLists a₄ a₆ b₄ b₆
  flowLabel : a₄.ipVersion = 6 → a₆.ipv6FlowLabel = b₆.ipv6FlowLabel

theorem alike_readStandardIrPrefix {R : Context → Context → Prop} {a b : Context}
    (h : a.cid = b.cid ∧ a.largeCid = b.largeCid) (profileId : UInt8) :
    Alike R R (readStandardIrPrefix bs a profileId) (readStandardIrPrefix bs b profileId) := by
  have hadd : readStandardAddCid bs a = readStandardAddCid bs b := by
    unfold readStandardAddCid
    rw [h.1, h.2]
  have hlarge : readStandardLargeCid bs a = readStandardLargeCid bs b := by
    unfold readStandardLargeCid
    rw [h.1, h.2]
  unfold readStandardIrPrefix
  rw [hadd, hlarge]
  refine .keep ?_ fun _ => .keep .available fun _ => .keep .u8 fun _ => .keep .require fun _ => .keep ?_ fun _ =>
    .keep .need fun _ => .keep .u8 fun _ => .keep .require fun _ => .keep .pos fun _ => .keep .u8 fun _ => .pure
  · exact .ite Iff.rfl (fun _ => .keep .available fun _ => .keep .u8 fun _ => .require) fun _ => .pure
  · exact .ite Iff.rfl (fun _ => .keep .scan fun _ => .keep .require fun _ => .keep .take fun _ => .pure) fun _ => .pure

theorem alike_readStandardIpStatic :
    Alike (Along ip f g) (Along SameFixed f g) (readStandardIpStatic bs) (readStandardIpStatic bs) := by
  refine .keep .available fun _ => .keep .u8 fun first => .keep .require fun _ => .ite Iff.rfl (fun _ => ?_) fun _ => ?_
  · refine .keep .require fun _ => .keep .need fun _ => .keep .u8 fun protocol => .keep .u32 fun saddr =>
      .keep .u32 fun daddr => .update fun a b h => ⟨h.1, ⟨⟨rfl, rfl, fun _ => ⟨rfl, rfl⟩, ?_⟩, ⟨fun _ => ⟨rfl, rfl⟩, ?_⟩,
        ?_⟩, h.2.2⟩ <;> exact fun h6 => absurd h6 (show ¬((4 : UInt8) = 6) by decide)
  · exact .keep .require fun _ => .keep .need fun _ => .keep .u8 fun next => .keep .take fun saddr =>
      .keep .take fun daddr => .update fun a b h => ⟨h.1, ⟨⟨rfl, rfl, fun h4 => absurd rfl h4, fun _ => ⟨rfl, rfl, rfl⟩⟩,
        ⟨fun h4 => absurd rfl h4, fun _ => ⟨rfl, rfl⟩⟩, fun _ => rfl⟩, h.2.2⟩

theorem alike_readEndpointMsn : Alike (Along ip f g) (Along ip f g) (readEndpointMsn bs) (readEndpointMsn bs) :=
  .keep .need fun _ => .keep .u16 fun _ => .update fun _ _ h => h

/-- The chain after the fixed part, for contexts of one version. -/
def FixedOf (isV6 : Prop) (a₄ : Ipv4Context) (a₆ : Ipv6Context) (b₄ : Ipv4Context) (b₆ : Ipv6Context) : Prop :=
  SameFixed a₄ a₆ b₄ b₆ ∧ (a₄.ipVersion = 6 ↔ isV6)

/-- All but the identification. -/
def SameButId (a₄ : Ipv4Context) (a₆ : Ipv6Context) (b₄ : Ipv4Context) (b₆ : Ipv6Context) : Prop :=
  FixedOf False a₄ a₆ b₄ b₆ ∧ a₄.ipv4Tos = b₄.ipv4Tos ∧ a₄.ipv4Ttl = b₄.ipv4Ttl ∧ a₄.ipv4Flags = b₄.ipv4Flags

theorem sameIp_setId {a₄ b₄ : Ipv4Context} {a₆ b₆ : Ipv6Context} (h : SameButId a₄ a₆ b₄ b₆) (id : UInt16) :
    SameIp { a₄ with ipv4Id := id } a₆ { b₄ with ipv4Id := id } b₆ :=
  ⟨⟨h.1.1.static.version, h.1.1.static.protocol, h.1.1.static.v4, h.1.1.static.v6⟩,
    ⟨fun _ => ⟨h.2.1, h.2.2.1, rfl, h.2.2.2⟩, fun h6 => (h.1.2.mp h6).elim⟩, ⟨h.1.1.lists.v4, h.1.1.lists.v6⟩⟩

theorem alike_readStandardIpv4Dynamic (endpoint : Bool) :
    Alike (Along (FixedOf False) f g) (Along SameIp f g) (readStandardIpv4Dynamic bs endpoint)
      (readStandardIpv4Dynamic bs endpoint) := by
  refine .keep .need fun _ => .keep .u8 fun control => .keep .require fun _ => .keep (.update fun _ _ h => h) fun _ =>
    .keep .u8 fun tos => .keep .u8 fun ttl => ?_
  have hset : Alike (Along (FixedOf False) f g) (Along SameButId f g)
      (update fun ctx => { ctx with
        ipv4Flags := ((control >>> 2) &&& 0x01) <<< 1, ipv4IdBehavior := control &&& 0x03
        ipv4IdSequential := control &&& 0x03 ≤ 1, ipv4Tos := tos, ipv4Ttl := ttl })
      (update fun ctx => { ctx with
        ipv4Flags := ((control >>> 2) &&& 0x01) <<< 1, ipv4IdBehavior := control &&& 0x03
        ipv4IdSequential := control &&& 0x03 ≤ 1, ipv4Tos := tos, ipv4Ttl := ttl }) := by
    refine .update fun a b h => ⟨h.1, ⟨⟨⟨⟨?_, ?_, ?_, ?_⟩, ⟨?_, ?_⟩, ?_⟩, h.2.1.2⟩, rfl, rfl, rfl⟩, h.2.2⟩
    exacts [h.2.1.1.static.version, h.2.1.1.static.protocol, h.2.1.1.static.v4, h.2.1.1.static.v6, h.2.1.1.lists.v4,
      h.2.1.1.lists.v6, h.2.1.1.flowLabel]
  have hid : Alike (Along SameButId f g) (Along SameIp f g) (readStandardIpv4Id bs (control &&& 0x03))
      (readStandardIpv4Id bs (control &&& 0x03)) := by
    refine .ite Iff.rfl (fun _ => ?_) fun _ => ?_
    · exact .keep .need fun _ => .keep .u16 fun id => .update fun a b h => ⟨h.1, sameIp_setId h.2.1 _, h.2.2⟩
    · exact .update fun a b h => ⟨h.1, sameIp_setId h.2.1 _, h.2.2⟩
  exact .bind hset fun _ => .bind hid fun _ => .ite Iff.rfl (fun _ => alike_readEndpointMsn) fun _ => .pure

theorem alike_readStandardIpv6Dynamic (endpoint : Bool) :
    Alike (Along (FixedOf True) f g) (Along SameIp f g) (readStandardIpv6Dynamic bs endpoint)
      (readStandardIpv6Dynamic bs endpoint) := by
  refine .keep .need fun _ => .keep .u8 fun trafficClass => .keep .u8 fun hopLimit => ?_
  have hset : Alike (Along (FixedOf True) f g) (Along SameIp f g)
      (update fun ctx => { ctx with ipv6TrafficClass := trafficClass, ipv6HopLimit := hopLimit })
      (update fun ctx => { ctx with ipv6TrafficClass := trafficClass, ipv6HopLimit := hopLimit }) := by
    refine .update fun a b h => ⟨h.1, ⟨⟨?_, ?_, ?_, ?_⟩, ⟨fun h4 => absurd (h.2.1.2.mpr trivial) h4, fun h6 => ?_⟩,
      ⟨?_, ?_⟩⟩, h.2.2⟩
    exacts [h.2.1.1.static.version, h.2.1.1.static.protocol, h.2.1.1.static.v4, h.2.1.1.static.v6,
      ⟨rfl, h.2.1.1.flowLabel h6, rfl⟩, h.2.1.1.lists.v4, h.2.1.1.lists.v6]
  refine .bind hset fun _ => .ite Iff.rfl (fun _ => ?_) fun _ => .pure
  exact .keep .u8 fun _ => .keep .require fun _ => .keep .u16 fun _ => .update fun _ _ h => h

theorem alike_readStandardIpDynamic (endpoint : Bool) :
    Alike (Along SameFixed f g) (Along SameIp f g) (readStandardIpDynamic bs endpoint)
      (readStandardIpDynamic bs endpoint) := by
  refine .value_eq fun a b h => .ite (by rw [h.2.1.static.version]) (fun h6 => ?_) fun h4 => ?_
  · refine .mono (alike_readStandardIpv6Dynamic endpoint) ?_ fun _ _ h => h
    rintro _ _ ⟨rfl, rfl⟩
    exact ⟨h.1, ⟨h.2.1, iff_of_true h6 trivial⟩, h.2.2⟩
  · refine .mono (alike_readStandardIpv4Dynamic endpoint) ?_ fun _ _ h => h
    rintro _ _ ⟨rfl, rfl⟩
    exact ⟨h.1, ⟨h.2.1, iff_of_false h4 id⟩, h.2.2⟩

/-- The standard decoder of a profile, given what its transport chains do. -/
theorem alike_decodeIrStandard {β' γ' β'' γ'' : Type} {profile : Profile} {profileId : UInt8}
    {f' : TransportContext → β'} {g' : RtpContext → γ'} {f'' : TransportContext → β''} {g'' : RtpContext → γ''}
    (hs : Alike (Along SameFixed TransportContext.legacyEspPayloadIncludesHeader noField) (Along SameFixed f' g')
      (readStandardTransportStatic bs profile) (readStandardTransportStatic bs profile))
    (hd : ∀ a b, Alike (Along SameIp f' g') (Along SameIp f'' g'') (readStandardTransportDynamic bs a profile)
      (readStandardTransportDynamic bs b profile)) :
    Alike Labelled (Along SameIp f'' g'') (decodeIrStandard profile profileId bs)
      (decodeIrStandard profile profileId bs) := by
  refine .value fun previous previous' hp => .keep (alike_readStandardIrPrefix hp.1 _) fun crc =>
    .bind alike_readStandardIpStatic fun _ => .value fun a b h => ?_
  have hterminal : (if a.ipVersion = 6 then a.ipv6NextHeader else a.ipv4Protocol) =
      if b.ipVersion = 6 then b.ipv6NextHeader else b.ipv4Protocol := by
    rw [← h.2.1.static.version, ← h.2.1.static.protocol]
    split
    · exact (h.2.1.static.v6 ‹_›).1
    · rfl
  simp only [hterminal]
  refine .keep .require fun _ => ?_
  have hflag : Alike (Along SameFixed noField noField)
      (Along SameFixed TransportContext.legacyEspPayloadIncludesHeader noField)
      (update fun ctx => { ctx with legacyEspPayloadIncludesHeader := false })
      (update fun ctx => { ctx with legacyEspPayloadIncludesHeader := false }) :=
    .update fun _ _ h => ⟨h.1, h.2.1, rfl, rfl⟩
  exact .bind hflag fun _ => .bind hs fun _ => .bind (alike_readStandardIpDynamic _) fun _ => .bind (hd _ _) fun _ =>
    .keep .pos fun _ => .keep .require fun _ => .update fun _ _ h => h

/-- What the ESP builder reads. -/
def espOf (t : TransportContext) : UInt32 × UInt32 × Bool := (t.espSpi, t.espSequence, t.legacyEspPayloadIncludesHeader)

def spiOf (t : TransportContext) : UInt32 × Bool := (t.espSpi, t.legacyEspPayloadIncludesHeader)

theorem alike_decodeIrStandard_ip (profileId : UInt8) :
    Alike Labelled (Along SameIp TransportContext.legacyEspPayloadIncludesHeader noField)
      (decodeIrStandard .ip profileId bs) (decodeIrStandard .ip profileId bs) :=
  alike_decodeIrStandard .pure fun _ _ => .pure

theorem alike_decodeIrStandard_udp (profileId : UInt8) :
    Alike Labelled (Along SameIp udpOf noField) (decodeIrStandard .udp profileId bs)
      (decodeIrStandard .udp profileId bs) := by
  have hcheck : ∀ check msn, Alike (Along SameIp portsOf (noField : RtpContext → Unit)) (Along SameIp udpOf noField)
      (update fun ctx => { ctx with udpCheck := check, udpChecksumUsed := check ≠ 0, msn := msn })
      (update fun ctx => { ctx with udpCheck := check, udpChecksumUsed := check ≠ 0, msn := msn }) := fun check msn =>
    .update fun _ _ h => ⟨h.1, h.2.1, congrArg (fun v : UInt16 × UInt16 => (v.1, v.2, check)) h.2.2.1, rfl⟩
  exact alike_decodeIrStandard (.keep .need fun _ => .bind alike_readUdpPorts fun _ => .update fun _ _ h => h)
    fun _ _ => .keep .need fun _ => .keep .u16 fun check => .keep .u16 fun msn => .bind (hcheck check msn) fun _ =>
      .keep .u8 fun _ => .keep .require fun _ => .update fun _ _ h => h

theorem alike_decodeIrStandard_esp (profileId : UInt8) :
    Alike Labelled (Along SameIp espOf noField) (decodeIrStandard .esp profileId bs)
      (decodeIrStandard .esp profileId bs) := by
  have hspi : ∀ spi, Alike (Along SameFixed TransportContext.legacyEspPayloadIncludesHeader noField)
      (Along SameFixed spiOf noField) (update fun ctx => { ctx with espSpi := spi })
      (update fun ctx => { ctx with espSpi := spi }) := fun spi =>
    .update fun _ _ h => ⟨h.1, h.2.1, congrArg (spi, ·) h.2.2.1, rfl⟩
  have hseq : ∀ sequence, Alike (Along SameIp spiOf noField) (Along SameIp espOf noField)
      (update fun ctx => { ctx with espSequence := sequence })
      (update fun ctx => { ctx with espSequence := sequence }) := fun sequence =>
    .update fun _ _ h => ⟨h.1, h.2.1, congrArg (fun v : UInt32 × Bool => (v.1, sequence, v.2)) h.2.2.1, rfl⟩
  exact alike_decodeIrStandard (.keep .need fun _ => .keep .u32 fun spi => hspi spi) fun _ _ => .keep .need fun _ =>
    .keep .u32 fun sequence => .bind (hseq sequence) fun _ => .keep .u8 fun _ => .keep .require fun _ =>
    .update fun _ _ h => h

theorem rtpFixed_refreshRtp (previous ctx : Context) : rtpFixed (refreshRtp previous ctx).rtp = rtpFixed ctx.rtp := by
  unfold refreshRtp rtpFixed
  dsimp only
  split
  · split <;> rfl
  · rfl

/-- The header of a standard RTP IR is all in the unit; its lists are not. -/
theorem alike_decodeIrStandard_rtp (profileId : UInt8) :
    Alike Labelled (Along SameIp udpOf rtpFixed) (decodeIrStandard .rtp profileId bs)
      (decodeIrStandard .rtp profileId bs) := by
  have hused : Alike (Along SameFixed portsOf (noField : RtpContext → Unit)) (Along SameFixed portsOf noField)
      (update fun ctx => { ctx with udpChecksumUsed := false })
      (update fun ctx => { ctx with udpChecksumUsed := false }) := .update fun _ _ h => h
  have hcheck : ∀ check, Alike (Along SameIp portsOf RtpContext.ssrc) (Along SameIp udpOf RtpContext.ssrc)
      (update fun ctx => { ctx with udpCheck := check, udpChecksumUsed := check ≠ 0 })
      (update fun ctx => { ctx with udpCheck := check, udpChecksumUsed := check ≠ 0 }) := fun check =>
    .update fun _ _ h =>
      ⟨h.1, h.2.1, congrArg (fun v : UInt16 × UInt16 => (v.1, v.2, check)) h.2.2.1, h.2.2.2⟩
  refine alike_decodeIrStandard (.keep .need fun _ => .bind alike_readUdpPorts fun _ => .keep hused fun _ =>
    .keep .need fun _ => .keep .u32 fun ssrc => alike_setSsrc ssrc) fun previous previous' => ?_
  refine .keep .need fun _ => .keep .u16 fun check => .bind (hcheck check) fun _ => .keep .u8 fun indicators =>
    .keep .require fun _ => .keep .u8 fun mpt => .keep .u16 fun seq => .keep .u32 fun ts => .update fun a b h => ?_
  refine ⟨h.1, h.2.1.sequential _ _, h.2.2.1, ?_⟩
  have hssrc : a.rtp.ssrc = b.rtp.ssrc := h.2.2.2
  rw [rtpFixed_refreshRtp, rtpFixed_refreshRtp]
  simp only [rtpFixed, hssrc]

end Standard

/-! ## Both grammars -/

section Both

variable {a b a' b' : Context} {bs : Bytes} {n m : Nat}

/-- Where both grammars end alike, so does their choice. -/
theorem decodeIrCompatible_alike {R : Context → Context → Prop} {profile : Profile} {profileId : UInt8}
    {legacy : Bytes → Proc (Cursor Context) Unit}
    (hs : Alike Labelled R (decodeIrStandard profile profileId bs) (decodeIrStandard profile profileId bs))
    (hl : Alike Labelled R (legacy bs) (legacy bs)) (hab : Labelled a b)
    (ha : decodeIrCompatible profile profileId legacy bs a = some (a', n))
    (hb : decodeIrCompatible profile profileId legacy bs b = some (b', m)) : m = n ∧ R a' b' := by
  unfold decodeIrCompatible at ha hb
  cases hsa : run (decodeIrStandard profile profileId bs) a with
  | some r =>
    obtain ⟨t, len⟩ := r
    obtain ⟨t', hsb, hR⟩ := hs.run_some hab hsa
    rw [hsa] at ha
    rw [hsb] at hb
    have h₁ : (t, len) = (a', n) := by
      split at ha
      · rename_i h _
        cases h
        exact Option.some.inj (Option.ite_none_left_eq_some.mp ha).2
      · rename_i h _
        cases h
        exact Option.some.inj ha
      · rename_i h _
        cases h
      · cases ha
    have h₂ : (t', len) = (b', m) := by
      split at hb
      · rename_i h _
        cases h
        exact Option.some.inj (Option.ite_none_left_eq_some.mp hb).2
      · rename_i h _
        cases h
        exact Option.some.inj hb
      · rename_i h _
        cases h
      · cases hb
    cases h₁
    cases h₂
    exact ⟨rfl, hR⟩
  | none =>
    rw [hsa] at ha
    rw [hs.run_none hab hsa] at hb
    cases hla : run (legacy bs) a with
    | none =>
      rw [hla] at ha
      cases ha
    | some r =>
      obtain ⟨t, len⟩ := r
      obtain ⟨t', hlb, hR⟩ := hl.run_some hab hla
      rw [hla] at ha
      rw [hlb] at hb
      cases ha
      cases hb
      exact ⟨rfl, hR⟩

theorem decodeIrEsp_alike (hab : Labelled a b) (ha : decodeIrEsp bs a = some (a', n))
    (hb : decodeIrEsp bs b = some (b', m)) : m = n ∧ Along SameIp espBuilt noField a' b' := by
  refine decodeIrCompatible_alike ((alike_decodeIrStandard_esp _).mono (fun _ _ h => h) fun x y h => ?_)
    alike_decodeIrEspLegacy hab ha hb
  have hq := h.2.2.1
  simp only [espOf, Prod.mk.injEq] at hq
  exact ⟨h.1, h.2.1, by simp only [espBuilt, hq], h.2.2.2⟩

theorem decodeIrIp_alike (hab : Labelled a b) (ha : decodeIrIp bs a = some (a', n))
    (hb : decodeIrIp bs b = some (b', m)) : m = n ∧ Along SameIp noField noField a' b' :=
  decodeIrCompatible_alike
    ((alike_decodeIrStandard_ip _).mono (fun _ _ h => h) fun _ _ h => ⟨h.1, h.2.1, rfl, rfl⟩)
    alike_decodeIrIpLegacy hab ha hb

theorem decodeIrUdp_alike (hab : Labelled a b) (ha : decodeIrUdp bs a = some (a', n))
    (hb : decodeIrUdp bs b = some (b', m)) : m = n ∧ Along SameIp udpOf noField a' b' :=
  decodeIrCompatible_alike (alike_decodeIrStandard_udp _) alike_decodeIrUdpLegacy hab ha hb

/-- The header an RTP IR leads to is all in the unit. -/
theorem decodeIrRtp_alike (hab : Labelled a b) (ha : decodeIrRtp bs a = some (a', n))
    (hb : decodeIrRtp bs b = some (b', m)) : m = n ∧ Along SameIp udpOf rtpFixed a' b' :=
  decodeIrCompatible_alike (alike_decodeIrStandard_rtp _)
    (alike_decodeIrRtpLegacy.mono (fun _ _ h => h) fun _ _ h =>
      ⟨h.1, h.2.1, h.2.2.1, congrArg RtpView.fixed h.2.2.2⟩) hab ha hb

/-- The standard grammar takes the unit. -/
def readsStandardRtp (bs : Bytes) (ctx : Context) : Bool := (run (decodeIrStandard .rtp 0x01 bs) ctx).isSome

/-- Without the standard grammar the lists are in the unit too. -/
theorem decodeIrRtp_alike_legacy (hab : Labelled a b) (ha : decodeIrRtp bs a = some (a', n))
    (hb : decodeIrRtp bs b = some (b', m)) (hno : readsStandardRtp bs a = false) : rtpView a'.rtp = rtpView b'.rtp := by
  have hsa : run (decodeIrStandard .rtp 0x01 bs) a = none := by simpa [readsStandardRtp] using hno
  have hsb := (alike_decodeIrStandard_rtp 0x01).run_none hab hsa
  unfold decodeIrRtp decodeIrCompatible at ha hb
  rw [hsa] at ha
  rw [hsb] at hb
  cases hla : run (decodeIrRtpLegacy bs) a with
  | none =>
    rw [hla] at ha
    cases ha
  | some r =>
    obtain ⟨t, len⟩ := r
    obtain ⟨t', hlb, hR⟩ := alike_decodeIrRtpLegacy.run_some hab hla
    rw [hla] at ha
    rw [hlb] at hb
    cases ha
    cases hb
    exact hR.2.2.2

theorem readsStandardRtp_alike (hab : Labelled a b) : readsStandardRtp bs a = readsStandardRtp bs b := by
  unfold readsStandardRtp
  cases hsa : run (decodeIrStandard .rtp 0x01 bs) a with
  | none => rw [(alike_decodeIrStandard_rtp 0x01).run_none hab hsa]
  | some r =>
    obtain ⟨t', hsb, -⟩ := (alike_decodeIrStandard_rtp 0x01).run_some hab (show _ = some (r.1, r.2) from hsa)
    rw [hsb]
    rfl

/-- The lists behind an RTP header, as a builder sends them. -/
structure RtpLists where
  csrc : Bytes
  extension : Bytes
  padding : Bytes
deriving DecidableEq

def rtpLists (r : RtpContext) : RtpLists where
  csrc := stored r.csrcList r.csrcListLen
  extension := stored r.extensionBytes r.extensionLen
  padding := stored r.paddingBytes r.paddingLen

theorem rtpLists_refreshRtp (previous ctx : Context) : rtpLists (refreshRtp previous ctx).rtp = rtpLists ctx.rtp := by
  unfold refreshRtp rtpLists
  dsimp only
  split
  · split <;> rfl
  · rfl

/-- The standard grammar leaves the lists of the context before. -/
theorem keepsLists_decodeIrStandard (profileId : UInt8) :
    Keeps (fun ctx : Context => rtpLists ctx.rtp) (decodeIrStandard .rtp profileId bs) := by
  have hfront : ∀ previous, Keeps (fun ctx : Context => rtpLists ctx.rtp) (readStandardIrPrefix bs previous profileId) := by
    intro previous
    refine .bind ?_ fun _ => .bind .available fun _ => .bind .u8 fun _ => .bind .require fun _ => .bind ?_ fun _ =>
      .bind .need fun _ => .bind .u8 fun _ => .bind .require fun _ => .bind .pos fun _ => .bind .u8 fun _ => .pure
    · exact .ite (.bind .available fun _ => .bind .u8 fun _ => .require) .pure
    · exact .ite (.bind .scan fun _ => .bind .require fun _ => .bind .take fun _ => .pure) .pure
  have hstatic : Keeps (fun ctx : Context => rtpLists ctx.rtp) (readStandardIpStatic bs) := by
    refine .bind .available fun _ => .bind .u8 fun _ => .bind .require fun _ => .ite ?_ ?_
    · exact .bind .require fun _ => .bind .need fun _ => .bind .u8 fun _ => .bind .u32 fun _ => .bind .u32 fun _ =>
        .update fun _ => rfl
    · exact .bind .require fun _ => .bind .need fun _ => .bind .u8 fun _ => .bind .take fun _ => .bind .take fun _ =>
        .update fun _ => rfl
  have hv4 : ∀ endpoint, Keeps (fun ctx : Context => rtpLists ctx.rtp) (readStandardIpv4Dynamic bs endpoint) := by
    intro endpoint
    refine .bind .need fun _ => .bind .u8 fun _ => .bind .require fun _ => .bind (.update fun _ => rfl) fun _ =>
      .bind .u8 fun _ => .bind .u8 fun _ => .bind (.update fun _ => rfl) fun _ => .bind ?_ fun _ => .ite ?_ .pure
    · exact .ite (.bind .need fun _ => .bind .u16 fun _ => .update fun _ => rfl) (.update fun _ => rfl)
    · exact .bind .need fun _ => .bind .u16 fun _ => .update fun _ => rfl
  have hdynamic : ∀ endpoint, Keeps (fun ctx : Context => rtpLists ctx.rtp) (readStandardIpDynamic bs endpoint) :=
    fun endpoint => .bind .value fun _ => .ite
      (.bind .need fun _ => .bind .u8 fun _ => .bind .u8 fun _ => .bind (.update fun _ => rfl) fun _ => .ite
        (.bind .u8 fun _ => .bind .require fun _ => .bind .u16 fun _ => .update fun _ => rfl) .pure) (hv4 endpoint)
  have hports : Keeps (fun ctx : Context => rtpLists ctx.rtp) (readUdpPorts bs) :=
    .bind .u16 fun _ => .bind .u16 fun _ => .update fun _ => rfl
  have htransport : Keeps (fun ctx : Context => rtpLists ctx.rtp) (readStandardTransportStatic bs .rtp) :=
    .bind .need fun _ => .bind hports fun _ => .bind (.update fun _ => rfl) fun _ => .bind .need fun _ =>
      .bind .u32 fun _ => .update fun _ => rfl
  have hrtp : ∀ previous, Keeps (fun ctx : Context => rtpLists ctx.rtp) (readStandardTransportDynamic bs previous .rtp) :=
    fun previous => .bind .need fun _ => .bind .u16 fun _ => .bind (.update fun _ => rfl) fun _ => .bind .u8 fun _ =>
      .bind .require fun _ => .bind .u8 fun _ => .bind .u16 fun _ => .bind .u32 fun _ =>
        .update fun _ => rtpLists_refreshRtp _ _
  exact .bind .value fun previous => .bind (hfront previous) fun _ => .bind hstatic fun _ => .bind .value fun _ =>
    .bind .require fun _ => .bind (.update fun _ => rfl) fun _ => .bind htransport fun _ => .bind (hdynamic _) fun _ =>
      .bind (hrtp previous) fun _ => .bind .pos fun _ => .bind .require fun _ => .update fun _ => rfl

theorem decodeIrRtp_lists (ha : decodeIrRtp bs a = some (a', n)) (hs : readsStandardRtp bs a = true) :
    rtpLists a'.rtp = rtpLists a.rtp := by
  obtain ⟨⟨t, len⟩, hsa⟩ := Option.isSome_iff_exists.mp hs
  have hkeep := (@keepsLists_decodeIrStandard bs 0x01).run_eq hsa
  unfold decodeIrRtp decodeIrCompatible at ha
  rw [hsa] at ha
  split at ha
  · rename_i h _
    cases h
    cases (Option.ite_none_left_eq_some.mp ha).2
    exact hkeep
  · rename_i h _
    cases h
    cases ha
    exact hkeep
  · rename_i h _
    cases h
  · cases ha

end Both

end Rohccxx
