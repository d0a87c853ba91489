import Rohccxx.Decompress

/-!
# What the decoders leave alone

No decoder of a unit touches the gates of a context, its labels or its counters (`Context.gates`); the decoders of
IR-DYN and private units leave the static fields alone as well (`Context.statics`).
-/

set_option autoImplicit false

namespace Rohccxx

open Octets Reader

/-- The fields only an IR carries. Behind IPv6 the protocol is the next header. -/
structure Statics where
  version : UInt8
  saddr : UInt32
  daddr : UInt32
  saddr6 : Vector UInt8 16
  daddr6 : Vector UInt8 16
  nextHeader : UInt8
  protocol : UInt8
  sport : UInt16
  dport : UInt16
  spi : UInt32
  ssrc : UInt32

namespace Context

def statics (ctx : Context) : Statics where
  version := ctx.ipVersion
  saddr := ctx.ipv4Saddr
  daddr := ctx.ipv4Daddr
  saddr6 := ctx.ipv6Saddr
  daddr6 := ctx.ipv6Daddr
  nextHeader := ctx.ipv6NextHeader
  protocol := if ctx.ipVersion = 6 then ctx.ipv6NextHeader else ctx.ipv4Protocol
  sport := ctx.udpSport
  dport := ctx.udpDport
  spi := ctx.espSpi
  ssrc := ctx.rtp.ssrc

/-- What is kept by the chains of IR-DYN and private units. -/
def frozen (ctx : Context) : Control × Statics := (ctx.toControl, ctx.statics)

end Context

open Context

/-! ## Chains -/

theorem keeps_readIpv4OptionsList (bs : Bytes) : Keeps frozen (readIpv4OptionsList bs) :=
  .bind .available fun _ => .bind .u8 fun _ => .bind (.update fun _ => rfl) fun _ => .ite .pure <|
    .bind .require fun _ => .bind .require fun _ => .bind .need fun _ => .bind .take fun _ => .update fun _ => rfl

theorem keeps_readRtpExtrasList (bs : Bytes) : Keeps frozen (readRtpExtrasList bs) := by
  refine .bind (.update fun _ => rfl) fun _ => .bind .available fun _ => .bind .u8 fun _ =>
    .ite (.update fun _ => rfl) ?_
  refine .bind .require fun _ => .bind .scan fun _ => .bind .require fun _ => .bind .take fun _ => .bind .need fun _ => ?_
  refine .bind .u8 fun _ => .bind .require fun _ => .bind .u8 fun _ => .bind .u16 fun _ => .bind .u8 fun _ => ?_
  refine .bind .value fun _ => .bind .require fun _ => .bind .take fun _ => .bind .take fun _ => .bind .take fun _ => ?_
  exact .bind (.update fun _ => rfl) fun _ => .bind .value fun _ => .require

theorem keeps_readLargeCidIfPresent (bs : Bytes) (ctx : Context) : Keeps frozen (readLargeCidIfPresent bs ctx) :=
  .ite .pure <| .bind .available fun _ => .bind .scan fun _ => .bind .require fun _ => .bind .take fun _ => .pure

/-- Behind IPv6 the protocol is not a static field of its own: `Statics` goes by the next header. -/
def Context.frozen6 (ctx : Context) : Control × Statics := frozen { ctx with ipv4Protocol := 0 }

theorem frozen_eq_frozen6 {ctx : Context} (h : ctx.ipVersion = 6) : frozen ctx = frozen6 ctx := by
  simp only [frozen6, frozen, statics, h, if_pos]

theorem keeps_readIpDynamicChain (bs : Bytes) : Keeps frozen (readIpDynamicChain bs) := by
  intro c a c' h
  obtain ⟨ctx, c₁, h₁, h₂⟩ := Proc.bind_eq_ok h
  cases h₁
  by_cases hv : c.st.ipVersion = 6
  · rw [if_pos hv] at h₂
    have key : frozen6 c'.st = frozen6 c.st := by
      refine Keeps.eq_of h₂ ?_
      refine .bind .need fun _ => .bind .u8 fun _ => .bind .u8 fun _ => .bind .u8 fun _ => .bind .u8 fun _ => ?_
      refine .bind .u8 fun _ => .bind .u8 fun _ => .bind (.update fun _ => rfl) fun _ => ?_
      exact .bind .available fun _ => .bind .u8 fun _ => .bind (.update fun _ => rfl) fun _ => .ite .pure <|
        .bind .require fun _ => .bind .require fun _ => .bind .need fun _ => .bind .take fun _ => .update fun _ => rfl
    have hv' : c'.st.ipVersion = 6 := (congrArg (fun k => k.2.version) key).trans hv
    rw [frozen_eq_frozen6 hv', frozen_eq_frozen6 hv, key]
  · rw [if_neg hv] at h₂
    refine Keeps.eq_of h₂ ?_
    refine .bind .need fun _ => .bind .u8 fun _ => .bind .u8 fun _ => .bind .u16 fun _ => .bind .u8 fun _ => ?_
    exact .bind (.update fun _ => rfl) fun _ => keeps_readIpv4OptionsList bs

theorem keeps_readLegacyIpDynamicConsistent (bs : Bytes) : Keeps frozen (readLegacyIpDynamicConsistent bs) :=
  .bind .value fun _ => .bind (keeps_readIpDynamicChain bs) fun _ => .bind .value fun _ => .require

/-! ## IR-DYN units -/

theorem keeps_irDynAddCid (bs : Bytes) (ctx : Context) : Keeps frozen (irDynAddCid bs ctx) :=
  .ite (.bind .u8 fun _ => .require) .pure

theorem keeps_irDynHead (bs : Bytes) (minLen : Nat) (profileId : UInt8) : Keeps frozen (irDynHead bs minLen profileId) :=
  .bind .value fun ctx => .bind .require fun _ => .bind (keeps_irDynAddCid bs ctx) fun _ => .bind .u8 fun _ =>
    .bind .require fun _ => .bind (keeps_readLargeCidIfPresent bs ctx) fun _ => .bind .u8 fun _ =>
      .bind .require fun _ => .u8

theorem keeps_irDynCheck (bs : Bytes) (len : Nat) (crc : UInt8) : Keeps frozen (irDynCheck bs len crc) :=
  .bind .value fun _ => .bind .pos fun _ => .bind .scan fun _ => .bind .require fun _ => .pure

theorem keeps_irDynRtpCheck (bs : Bytes) (len udpLen : Nat) (crc : UInt8) :
    Keeps frozen (irDynRtpCheck bs len udpLen crc) :=
  .bind .value fun _ => .bind .pos fun _ => .bind .scan fun _ => .bind .scan fun _ => .bind .require fun _ => .pure

theorem frozen_refreshIrDynRtp (previous : Context) (seq : UInt16) (ts : UInt32) (ctx : Context) :
    frozen (refreshIrDynRtp previous seq ts ctx) = frozen ctx := by
  unfold refreshIrDynRtp
  dsimp only
  split
  · split
    · rfl
    · rfl
  · rfl

theorem keeps_readIrDynRtp (bs : Bytes) (previous : Context) (len : Nat) : Keeps frozen (readIrDynRtp bs previous len) :=
  .bind .u8 fun _ => .bind .u8 fun _ => .bind (.update fun _ => rfl) fun _ => .bind .u16 fun _ => .bind .u32 fun _ =>
    .bind (.update (frozen_refreshIrDynRtp _ _ _)) fun _ => .bind (keeps_readRtpExtrasList _) fun _ =>
      .bind .pos fun _ => .require

/-- What an IR-DYN does to the control fields: it names the profile, RTP excepted, and opens the context. -/
def establish (profile : Option Profile) (k : Control × Statics) : Control × Statics :=
  ({ k.1 with profile := profile.getD k.1.profile, rohcState := .dynamicEstablished }, k.2)

/-- The profile an IR-DYN gives its context. -/
def irDynProfile : Profile → Option Profile
  | .rtp => none
  | p => some p

theorem Frame.decodeIrDynOf_turns (p : Profile) (bs : Bytes) :
    Turns frozen (establish (irDynProfile p)) (decodeIrDynOf p bs) := by
  cases p with
  | udp =>
    exact .after .value fun _ => .after (keeps_irDynHead _ _ _) fun _ => .after (keeps_irDynCheck _ _ _) fun _ =>
      .after (keeps_readLegacyIpDynamicConsistent _) fun _ => .after .u16 fun _ => .pure (.update fun _ => rfl)
  | udpLite =>
    exact .after .value fun _ => .after (keeps_irDynHead _ _ _) fun _ => .after (keeps_irDynCheck _ _ _) fun _ =>
      .after (keeps_readLegacyIpDynamicConsistent _) fun _ => .after .u16 fun _ => .after .u16 fun _ =>
        .pure (.update fun _ => rfl)
  | esp =>
    exact .after .value fun _ => .after (keeps_irDynHead _ _ _) fun _ => .after (keeps_irDynCheck _ _ _) fun _ =>
      .after (keeps_readLegacyIpDynamicConsistent _) fun _ => .pure (.update fun _ => rfl)
  | ip =>
    exact .after .value fun _ => .after (keeps_irDynHead _ _ _) fun _ => .after (keeps_irDynCheck _ _ _) fun _ =>
      .after (keeps_readLegacyIpDynamicConsistent _) fun _ => .pure (.update fun _ => rfl)
  | rtpUdpLite =>
    exact .after .value fun _ => .after (keeps_irDynHead _ _ _) fun _ => .after (keeps_irDynRtpCheck _ _ _ _) fun _ =>
      .after (keeps_readLegacyIpDynamicConsistent _) fun _ => .after .u16 fun _ => .after .u16 fun _ =>
        .after (.update fun _ => rfl) fun _ => .after (keeps_readIrDynRtp _ _ _) fun _ => .pure (.update fun _ => rfl)
  | rtp =>
    exact .after .value fun _ => .after (keeps_irDynHead _ _ _) fun _ => .after (keeps_irDynRtpCheck _ _ _ _) fun _ =>
      .after (keeps_readLegacyIpDynamicConsistent _) fun _ => .after .u16 fun _ =>
        .after (.update fun _ => rfl) fun _ => .after (keeps_readIrDynRtp _ _ _) fun _ => .pure (.update fun _ => rfl)
  | uncompressed => rintro c a c' ⟨⟩
  | llaRtp => rintro c a c' ⟨⟩

/-! ## Private units -/

theorem decodePrivateFo_turns {marker : UInt8} {fieldsLen : Nat} {crc : Bytes → Context → UInt8} {profile : Profile}
    {readFields : Bytes → Proc (Cursor Context) Unit} {bs : Bytes} (h : Keeps frozen (readFields bs)) :
    Turns frozen (establish (some profile)) (decodePrivateFo marker fieldsLen crc profile readFields bs) :=
  .after .value fun ctx => .after .require fun _ => .after .u8 fun _ => .after .require fun _ =>
    .after (keeps_readLargeCidIfPresent bs ctx) fun _ => .after .require fun _ => .after .pos fun _ => .after .u8 fun _ =>
      .after .require fun _ => .after h fun _ => .pure (.update fun _ => rfl)

theorem decodeUdpFo_turns (bs : Bytes) : Turns frozen (establish (some .udp)) (decodeUdpFo bs) :=
  decodePrivateFo_turns (.bind .u16 fun _ => .bind .u16 fun _ => .update fun _ => rfl)

theorem decodeIpFo_turns (bs : Bytes) : Turns frozen (establish (some .ip)) (decodeIpFo bs) :=
  decodePrivateFo_turns (.bind .u16 fun _ => .update fun _ => rfl)

theorem decodeEspFo_turns (bs : Bytes) : Turns frozen (establish (some .esp)) (decodeEspFo bs) :=
  decodePrivateFo_turns (.bind .u16 fun _ => .update fun _ => rfl)

theorem decodeUdpLiteFo_turns (bs : Bytes) : Turns frozen (establish (some .udpLite)) (decodeUdpLiteFo bs) :=
  decodePrivateFo_turns (.bind .u16 fun _ => .bind .u16 fun _ => .bind .u16 fun _ => .update fun _ => rfl)

theorem decodeFoRtp_frozen {bs : Bytes} {ctx ctx' : Context} {n : Nat} (h : decodeFoRtp bs ctx = some (ctx', n)) :
    frozen ctx' = frozen ctx := by
  unfold decodeFoRtp at h
  simp only [Option.bind_eq_bind, Option.bind_eq_some_iff] at h
  obtain ⟨_, -, h⟩ := h
  obtain ⟨-, h⟩ := Option.ite_none_left_eq_some.mp h
  simp only [Option.bind_eq_some_iff] at h
  obtain ⟨_, -, _, -, _, -, h⟩ := h
  obtain ⟨-, h⟩ := Option.ite_none_left_eq_some.mp h
  simp only [Option.bind_eq_some_iff] at h
  obtain ⟨_, -, _, -, _, -, h⟩ := h
  obtain ⟨-, h⟩ := Option.ite_none_left_eq_some.mp h
  simp only [Option.bind_eq_some_iff] at h
  obtain ⟨_, -, h⟩ := h
  cases h
  rfl

/-! ## IR units -/

namespace Context

/-- The control fields no IR carries. -/
def gates (ctx : Context) : Control := { ctx.toControl with mode := .uncompressed, msn := 0, reorderRatio := 0 }

end Context

theorem gates_of_frozen {α : Type} {m : Proc (Cursor Context) α} (h : Keeps frozen m) : Keeps gates m :=
  h.comp fun k => { k.1 with mode := .uncompressed, msn := 0, reorderRatio := 0 }

/-- What an IR does to the control fields. -/
def install (profile : Profile) (state : RohcState) (k : Control) : Control :=
  { k with profile := profile, rohcState := state }

theorem keeps_readIpStaticChain (bs : Bytes) : Keeps gates (readIpStaticChain bs) := by
  refine .bind .available fun _ => .bind .u8 fun _ => .ite ?_ (.ite ?_ .reject)
  · exact .bind (.update fun _ => rfl) fun _ => .bind .available fun _ => .bind .u8 fun _ =>
      .bind (.update fun _ => rfl) fun _ => .bind .need fun _ => .bind .u32 fun _ => .bind .u32 fun _ =>
        .update fun _ => rfl
  · exact .bind (.update fun _ => rfl) fun _ => .bind .need fun _ => .bind .u8 fun _ => .bind .take fun _ =>
      .bind .take fun _ => .update fun _ => rfl

theorem keeps_readUdpPorts (bs : Bytes) : Keeps gates (readUdpPorts bs) :=
  .bind .u16 fun _ => .bind .u16 fun _ => .update fun _ => rfl

theorem keeps_legacyIpDynamic (bs : Bytes) : Keeps gates (readLegacyIpDynamicConsistent bs) :=
  gates_of_frozen (keeps_readLegacyIpDynamicConsistent bs)

theorem keeps_readRtpDynamicChain (bs : Bytes) : Keeps gates (readRtpDynamicChain bs) :=
  .bind .u8 fun _ => .bind .u8 fun _ => .bind .u16 fun _ => .bind .u32 fun _ => .bind (.update fun _ => rfl) fun _ =>
    gates_of_frozen (keeps_readRtpExtrasList bs)

theorem keeps_readAddCid (bs : Bytes) (ctx : Context) (minLen : Nat) : Keeps gates (readAddCid bs ctx minLen) :=
  .ite (.bind .require fun _ => .bind .u8 fun _ => .require) .pure

theorem keeps_legacyIrHead (bs : Bytes) (minLen : Nat) (profileId : UInt8) :
    Keeps gates (legacyIrHead bs minLen profileId) :=
  .bind .value fun ctx => .bind .require fun _ => .bind (keeps_readAddCid bs ctx minLen) fun _ =>
    .bind .available fun _ => .bind .u8 fun _ => .bind .require fun _ =>
      .bind (gates_of_frozen (keeps_readLargeCidIfPresent bs ctx)) fun _ => .bind .available fun _ => .bind .u8 fun _ =>
        .bind .require fun _ => .bind .u8 fun _ => .pure

theorem keeps_readLegacyMode (bs : Bytes) : Keeps gates (readLegacyMode bs) :=
  .bind .available fun _ => .bind .peek fun _ => .bind .require fun _ => .bind .require fun _ => .update fun _ => rfl

theorem keeps_legacyIrTail (bs : Bytes) (crc : Nat × UInt8) : Keeps gates (legacyIrTail bs crc) :=
  .bind .pos fun _ => .bind .require fun _ => .bind (keeps_readLegacyMode bs) fun _ => .bind .u8 fun _ => .pure

theorem decodeIrEspLegacy_turns (bs : Bytes) : Turns gates (install .esp .staticEstablished) (decodeIrEspLegacy bs) :=
  .after (keeps_legacyIrHead _ _ _) fun _ => .after (keeps_readIpStaticChain _) fun _ =>
    .after (keeps_legacyIpDynamic _) fun _ => .after .value fun _ => .after .require fun _ =>
      .after (keeps_legacyIrTail _ _) fun _ => .update fun _ => rfl

theorem decodeIrIpLegacy_turns (bs : Bytes) : Turns gates (install .ip .staticEstablished) (decodeIrIpLegacy bs) :=
  .after (keeps_legacyIrHead _ _ _) fun _ => .after (keeps_readIpStaticChain _) fun _ =>
    .after (keeps_legacyIpDynamic _) fun _ => .after .available fun _ =>
      .after (keeps_legacyIrTail _ _) fun _ => .update fun _ => rfl

theorem decodeIrUdpLiteLegacy_turns (bs : Bytes) :
    Turns gates (install .udpLite .staticEstablished) (decodeIrUdpLiteLegacy bs) :=
  .after (keeps_legacyIrHead _ _ _) fun _ => .after (keeps_readIpStaticChain _) fun _ => .after .available fun _ =>
    .after (keeps_readUdpPorts _) fun _ => .after (keeps_legacyIpDynamic _) fun _ => .after .value fun _ =>
      .after .require fun _ => .after .available fun _ => .after .u16 fun _ => .after .u16 fun _ =>
        .after (.update fun _ => rfl) fun _ => .after .available fun _ => .after (keeps_legacyIrTail _ _) fun _ =>
          .update fun _ => rfl

theorem decodeIrUdpLegacy_turns (bs : Bytes) : Turns gates (install .udp .staticEstablished) (decodeIrUdpLegacy bs) :=
  .after (keeps_legacyIrHead _ _ _) fun _ => .after (keeps_readIpStaticChain _) fun _ => .after .available fun _ =>
    .after (keeps_readUdpPorts _) fun _ => .after (keeps_legacyIpDynamic _) fun _ => .after .value fun _ =>
      .after .require fun _ => .after .available fun _ => .after .u16 fun _ => .after (.update fun _ => rfl) fun _ =>
        .after .available fun _ => .after (keeps_legacyIrTail _ _) fun _ => .update fun _ => rfl

theorem decodeIrRtpUdpLiteLegacy_turns (bs : Bytes) :
    Turns gates (install .rtpUdpLite .dynamicEstablished) (decodeIrRtpUdpLiteLegacy bs) :=
  .after (keeps_legacyIrHead _ _ _) fun _ => .after (keeps_readIpStaticChain _) fun _ => .after .available fun _ =>
    .after (keeps_readUdpPorts _) fun _ => .after .u32 fun _ => .after (.update fun _ => rfl) fun _ =>
      .after (keeps_legacyIpDynamic _) fun _ => .after .value fun _ => .after .require fun _ => .after .available fun _ =>
        .after .u16 fun _ => .after .u16 fun _ => .after (.update fun _ => rfl) fun _ =>
          .after (keeps_readRtpDynamicChain _) fun _ => .after .available fun _ =>
            .after (keeps_legacyIrTail _ _) fun _ => .update fun _ => rfl

theorem decodeIrRtpLegacy_turns (bs : Bytes) : Turns gates (install .rtp .dynamicEstablished) (decodeIrRtpLegacy bs) :=
  .after (keeps_legacyIrHead _ _ _) fun _ => .after (keeps_readIpStaticChain _) fun _ => .after .available fun _ =>
    .after (keeps_readUdpPorts _) fun _ => .after .u32 fun _ => .after (.update fun _ => rfl) fun _ =>
      .after (keeps_legacyIpDynamic _) fun _ => .after .value fun _ => .after .require fun _ => .after .available fun _ =>
        .after .u16 fun _ => .after (.update fun _ => rfl) fun _ => .after (keeps_readRtpDynamicChain _) fun _ =>
          .after .available fun _ => .after (keeps_legacyIrTail _ _) fun _ => .update fun _ => rfl

/-! ### The standard grammar -/

theorem keeps_readStandardIpStatic (bs : Bytes) : Keeps gates (readStandardIpStatic bs) := by
  refine .bind .available fun _ => .bind .u8 fun _ => .bind .require fun _ => .ite ?_ ?_
  · exact .bind .require fun _ => .bind .need fun _ => .bind .u8 fun _ => .bind .u32 fun _ => .bind .u32 fun _ =>
      .update fun _ => rfl
  · exact .bind .require fun _ => .bind .need fun _ => .bind .u8 fun _ => .bind .take fun _ => .bind .take fun _ =>
      .update fun _ => rfl

theorem keeps_readStandardIpv6Dynamic (bs : Bytes) (endpoint : Bool) :
    Keeps gates (readStandardIpv6Dynamic bs endpoint) :=
  .bind .need fun _ => .bind .u8 fun _ => .bind .u8 fun _ => .bind (.update fun _ => rfl) fun _ => .ite
    (.bind .u8 fun _ => .bind .require fun _ => .bind .u16 fun _ => .update fun _ => rfl) .pure

theorem keeps_readStandardIpv4Dynamic (bs : Bytes) (endpoint : Bool) :
    Keeps gates (readStandardIpv4Dynamic bs endpoint) := by
  refine .bind .need fun _ => .bind .u8 fun _ => .bind .require fun _ => .bind (.update fun _ => rfl) fun _ =>
    .bind .u8 fun _ => .bind .u8 fun _ => .bind (.update fun _ => rfl) fun _ => .bind ?_ fun _ => .ite ?_ .pure
  · exact .ite (.bind .need fun _ => .bind .u16 fun _ => .update fun _ => rfl) (.update fun _ => rfl)
  · exact .bind .need fun _ => .bind .u16 fun _ => .update fun _ => rfl

theorem keeps_readStandardIpDynamic (bs : Bytes) (endpoint : Bool) : Keeps gates (readStandardIpDynamic bs endpoint) :=
  .bind .value fun _ => .ite (keeps_readStandardIpv6Dynamic bs endpoint) (keeps_readStandardIpv4Dynamic bs endpoint)

theorem keeps_readStandardIrPrefix (bs : Bytes) (ctx : Context) (profileId : UInt8) :
    Keeps gates (readStandardIrPrefix bs ctx profileId) := by
  refine .bind ?_ fun _ => .bind .available fun _ => .bind .u8 fun _ => .bind .require fun _ => .bind ?_ fun _ =>
    .bind .need fun _ => .bind .u8 fun _ => .bind .require fun _ => .bind .pos fun _ => .bind .u8 fun _ => .pure
  · exact .ite (.bind .available fun _ => .bind .u8 fun _ => .require) .pure
  · exact .ite (.bind .scan fun _ => .bind .require fun _ => .bind .take fun _ => .pure) .pure

theorem keeps_readStandardTransportStatic (bs : Bytes) (profile : Profile) :
    Keeps gates (readStandardTransportStatic bs profile) := by
  cases profile with
  | udp => exact .bind .need fun _ => .bind (keeps_readUdpPorts bs) fun _ => .update fun _ => rfl
  | rtp =>
    exact .bind .need fun _ => .bind (keeps_readUdpPorts bs) fun _ => .bind (.update fun _ => rfl) fun _ =>
      .bind .need fun _ => .bind .u32 fun _ => .update fun _ => rfl
  | esp => exact .bind .need fun _ => .bind .u32 fun _ => .update fun _ => rfl
  | _ => exact .pure

theorem gates_refreshRtp (previous ctx : Context) : gates (refreshRtp previous ctx) = gates ctx := rfl

theorem keeps_readStandardTransportDynamic (bs : Bytes) (previous : Context) (profile : Profile) :
    Keeps gates (readStandardTransportDynamic bs previous profile) := by
  cases profile with
  | udp =>
    exact .bind .need fun _ => .bind .u16 fun _ => .bind .u16 fun _ => .bind (.update fun _ => rfl) fun _ =>
      .bind .u8 fun _ => .bind .require fun _ => .update fun _ => rfl
  | esp =>
    exact .bind .need fun _ => .bind .u32 fun _ => .bind (.update fun _ => rfl) fun _ => .bind .u8 fun _ =>
      .bind .require fun _ => .update fun _ => rfl
  | rtp =>
    exact .bind .need fun _ => .bind .u16 fun _ => .bind (.update fun _ => rfl) fun _ => .bind .u8 fun _ =>
      .bind .require fun _ => .bind .u8 fun _ => .bind .u16 fun _ => .bind .u32 fun _ =>
        .update fun _ => gates_refreshRtp _ _
  | _ => exact .pure

theorem decodeIrStandard_turns (profile : Profile) (profileId : UInt8) (bs : Bytes) :
    Turns gates (install profile .dynamicEstablished) (decodeIrStandard profile profileId bs) :=
  .after .value fun previous => .after (keeps_readStandardIrPrefix bs previous profileId) fun _ =>
    .after (keeps_readStandardIpStatic bs) fun _ => .after .value fun _ => .after .require fun _ =>
      .after (.update fun _ => rfl) fun _ => .after (keeps_readStandardTransportStatic bs profile) fun _ =>
        .after (keeps_readStandardIpDynamic bs _) fun _ =>
          .after (keeps_readStandardTransportDynamic bs previous profile) fun _ => .after .pos fun _ =>
            .after .require fun _ => .update fun _ => rfl

theorem decodeIrCompatible_gates {profile : Profile} {profileId : UInt8} {legacy : Bytes → Proc (Cursor Context) Unit}
    {bs : Bytes} {ctx ctx' : Context} {n : Nat} {state : RohcState} (hs : state ≠ .noContext)
    (hl : Turns gates (install profile state) (legacy bs))
    (h : decodeIrCompatible profile profileId legacy bs ctx = some (ctx', n)) :
    ∃ state, state ≠ .noContext ∧ gates ctx' = install profile state (gates ctx) := by
  have standard : ∀ {r : Context × Nat}, run (decodeIrStandard profile profileId bs) ctx = some r →
      gates r.1 = install profile .dynamicEstablished (gates ctx) := (decodeIrStandard_turns profile profileId bs).run_eq
  unfold decodeIrCompatible at h
  split at h
  · rename_i h₁ _
    split at h
    · cases h
    · cases h
      exact ⟨_, by simp, standard h₁⟩
  · rename_i r h₁ _
    cases h
    exact ⟨_, by simp, standard h₁⟩
  · rename_i r _ h₂
    cases h
    exact ⟨state, hs, hl.run_eq h₂⟩
  · cases h

/-- **An accepted IR** names the profile of the context and opens it; the gates stay as they were. -/
theorem Frame.decodeIrOf_gates {p : Profile} {bs : Bytes} {ctx ctx' : Context} {n : Nat}
    (h : decodeIrOf p bs ctx = some (ctx', n)) :
    ∃ state, state ≠ .noContext ∧ gates ctx' = install p state (gates ctx) := by
  cases p with
  | udp => exact decodeIrCompatible_gates (by simp) (decodeIrUdpLegacy_turns bs) h
  | esp => exact decodeIrCompatible_gates (by simp) (decodeIrEspLegacy_turns bs) h
  | ip => exact decodeIrCompatible_gates (by simp) (decodeIrIpLegacy_turns bs) h
  | rtp => exact decodeIrCompatible_gates (by simp) (decodeIrRtpLegacy_turns bs) h
  | udpLite => exact ⟨_, by simp, (decodeIrUdpLiteLegacy_turns bs).run_eq h⟩
  | rtpUdpLite => exact ⟨_, by simp, (decodeIrRtpUdpLiteLegacy_turns bs).run_eq h⟩
  | uncompressed => cases h
  | llaRtp => cases h

end Rohccxx
