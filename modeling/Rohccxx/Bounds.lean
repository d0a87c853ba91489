import Rohccxx.CompRuns
import Rohccxx.DecompGates

/-!
# The sizes of a context

What the packet builders copy is bounded by the lengths a context holds, so these have to stay within the arrays
(`Sizes.Fit`). Every reader, every capture function and every step of a branch keeps the bounds, also when it stops half
way; from this, by induction on the calls, every context of every run is within them (`contexts_fit`).
-/

set_option autoImplicit false

namespace Rohccxx

open Octets Reader Runs

/-- The lengths, counts and selectors of a context. -/
structure Sizes where
  ipVersion : UInt8
  ipv4OptionsLen : Nat
  ipv6ExtensionLen : Nat
  csrcListLen : Nat
  extensionLen : Nat
  paddingLen : Nat
  reorderRatio : UInt8
  ipv4IdBehavior : UInt8
  transmittedMsnCount : Nat
  transmittedMsnHead : Nat

/-- The lengths fit their arrays, and the rest is in range; the version is 4 from the start. -/
structure Sizes.Fit (s : Sizes) : Prop where
  version : s.ipVersion = 4 ∨ s.ipVersion = 6
  options : s.ipv4OptionsLen ≤ 40
  extensions : s.ipv6ExtensionLen ≤ 128
  csrc : s.csrcListLen ≤ 60
  rtpExtension : s.extensionLen ≤ 256
  padding : s.paddingLen ≤ 255
  reorderRatio : s.reorderRatio ≤ 3
  idBehavior : s.ipv4IdBehavior ≤ 3
  msnCount : s.transmittedMsnCount ≤ 64
  msnHead : s.transmittedMsnHead < 64

namespace Context

def sizes (ctx : Context) : Sizes where
  ipVersion := ctx.ipVersion
  ipv4OptionsLen := ctx.ipv4OptionsLen
  ipv6ExtensionLen := ctx.ipv6ExtensionLen
  csrcListLen := ctx.rtp.csrcListLen
  extensionLen := ctx.rtp.extensionLen
  paddingLen := ctx.rtp.paddingLen
  reorderRatio := ctx.reorderRatio
  ipv4IdBehavior := ctx.ipv4IdBehavior
  transmittedMsnCount := ctx.transmittedMsnCount
  transmittedMsnHead := ctx.transmittedMsnHead

/-- The context is within its bounds. -/
def Fits (ctx : Context) : Prop := ctx.sizes.Fit

namespace Fits

variable {ctx other : Context}

/-- A value-initialised context. -/
theorem fresh : ({} : Context).Fits :=
  ⟨.inl rfl, by decide, by decide, by decide, by decide, by decide, by decide, by decide, by decide, by decide⟩

theorem of_sizes (h : ctx.Fits) (e : other.sizes = ctx.sizes) : other.Fits := by
  unfold Fits
  rw [e]
  exact h

theorem relabelled (h : ctx.Fits) (hk : KeepsContext ctx other) : other.Fits := by
  refine h.of_sizes ?_
  rw [hk.fields]
  rfl

theorem noHeader (h : ctx.Fits) : (advanceNoHeader ctx).Fits := h

end Fits

end Context

/-! ## Lists -/

/-- A masked octet stays below its mask. -/
theorem masked_le_three (b : UInt8) : b &&& 0x03 ≤ 3 := UInt8.and_le_right

theorem readIpv4OptionsList_fits (bs : Bytes) : Respects Context.Fits (readIpv4OptionsList bs) := by
  refine .bind .available fun _ => .bind .u8 fun marker => .bind (.update fun ctx h => ?_) fun _ => .ite .pure ?_
  · exact { h with options := Nat.zero_le _ }
  · refine .bind .require fun _ => .require_bind fun hlen => .bind .need fun _ => .bind .take fun _ => .update ?_
    intro ctx h
    simp only [decide_eq_true_eq] at hlen
    exact { h with options := hlen.2 }

theorem readIpv6ExtensionsList_fits (bs : Bytes) : Respects Context.Fits (readIpv6ExtensionsList bs) := by
  refine .bind .available fun _ => .bind .u8 fun marker => .bind (.update fun ctx h => ?_) fun _ => .ite .pure ?_
  · exact { h with extensions := Nat.zero_le _ }
  · refine .bind .require fun _ => .require_bind fun hlen => .bind .need fun _ => .bind .take fun _ => .update ?_
    intro ctx h
    simp only [decide_eq_true_eq] at hlen
    exact { h with extensions := hlen.2 }

/-- The lengths that pass the header checks fit. -/
theorem rtpExtrasHeaderOk_bounds {vpxcc flags csrcCount : UInt8} {extensionLen paddingLen bodyLen : Nat}
    (h : rtpExtrasHeaderOk vpxcc flags csrcCount extensionLen paddingLen bodyLen = true) :
    csrcCount.toNat * 4 ≤ 60 ∧ extensionLen ≤ 256 ∧ paddingLen ≤ 255 := by
  unfold rtpExtrasHeaderOk at h
  simp only [Bool.and_eq_true, decide_eq_true_eq] at h
  exact ⟨h.1.1.1.1.1.1.1.1.2, h.1.1.2, h.1.2⟩

theorem readRtpExtrasList_fits (bs : Bytes) : Respects Context.Fits (readRtpExtrasList bs) := by
  refine .bind (.update fun ctx h => ?_) fun _ => .bind .available fun _ => .bind .u8 fun _ => .ite ?_ ?_
  · exact { h with csrc := Nat.zero_le _, rtpExtension := Nat.zero_le _, padding := Nat.zero_le _ }
  · exact .update fun ctx h => h
  · refine .bind .require fun _ => .bind .scan fun _ => .bind .require fun _ => .bind .take fun _ => .bind .need fun _ =>
      .bind .u8 fun _ => .bind .require fun _ => .bind .u8 fun _ => .bind .u16 fun _ => .bind .u8 fun _ =>
        .bind .value fun _ => .require_bind fun hok => ?_
    obtain ⟨hc, hx, hp⟩ := rtpExtrasHeaderOk_bounds hok
    refine .bind .take fun _ => .bind .take fun _ => .bind .take fun _ => .bind (.update fun ctx h => ?_) fun _ =>
      .bind .value fun _ => .require
    exact { h with csrc := hc, rtpExtension := hx, padding := hp }

/-! ## The legacy grammar -/

theorem readLargeCidIfPresent_fits (bs : Bytes) (ctx : Context) :
    Respects Context.Fits (readLargeCidIfPresent bs ctx) :=
  .ite .pure <| .bind .available fun _ => .bind .scan fun _ => .bind .require fun _ => .bind .take fun _ => .pure

theorem readIpStaticChain_fits (bs : Bytes) : Respects Context.Fits (readIpStaticChain bs) := by
  refine .bind .available fun _ => .bind .u8 fun _ => .ite ?_ (.ite ?_ .reject)
  · exact .bind (.update fun _ h => { h with version := .inl rfl }) fun _ => .bind .available fun _ => .bind .u8 fun _ =>
      .bind (.update fun _ h => h) fun _ => .bind .need fun _ => .bind .u32 fun _ => .bind .u32 fun _ =>
        .update fun _ h => h
  · exact .bind (.update fun _ h => { h with version := .inr rfl }) fun _ => .bind .need fun _ => .bind .u8 fun _ =>
      .bind .take fun _ => .bind .take fun _ => .update fun _ h => h

theorem readIpDynamicChain_fits (bs : Bytes) : Respects Context.Fits (readIpDynamicChain bs) := by
  refine .bind .value fun _ => .ite ?_ ?_
  · exact .bind .need fun _ => .bind .u8 fun _ => .bind .u8 fun _ => .bind .u8 fun _ => .bind .u8 fun _ =>
      .bind .u8 fun _ => .bind .u8 fun _ => .bind (.update fun _ h => h) fun _ => readIpv6ExtensionsList_fits bs
  · exact .bind .need fun _ => .bind .u8 fun _ => .bind .u8 fun _ => .bind .u16 fun _ => .bind .u8 fun _ =>
      .bind (.update fun _ h => h) fun _ => readIpv4OptionsList_fits bs

theorem readLegacyIpDynamicConsistent_fits (bs : Bytes) : Respects Context.Fits (readLegacyIpDynamicConsistent bs) :=
  .bind .value fun _ => .bind (readIpDynamicChain_fits bs) fun _ => .bind .value fun _ => .require

theorem readUdpPorts_fits (bs : Bytes) : Respects Context.Fits (readUdpPorts bs) :=
  .bind .u16 fun _ => .bind .u16 fun _ => .update fun _ h => h

theorem legacyIrHead_fits (bs : Bytes) (minLen : Nat) (profileId : UInt8) :
    Respects Context.Fits (legacyIrHead bs minLen profileId) := by
  refine .bind .value fun ctx => .bind .require fun _ => .bind ?_ fun _ => .bind .available fun _ => .bind .u8 fun _ =>
    .bind .require fun _ => .bind (readLargeCidIfPresent_fits bs ctx) fun _ => .bind .available fun _ =>
      .bind .u8 fun _ => .bind .require fun _ => .bind .u8 fun _ => .pure
  exact .ite (.bind .require fun _ => .bind .u8 fun _ => .require) .pure

theorem legacyIrTail_fits (bs : Bytes) (crc : Nat × UInt8) : Respects Context.Fits (legacyIrTail bs crc) := by
  refine .bind .pos fun _ => .bind .require fun _ => .bind ?_ fun _ => .bind .u8 fun _ => .pure
  exact .bind .available fun _ => .bind .peek fun _ => .bind .require fun _ => .bind .require fun _ =>
    .update fun _ h => h

theorem decodeIrEspLegacy_fits (bs : Bytes) : Respects Context.Fits (decodeIrEspLegacy bs) :=
  .bind (legacyIrHead_fits _ _ _) fun _ => .bind (readIpStaticChain_fits _) fun _ =>
    .bind (readLegacyIpDynamicConsistent_fits _) fun _ => .bind .value fun _ => .bind .require fun _ =>
      .bind (legacyIrTail_fits _ _) fun _ => .update fun _ h => h

theorem decodeIrIpLegacy_fits (bs : Bytes) : Respects Context.Fits (decodeIrIpLegacy bs) :=
  .bind (legacyIrHead_fits _ _ _) fun _ => .bind (readIpStaticChain_fits _) fun _ =>
    .bind (readLegacyIpDynamicConsistent_fits _) fun _ => .bind .available fun _ =>
      .bind (legacyIrTail_fits _ _) fun _ => .update fun _ h => h

theorem decodeIrUdpLiteLegacy_fits (bs : Bytes) : Respects Context.Fits (decodeIrUdpLiteLegacy bs) :=
  .bind (legacyIrHead_fits _ _ _) fun _ => .bind (readIpStaticChain_fits _) fun _ => .bind .available fun _ =>
    .bind (readUdpPorts_fits _) fun _ => .bind (readLegacyIpDynamicConsistent_fits _) fun _ => .bind .value fun _ =>
      .bind .require fun _ => .bind .available fun _ => .bind .u16 fun _ => .bind .u16 fun _ =>
        .bind (.update fun _ h => h) fun _ => .bind .available fun _ => .bind (legacyIrTail_fits _ _) fun _ =>
          .update fun _ h => h

theorem decodeIrUdpLegacy_fits (bs : Bytes) : Respects Context.Fits (decodeIrUdpLegacy bs) :=
  .bind (legacyIrHead_fits _ _ _) fun _ => .bind (readIpStaticChain_fits _) fun _ => .bind .available fun _ =>
    .bind (readUdpPorts_fits _) fun _ => .bind (readLegacyIpDynamicConsistent_fits _) fun _ => .bind .value fun _ =>
      .bind .require fun _ => .bind .available fun _ => .bind .u16 fun _ => .bind (.update fun _ h => h) fun _ =>
        .bind .available fun _ => .bind (legacyIrTail_fits _ _) fun _ => .update fun _ h => h

theorem readRtpDynamicChain_fits (bs : Bytes) : Respects Context.Fits (readRtpDynamicChain bs) :=
  .bind .u8 fun _ => .bind .u8 fun _ => .bind .u16 fun _ => .bind .u32 fun _ => .bind (.update fun _ h => h) fun _ =>
    readRtpExtrasList_fits bs

theorem decodeIrRtpUdpLiteLegacy_fits (bs : Bytes) : Respects Context.Fits (decodeIrRtpUdpLiteLegacy bs) :=
  .bind (legacyIrHead_fits _ _ _) fun _ => .bind (readIpStaticChain_fits _) fun _ => .bind .available fun _ =>
    .bind (readUdpPorts_fits _) fun _ => .bind .u32 fun _ => .bind (.update fun _ h => h) fun _ =>
      .bind (readLegacyIpDynamicConsistent_fits _) fun _ => .bind .value fun _ => .bind .require fun _ =>
        .bind .available fun _ => .bind .u16 fun _ => .bind .u16 fun _ => .bind (.update fun _ h => h) fun _ =>
          .bind (readRtpDynamicChain_fits _) fun _ => .bind .available fun _ => .bind (legacyIrTail_fits _ _) fun _ =>
            .update fun _ h => h

theorem decodeIrRtpLegacy_fits (bs : Bytes) : Respects Context.Fits (decodeIrRtpLegacy bs) :=
  .bind (legacyIrHead_fits _ _ _) fun _ => .bind (readIpStaticChain_fits _) fun _ => .bind .available fun _ =>
    .bind (readUdpPorts_fits _) fun _ => .bind .u32 fun _ => .bind (.update fun _ h => h) fun _ =>
      .bind (readLegacyIpDynamicConsistent_fits _) fun _ => .bind .value fun _ => .bind .require fun _ =>
        .bind .available fun _ => .bind .u16 fun _ => .bind (.update fun _ h => h) fun _ =>
          .bind (readRtpDynamicChain_fits _) fun _ => .bind .available fun _ => .bind (legacyIrTail_fits _ _) fun _ =>
            .update fun _ h => h

/-! ## The standard grammar -/

theorem readStandardIpStatic_fits (bs : Bytes) : Respects Context.Fits (readStandardIpStatic bs) := by
  refine .bind .available fun _ => .bind .u8 fun _ => .bind .require fun _ => .ite ?_ ?_
  · exact .bind .require fun _ => .bind .need fun _ => .bind .u8 fun _ => .bind .u32 fun _ => .bind .u32 fun _ =>
      .update fun _ h => { h with version := .inl rfl, options := Nat.zero_le _ }
  · exact .bind .require fun _ => .bind .need fun _ => .bind .u8 fun _ => .bind .take fun _ => .bind .take fun _ =>
      .update fun _ h => { h with version := .inr rfl, extensions := Nat.zero_le _ }

theorem readStandardIpv6Dynamic_fits (bs : Bytes) (endpoint : Bool) :
    Respects Context.Fits (readStandardIpv6Dynamic bs endpoint) :=
  .bind .need fun _ => .bind .u8 fun _ => .bind .u8 fun _ => .bind (.update fun _ h => h) fun _ => .ite
    (.bind .u8 fun control => .bind .require fun _ => .bind .u16 fun _ =>
      .update fun _ h => { h with reorderRatio := masked_le_three control }) .pure

theorem readStandardIpv4Dynamic_fits (bs : Bytes) (endpoint : Bool) :
    Respects Context.Fits (readStandardIpv4Dynamic bs endpoint) := by
  refine .bind .need fun _ => .bind .u8 fun control => .bind .require fun _ => .bind (.update fun ctx h => ?_) fun _ =>
    .bind .u8 fun _ => .bind .u8 fun _ => .bind (.update fun ctx h => ?_) fun _ => .bind ?_ fun _ => .ite ?_ .pure
  · refine { h with reorderRatio := ?_ }
    change (if endpoint = true then (control >>> 3) &&& 0x03 else ctx.reorderRatio) ≤ 3
    split
    · exact masked_le_three _
    · exact h.reorderRatio
  · exact { h with idBehavior := masked_le_three control }
  · exact .ite (.bind .need fun _ => .bind .u16 fun _ => .update fun _ h => h) (.update fun _ h => h)
  · exact .bind .need fun _ => .bind .u16 fun _ => .update fun _ h => h

theorem readStandardIpDynamic_fits (bs : Bytes) (endpoint : Bool) :
    Respects Context.Fits (readStandardIpDynamic bs endpoint) :=
  .bind .value fun _ => .ite (readStandardIpv6Dynamic_fits bs endpoint) (readStandardIpv4Dynamic_fits bs endpoint)

theorem readStandardIrPrefix_fits (bs : Bytes) (ctx : Context) (profileId : UInt8) :
    Respects Context.Fits (readStandardIrPrefix bs ctx profileId) := by
  refine .bind ?_ fun _ => .bind .available fun _ => .bind .u8 fun _ => .bind .require fun _ => .bind ?_ fun _ =>
    .bind .need fun _ => .bind .u8 fun _ => .bind .require fun _ => .bind .pos fun _ => .bind .u8 fun _ => .pure
  · exact .ite (.bind .available fun _ => .bind .u8 fun _ => .require) .pure
  · exact .ite (.bind .scan fun _ => .bind .require fun _ => .bind .take fun _ => .pure) .pure

theorem readStandardTransportStatic_fits (bs : Bytes) (profile : Profile) :
    Respects Context.Fits (readStandardTransportStatic bs profile) := by
  cases profile with
  | udp => exact .bind .need fun _ => .bind (readUdpPorts_fits bs) fun _ => .update fun _ h => h
  | rtp =>
    exact .bind .need fun _ => .bind (readUdpPorts_fits bs) fun _ => .bind (.update fun _ h => h) fun _ =>
      .bind .need fun _ => .bind .u32 fun _ => .update fun _ h => h
  | esp => exact .bind .need fun _ => .bind .u32 fun _ => .update fun _ h => h
  | _ => exact .pure

/-- A refresh infers a stride and leaves the lists alone. -/
theorem sizes_refreshRtp (previous ctx : Context) : (refreshRtp previous ctx).sizes = ctx.sizes := by
  unfold refreshRtp Context.sizes
  dsimp only
  split
  · split
    · rfl
    · rfl
  · rfl

theorem readStandardTransportDynamic_fits (bs : Bytes) (previous : Context) (profile : Profile) :
    Respects Context.Fits (readStandardTransportDynamic bs previous profile) := by
  cases profile with
  | udp =>
    exact .bind .need fun _ => .bind .u16 fun _ => .bind .u16 fun _ => .bind (.update fun _ h => h) fun _ =>
      .bind .u8 fun control => .bind .require fun _ =>
        .update fun _ h => { h with reorderRatio := masked_le_three control }
  | esp =>
    exact .bind .need fun _ => .bind .u32 fun _ => .bind (.update fun _ h => h) fun _ => .bind .u8 fun control =>
      .bind .require fun _ => .update fun _ h => { h with reorderRatio := masked_le_three control }
  | rtp =>
    refine .bind .need fun _ => .bind .u16 fun _ => .bind (.update fun _ h => h) fun _ => .bind .u8 fun indicators =>
      .bind .require fun _ => .bind .u8 fun _ => .bind .u16 fun _ => .bind .u32 fun _ => .update fun ctx h => ?_
    refine Context.Fits.of_sizes ?_ (sizes_refreshRtp previous _)
    exact { h with reorderRatio := masked_le_three _ }
  | _ => exact .pure

theorem decodeIrStandard_fits (profile : Profile) (profileId : UInt8) (bs : Bytes) :
    Respects Context.Fits (decodeIrStandard profile profileId bs) :=
  .bind .value fun previous => .bind (readStandardIrPrefix_fits bs previous profileId) fun _ =>
    .bind (readStandardIpStatic_fits bs) fun _ => .bind .value fun _ => .bind .require fun _ =>
      .bind (.update fun _ h => h) fun _ => .bind (readStandardTransportStatic_fits bs profile) fun _ =>
        .bind (readStandardIpDynamic_fits bs _) fun _ =>
          .bind (readStandardTransportDynamic_fits bs previous profile) fun _ => .bind .pos fun _ =>
            .bind .require fun _ => .update fun _ h => h

theorem decodeIrCompatible_fits {profile : Profile} {profileId : UInt8} {legacy : Bytes → Proc (Cursor Context) Unit}
    {bs : Bytes} {ctx ctx' : Context} {n : Nat} (hl : Respects Context.Fits (legacy bs)) (hctx : ctx.Fits)
    (h : decodeIrCompatible profile profileId legacy bs ctx = some (ctx', n)) : ctx'.Fits := by
  have hs := decodeIrStandard_fits profile profileId bs
  unfold decodeIrCompatible at h
  split at h
  · rename_i e _
    split at h
    · cases h
    · cases h
      exact hs.run e hctx
  · rename_i r e _
    cases h
    exact hs.run e hctx
  · rename_i r _ e
    cases h
    exact hl.run e hctx
  · cases h

/-- An accepted IR leaves a context within its bounds. -/
theorem decodeIrOf_fits {p : Profile} {bs : Bytes} {ctx ctx' : Context} {n : Nat} (hctx : ctx.Fits)
    (h : Frame.decodeIrOf p bs ctx = some (ctx', n)) : ctx'.Fits := by
  cases p with
  | udp => exact decodeIrCompatible_fits (decodeIrUdpLegacy_fits bs) hctx h
  | esp => exact decodeIrCompatible_fits (decodeIrEspLegacy_fits bs) hctx h
  | ip => exact decodeIrCompatible_fits (decodeIrIpLegacy_fits bs) hctx h
  | rtp => exact decodeIrCompatible_fits (decodeIrRtpLegacy_fits bs) hctx h
  | udpLite => exact (decodeIrUdpLiteLegacy_fits bs).run h hctx
  | rtpUdpLite => exact (decodeIrRtpUdpLiteLegacy_fits bs).run h hctx
  | uncompressed => cases h
  | llaRtp => cases h

/-! ## IR-DYN and private units -/

theorem irDynHead_fits (bs : Bytes) (minLen : Nat) (profileId : UInt8) :
    Respects Context.Fits (irDynHead bs minLen profileId) := by
  refine .bind .value fun ctx => .bind .require fun _ => .bind ?_ fun _ => .bind .u8 fun _ => .bind .require fun _ =>
    .bind (readLargeCidIfPresent_fits bs ctx) fun _ => .bind .u8 fun _ => .bind .require fun _ => .u8
  exact .ite (.bind .u8 fun _ => .require) .pure

theorem irDynCheck_fits (bs : Bytes) (headerLen : Nat) (crc : UInt8) :
    Respects Context.Fits (irDynCheck bs headerLen crc) :=
  .bind .value fun _ => .bind .pos fun _ => .bind .scan fun _ => .bind .require fun _ => .pure

theorem irDynRtpCheck_fits (bs : Bytes) (headerLen udpLen : Nat) (crc : UInt8) :
    Respects Context.Fits (irDynRtpCheck bs headerLen udpLen crc) :=
  .bind .value fun _ => .bind .pos fun _ => .bind .scan fun _ => .bind .scan fun _ => .bind .require fun _ => .pure

theorem sizes_refreshIrDynRtp (previous : Context) (seq : UInt16) (ts : UInt32) (ctx : Context) :
    (refreshIrDynRtp previous seq ts ctx).sizes = ctx.sizes := by
  unfold refreshIrDynRtp Context.sizes
  dsimp only
  split
  · split
    · rfl
    · rfl
  · rfl

theorem readIrDynRtp_fits (bs : Bytes) (previous : Context) (candidateLen : Nat) :
    Respects Context.Fits (readIrDynRtp bs previous candidateLen) :=
  .bind .u8 fun _ => .bind .u8 fun _ => .bind (.update fun _ h => h) fun _ => .bind .u16 fun seq => .bind .u32 fun ts =>
    .bind (.update fun _ h => h.of_sizes (sizes_refreshIrDynRtp previous seq ts _)) fun _ =>
      .bind (readRtpExtrasList_fits _) fun _ => .bind .pos fun _ => .require

/-- An accepted IR-DYN leaves a context within its bounds. -/
theorem decodeIrDynOf_fits (p : Profile) (bs : Bytes) : Respects Context.Fits (Frame.decodeIrDynOf p bs) := by
  cases p with
  | esp =>
    exact .bind .value fun _ => .bind (irDynHead_fits _ _ _) fun _ => .bind (irDynCheck_fits _ _ _) fun _ =>
      .bind (readLegacyIpDynamicConsistent_fits _) fun _ => .bind (.update fun _ h => h) fun _ => .pure
  | ip =>
    exact .bind .value fun _ => .bind (irDynHead_fits _ _ _) fun _ => .bind (irDynCheck_fits _ _ _) fun _ =>
      .bind (readLegacyIpDynamicConsistent_fits _) fun _ => .bind (.update fun _ h => h) fun _ => .pure
  | udp =>
    exact .bind .value fun _ => .bind (irDynHead_fits _ _ _) fun _ => .bind (irDynCheck_fits _ _ _) fun _ =>
      .bind (readLegacyIpDynamicConsistent_fits _) fun _ => .bind .u16 fun _ => .bind (.update fun _ h => h) fun _ =>
        .pure
  | udpLite =>
    exact .bind .value fun _ => .bind (irDynHead_fits _ _ _) fun _ => .bind (irDynCheck_fits _ _ _) fun _ =>
      .bind (readLegacyIpDynamicConsistent_fits _) fun _ => .bind .u16 fun _ => .bind .u16 fun _ =>
        .bind (.update fun _ h => h) fun _ => .pure
  | rtp =>
    exact .bind .value fun _ => .bind (irDynHead_fits _ _ _) fun _ => .bind (irDynRtpCheck_fits _ _ _ _) fun _ =>
      .bind (readLegacyIpDynamicConsistent_fits _) fun _ => .bind .u16 fun _ => .bind (.update fun _ h => h) fun _ =>
        .bind (readIrDynRtp_fits _ _ _) fun _ => .bind (.update fun _ h => h) fun _ => .pure
  | rtpUdpLite =>
    exact .bind .value fun _ => .bind (irDynHead_fits _ _ _) fun _ => .bind (irDynRtpCheck_fits _ _ _ _) fun _ =>
      .bind (readLegacyIpDynamicConsistent_fits _) fun _ => .bind .u16 fun _ => .bind .u16 fun _ =>
        .bind (.update fun _ h => h) fun _ => .bind (readIrDynRtp_fits _ _ _) fun _ =>
          .bind (.update fun _ h => h) fun _ => .pure
  | uncompressed => exact .reject
  | llaRtp => exact .reject

/-- A private unit carries no lengths. -/
theorem decodePrivateFo_sizes {marker : UInt8} {fieldsLen : Nat} {crc : Bytes → Context → UInt8} {profile : Profile}
    {readFields : Bytes → Proc (Cursor Context) Unit} {bs : Bytes} (h : Keeps Context.sizes (readFields bs)) :
    Keeps Context.sizes (decodePrivateFo marker fieldsLen crc profile readFields bs) := by
  refine .bind .value fun ctx => .bind .require fun _ => .bind .u8 fun _ => .bind .require fun _ => .bind ?_ fun _ =>
    .bind .require fun _ => .bind .pos fun _ => .bind .u8 fun _ => .bind .require fun _ => .bind h fun _ =>
      .bind (.update fun _ => rfl) fun _ => .pure
  exact .ite .pure <| .bind .available fun _ => .bind .scan fun _ => .bind .require fun _ => .bind .take fun _ => .pure

theorem decodeUdpFo_sizes (bs : Bytes) : Keeps Context.sizes (decodeUdpFo bs) :=
  decodePrivateFo_sizes (.bind .u16 fun _ => .bind .u16 fun _ => .update fun _ => rfl)

theorem decodeIpFo_sizes (bs : Bytes) : Keeps Context.sizes (decodeIpFo bs) :=
  decodePrivateFo_sizes (.bind .u16 fun _ => .update fun _ => rfl)

theorem decodeEspFo_sizes (bs : Bytes) : Keeps Context.sizes (decodeEspFo bs) :=
  decodePrivateFo_sizes (.bind .u16 fun _ => .update fun _ => rfl)

theorem decodeUdpLiteFo_sizes (bs : Bytes) : Keeps Context.sizes (decodeUdpLiteFo bs) :=
  decodePrivateFo_sizes (.bind .u16 fun _ => .bind .u16 fun _ => .bind .u16 fun _ => .update fun _ => rfl)

theorem decodeFoRtp_sizes {bs : Bytes} {ctx ctx' : Context} {n : Nat} (h : decodeFoRtp bs ctx = some (ctx', n)) :
    ctx'.sizes = ctx.sizes := by
  unfold decodeFoRtp at h
  simp only [Option.bind_eq_bind, Option.bind_eq_some_iff] at h
  obtain ⟨_, -, h⟩ := h
  obtain ⟨-, h⟩ := Option.ite_none_left_eq_some.mp h
  simp only [Option.bind_eq_some_iff] at h
  obtain ⟨_, -, _, -, _, -, h⟩ := h
  obtain ⟨-, h⟩ := Option.ite_none_left_eq_some.mp h
  simp only [Option.bind_eq_some_iff] at h
  obtain ⟨_, -, _, -, _, -, h⟩ := h
  obtain ⟨-, h⟩ := Option.ite_none_left_eq_some.mp h
  simp only [Option.bind_eq_some_iff] at h
  obtain ⟨_, -, h⟩ := h
  cases h
  rfl

/-! ## Accepted units -/

theorem updateIpv4IdBehavior_fits {ctx : Context} (h : ctx.Fits) (had : Bool) (id : UInt16) :
    (updateIpv4IdBehavior ctx had id).Fits := by
  unfold updateIpv4IdBehavior
  split
  · exact h
  · dsimp only
    refine { h with idBehavior := ?_ }
    change (if had = true then _ else _ : UInt8) ≤ 3
    split
    · split
      · decide
      · split
        · decide
        · split <;> decide
    · split <;> decide

namespace Frame

variable {f : Frame} {r : Reading}

theorem readCompactUdpCheck_sizes {ctx ctx' : Context} {packet : Bytes} {n m : Nat}
    (h : readCompactUdpCheck ctx packet n = some (ctx', m)) : ctx'.sizes = ctx.sizes := by
  unfold readCompactUdpCheck at h
  split at h
  · split at h
    · cases h
    · cases h
      rfl
  · cases h
    rfl

theorem advanceFormal_sizes (ctx : Context) (msn : UInt16) : (advanceFormal ctx msn).sizes = ctx.sizes := by
  unfold advanceFormal
  dsimp only
  split
  · rfl
  · rfl

theorem rtpPt0Crc7Reading_sizes (h : f.rtpPt0Crc7Reading = some r) : r.ctx.sizes = f.before.sizes := by
  unfold rtpPt0Crc7Reading at h
  split at h
  · cases h
  · simp only [Option.bind_eq_bind, Option.bind_eq_some_iff, Option.ite_none_right_eq_some] at h
    obtain ⟨_, -, _, -, _, -, _, -, -, h⟩ := h
    cases h
    rfl

theorem espPt0Crc7Reading_sizes (h : f.espPt0Crc7Reading = some r) : r.ctx.sizes = f.before.sizes := by
  simp only [espPt0Crc7Reading, Option.bind_eq_bind, Option.bind_eq_some_iff, Option.ite_none_right_eq_some] at h
  obtain ⟨_, -, _, -, _, -, _, -, -, h⟩ := h
  cases h
  rfl

theorem pt1SeqIdReading_sizes (h : f.pt1SeqIdReading = some r) : r.ctx.sizes = f.before.sizes := by
  simp only [pt1SeqIdReading, Option.bind_eq_bind, Option.bind_eq_some_iff, Option.ite_none_right_eq_some] at h
  obtain ⟨_, -, _, -, _, -, ⟨ctx, n⟩, hc, _, -, _, -, -, h⟩ := h
  cases h
  exact (readCompactUdpCheck_sizes hc).trans rfl

theorem udpPt0Reading_sizes (h : f.udpPt0Reading = some r) : r.ctx.sizes = f.before.sizes := by
  simp only [udpPt0Reading, Option.bind_eq_bind, Option.bind_eq_some_iff] at h
  obtain ⟨⟨msn, crc⟩, -, h⟩ := h
  dsimp only at h
  obtain ⟨-, h⟩ := Option.ite_none_left_eq_some.mp h
  simp only [Option.bind_eq_some_iff, Option.ite_none_right_eq_some] at h
  obtain ⟨⟨ctx, n⟩, hc, _, -, _, -, -, h⟩ := h
  cases h
  exact (readCompactUdpCheck_sizes hc).trans rfl

theorem espPt0Reading_sizes {first : UInt8} (h : f.espPt0Reading first = some r) : r.ctx.sizes = f.before.sizes := by
  unfold espPt0Reading at h
  split at h
  · cases h
  · simp only [Option.bind_eq_bind, Option.bind_eq_some_iff, Option.ite_none_right_eq_some] at h
    obtain ⟨_, -, _, -, _, -, -, h⟩ := h
    cases h
    rfl

theorem ipPt0Reading_sizes (h : f.ipPt0Reading = some r) : r.ctx.sizes = f.before.sizes := by
  simp only [ipPt0Reading, Option.bind_eq_bind, Option.bind_eq_some_iff, Option.ite_none_right_eq_some] at h
  obtain ⟨_, -, _, -, _, -, -, h⟩ := h
  cases h
  rfl

theorem rtpPt0Reading_sizes (h : f.rtpPt0Reading = some r) : r.ctx.sizes = f.ctx.sizes := by
  unfold rtpPt0Reading at h
  split at h
  · cases h
  · simp only [Option.bind_eq_bind, Option.bind_eq_some_iff, Option.ite_none_right_eq_some] at h
    obtain ⟨_, -, _, -, _, -, -, h⟩ := h
    cases h
    rfl

theorem decodePt0Unit_sizes {d : Decoded} (h : f.decodePt0Unit = some d) : d.ctx.sizes = f.ctx.sizes := by
  unfold decodePt0Unit at h
  split at h
  · cases h
  · simp only [Option.bind_eq_bind, Option.bind_eq_some_iff] at h
    obtain ⟨⟨msn, crc⟩, -, h⟩ := h
    dsimp only at h
    obtain ⟨-, h⟩ := Option.ite_none_left_eq_some.mp h
    simp only [Option.bind_eq_some_iff] at h
    obtain ⟨⟨ctx, n⟩, hc, h⟩ := h
    cases h
    exact (readCompactUdpCheck_sizes hc).trans (advanceFormal_sizes _ _)

theorem privateReading_sizes {decode : Bytes → Proc (Cursor Context) Nat} {ctx : Context} {n : Nat}
    (hd : ∀ bs, Keeps Context.sizes (decode bs)) (h : f.privateReading decode = some (ctx, n)) :
    ctx.sizes = f.before.sizes := by
  unfold privateReading at h
  split at h
  · rename_i e
    cases h
    exact (hd f.packet).exec_eq e
  · cases h

theorem checkedPrivateUdp_sizes {ctx : Context} {n : Nat} (h : f.udpPrivateReading = some (ctx, n))
    (hr : f.checkedPrivateUdp ctx n = some r) : r.ctx.sizes = f.before.sizes := by
  have hctx : ctx.sizes = f.before.sizes := by
    unfold udpPrivateReading at h
    split at h
    · exact privateReading_sizes decodeUdpFo_sizes h
    · exact privateReading_sizes decodeEspFo_sizes h
    · exact privateReading_sizes decodeIpFo_sizes h
    · cases h
  simp only [checkedPrivateUdp, Option.bind_eq_bind, Option.bind_eq_some_iff, Option.ite_none_right_eq_some] at hr
  obtain ⟨_, -, _, -, -, hr⟩ := hr
  cases hr
  exact hctx

theorem irGates_sizes (p : Profile) (ctx : Context) : (f.irGates p ctx).sizes = ctx.sizes := by
  unfold irGates
  dsimp only
  split
  · rfl
  · split
    · rfl
    · split
      · rfl
      · rfl

theorem irContext_fits (hctx : f.ctx.Fits) (p : Profile) : (f.irContext p).Fits := by
  unfold irContext
  split
  · exact Context.Fits.fresh
  · split
    · exact hctx
    · exact hctx

theorem irDynGates_sizes (p : Profile) (ctx : Context) : (f.irDynGates p ctx).sizes = ctx.sizes := by
  unfold irDynGates
  split
  · rfl
  · rfl

/-- **An accepted unit leaves a context within its bounds.** -/
theorem Accepts.fits {kind : UnitKind} {ctx : Context} {octets : Bytes} (hb : f.before.Fits) (hctx : f.ctx.Fits)
    (h : f.Accepts kind ctx octets) : ctx.Fits := by
  cases h with
  | normal => exact hctx
  | uncompressedIr => exact Context.Fits.fresh
  | rtpPt0Crc7 _ _ reading => exact hb.of_sizes (rtpPt0Crc7Reading_sizes reading)
  | espPt0Crc7 _ _ reading => exact hb.of_sizes (espPt0Crc7Reading_sizes reading)
  | pt1SeqId _ reading => exact hb.of_sizes (pt1SeqIdReading_sizes reading)
  | udpPt0Crc3 _ _ reading => exact hb.of_sizes (udpPt0Reading_sizes reading)
  | udpChecked _ _ hprivate reading => exact hb.of_sizes (checkedPrivateUdp_sizes hprivate reading)
  | espPt0Crc3 _ _ _ _ reading => exact hb.of_sizes (espPt0Reading_sizes reading)
  | ipPt0Crc3 _ _ reading => exact hb.of_sizes (ipPt0Reading_sizes reading)
  | rtpPt0Crc3 _ _ reading => exact hctx.of_sizes (rtpPt0Reading_sizes reading)
  | ir _ _ decoded => exact (decodeIrOf_fits (irContext_fits hctx _) decoded).of_sizes (irGates_sizes _ _)
  | irDyn _ _ _ decoded => exact ((decodeIrDynOf_fits _ _).exec decoded hctx).of_sizes (irDynGates_sizes _ _)
  | privateFo octets unit _ decoded =>
    cases unit with
    | udp =>
      have hs := (decodeUdpFo_sizes f.packet).exec_eq decoded
      exact hctx.of_sizes hs
    | ip =>
      have hs := (decodeIpFo_sizes f.packet).exec_eq decoded
      refine updateIpv4IdBehavior_fits ?_ _ _
      exact hctx.of_sizes hs
    | esp => exact hctx.of_sizes ((decodeEspFo_sizes f.packet).exec_eq decoded)
    | udpLite => exact hctx.of_sizes ((decodeUdpLiteFo_sizes f.packet).exec_eq decoded)
  | privateRtp _ _ decoded =>
    have hs := decodeFoRtp_sizes decoded
    exact hctx.of_sizes hs
  | pt0InPlace _ _ decoded => exact hctx.of_sizes (decodePt0Unit_sizes decoded)

end Frame

theorem fits_callKeeps : CallKeeps Context.Fits where
  labels hk h := h.relabelled hk
  noHeader h := h.noHeader

/-- Every context of a decompressor stays within its bounds. -/
theorem decomp_fits {ok : DecompHandle → DecompCall → Prop} {maxCid : Nat} {handle : DecompHandle}
    {labels : List (DecompCall × Option Acceptance)}
    (run : Reaches (decompMachine.Step ok) (.fresh maxCid) labels handle) : handle.core.contexts.All Context.Fits := by
  refine run.invariant (P := fun _ handle => handle.core.contexts.All Context.Fits) (.init .fresh) ?_
  rintro labels handle ⟨call, acc⟩ handle' hall ⟨-, rfl, -⟩
  exact fits_callKeeps.call (fun _ _ hb hctx hacc => hacc.fits hb hctx) hall

/-! ## Capturing -/

theorem captureIpContext_fits {ctx : Context} (h : ctx.Fits) (packet : Bytes) (view : ParsedIpView) :
    (captureIpContext ctx packet view).2.Fits := by
  have hversion : ∀ v6 : Bool, (if v6 then 6 else 4 : UInt8) = 4 ∨ (if v6 then 6 else 4 : UInt8) = 6 := by decide
  have hbehavior : (if u16At packet 4 = 0 then 3 else 2 : UInt8) ≤ 3 := by split <;> decide
  -- The lists are cleared before anything is checked.
  have hclear : ({ ctx with
      ipVersion := if view.isIpv6 then 6 else 4, ipv4Protocol := view.terminalProtocol
      ipv4OptionsLen := 0, ipv4Options := Vector.replicate 40 0
      ipv6ExtensionLen := 0, ipv6Extensions := Vector.replicate 128 0 } : Context).Fits :=
    { h with version := hversion view.isIpv6, options := Nat.zero_le _, extensions := Nat.zero_le _ }
  unfold captureIpContext
  dsimp only
  generalize ({ ctx with
      ipVersion := if view.isIpv6 then 6 else 4, ipv4Protocol := view.terminalProtocol
      ipv4OptionsLen := 0, ipv4Options := Vector.replicate 40 0
      ipv6ExtensionLen := 0, ipv6Extensions := Vector.replicate 128 0 } : Context) = cleared at hclear
  split
  · have h4 : (captureIpv4 cleared packet).Fits := { hclear with idBehavior := hbehavior }
    split
    · rename_i ctx' he
      unfold captureIpv4Options at he
      split at he
      · cases he
      · dsimp only at he
        split at he
        · cases he
        · rename_i hlen
          rw [not_or, Nat.not_lt] at hlen
          cases he
          exact { h4 with options := hlen.1 }
    · exact h4
  · have h6 : (captureIpv6 cleared packet).Fits := hclear
    split
    · exact h6
    · rename_i hlen
      exact { h6 with extensions := Nat.not_lt.mp hlen }

/-- The lists of an RTP header, taken into a cleared record; what was taken before a failure fits too. -/
theorem captureRtpExtras_fits {rtp : RtpContext} (hc : rtp.csrcListLen ≤ 60) (hx : rtp.extensionLen ≤ 256)
    (hp : rtp.paddingLen ≤ 255) (rtpPacket : Bytes) :
    (captureRtpExtras rtp rtpPacket).2.csrcListLen ≤ 60 ∧ (captureRtpExtras rtp rtpPacket).2.extensionLen ≤ 256 ∧
      (captureRtpExtras rtp rtpPacket).2.paddingLen ≤ 255 := by
  unfold captureRtpExtras
  dsimp only
  generalize (u8At rtpPacket 0 &&& 0x0F).toNat * 4 = csrcLen
  split
  · exact ⟨hc, hx, hp⟩
  · rename_i hcsrc
    rw [not_or, Nat.not_lt, Nat.not_lt] at hcsrc
    generalize he : (if u8At rtpPacket 0 &&& 0x10 ≠ 0 then 4 + (u16At rtpPacket (12 + csrcLen + 2)).toNat * 4 else 0) =
      extLen
    split
    · exact ⟨hcsrc.2, hx, hp⟩
    · rename_i hext
      have hext' : extLen ≤ 256 := by
        by_cases hflag : u8At rtpPacket 0 &&& 0x10 ≠ 0
        · simp only [hflag, not_or, Nat.not_lt, ne_eq, not_false_eq_true, true_and] at hext
          omega
        · rw [if_neg hflag] at he
          omega
      generalize hn : (if u8At rtpPacket 0 &&& 0x20 ≠ 0 then (u8At rtpPacket (rtpPacket.length - 1)).toNat else 0) =
        padLen
      have hpad : padLen ≤ 255 := by
        have := (u8At rtpPacket (rtpPacket.length - 1)).toNat_lt
        split at hn
        · omega
        · omega
      split
      · exact ⟨hcsrc.2, hext', hp⟩
      · exact ⟨hcsrc.2, hext', hpad⟩

theorem captureRtpContext_fits {ctx : Context} (h : ctx.Fits) (rtpPacket : Bytes) :
    (captureRtpContext ctx rtpPacket).2.Fits := by
  unfold captureRtpContext
  split
  · exact h
  · obtain ⟨hc, hx, hp⟩ := @captureRtpExtras_fits ctx.rtp.clearExtras (Nat.zero_le _) (Nat.zero_le _)
      (Nat.zero_le _) rtpPacket
    split
    · rename_i view rtp he
      rw [he] at hc hx hp
      exact { h with csrc := hc, rtpExtension := hx, padding := hp }
    · rename_i rtp he
      rw [he] at hc hx hp
      exact { h with csrc := hc, rtpExtension := hx, padding := hp }

/-! ## Branches -/

theorem recordTransmittedMsn_fits {ctx : Context} (h : ctx.Fits) (msn : UInt16) : (recordTransmittedMsn ctx msn).Fits := by
  refine { h with msnCount := ?_, msnHead := Nat.mod_lt _ (by decide) }
  change (if ctx.transmittedMsnCount < 64 then ctx.transmittedMsnCount + 1 else ctx.transmittedMsnCount) ≤ 64
  have : ctx.transmittedMsnCount ≤ 64 := h.msnCount
  split
  · omega
  · exact this

theorem finishTransmit_fits {ctx : Context} (h : ctx.Fits) : (finishTransmit ctx).Fits :=
  @recordTransmittedMsn_fits { ctx with txCount := ctx.txCount + 1, profileHasBeenUsed := true } h ctx.msn

theorem updateRtpIpv4IdBehavior_fits {ctx : Context} (h : ctx.Fits) (had : Bool) (id : UInt16) (flags : UInt8)
    (sequential : Bool) (prevSeq seq : UInt16) :
    (updateRtpIpv4IdBehavior ctx had id flags sequential prevSeq seq).2.Fits := by
  unfold updateRtpIpv4IdBehavior
  dsimp only
  split
  · refine { h with idBehavior := ?_ }
    change (if ctx.ipv4Id = 0 then 3 else 2 : UInt8) ≤ 3
    split <;> decide
  · refine { h with idBehavior := ?_ }
    change (if _ then 0 else if ctx.ipv4Id = 0 then 3 else if _ then 1 else 2 : UInt8) ≤ 3
    split
    · decide
    · split
      · decide
      · split <;> decide

theorem updateRtpTimestampStride_fits {ctx : Context} (h : ctx.Fits) (seq : UInt16) (ts : UInt32) :
    (updateRtpTimestampStride ctx seq ts).Fits := by
  unfold updateRtpTimestampStride
  split
  · exact h
  · split
    · exact h
    · split
      · exact h
      · exact h

namespace Job

variable {job : Job}

theorem captureCommon_fits : Proc.Always Context.Fits job.captureCommon := by
  intro ctx h
  have hc := captureIpContext_fits h job.packet job.view
  unfold captureCommon
  split
  · rename_i he
    rw [he] at hc
    exact hc
  · rename_i he
    rw [he] at hc
    exact hc

theorem noteBehaviorChange_fits {ctx : Context} (h : ctx.Fits) (previous : Context) (had : Bool) :
    (noteBehaviorChange previous had ctx).Fits := by
  unfold noteBehaviorChange
  split
  · exact h
  · exact h

theorem captureWithBehavior_fits (profile : Profile) : Proc.Always Context.Fits (job.captureWithBehavior profile) :=
  .bind .get fun _ => .bind (.modify fun _ h => h) fun _ => .bind captureCommon_fits fun _ =>
    .modify fun _ h => noteBehaviorChange_fits (updateIpv4IdBehavior_fits h _ _) _ _

theorem captureRtpHeader_fits {ctx : Context} (h : ctx.Fits) (previous : Context) :
    (job.captureRtpHeader previous ctx).2.Fits := by
  unfold captureRtpHeader
  dsimp only
  generalize hu : updateRtpIpv4IdBehavior _ _ _ _ _ _ _ = u
  have hudp : (job.captureUdpHeader ctx).Fits := h
  have hcu : u.2.Fits := hu ▸ updateRtpIpv4IdBehavior_fits hudp _ _ _ _ _ _
  refine (show (updateRtpTimestampStride _ _ _).Fits from ?_).of_sizes rfl
  refine updateRtpTimestampStride_fits ?_ _ _
  split
  · exact hcu
  · exact hcu

theorem captureRtp_fits (profile : Profile) : Proc.Always Context.Fits (job.captureRtp profile) := by
  refine .bind .get fun previous => .bind (.modify fun _ h => h) fun _ => .bind captureCommon_fits fun _ => ?_
  refine .get_bind fun ctx h => ?_
  have hr := captureRtpContext_fits (@captureRtpHeader_fits job ctx h previous)
    (job.packet.drop (job.view.headerLen + 8))
  dsimp only
  rcases he : captureRtpContext (job.captureRtpHeader previous ctx).2 (job.packet.drop (job.view.headerLen + 8)) with
    ⟨_ | view, c⟩
  · rw [he] at hr
    exact hr
  · rw [he] at hr
    exact hr

theorem fits_emission : EmissionKeeps Context.Fits where
  static _ h := h
  dynamic _ _ _ _ h := h
  count _ h := h

theorem appendPayloadRange_fits (header : Bytes) (offset len : Nat) :
    Proc.Always Context.Fits (job.appendPayloadRange header offset len) :=
  .bind .require fun _ => .bind .require fun _ => .bind (.modify fun _ h => finishTransmit_fits h) fun _ => .pure

/-- **A branch leaves its context within the bounds**, wherever it stops. -/
theorem compressAs_fits (before : Context) (profile : Profile) :
    Proc.Always Context.Fits (job.compressAs before profile) := by
  have happend : ∀ header offset len, Proc.Always Context.Fits (job.appendPayloadRange header offset len) :=
    appendPayloadRange_fits
  have huncompressed : Proc.Always Context.Fits job.compressUncompressed :=
    .bind .require fun _ => .bind (.modify fun _ h => h) fun _ => .bind .get fun _ => .ofOption
  cases profile with
  | udp =>
    exact .bind .get fun _ => .bind (captureWithBehavior_fits _) fun _ => .bind (.modify fun _ h => h) fun _ =>
      .bind (emitUdpUnit_always fits_emission _) fun _ => happend _ _ _
  | ip =>
    exact .bind .get fun _ => .bind (captureWithBehavior_fits _) fun _ => .bind (.modify fun _ h => h) fun _ =>
      .bind (emitIpUnit_always fits_emission _) fun _ => happend _ _ _
  | esp =>
    exact .bind .get fun _ => .bind (captureWithBehavior_fits _) fun _ => .bind .require fun _ =>
      .bind (.modify fun _ h => h) fun _ => .bind (emitEspUnit_always fits_emission _) fun _ => happend _ _ _
  | rtp =>
    exact .bind (captureRtp_fits _) fun _ => .bind (emitRtpUnit_always fits_emission _ _ _) fun _ => happend _ _ _
  | rtpUdpLite =>
    exact .bind (captureRtp_fits _) fun _ => .bind (emitRtpUdpLiteUnit_always fits_emission _) fun _ => happend _ _ _
  | udpLite =>
    exact .bind (.modify fun _ h => h) fun _ => .bind captureCommon_fits fun _ => .bind (.modify fun _ h => h) fun _ =>
      .bind (emitUdpLiteUnit_always fits_emission) fun _ => happend _ _ _
  | uncompressed => exact huncompressed
  | llaRtp => exact huncompressed

end Job

theorem prepareContext_fits {before : Context} (h : before.Fits) (comp : Compressor) (profile : Profile) :
    (prepareContext comp before profile).Fits := by
  have hreplace : (replaceProfile { before with cid := comp.currentCid, largeCid := comp.largeCidSpace } before comp.mode
      comp.currentCid comp.largeCidSpace profile).Fits := by
    unfold replaceProfile
    split
    · exact Context.Fits.fresh
    · exact h
  unfold prepareContext
  dsimp only
  split
  · unfold requireConfirmationBeforePt0Alias
    dsimp only
    split
    · exact hreplace
    · exact hreplace
  · exact hreplace

theorem applyFeedbackToContext_fits {ctx : Context} (h : ctx.Fits) (feedback : Feedback) :
    (applyFeedbackToContext ctx feedback).Fits := by
  unfold applyFeedbackToContext
  dsimp only
  split
  · unfold acknowledge
    dsimp only
    split
    · exact h
    · exact h
  · exact h
  · split
    · exact h
    · exact h

theorem Turned.fits {handle : CompHandle} {act : CompAct} {cid : Nat} {a b : Context} (ht : Turned handle act cid a b)
    (h : a.Fits) : b.Fits := by
  cases ht with
  | same => exact h
  | mode => exact h
  | feedback => exact applyFeedbackToContext_fits h _
  | @branch packet view out _ here runs run =>
    have hb := (handle.core.job packet view).compressAs_fits a (chooseProfile packet view) _
      (prepareContext_fits h handle.core (chooseProfile packet view))
    change (runBranch handle.core packet view a).2.Fits at hb
    rw [run] at hb
    exact hb

/-- Every context of a compressor stays within its bounds. -/
theorem comp_fits {ok : CompHandle → CompAct → Prop} {maxCid : Nat} {direction : Direction} {handle : CompHandle}
    {labels : List (CompAct × Option Sent)} (run : Reaches (compMachine.Step ok) (.fresh maxCid direction) labels handle) :
    handle.core.contexts.All Context.Fits := by
  refine run.invariant (P := fun _ handle => handle.core.contexts.All Context.Fits) (.init .fresh) ?_
  rintro labels handle ⟨act, sent⟩ handle' hall ⟨-, rfl, -⟩ cid b hb
  obtain ⟨a, ha, ht⟩ := context_act hb
  exact ht.fits (hall cid a ha)

/-! ## Runs -/

/-- **The representation invariant.** After every run of a compressor and of a decompressor, on any inputs, every context
of both tables is within its bounds. -/
theorem contexts_fit {maxCid maxCid' : Nat} {direction : Direction} {compressor : CompHandle}
    {decompressor : DecompHandle} {sent : List (CompAct × Option Sent)}
    {received : List (DecompCall × Option Acceptance)}
    (sending : Reaches (compMachine.Step fun _ _ => True) (.fresh maxCid direction) sent compressor)
    (receiving : Reaches (decompMachine.Step fun _ _ => True) (.fresh maxCid') received decompressor) :
    compressor.core.contexts.All Context.Fits ∧ decompressor.core.contexts.All Context.Fits :=
  ⟨comp_fits sending, decomp_fits receiving⟩

/-- An IR of an IP-only flow on CID 0 with four octets of IPv4 options. -/
def optionsIrUnit : Bytes :=
  [0xFD, 0x04, 0, 0x40, 59, 0, 0, 0, 1, 0, 0, 0, 2, 0, 64, 0, 1, 0, 0x44, 1, 1, 1, 1, 0x04, 7]

/-- A packet is compressed, and an IR with IPv4 options is received. -/
theorem contexts_fit_options :
    (compMachine.after (.fresh 15 .uplink) [.compress shortUdpPacket 100]).core.contexts.All Context.Fits ∧
      (decompMachine.after (.fresh 15) [receive optionsIrUnit]).core.contexts.All Context.Fits :=
  contexts_fit (Machine.reaches_trace ⟨trivial, trivial⟩) (Machine.reaches_trace ⟨trivial, trivial⟩)

end Rohccxx
