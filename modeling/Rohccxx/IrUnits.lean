import Rohccxx.EmitIr

/-!
# What the IR emitters write

Every IR is its front (CID, type, profile), a CRC octet and a body. An emitter that succeeds wrote `irSealed front body`:
the lemmas below give the body for each profile, and what must have held for the emitter to get there.
-/

set_option autoImplicit false

namespace Rohccxx

open Octets

/-! ## Fronts and CRC octets -/

/-- A CID the context's space can carry. -/
def CidFits (ctx : Context) : Prop := Cid.isValidForSpace ctx.cid ctx.largeCid = true

/-- The Add-CID octet of a small nonzero CID. -/
def addCidOctets (ctx : Context) : Bytes :=
  if !ctx.largeCid && ctx.cid > 0 then [0xE0 ||| (UInt8.ofNat ctx.cid &&& 0x0F)] else []

def largeCidOctets (ctx : Context) : Bytes := if ctx.largeCid then Cid.largeOctets ctx.cid else []

/-- The octets in front of the CRC. -/
def irFront (ctx : Context) (type profile : UInt8) : Bytes :=
  addCidOctets ctx ++ [type] ++ largeCidOctets ctx ++ [profile]

/-- A front and a body with the CRC octet between them. -/
def irSealed (front body : Bytes) : Bytes := front ++ [crc8 (front ++ 0 :: body)] ++ body

theorem length_irSealed (front body : Bytes) : (irSealed front body).length = front.length + 1 + body.length := by
  simp [irSealed]
  omega

theorem fillCrc8_eq (front body : Bytes) : fillCrc8 front.length (front ++ 0 :: body) = irSealed front body := by
  simp [fillCrc8, irSealed]

theorem emitAddCidIfNeeded_eq {cap : Nat} {ctx : Context} {out : Bytes}
    (h : emitAddCidIfNeeded cap ctx [] = some out) :
    (ctx.largeCid = false → ctx.cid ≤ 0x0F) ∧ out = addCidOctets ctx := by
  unfold emitAddCidIfNeeded at h
  unfold addCidOctets
  split at h
  · cases h
  · rename_i hsmall
    have hc : ctx.largeCid = false → ctx.cid ≤ 0x0F := by
      intro hl
      have hsm : Cid.isSmall ctx.cid = true := by simpa [hl] using hsmall
      exact of_decide_eq_true hsm
    refine ⟨hc, ?_⟩
    split at h
    · rename_i hpos
      rw [if_pos hpos]
      simpa using put_eq_some h
    · rename_i hpos
      rw [if_neg hpos]
      exact (Option.some.inj h).symm

theorem writeLargeCidIfNeeded_eq {cap : Nat} {ctx : Context} {out r : Bytes}
    (h : writeLargeCidIfNeeded cap ctx out = some r) :
    (ctx.largeCid = true → ctx.cid ≤ Cid.largeCidMax) ∧ r = out ++ largeCidOctets ctx := by
  unfold largeCidOctets
  unfold writeLargeCidIfNeeded at h
  cases hl : ctx.largeCid with
  | false =>
    simp only [hl, Bool.false_eq_true, if_false, Option.some.injEq] at h
    simp [h]
  | true =>
    simp only [hl, if_true, Cid.writeLarge] at h
    split at h
    · cases h
    · refine ⟨fun _ => by omega, ?_⟩
      simpa using put_eq_some h

theorem cidFits_of {ctx : Context} (hs : ctx.largeCid = false → ctx.cid ≤ 0x0F)
    (hl : ctx.largeCid = true → ctx.cid ≤ Cid.largeCidMax) : CidFits ctx := by
  unfold CidFits Cid.isValidForSpace Cid.isSmall Cid.smallCidMax
  cases h : ctx.largeCid with
  | false => simpa using hs h
  | true => simpa using hl h

theorem emitIrPrefix_eq {cap pos : Nat} {ctx : Context} {profile : UInt8} {out : Bytes}
    (h : emitIrPrefix cap ctx profile = some (out, pos)) :
    CidFits ctx ∧ out = irFront ctx 0xFD profile ++ [0] ∧ pos = (irFront ctx 0xFD profile).length := by
  simp only [emitIrPrefix, Option.bind_eq_bind, Option.bind_eq_some_iff, Option.pure_def, Option.some.injEq,
    Prod.mk.injEq] at h
  obtain ⟨a, ha, b, hb, c, hc, d, hd, rfl, rfl⟩ := h
  obtain ⟨hs, rfl⟩ := emitAddCidIfNeeded_eq ha
  obtain ⟨hl, rfl⟩ := writeLargeCidIfNeeded_eq hc
  obtain rfl := put_eq_some hb
  obtain rfl := put_eq_some hd
  refine ⟨cidFits_of hs hl, ?_, ?_⟩ <;> simp [irFront]

theorem legacyIrPrefix_eq {cap pos : Nat} {ctx : Context} {type profile : UInt8} {out : Bytes}
    (h : legacyIrPrefix cap ctx type profile = some (out, pos)) :
    CidFits ctx ∧ out = irFront ctx type profile ++ [0] ∧ pos = (irFront ctx type profile).length := by
  simp only [legacyIrPrefix, Option.bind_eq_bind, Option.bind_eq_some_iff, Option.pure_def, Option.some.injEq,
    Prod.mk.injEq] at h
  obtain ⟨a, ha, c, hc, rfl, rfl⟩ := h
  obtain ⟨hs, rfl⟩ := emitAddCidIfNeeded_eq ha
  obtain ⟨hl, rfl⟩ := writeLargeCidIfNeeded_eq hc
  refine ⟨cidFits_of hs hl, ?_, ?_⟩ <;> simp [irFront]

/-! ## Standard bodies -/

/-- The IP headers the RFC 5225 chains of this library can carry. -/
def StandardIp (ctx : Context) : Prop :=
  ctx.ipVersion = 4 ∧ ctx.ipv4OptionsLen = 0 ∨
    ctx.ipVersion = 6 ∧ ctx.ipv6ExtensionLen = 0 ∧ ctx.ipv6FlowLabel = 0

def standardIpStatic (ctx : Context) : Bytes :=
  if ctx.ipVersion = 6 then [0xC0, ctx.ipv6NextHeader] ++ ctx.ipv6Saddr.toList ++ ctx.ipv6Daddr.toList
  else writeIpv4StaticWithProtocol ctx ctx.ipv4Protocol

def standardIpDynamic (ctx : Context) (endpoint : Bool) : Bytes :=
  if ctx.ipVersion = 6 then standardIpv6Dynamic ctx endpoint else standardIpv4Dynamic ctx endpoint

theorem writeStandardIpStatic_eq {cap : Nat} {ctx : Context} {out r : Bytes}
    (h : writeStandardIpStatic cap ctx out = some r) : StandardIp ctx ∧ r = out ++ standardIpStatic ctx := by
  unfold writeStandardIpStatic at h
  unfold standardIpStatic
  split at h
  · rename_i h4
    split at h
    · cases h
    · rename_i hopt
      refine ⟨Or.inl ⟨h4, by simpa using hopt⟩, ?_⟩
      rw [if_neg (by rw [h4]; decide)]
      exact put_eq_some h
  · split at h
    · cases h
    · rename_i h6
      simp only [not_or, ne_eq, Decidable.not_not] at h6
      refine ⟨Or.inr h6, ?_⟩
      rw [if_pos h6.1]
      exact put_eq_some h

theorem writeStandardIpDynamic_eq {cap : Nat} {ctx : Context} {endpoint : Bool} {out r : Bytes}
    (h : writeStandardIpDynamic cap ctx endpoint out = some r) : r = out ++ standardIpDynamic ctx endpoint := by
  unfold writeStandardIpDynamic at h
  unfold standardIpDynamic
  split at h
  · rename_i h6
    split at h
    · cases h
    · rw [if_pos h6]
      exact put_eq_some h
  · rename_i h6
    split at h
    · cases h
    · rw [if_neg h6]
      exact put_eq_some h

/-- The octets of the static transport chain. -/
def transportStatic (profile : Profile) (ctx : Context) : Bytes :=
  match profile with
  | .udp => writeUdpStatic ctx
  | .rtp => writeUdpStatic ctx ++ writeRtpStatic ctx
  | .esp => be32 ctx.espSpi
  | _ => []

/-- The octets of the dynamic transport chain. -/
def transportDynamic (profile : Profile) (ctx : Context) : Bytes :=
  match profile with
  | .udp => standardUdpEndpointDynamic ctx
  | .esp => standardEspDynamic ctx
  | .rtp => writeUdpDynamic ctx ++ standardRtpDynamic ctx
  | _ => []

/-- The body of a standard IR; only IP-only has its MSN in the IP chain. -/
def irBody (profile : Profile) (ctx : Context) : Bytes :=
  standardIpStatic ctx ++ transportStatic profile ctx ++ standardIpDynamic ctx (profile = .ip) ++
    transportDynamic profile ctx

/-- An emitter run in the scratch buffer. -/
theorem emitIrAtomically_eq {emitter : Nat → Context → Option Bytes} {cap : Nat} {ctx : Context} {unit : Bytes}
    (h : emitIrAtomically emitter cap ctx = some unit) : emitter irScratchLen ctx = some unit ∧ unit.length ≤ cap := by
  simp only [emitIrAtomically, Option.bind_eq_bind, Option.bind_eq_some_iff] at h
  obtain ⟨scratch, hs, h⟩ := h
  split at h
  · cases h
  · cases h
    exact ⟨hs, by omega⟩

/-- A standard IR whose transport chains are `static` and `dynamic`. -/
theorem standardIr_eq {cap : Nat} {ctx : Context} {octet : UInt8} {static dynamic unit : Bytes}
    (h : (do
      let (out, crcPos) ← emitIrPrefix cap ctx octet
      let out ← writeStandardIpStatic cap ctx out
      let out ← put cap static out
      let out ← writeStandardIpDynamic cap ctx false out
      let out ← put cap dynamic out
      return fillCrc8 crcPos out) = some unit) :
    CidFits ctx ∧ StandardIp ctx ∧ unit = irSealed (irFront ctx 0xFD octet)
      (standardIpStatic ctx ++ static ++ standardIpDynamic ctx false ++ dynamic) := by
  simp only [Option.bind_eq_bind, Option.bind_eq_some_iff, Option.pure_def, Option.some.injEq, Prod.exists] at h
  obtain ⟨out, pos, hp, a, ha, b, hb, c, hc, d, hd, rfl⟩ := h
  obtain ⟨hcid, rfl, rfl⟩ := emitIrPrefix_eq hp
  obtain ⟨hip, rfl⟩ := writeStandardIpStatic_eq ha
  obtain rfl := put_eq_some hb
  obtain rfl := writeStandardIpDynamic_eq hc
  obtain rfl := put_eq_some hd
  refine ⟨hcid, hip, ?_⟩
  rw [← fillCrc8_eq]
  simp

theorem emitIrEsp_eq {cap : Nat} {ctx : Context} {unit : Bytes} (h : emitIrEsp cap ctx = some unit) :
    CidFits ctx ∧ StandardIp ctx ∧ unit = irSealed (irFront ctx 0xFD 0x03) (irBody .esp ctx) :=
  standardIr_eq (emitIrAtomically_eq h).1

theorem emitIrUdp_eq {cap : Nat} {ctx : Context} {unit : Bytes} (h : emitIrUdp cap ctx = some unit) :
    CidFits ctx ∧ StandardIp ctx ∧ unit = irSealed (irFront ctx 0xFD 0x02) (irBody .udp ctx) :=
  standardIr_eq (emitIrAtomically_eq h).1

theorem emitIrIp_eq {cap : Nat} {ctx : Context} {unit : Bytes} (h : emitIrIp cap ctx = some unit) :
    CidFits ctx ∧ StandardIp ctx ∧ unit = irSealed (irFront ctx 0xFD 0x04) (irBody .ip ctx) := by
  obtain ⟨h, -⟩ := emitIrAtomically_eq h
  simp only [emitIrIpInto, Option.bind_eq_bind, Option.bind_eq_some_iff, Option.pure_def, Option.some.injEq,
    Prod.exists] at h
  obtain ⟨out, pos, hp, a, ha, b, hb, rfl⟩ := h
  obtain ⟨hcid, rfl, rfl⟩ := emitIrPrefix_eq hp
  obtain ⟨hip, rfl⟩ := writeStandardIpStatic_eq ha
  obtain rfl := writeStandardIpDynamic_eq hb
  refine ⟨hcid, hip, ?_⟩
  rw [← fillCrc8_eq]
  simp [irBody, transportStatic, transportDynamic]

/-- The RTP headers the standard chain can carry: no CSRC, extension or padding. -/
def PlainRtp (rtp : RtpContext) : Prop :=
  rtp.vpxcc &&& 0x0F = 0 ∧ rtp.vpxcc &&& 0x20 = 0 ∧ rtp.vpxcc &&& 0x10 = 0 ∧ rtp.csrcListLen = 0 ∧
    rtp.extensionLen = 0 ∧ rtp.paddingLen = 0

theorem emitIrRtp_eq {cap : Nat} {ctx : Context} {unit : Bytes} (h : emitIrRtp cap ctx = some unit) :
    CidFits ctx ∧ StandardIp ctx ∧ PlainRtp ctx.rtp ∧ unit = irSealed (irFront ctx 0xFD 0x01) (irBody .rtp ctx) := by
  obtain ⟨h, -⟩ := emitIrAtomically_eq h
  simp only [emitIrRtpInto, Option.bind_eq_bind, Option.bind_eq_some_iff, Option.pure_def, Option.some.injEq,
    Prod.exists] at h
  obtain ⟨out, pos, hp, a, ha, b, hb, c, hc, d, hd, rfl⟩ := h
  obtain ⟨hcid, rfl, rfl⟩ := emitIrPrefix_eq hp
  obtain ⟨hip, rfl⟩ := writeStandardIpStatic_eq ha
  obtain rfl := put_eq_some hb
  obtain rfl := writeStandardIpDynamic_eq hc
  unfold writeStandardRtpDynamic at hd
  dsimp only at hd
  split at hd
  · cases hd
  · rename_i hplain
    simp only [not_or, ne_eq, Decidable.not_not] at hplain
    obtain rfl := put_eq_some hd
    refine ⟨hcid, hip, hplain, ?_⟩
    rw [← fillCrc8_eq]
    simp [irBody, transportStatic, transportDynamic]

/-! ## Legacy bodies -/

/-- The IP headers the legacy chains can carry. -/
def LegacyIp (ctx : Context) : Prop :=
  ctx.ipVersion = 4 ∧ ctx.ipv4OptionsLen ≤ 40 ∨ ctx.ipVersion = 6 ∧ ctx.ipv6ExtensionLen ≤ 127

/-- The octets of an RTP extras list. -/
def rtpExtrasOctets (rtp : RtpContext) (bodyLen : Nat) : Bytes :=
  if bodyLen = 0 then [emptyListMarker] else [rtpExtrasListMarker] ++ Cid.largeOctets bodyLen ++ rtpExtrasBody rtp

/-- The static chain of a UDP-Lite profile. -/
def liteStatic (profile : Profile) (ctx : Context) : Bytes :=
  writeIpStaticWithProtocol ctx ctx.ipv4Protocol ++ writeUdpStatic ctx ++
    (if profile = .rtpUdpLite then writeRtpStatic ctx else [])

/-- The dynamic chain of a UDP-Lite profile; `bodyLen` is the length of the RTP extras. -/
def liteDynamic (profile : Profile) (ctx : Context) (bodyLen : Nat) : Bytes :=
  writeIpDynamic ctx ++ writeUdpLiteDynamic ctx ++
    (if profile = .rtpUdpLite then rtpDynamicFixed ctx.rtp ++ rtpExtrasOctets ctx.rtp bodyLen else [])

/-- The IR of a UDP-Lite profile: the mode octet stands behind the CRC-covered part. -/
def liteIrUnit (profile : Profile) (ctx : Context) (bodyLen : Nat) : Bytes :=
  irSealed (irFront ctx 0xFD profile.octet) (liteStatic profile ctx ++ liteDynamic profile ctx bodyLen) ++
    [legacyModeOctet ctx.mode]

def liteIrDynUnit (profile : Profile) (ctx : Context) (bodyLen : Nat) : Bytes :=
  irSealed (irFront ctx 0xF8 profile.octet) (liteDynamic profile ctx bodyLen)

/-- What an emitter of a UDP-Lite profile needs. -/
structure SendsLite (profile : Profile) (ctx : Context) (bodyLen : Nat) : Prop where
  fits : CidFits ctx
  ip : LegacyIp ctx
  extras : profile = .rtpUdpLite → rtpExtrasBodyLen ctx.rtp = some bodyLen

theorem legacyIp_of_lengths {ctx : Context} {rtp : Bool} {s d : Nat} {lens : Nat × Nat}
    (h : legacyIrLengths ctx rtp s d = some lens) : LegacyIp ctx := by
  by_cases h4 : ctx.ipVersion = 4
  · refine Or.inl ⟨h4, ?_⟩
    by_contra hopt
    simp [legacyIrLengths, h4, Nat.lt_of_not_le hopt] at h
  · by_cases h6 : ctx.ipVersion = 6
    · refine Or.inr ⟨h6, ?_⟩
      by_contra hext
      simp [legacyIrLengths, h6, Nat.lt_of_not_le hext] at h
    · simp [legacyIrLengths, h4, h6] at h

theorem legacyIp_of_capacity {cap n m : Nat} {ctx : Context} {dyn rtp mode : Bool}
    (h : legacyIrCapacityOk cap ctx dyn rtp n m mode = true) : LegacyIp ctx := by
  unfold legacyIrCapacityOk at h
  split at h
  · cases h
  · split at h
    · cases h
    · rename_i hl
      exact legacyIp_of_lengths hl

theorem writeRtpExtrasList_eq {cap : Nat} {rtp : RtpContext} {out r : Bytes}
    (h : writeRtpExtrasList cap rtp out = some r) :
    ∃ bodyLen, rtpExtrasBodyLen rtp = some bodyLen ∧ r = out ++ rtpExtrasOctets rtp bodyLen := by
  simp only [writeRtpExtrasList, Option.bind_eq_bind, Option.bind_eq_some_iff] at h
  obtain ⟨bodyLen, hb, h⟩ := h
  refine ⟨bodyLen, hb, ?_⟩
  unfold rtpExtrasOctets
  split at h
  · rename_i h0
    rw [if_pos h0]
    exact put_eq_some h
  · rename_i h0
    rw [if_neg h0]
    simp only [Option.bind_eq_some_iff] at h
    obtain ⟨b, hb, c, hc, h⟩ := h
    obtain rfl := put_eq_some hb
    unfold writeSdvl14 Cid.writeLarge at hc
    split at hc
    · cases hc
    · obtain rfl := put_eq_some hc
      obtain rfl := put_eq_some h
      simp

theorem writeRtpDynamic_eq {cap : Nat} {rtp : RtpContext} {out r : Bytes} (h : writeRtpDynamic cap rtp out = some r) :
    ∃ bodyLen, rtpExtrasBodyLen rtp = some bodyLen ∧ r = out ++ rtpDynamicFixed rtp ++ rtpExtrasOctets rtp bodyLen := by
  simp only [writeRtpDynamic, Option.bind_eq_bind, Option.bind_eq_some_iff] at h
  obtain ⟨a, ha, h⟩ := h
  obtain rfl := put_eq_some ha
  exact writeRtpExtrasList_eq h

theorem octet_udpLite : Profile.udpLite.octet = 0x08 := rfl

theorem octet_rtpUdpLite : Profile.rtpUdpLite.octet = 0x07 := rfl

section Lite

variable {cap : Nat} {ctx : Context} {unit : Bytes}

/-- A unit of a UDP-Lite profile: `step` appends its `body`, `close` what stands behind the CRC-covered part. -/
theorem legacyIr_eq (profile : Profile) {type : UInt8} {dyn rtp mode : Bool} {s d : Nat} (step : Bytes → Option Bytes)
    (close : Bytes → Bytes) (body : Nat → Bytes)
    (hstep : ∀ out r, step out = some r →
      ∃ n, (profile = .rtpUdpLite → rtpExtrasBodyLen ctx.rtp = some n) ∧ r = out ++ body n)
    (h : (if !legacyIrCapacityOk cap ctx dyn rtp s d mode then none
      else do
        let (out, crcPos) ← legacyIrPrefix cap ctx type profile.octet
        let out ← step out
        return close (fillCrc8 crcPos out)) = some unit) :
    ∃ n, SendsLite profile ctx n ∧ unit = close (irSealed (irFront ctx type profile.octet) (body n)) := by
  split at h
  · cases h
  · rename_i hcap
    simp only [Option.bind_eq_bind, Option.bind_eq_some_iff, Option.pure_def, Option.some.injEq, Prod.exists] at h
    obtain ⟨out, pos, hp, r, hr, rfl⟩ := h
    obtain ⟨hcid, rfl, rfl⟩ := legacyIrPrefix_eq hp
    obtain ⟨n, hextras, rfl⟩ := hstep _ _ hr
    refine ⟨n, ⟨hcid, legacyIp_of_capacity (by simpa using hcap), hextras⟩, ?_⟩
    rw [← fillCrc8_eq]
    simp

theorem emitIrUdpLite_eq (h : emitIrUdpLite cap ctx = some unit) :
    SendsLite .udpLite ctx 0 ∧ unit = liteIrUnit .udpLite ctx 0 := by
  obtain ⟨n, hsends, rfl⟩ := legacyIr_eq .udpLite
    (fun out => some (out ++ writeIpStaticWithProtocol ctx ctx.ipv4Protocol ++ writeUdpStatic ctx ++ writeIpDynamic ctx ++
      writeUdpLiteDynamic ctx))
    (· ++ [legacyModeOctet ctx.mode]) (fun n => liteStatic .udpLite ctx ++ liteDynamic .udpLite ctx n)
    (fun out r hr => ⟨0, nofun, by simp [← Option.some.inj hr, liteStatic, liteDynamic]⟩) (emitIrAtomically_eq h).1
  exact ⟨⟨hsends.fits, hsends.ip, nofun⟩, rfl⟩

theorem emitIrDynUdpLite_eq (h : emitIrDynUdpLite cap ctx = some unit) :
    SendsLite .udpLite ctx 0 ∧ unit = liteIrDynUnit .udpLite ctx 0 := by
  obtain ⟨n, hsends, rfl⟩ := legacyIr_eq .udpLite (fun out => some (out ++ writeIpDynamic ctx ++ writeUdpLiteDynamic ctx))
    id (fun n => liteDynamic .udpLite ctx n) (fun out r hr => ⟨0, nofun, by simp [← Option.some.inj hr, liteDynamic]⟩)
    (emitIrAtomically_eq h).1
  exact ⟨⟨hsends.fits, hsends.ip, nofun⟩, rfl⟩

theorem emitIrRtpUdpLite_eq (h : emitIrRtpUdpLite cap ctx = some unit) :
    ∃ bodyLen, SendsLite .rtpUdpLite ctx bodyLen ∧ unit = liteIrUnit .rtpUdpLite ctx bodyLen := by
  refine legacyIr_eq .rtpUdpLite
    (fun out => writeRtpDynamic irScratchLen ctx.rtp (out ++ writeIpStaticWithProtocol ctx ctx.ipv4Protocol ++
      writeUdpStatic ctx ++ writeRtpStatic ctx ++ writeIpDynamic ctx ++ writeUdpLiteDynamic ctx))
    (· ++ [legacyModeOctet ctx.mode]) (fun n => liteStatic .rtpUdpLite ctx ++ liteDynamic .rtpUdpLite ctx n)
    (fun out r hr => ?_) (emitIrAtomically_eq h).1
  obtain ⟨bodyLen, hb, rfl⟩ := writeRtpDynamic_eq hr
  exact ⟨bodyLen, fun _ => hb, by simp [liteStatic, liteDynamic]⟩

theorem emitIrDynRtpUdpLite_eq (h : emitIrDynRtpUdpLite cap ctx = some unit) :
    ∃ bodyLen, SendsLite .rtpUdpLite ctx bodyLen ∧ unit = liteIrDynUnit .rtpUdpLite ctx bodyLen := by
  refine legacyIr_eq .rtpUdpLite
    (fun out => writeRtpDynamic irScratchLen ctx.rtp (out ++ writeIpDynamic ctx ++ writeUdpLiteDynamic ctx)) id
    (fun n => liteDynamic .rtpUdpLite ctx n) (fun out r hr => ?_) (emitIrAtomically_eq h).1
  obtain ⟨bodyLen, hb, rfl⟩ := writeRtpDynamic_eq hr
  exact ⟨bodyLen, fun _ => hb, by simp [liteDynamic]⟩

end Lite

/-! ## The IR of the Uncompressed profile -/

/-- The two ways the source spells the Add-CID octet agree on small CIDs. -/
theorem addCid_octet {cid : Nat} (h : cid ≤ 0x0F) :
    (0xE0 : UInt8) ||| (UInt8.ofNat cid &&& 0x0F) = 0xE0 ||| UInt8.ofNat cid := by
  have key : ∀ i : Fin 16, (0xE0 : UInt8) ||| (UInt8.ofNat i &&& 0x0F) = 0xE0 ||| UInt8.ofNat i := by decide
  exact key ⟨cid, by omega⟩

/-- A whole packet behind an IR without chains. -/
theorem emitUncompressedIr_eq {cap : Nat} {ctx : Context} {input unit : Bytes}
    (h : emitUncompressedIr cap ctx input = some unit) :
    CidFits ctx ∧ unit = irSealed (irFront ctx 0xFD 0x00) [] ++ input ∧ unit.length ≤ cap := by
  unfold emitUncompressedIr at h
  by_cases hcid : ((ctx.largeCid && decide (ctx.cid > Cid.largeCidMax)) ||
      (!ctx.largeCid && !Cid.isSmall ctx.cid)) = true
  · rw [if_pos hcid] at h
    cases h
  · rw [if_neg hcid] at h
    dsimp only at h
    generalize hlen : (if ctx.largeCid = true then Cid.encodedLen ctx.cid else if ctx.cid > 0 then 1 else 0) = cidLen at h
    by_cases hroom : cap < cidLen + 3 ∨ input.length > cap - (cidLen + 3)
    · rw [if_pos hroom] at h
      cases h
    · rw [if_neg hroom] at h
      simp only [Option.bind_eq_bind, Option.bind_eq_some_iff, Option.pure_def, Option.some.injEq] at h
      obtain ⟨out, hout, rfl⟩ := h
      obtain ⟨hl, rfl⟩ := writeLargeCidIfNeeded_eq hout
      have hs : ctx.largeCid = false → ctx.cid ≤ 0x0F := by
        intro hn
        have hsm : Cid.isSmall ctx.cid = true := by simpa [hn] using hcid
        exact of_decide_eq_true hsm
      have hadd : (if (!ctx.largeCid && decide (ctx.cid > 0)) = true then [0xE0 ||| UInt8.ofNat ctx.cid] else []) =
          addCidOctets ctx := by
        unfold addCidOctets
        split
        · rename_i hc
          have hn : ctx.largeCid = false := by simp only [Bool.and_eq_true, Bool.not_eq_true'] at hc; exact hc.1
          rw [addCid_octet (hs hn)]
        · rfl
      have hcat : addCidOctets ctx ++ [0xFD] ++ largeCidOctets ctx ++ [0x00, 0x00] = irFront ctx 0xFD 0x00 ++ [0] := by
        simp [irFront]
      have hseal := fillCrc8_eq (irFront ctx 0xFD 0x00) []
      have hfront : (irFront ctx 0xFD 0x00).length = cidLen + 2 := by
        rw [← hlen]
        unfold irFront addCidOctets largeCidOctets
        cases hl : ctx.largeCid with
        | true => simp [Cid.length_largeOctets]
        | false => by_cases h0 : ctx.cid = 0 <;> simp [h0, Nat.pos_of_ne_zero]
      rw [hadd, hcat, List.length_append, List.length_singleton, Nat.add_sub_cancel, hseal]
      refine ⟨cidFits_of hs hl, rfl, ?_⟩
      rw [List.length_append, length_irSealed, List.length_nil]
      omega

end Rohccxx
