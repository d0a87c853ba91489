import Rohccxx.EmitIr
import Rohccxx.Icv
import Rohccxx.Reconstruct

/-!
# The compressor

`rohc_compress4` and the state behind a `rohc_comp` handle. A profile branch works on the context of the current CID in
place and may stop at any point with what it has written so far (`Proc Context`); nothing rolls back. The inner call
compresses into a buffer of 4096 octets, the outer one adds the ICV and copies the unit out or cuts it into segments.
-/

set_option autoImplicit false

namespace Rohccxx

open Octets

/-! ## Bookkeeping of a context -/

/-- `record_transmitted_msn`. -/
def recordTransmittedMsn (ctx : Context) (msn : UInt16) : Context :=
  { ctx with
    transmittedMsnHistory := ctx.transmittedMsnHistory.setIfInBounds ctx.transmittedMsnHead msn
    transmittedContextRevisionHistory :=
      ctx.transmittedContextRevisionHistory.setIfInBounds ctx.transmittedMsnHead ctx.contextRevision
    transmittedMsnHead := (ctx.transmittedMsnHead + 1) % 64
    transmittedMsnCount := if ctx.transmittedMsnCount < 64 then ctx.transmittedMsnCount + 1 else ctx.transmittedMsnCount }

def shouldEmitIr (ctx : Context) : Bool :=
  ctx.txCount = 0 || ctx.rohcState = .noContext || ctx.profileReplacementPending ||
    (ctx.mode = .reliable && !ctx.staticAcked)

def shouldEmitIrDyn (ctx : Context) : Bool :=
  ctx.txCount = 1 || ctx.rohcState = .staticEstablished ||
    (ctx.mode = .reliable && ctx.staticAcked && !ctx.dynamicAcked)

def formalPt0ForwardLimit (ctx : Context) : UInt8 :=
  if ctx.reorderRatio = 0 then 14 else if ctx.reorderRatio = 1 then 12
  else if ctx.reorderRatio = 2 then 8 else if ctx.reorderRatio = 3 then 4 else 0

/-- Hold explicit framing until the peer acknowledges a new revision. -/
def startReplacement (ctx : Context) : Context :=
  { ctx with contextRevision := ctx.contextRevision + 1, profileReplacementPending := true }

/-- `require_confirmation_before_pt0_alias`: past this many PT-0 units a loss could alias. -/
def requireConfirmationBeforePt0Alias (ctx : Context) : Context :=
  let limit := formalPt0ForwardLimit ctx
  if 0 < limit ∧ ctx.formalPt0SinceConfirmation ≥ limit ∧ !ctx.profileReplacementPending then startReplacement ctx
  else ctx

/-- A CID that changes its profile starts over as a new generation. -/
def replaceProfile (ctx before : Context) (mode : Mode) (cid : Nat) (largeCidSpace : Bool) (profile : Profile) :
    Context :=
  if ctx.profileHasBeenUsed ∧ ctx.profile ≠ profile ∧ profile ≠ .uncompressed then
    { ({} : Context) with
      cid := cid, largeCid := largeCidSpace, mode := mode, profileHasBeenUsed := true
      profileReplacementActive := true, profileReplacementPending := true, compactProfileReplacementSeen := true
      contextRevision := before.contextRevision + 1 }
  else ctx

/-- What `append_payload_range` writes to the context once the unit is complete. -/
def finishTransmit (ctx : Context) : Context :=
  let ctx := { ctx with txCount := ctx.txCount + 1, profileHasBeenUsed := true }
  let ctx := recordTransmittedMsn ctx ctx.msn
  let confirmed := ctx.mode ≠ .reliable ∧ !ctx.profileReplacementPending
  { ctx with
    staticAcked := if confirmed ∧ ctx.txCount > 0 then true else ctx.staticAcked
    dynamicAcked := if confirmed ∧ ctx.txCount > 1 then true else ctx.dynamicAcked
    nackCount := 0 }

/-! ## Pieces of a branch -/

/-- What a profile branch is called with: the handle's mode, the CID, the packet, its header view, the capacity. -/
structure Job where
  mode : Mode
  cid : Nat
  packet : Bytes
  view : ParsedIpView
  cap : Nat

namespace Job

def captureCommon (job : Job) : Proc Context Unit := fun ctx =>
  match captureIpContext ctx job.packet job.view with
  | (true, ctx) => (.ok (), ctx)
  | (false, ctx) => (.reject, ctx)

def appendPayloadRange (job : Job) (header : Bytes) (payloadOffset payloadLen : Nat) : Proc Context Bytes := do
  Proc.require (payloadOffset ≤ job.packet.length ∧ payloadLen ≤ job.packet.length - payloadOffset)
  Proc.require (header.length + payloadLen ≤ job.cap)
  Proc.modify finishTransmit
  return header ++ (job.packet.drop payloadOffset).take payloadLen

def appendPayload (job : Job) (header : Bytes) (payloadOffset : Nat) : Proc Context Bytes :=
  job.appendPayloadRange header payloadOffset (job.packet.length - payloadOffset)

/-- Enter `state` and emit with the context as it is then. -/
def emitIn (job : Job) (state : RohcState) (emitter : Nat → Context → Option Bytes) : Proc Context Bytes := do
  Proc.modify fun ctx => { ctx with rohcState := state }
  let ctx ← Proc.get
  Proc.ofOption (emitter job.cap ctx)

/-- `prepend_small_cid`; CID 0 needs no octet. -/
def prependSmallCid (job : Job) (unit : Bytes) : Option Bytes :=
  if job.cid = 0 then some unit
  else if job.cid > 0x0F ∨ unit.length + 1 > job.cap then none
  else some ((0xE0 ||| (UInt8.ofNat job.cid &&& 0x0F)) :: unit)

/-- `prepend_private_rtp_small_cid`: an Add-CID octet even for CID 0. -/
def prependPrivateRtpSmallCid (job : Job) (unit : Bytes) : Option Bytes :=
  if job.cid > 0x0F ∨ unit.length + 1 > job.cap then none else some ((0xE0 ||| UInt8.ofNat job.cid) :: unit)

def captureUdpHeader (job : Job) (ctx : Context) : Context :=
  let udp := job.view.headerLen
  { ctx with
    udpSport := u16At job.packet udp, udpDport := u16At job.packet (udp + 2)
    udpLengthOrCoverage := u16At job.packet (udp + 4), udpCheck := u16At job.packet (udp + 6) }

/-- The MSN of a flow without a sequence number of its own counts the packets. -/
def countMsn (ctx : Context) : Context := { ctx with msn := ctx.txCount.toUInt16 + 1 }

/-- The UDP header of the UDP branch, with its MSN. -/
def captureUdp (job : Job) (ctx : Context) : Context :=
  let ctx := job.captureUdpHeader ctx
  countMsn { ctx with udpChecksumUsed := ctx.udpCheck ≠ 0 }

/-- The ESP header; the MSN is the end of the sequence number. -/
def captureEsp (job : Job) (ctx : Context) : Context :=
  let sequence := u32At job.packet (job.view.headerLen + 4)
  { ctx with
    espSpi := u32At job.packet job.view.headerLen, espSequence := sequence, msn := sequence.toUInt16 }

/-- A change of IP-ID behaviour restarts the confirmation of a replaced context. -/
def noteBehaviorChange (previous : Context) (hadIpv4Context : Bool) (ctx : Context) : Context :=
  if ctx.profileReplacementActive ∧ hadIpv4Context ∧ previous.ipv4IdBehavior ≠ ctx.ipv4IdBehavior ∧
      !ctx.profileReplacementPending then startReplacement ctx
  else ctx

/-- The opening of the UDP, IP-only and ESP branches: capture the IP header and update the IP-ID behaviour. -/
def captureWithBehavior (job : Job) (profile : Profile) : Proc Context Unit := do
  let previous ← Proc.get
  Proc.modify fun ctx => { ctx with profile := profile, mode := job.mode }
  let hadIpv4Context := previous.ipVersion = 4 ∧ previous.txCount > 0
  job.captureCommon
  Proc.modify fun ctx =>
    noteBehaviorChange previous hadIpv4Context (updateIpv4IdBehavior ctx hadIpv4Context previous.ipv4Id)

/-! ## RTP -/

/-- UDP and RTP header fields of both RTP branches, behind the IP header; the answer is whether a private unit can carry
the change of IP-ID. -/
def captureRtpHeader (job : Job) (previous ctx : Context) : Bool × Context :=
  let hadIpv4RtpContext := previous.ipVersion = 4 ∧ previous.txCount > 0
  let rtp := job.view.headerLen + 8
  let seq := u16At job.packet (rtp + 2)
  let ts := u32At job.packet (rtp + 4)
  let update := updateRtpIpv4IdBehavior (job.captureUdpHeader ctx) hadIpv4RtpContext previous.ipv4Id previous.ipv4Flags
    previous.ipv4IdSequential previous.rtp.lastSeq seq
  let ctx := if update.2.profileReplacementActive ∧ !update.1 ∧ !update.2.profileReplacementPending then
      startReplacement update.2
    else update.2
  let ctx := updateRtpTimestampStride ctx seq ts
  (update.1, { ctx with
    msn := seq, udpChecksumUsed := ctx.udpCheck ≠ 0
    rtp := { ctx.rtp with
      vpxcc := u8At job.packet rtp, mpt := u8At job.packet (rtp + 1), lastSeq := seq, lastTs := ts
      ssrc := u32At job.packet (rtp + 8) } })

/-- What both RTP branches do before they choose a unit; the answer is whether a private unit is safe and where the
payload lies. -/
def captureRtp (job : Job) (profile : Profile) : Proc Context (Bool × RtpPayloadView) := do
  let previous ← Proc.get
  Proc.modify fun ctx => { ctx with profile := profile, mode := job.mode }
  job.captureCommon
  let ctx ← Proc.get
  let (safe, ctx) := job.captureRtpHeader previous ctx
  match captureRtpContext ctx (job.packet.drop (job.view.headerLen + 8)) with
  | (some view, ctx) => do
    Proc.modify fun _ => ctx
    return (safe, view)
  | (none, ctx) => do
    Proc.modify fun _ => ctx
    Proc.reject

def emitPrivateRtp (job : Job) (ctx : Context) : Option Bytes := do
  let unit ← emitRtpFo job.cap ctx
  job.prependPrivateRtpSmallCid unit

/-- The choice of the RTP/UDP-Lite branch. -/
def emitRtpUdpLiteUnit (job : Job) (safe : Bool) : Proc Context Bytes := do
  let ctx ← Proc.get
  if shouldEmitIr ctx then job.emitIn .staticEstablished emitIrRtpUdpLite
  else if shouldEmitIrDyn ctx || !safe then job.emitIn .dynamicEstablished emitIrDynRtpUdpLite
  else if ctx.largeCid then job.emitIn .dynamicEstablished emitIrRtpUdpLite
  else job.emitIn .dynamicEstablished fun _ ctx => job.emitPrivateRtp ctx

def compressRtpUdpLite (job : Job) : Proc Context Bytes := do
  let (safe, payload) ← job.captureRtp .rtpUdpLite
  let header ← job.emitRtpUdpLiteUnit safe
  job.appendPayloadRange header (job.view.headerLen + 8 + payload.payloadOffset) payload.payloadLen

/-- `emit_rtp_pt0_small_cid`: the CRC covers the 40 octets of the packet's headers. -/
def emitRtpPt0SmallCid (job : Job) (msn : UInt16) : Option Bytes :=
  if job.cid > 0x0F then none
  else emitFormalCo job.cap .rtp .pt0Crc7 job.cid false { msn := msn } (job.packet.take 40)

/-- With an Add-CID octet in front, the peer also tries the PT-0 octet and the payload as a private RTP unit. -/
def rtpPt0Ambiguous (job : Job) (before : Context) (first : UInt8) (payload : Bytes) : Bool :=
  (job.cid ≠ 0 && (decodeFoRtp (first :: payload.take 31) { before with cid := job.cid, largeCid := false }).isSome) ||
    (0x77 ≤ first && first ≤ 0x7A)

/-- The compact choice of the RTP branch. -/
def emitCompactRtp (job : Job) (before : Context) (payload : RtpPayloadView) : Proc Context Bytes := do
  let ctx ← Proc.get
  if rtpPt0Reconstructable before ctx then do
    let unit ← Proc.ofOption (job.emitRtpPt0SmallCid ctx.msn)
    let first := u8At unit (if job.cid = 0 then 0 else 1)
    let payloadOctets :=
      (job.packet.drop (job.view.headerLen + 8 + payload.payloadOffset)).take payload.payloadLen
    if job.rtpPt0Ambiguous before first payloadOctets then Proc.ofOption (emitIrDynRtp job.cap ctx)
    else do
      Proc.modify fun ctx => { ctx with formalPt0SinceConfirmation := ctx.formalPt0SinceConfirmation + 1 }
      return unit
  else if ctx.udpCheck ≠ before.udpCheck then Proc.ofOption (emitIrDynRtp job.cap ctx)
  else Proc.ofOption (job.emitPrivateRtp ctx)

/-- The choice of the RTP branch; `before` is the context as the call found it. -/
def emitRtpUnit (job : Job) (before : Context) (safe : Bool) (payload : RtpPayloadView) : Proc Context Bytes := do
  let ctx ← Proc.get
  if shouldEmitIr ctx then job.emitIn .staticEstablished emitIrRtp
  else if shouldEmitIrDyn ctx || !safe then job.emitIn .dynamicEstablished emitIrDynRtp
  else if ctx.largeCid then job.emitIn .dynamicEstablished emitIrRtp
  else do
    Proc.modify fun ctx => { ctx with rohcState := .dynamicEstablished }
    job.emitCompactRtp before payload

def compressRtp (job : Job) (before : Context) : Proc Context Bytes := do
  let (safe, payload) ← job.captureRtp .rtp
  let header ← job.emitRtpUnit before safe payload
  job.appendPayloadRange header (job.view.headerLen + 8 + payload.payloadOffset) payload.payloadLen

/-! ## UDP, IP-only and ESP -/

/-- The private unit of the UDP branch, or a refresh when the peer could take it for a PT-0. The refresh counts as
establishment: the context goes back to static, so that the next packet repeats it. -/
def emitUnambiguousPrivateUdpFo (job : Job) (previous : Context) (payload : Bytes) : Proc Context Bytes := do
  let ctx ← Proc.get
  let unit ← Proc.ofOption (emitUdpFo job.cap ctx)
  if privateUdpFoIsFormalPt0Ambiguous previous unit payload then do
    let unit ← Proc.ofOption (emitIrDynUdp job.cap ctx)
    Proc.modify fun ctx => { ctx with rohcState := .staticEstablished }
    return unit
  else Proc.ofOption (if ctx.largeCid then some unit else job.prependSmallCid unit)

/-- A CRC-3 PT-0 in a buffer of its own, `none` when it cannot be made or could be taken for a private unit. -/
def unambiguousPt0Crc3 (job : Job) (ctx : Context) (headerLen : Nat) : Option Bytes := do
  let formal ← emitFormalCo 2 ctx.profile .pt0Crc3 job.cid false { msn := ctx.msn } (job.packet.take headerLen)
  let pt0 := u8At formal (if job.cid = 0 then 0 else 1)
  if pt0PrivateFoAmbiguous pt0 (job.packet.drop headerLen) none false then none else return formal

/-- Send the PT-0 and count it. -/
def emitPt0 (job : Job) (formal : Bytes) : Proc Context Bytes := do
  Proc.require (formal.length ≤ job.cap)
  Proc.modify fun ctx => { ctx with formalPt0SinceConfirmation := ctx.formalPt0SinceConfirmation + 1 }
  return formal

/-- The compact choice of the UDP branch. -/
def emitCompactUdp (job : Job) (previous : Context) : Proc Context Bytes := do
  let ctx ← Proc.get
  let headerLen := job.view.headerLen + 8
  let payload := job.packet.drop headerLen
  if !ctx.largeCid && decide (job.cid ≤ 0x0F) && udpPt0Reconstructable previous ctx then
    match job.unambiguousPt0Crc3 ctx headerLen with
    | some formal => job.emitPt0 formal
    | none => job.emitUnambiguousPrivateUdpFo previous payload
  else job.emitUnambiguousPrivateUdpFo previous payload

def emitUdpUnit (job : Job) (previous : Context) : Proc Context Bytes := do
  let ctx ← Proc.get
  if shouldEmitIr ctx then job.emitIn .staticEstablished emitIrUdp
  else if shouldEmitIrDyn ctx then job.emitIn .dynamicEstablished emitIrDynUdp
  else do
    Proc.modify fun ctx => { ctx with rohcState := .dynamicEstablished }
    job.emitCompactUdp previous

def compressUdp (job : Job) : Proc Context Bytes := do
  let previous ← Proc.get
  job.captureWithBehavior .udp
  Proc.modify job.captureUdp
  let header ← job.emitUdpUnit previous
  job.appendPayload header (job.view.headerLen + 8)

def emitUnambiguousPrivateIpFo (job : Job) (previous : Context) (payloadLen : Nat) : Proc Context Bytes := do
  let ctx ← Proc.get
  let unit ← Proc.ofOption (emitIpFo job.cap ctx)
  if !ctx.largeCid && privateIpFoIsFormalPt0Ambiguous previous unit payloadLen then do
    let unit ← Proc.ofOption (emitIrIp job.cap ctx)
    Proc.modify fun ctx => { ctx with rohcState := .staticEstablished }
    return unit
  else Proc.ofOption (if ctx.largeCid then some unit else job.prependSmallCid unit)

/-- The compact choice of the IP-only branch. -/
def emitCompactIp (job : Job) (previous : Context) : Proc Context Bytes := do
  let ctx ← Proc.get
  let headerLen := job.view.headerLen
  let payloadLen := job.packet.length - headerLen
  if !ctx.largeCid && decide (job.cid ≤ 0x0F) && ipPt0Reconstructable previous ctx then
    match job.unambiguousPt0Crc3 ctx headerLen with
    | some formal => job.emitPt0 formal
    | none => job.emitUnambiguousPrivateIpFo previous payloadLen
  else if ctx.ipVersion ≠ 4 ∨ ipPrivateFoReconstructable previous ctx then
    job.emitUnambiguousPrivateIpFo previous payloadLen
  else job.emitIn .dynamicEstablished emitIrIp

def emitIpUnit (job : Job) (previous : Context) : Proc Context Bytes := do
  let ctx ← Proc.get
  if shouldEmitIr ctx then job.emitIn .staticEstablished emitIrIp
  else if shouldEmitIrDyn ctx then job.emitIn .dynamicEstablished emitIrDynIp
  else do
    Proc.modify fun ctx => { ctx with rohcState := .dynamicEstablished }
    job.emitCompactIp previous

def compressIp (job : Job) : Proc Context Bytes := do
  let previous ← Proc.get
  job.captureWithBehavior .ip
  Proc.modify countMsn
  let header ← job.emitIpUnit previous
  job.appendPayload header job.view.headerLen

/-- The CRC-7 PT-0 of the ESP branch; here the ambiguity check is made in the context the peer has. -/
def unambiguousEspPt0 (job : Job) (previous ctx : Context) (headerLen : Nat) : Option Bytes := do
  let formal ← emitFormalCo 3 ctx.profile .pt0Crc7 job.cid false { msn := ctx.msn } (job.packet.take headerLen)
  let pt0 := u8At formal (if job.cid = 0 then 0 else 1)
  if pt0PrivateFoAmbiguous pt0 (job.packet.drop headerLen) (some previous) true then none else return formal

/-- The compact choice of the ESP branch. -/
def emitCompactEsp (job : Job) (previous : Context) : Proc Context Bytes := do
  let ctx ← Proc.get
  if !ctx.largeCid && decide (job.cid ≤ 0x0F) && espPt0Reconstructable previous ctx then
    match job.unambiguousEspPt0 previous ctx (job.view.headerLen + 8) with
    | some formal => job.emitPt0 formal
    | none => job.emitIn .dynamicEstablished emitIrEsp
  else job.emitIn .dynamicEstablished emitIrEsp

def emitEspUnit (job : Job) (previous : Context) : Proc Context Bytes := do
  let ctx ← Proc.get
  if shouldEmitIr ctx then job.emitIn .staticEstablished emitIrEsp
  else if shouldEmitIrDyn ctx then job.emitIn .dynamicEstablished emitIrDynEsp
  else do
    Proc.modify fun ctx => { ctx with rohcState := .dynamicEstablished }
    job.emitCompactEsp previous

def compressEsp (job : Job) : Proc Context Bytes := do
  let previous ← Proc.get
  job.captureWithBehavior .esp
  Proc.require (job.view.headerLen + 8 ≤ job.packet.length)
  Proc.modify job.captureEsp
  let header ← job.emitEspUnit previous
  job.appendPayload header (job.view.headerLen + 8)

/-! ## UDP-Lite and Uncompressed -/

def emitPrivateUdpLite (job : Job) (ctx : Context) : Option Bytes := do
  let unit ← emitUdpLiteFo job.cap ctx
  if ctx.largeCid then some unit else job.prependSmallCid unit

/-- The choice of the UDP-Lite branch. -/
def emitUdpLiteUnit (job : Job) : Proc Context Bytes := do
  let ctx ← Proc.get
  if shouldEmitIr ctx then job.emitIn .staticEstablished emitIrUdpLite
  else if shouldEmitIrDyn ctx then job.emitIn .dynamicEstablished emitIrDynUdpLite
  else job.emitIn .dynamicEstablished fun _ ctx => job.emitPrivateUdpLite ctx

def compressUdpLite (job : Job) : Proc Context Bytes := do
  Proc.modify fun ctx => { ctx with profile := .udpLite, mode := job.mode }
  job.captureCommon
  Proc.modify job.captureUdpHeader
  let header ← job.emitUdpLiteUnit
  job.appendPayload header (job.view.headerLen + 8)

def compressUncompressed (job : Job) : Proc Context Bytes := do
  Proc.require (isUncompressedIpPayload job.packet)
  Proc.modify fun ctx => { ctx with
    profile := .uncompressed, mode := .uncompressed, rohcState := .dynamicEstablished
    txCount := ctx.txCount + 1, profileHasBeenUsed := true, nackCount := 0
    staticAcked := true, dynamicAcked := true }
  let ctx ← Proc.get
  Proc.ofOption (emitUncompressedIr job.cap ctx job.packet)

/-- The branch of a profile; `before` is the context as the call found it. -/
def compressAs (job : Job) (before : Context) : Profile → Proc Context Bytes
  | .rtpUdpLite => job.compressRtpUdpLite
  | .rtp => job.compressRtp before
  | .udp => job.compressUdp
  | .ip => job.compressIp
  | .esp => job.compressEsp
  | .udpLite => job.compressUdpLite
  | _ => job.compressUncompressed

end Job

/-! ## The handle -/

/-- `rohccxx_internal::Compressor`. `pendingSegment` holds the octets of the unit being cut, `pendingSegmentPos` those
already sent. -/
structure Compressor where
  mode : Mode := .optimistic
  contexts : ContextTable
  currentCid : Nat := 0
  largeCidSpace : Bool
  mrru : Nat := 0
  pendingSegment : Bytes := []
  pendingSegmentPos : Nat := 0
  nextSegmentSequence : UInt16 := 0
  integrity : Option Integrity := none

namespace Compressor

/-- `rohc_comp_new2`. -/
def new2 (maxCid : Nat) : Option Compressor :=
  if maxCid > Cid.largeCidMax then none
  else some { contexts := .init maxCid, largeCidSpace := maxCid > Cid.smallCidMax }

/-- `rohc_comp_set_cid`; `none` leaves the handle as it is. -/
def setCid (comp : Compressor) (cid : Nat) : Option Compressor :=
  if cid > comp.contexts.maxCid ∨ !Cid.isValidForSpace cid comp.largeCidSpace then none
  else some { comp with currentCid := cid }

/-- `rohc_comp_set_mode`: the handle and its current context. -/
def setMode (comp : Compressor) (mode : Mode) : Compressor :=
  { comp with
    mode := mode
    contexts := match comp.contexts.get comp.currentCid with
      | some ctx => comp.contexts.set comp.currentCid { ctx with mode := mode }
      | none => comp.contexts }

theorem contexts_setMode {comp : Compressor} {ctx : Context} {mode : Mode}
    (h : comp.contexts.get comp.currentCid = some ctx) :
    (comp.setMode mode).contexts = comp.contexts.set comp.currentCid { ctx with mode := mode } := by
  unfold setMode
  rw [h]

theorem contexts_setMode_of_none {comp : Compressor} {mode : Mode} (h : comp.contexts.get comp.currentCid = none) :
    (comp.setMode mode).contexts = comp.contexts := by
  unfold setMode
  rw [h]

def setMrru (comp : Compressor) (mrru : Nat) : Option Compressor :=
  if mrru > segmentBufferMax then none else some { comp with mrru := mrru }

end Compressor

/-! ## Choosing a profile -/

/-- `unsupported_standard_chain`: what the RFC 5225 chains of this library cannot carry. -/
def unsupportedStandardChain (packet : Bytes) (view : ParsedIpView) : Bool :=
  let udp := (view.terminalProtocol = 17 || view.terminalProtocol = 136) && udpFits packet view.headerLen &&
    !(!view.isIpv6 && Ipv4.isFragmented (u16At packet 6))
  (!view.isIpv6 && view.headerLen ≠ 20) ||
    (view.isIpv6 && (view.extensionLen ≠ 0 || u32At packet 0 &&& 0x000FFFFF ≠ 0)) ||
    (udp && rtpFits packet (view.headerLen + 8) && u8At packet (view.headerLen + 8) &&& 0x3F ≠ 0)

def chooseProfile (packet : Bytes) (view : ParsedIpView) : Profile :=
  let profile := if !view.isIpv6 ∧ Ipv4.isFragmented (u16At packet 6) then .uncompressed else classifyPacket packet
  if unsupportedStandardChain packet view ∧ profileUsesFormalPt0 profile then .uncompressed else profile

/-! ## The entry point -/

/-- The context a branch starts from: labelled with its CID, replaced on a change of profile, held back when its PT-0
interval is used up. -/
def prepareContext (comp : Compressor) (before : Context) (profile : Profile) : Context :=
  let ctx := { before with cid := comp.currentCid, largeCid := comp.largeCidSpace }
  let ctx := replaceProfile ctx before comp.mode comp.currentCid comp.largeCidSpace profile
  if profileUsesFormalPt0 profile then requireConfirmationBeforePt0Alias ctx else ctx

/-- `rohc_compress4` with segmentation suppressed: the unit, and the handle with the current context rewritten. -/
def compressInner (comp : Compressor) (packet : Bytes) : Option Bytes × Compressor :=
  match parseIpView packet with
  | none => (none, comp)
  | some view =>
    let profile := chooseProfile packet view
    match comp.contexts.get comp.currentCid with
    | none => (none, comp)
    | some before =>
      let job : Job := ⟨comp.mode, comp.currentCid, packet, view, segmentBufferMax⟩
      let (out, ctx) := job.compressAs before profile (prepareContext comp before profile)
      let comp := { comp with contexts := comp.contexts.set comp.currentCid ctx }
      match out with
      | .ok unit => (some unit, comp)
      | _ => (none, comp)

/-- `write_next_segment`; the sequence number advances even when the write fails. -/
def writeNextSegment (comp : Compressor) (cap : Nat) : Option Bytes × Compressor :=
  if cap ≤ segmentHeaderLen ∨ comp.pendingSegmentPos ≥ comp.pendingSegment.length then (none, comp)
  else
    let remaining := comp.pendingSegment.length - comp.pendingSegmentPos
    let payloadLen := min remaining (cap - segmentHeaderLen)
    let final := payloadLen = remaining
    let payload := (comp.pendingSegment.drop comp.pendingSegmentPos).take payloadLen
    let sequence := comp.nextSegmentSequence
    let comp := { comp with nextSegmentSequence := comp.nextSegmentSequence + 1 }
    match writeSegmentPacket cap final sequence payload with
    | none => (none, comp)
    | some segment =>
      if final then (some segment, { comp with pendingSegment := [], pendingSegmentPos := 0 })
      else (some segment, { comp with pendingSegmentPos := comp.pendingSegmentPos + payloadLen })

/-- The unit with its ICV, when integrity is configured. -/
def withIcv (comp : Compressor) (packet unit : Bytes) : Option Bytes :=
  match comp.integrity with
  | some integrity => appendIcv integrity packet unit segmentBufferMax
  | none => some unit

/-- **`rohc_compress4`**: the octets written on return 0, `none` on return -1, and the handle afterwards. -/
def rohcCompress4 (comp : Compressor) (packet : Bytes) (cap : Nat) : Option Bytes × Compressor :=
  if cap ≤ segmentHeaderLen then (none, comp)
  else
    match compressInner comp packet with
    | (none, comp) => (none, comp)
    | (some unit, comp) =>
      match withIcv comp packet unit with
      | none => (none, comp)
      | some full =>
        if full.length ≤ cap then (some full, comp)
        else if comp.mrru = 0 ∨ full.length > comp.mrru ∨ full.length > segmentBufferMax then (none, comp)
        else
          writeNextSegment
            { comp with pendingSegment := full, pendingSegmentPos := 0, nextSegmentSequence := 0 } cap

end Rohccxx
