import Rohccxx.Decompressor
import Rohccxx.DecodeIrDyn

/-!
# The decompressor

`rohc_decompress4`, block by block in the order of the source. A block that answers `none` did not apply and the next
one is tried; `some` is a `return`. The last block, and only the last one, decodes into the live context.
-/

set_option autoImplicit false

namespace Rohccxx

open Octets Reader

/-! ## Pieces of the blocks -/

/-- `payload_after_header`. -/
def payloadAfterHeader (packet : Bytes) (headerLen : Nat) : Option Bytes :=
  if headerLen > packet.length then none else some (packet.drop headerLen)

/-- `legacy_pt0_delta_safe_for_profile`. -/
def legacyPt0DeltaSafeForProfile (ctx : Context) (delta : UInt16) : Bool :=
  if delta = 0 then false
  else if ctx.profileReplacementActive ∨ ctx.compactProfileReplacementSeen then delta = 1
  else if ctx.profile = .rtp then delta = 1
  else true

/-- An RTP PT-0: sequence number and timestamp move with the MSN, the IP-ID if it is sequential. -/
def advanceFormalRtp (ctx : Context) (nextMsn : UInt16) : Context :=
  let delta := nextMsn - ctx.msn
  { ctx with
    msn := nextMsn
    ipv4Id := if ctx.ipv4IdBehavior = 0 then ctx.ipv4Id + delta else ctx.ipv4Id
    rtp := { ctx.rtp with lastSeq := nextMsn, lastTs := ctx.rtp.lastTs + ctx.rtp.tsStride * delta.toUInt32 } }

/-- An ESP PT-0: IP-ID and ESP sequence number move with the MSN. -/
def advanceFormalEsp (ctx : Context) (nextMsn : UInt16) : Context :=
  let delta := nextMsn - ctx.msn
  { ctx with msn := nextMsn, ipv4Id := ctx.ipv4Id + delta, espSequence := ctx.espSequence + delta.toUInt32 }

/-- The UDP checksum of a compact unit, when the flow uses one: the context and where the header ends. -/
def readCompactUdpCheck (ctx : Context) (packet : Bytes) (headerLen : Nat) : Option (Context × Nat) :=
  if ctx.profile = .udp ∧ ctx.udpChecksumUsed then
    if packet.length < headerLen + 2 then none
    else some ({ ctx with udpCheck := u16At packet headerLen }, headerLen + 2)
  else some (ctx, headerLen)

/-- The RTP contexts of the fixed 40-octet header. -/
def fixedRtpShape (ctx : Context) : Bool :=
  ctx.profile = .rtp && ctx.ipv4OptionsLen = 0 && ctx.rtp.vpxcc &&& 0x3F = 0 && ctx.rtp.csrcListLen = 0 &&
    ctx.rtp.extensionLen = 0 && ctx.rtp.paddingLen = 0

/-- A reading of a unit: the context it leads to, the rebuilt header, the payload. -/
structure Reading where
  ctx : Context
  header : Bytes
  payload : Bytes

namespace Frame

def commitReading (f : Frame) (live : Live) (r : Reading) : Return := f.commit live r.ctx (r.header ++ r.payload)

/-- A fixed-header unit whose type decides its meaning: it fails or it is delivered. -/
def commitOnly (f : Frame) (live : Live) : Option Reading → Return
  | some r => f.commitReading live r
  | none => f.fail live

/-! ## The Uncompressed profile -/

/-- A Normal packet, taken only in a live Uncompressed context. -/
def normalPacket (f : Frame) (live : Live) : Option Return :=
  if f.parsed.type = .uncompressed ∧ f.before.rohcState ≠ .noContext ∧ f.before.profile = .uncompressed then
    if f.cap < f.packet.length then some (f.fail live)
    else some (f.deliver (live.setCtx f.cid { f.ctx with txCount := f.ctx.txCount + 1, nackCount := 0 }) f.packet)
  else none

/-- The context a profile-0 IR installs. -/
def uncompressedReplacement (f : Frame) : Context :=
  { ({} : Context) with
    cid := f.cid, largeCid := f.largeCidSpace, profile := .uncompressed, mode := .uncompressed
    rohcState := .dynamicEstablished, txCount := 1, profileHasBeenUsed := true }

/-- Where the packet of a profile-0 IR starts. -/
def uncompressedIrHeaderLen (f : Frame) : Nat :=
  f.parsed.hasAddCid.toNat + 3 + (if f.parsed.hasLargeCid then f.parsed.cidLen else 0)

def uncompressedIr (f : Frame) (live : Live) : Option Return :=
  if f.parsed.type = .ir ∧ f.parsed.profileId = 0 then
    let wire := f.parsed.wire
    let headerLen := f.uncompressedIrHeaderLen
    if wire.length ≤ headerLen ∨ headerLen > 5 then some (f.fail live)
    else
      let header := wire.take headerLen
      let original := wire.drop headerLen
      if crc8 (header.set (headerLen - 1) 0) ≠ u8At header (headerLen - 1) ∨ !isUncompressedIpPayload original ∨
          f.cap < original.length then some (f.fail live)
      else some (f.commit live f.uncompressedReplacement original)
  else none

/-! ## Formal units with a discriminator of their own -/

/-- The reading of an RTP PT-0 with CRC-7. -/
def rtpPt0Crc7Reading (f : Frame) : Option Reading :=
  if f.before.rtp.tsStride = 0 then none
  else do
    let formal ← readFormalCoBase f.packet 2 .rtp .pt0Crc7
    let nextMsn ← decodeForwardFormalMsn f.before formal.msn 5
    let ctx := advanceFormalRtp f.before nextMsn
    let payload ← payloadAfterHeader f.packet 2
    let header ← buildFixedRtpIpv4Header ctx payload.length
    if crc7 header = formal.headerCrc then return ⟨ctx, header, payload⟩ else none

def rtpPt0Crc7 (f : Frame) (live : Live) : Option Return :=
  if f.parsed.type = .formalCo ∧ 2 ≤ f.packet.length ∧ u8At f.packet 0 &&& 0xF0 = 0x80 ∧ fixedRtpShape f.before ∧
      f.livePt0 then
    some (f.commitOnly live f.rtpPt0Crc7Reading)
  else none

/-- The reading of an ESP PT-0 with CRC-7. -/
def espPt0Crc7Reading (f : Frame) : Option Reading := do
  let formal ← readFormalCoBase f.packet 2 .esp .pt0Crc7
  let nextMsn ← decodeForwardFormalMsn f.before formal.msn 6
  let ctx := advanceFormalEsp f.before nextMsn
  let payload ← payloadAfterHeader f.packet 2
  let header ← buildFixedEspIpv4Header ctx payload.length
  if crc7 header = formal.headerCrc then return ⟨{ ctx with formalPt0Crc7Seen := true }, header, payload⟩ else none

def espPt0Crc7 (f : Frame) (live : Live) : Option Return :=
  if f.parsed.type = .formalCo ∧ 2 ≤ f.packet.length ∧ u8At f.packet 0 &&& 0xE0 = 0x80 ∧ f.before.profile = .esp ∧
      f.before.ipv4OptionsLen = 0 ∧ f.livePt0 then
    some (f.commitOnly live f.espPt0Crc7Reading)
  else none

/-- The fixed header of the profiles a PT-1 seq-ID unit is for. -/
def buildFixedNonRtpHeader (ctx : Context) (payloadLen : Nat) : Option Bytes :=
  match ctx.profile with
  | .udp => buildFixedUdpIpv4Header ctx payloadLen
  | .esp => buildFixedEspIpv4Header ctx payloadLen
  | .ip => buildFixedIpIpv4Header ctx payloadLen
  | _ => some []

def pt1SeqIdReading (f : Frame) : Option Reading := do
  let before := f.before
  let formal ← readFormalCoBase f.packet 2 before.profile .pt1SeqId
  let nextMsn ← decodeForwardFormalMsn before formal.msn (formalCoMsnLsbBits before.profile .pt1SeqId)
  let ipIdWidth := formalCoIpIdLsbBits before.profile .pt1SeqId
  let nextIpv4Id ← decodeIpIdOffsetLsbWithP formal.ipId nextMsn (encodeOffsetIpId before.ipv4Id before.msn) ipIdWidth
    (2 ^ ipIdWidth / 4 - 1)
  let ctx := { before with
    msn := nextMsn, ipv4Id := nextIpv4Id
    espSequence := if before.profile = .esp then before.espSequence + (nextMsn - before.msn).toUInt32
      else before.espSequence }
  let (ctx, headerLen) ← readCompactUdpCheck ctx f.packet 2
  let payload ← payloadAfterHeader f.packet headerLen
  let header ← buildFixedNonRtpHeader ctx payload.length
  if crc3 header = formal.headerCrc then return ⟨ctx, header, payload⟩ else none

def pt1SeqId (f : Frame) (live : Live) : Option Return :=
  if f.parsed.type = .formalCo ∧ 2 ≤ f.packet.length ∧ u8At f.packet 0 &&& 0xE0 = 0xA0 ∧
      (f.before.profile = .udp ∨ f.before.profile = .esp ∨ f.before.profile = .ip) ∧ f.livePt0 then
    some (f.commitOnly live f.pt1SeqIdReading)
  else none

/-! ## CRC-3 PT-0, and the private units in the same octet space -/

/-- The opening of every CRC-3 reading: the next MSN, unless a gate of the context forbids it. -/
def pt0Crc3Msn (ctx : Context) (octets : Bytes) (profile : Profile) : Option (UInt16 × UInt8) := do
  let formal ← readFormalCoBase octets 1 profile .pt0Crc3
  if ctx.rejectLegacyUdpPt0UntilRefresh then none
  else
    let nextMsn ← decodeForwardFormalPt0Msn ctx formal.msn
    if legacyPt0DeltaSafeForProfile ctx (nextMsn - ctx.msn) then return (nextMsn, formal.headerCrc) else none

/-- The zero-MSB candidates are decoded here only when nothing is staged. -/
def pt0Shaped (f : Frame) : Bool := !f.staged && decide (0 < f.packet.length) && u8At f.packet 0 &&& 0x80 = 0

/-- A private unit read in a copy of the context: the new context and where its header ends. -/
def privateReading (f : Frame) (decode : Bytes → Proc (Cursor Context) Nat) : Option (Context × Nat) :=
  match exec (decode f.packet) f.before with
  | (some headerLen, ctx) => some (ctx, headerLen)
  | (none, _) => none

def udpPt0Reading (f : Frame) : Option Reading := do
  let (nextMsn, crc) ← pt0Crc3Msn f.before f.packet .udp
  if f.before.limitLegacyUdpPt0ToSequential ∧ nextMsn - f.before.msn ≠ 1 then none
  else
    let ctx := { advanceFormalUdp f.before nextMsn with limitLegacyUdpPt0ToSequential := false }
    let (ctx, headerLen) ← readCompactUdpCheck ctx f.packet 1
    let payload ← payloadAfterHeader f.packet headerLen
    let header ← buildFixedUdpIpv4Header ctx payload.length
    if crc3 header = crc then return ⟨ctx, header, payload⟩ else none

/-- The private reading of a unit in a UDP context goes by its type octet. -/
def udpPrivateReading (f : Frame) : Option (Context × Nat) :=
  match f.parsed.type with
  | .foUdp => f.privateReading decodeUdpFo
  | .foEsp => f.privateReading decodeEspFo
  | .foIp => f.privateReading decodeIpFo
  | _ => none

/-- What the private reading rebuilds, when its UDP checksum holds. -/
def checkedPrivateUdp (f : Frame) (ctx : Context) (headerLen : Nat) : Option Reading := do
  let payload ← payloadAfterHeader f.packet headerLen
  let header ← buildFixedUdpIpv4Header ctx payload.length
  if udpChecksumValid header [] payload then
    return ⟨{ ctx with msn := f.before.msn + 1 }, header, payload⟩
  else none

/-- UDP: a checksum in use is asked when both readings authenticate, and also when only the formal one does. -/
def udpPt0Crc3 (f : Frame) (live : Live) : Option Return :=
  if f.pt0Shaped ∧ f.before.profile = .udp ∧ f.before.ipv4OptionsLen = 0 ∧ f.livePt0 then
    match f.udpPt0Reading, f.udpPrivateReading with
    | some r, none =>
      if r.ctx.udpChecksumUsed ∧ !udpChecksumValid r.header [] r.payload then some (f.fail live)
      else some (f.commitReading live r)
    | some r, some (ctx, headerLen) =>
      if !r.ctx.udpChecksumUsed then some (f.fail live)
      else
        match f.checkedPrivateUdp ctx headerLen, udpChecksumValid r.header [] r.payload with
        | some p, false => some (f.commitReading live p)
        | none, true => some (f.commitReading live r)
        | _, _ => some (f.fail live)
    | none, none => some (f.fail live)
    | none, some _ => none
  else none

/-- The ESP context in which a PT-0 shape is looked at, even when its IP-ID behaviour forbids PT-0. -/
def espPt0AliasContext (f : Frame) : Bool :=
  f.before.rohcState = .dynamicEstablished && f.before.profile = .esp && f.before.ipVersion = 4 &&
    !f.largeCidSpace && !f.before.largeCid && decide (f.cid ≤ 0x0F) && f.parsed.hasAddCid == decide (f.cid ≠ 0)

/-- The formal ESP reading of the unit with another first octet. -/
def espPt0Reading (f : Frame) (first : UInt8) : Option Reading :=
  if f.before.formalPt0Crc3Retired then none
  else do
    let (nextMsn, crc) ← pt0Crc3Msn f.before [first] .esp
    let ctx := advanceFormalEsp f.before nextMsn
    let payload ← payloadAfterHeader f.packet 1
    let header ← buildFixedEspIpv4Header ctx payload.length
    if crc3 header = crc then return ⟨ctx, header, payload⟩ else none

def espPt0Crc3 (f : Frame) (live : Live) : Option Return :=
  if f.pt0Shaped ∧ f.before.ipv4OptionsLen = 0 ∧ f.espPt0AliasContext then
    let first := u8At f.packet 0
    let formal := f.espPt0Reading first
    let privateValid := (f.privateReading decodeEspFo).any fun r => r.1.profile = .esp
    if formal.isSome ∧ (!f.livePt0 ∨ privateValid) then some (f.fail live)
    else if privateValid ∧
        (List.range 7).any fun bit => (f.espPt0Reading (first ^^^ (1 <<< UInt8.ofNat bit))).isSome then
      some (f.fail live)
    else
      match formal with
      | some r => some (f.commitReading live r)
      | none => if privateValid then none else some (f.fail live)
  else none

def ipPt0Reading (f : Frame) : Option Reading := do
  let (nextMsn, crc) ← pt0Crc3Msn f.before f.packet .ip
  let ctx := advanceFormalUdp f.before nextMsn
  let payload ← payloadAfterHeader f.packet 1
  let header ← buildFixedIpIpv4Header ctx payload.length
  if crc3 header = crc then return ⟨ctx, header, payload⟩ else none

/-- IP-only: the older private form counts as a second reading too. -/
def ipPt0Crc3 (f : Frame) (live : Live) : Option Return :=
  if f.pt0Shaped ∧ f.before.profile = .ip ∧ f.before.ipv4OptionsLen = 0 ∧ f.livePt0 then
    let privateValid := (f.privateReading decodeIpFo).any fun r => r.1.profile = .ip
    match f.ipPt0Reading with
    | some r =>
      if privateValid ∨ legacyPrivateIpFoCrcValid f.packet then some (f.fail live) else some (f.commitReading live r)
    | none => if privateValid then none else some (f.fail live)
  else none

/-- The four-bit RTP form works on the labelled context. -/
def rtpPt0Reading (f : Frame) : Option Reading :=
  if f.before.rtp.tsStride = 0 then none
  else do
    let (nextMsn, crc) ← pt0Crc3Msn f.ctx f.packet .rtp
    let ctx := advanceFormalRtp f.ctx nextMsn
    let payload ← payloadAfterHeader f.packet 1
    let header ← buildFixedRtpIpv4Header ctx payload.length
    if crc3 header = crc then return ⟨ctx, header, payload⟩ else none

/-- Does the unit, framed with Add-CID, also read as a private RTP unit? -/
def rtpPrivateValid (f : Frame) : Bool :=
  f.parsed.hasAddCid &&
    match decodeFoRtp f.packet f.ctx with
    | none => false
    | some (ctx, headerLen) =>
      match payloadAfterHeader f.packet headerLen with
      | none => false
      | some payload => (buildFixedRtpIpv4Header ctx payload.length).isSome

def rtpPt0Crc3Candidate (f : Frame) (type : RohcPacketType) : Bool :=
  f.pt0Shaped && type = .foRtp && fixedRtpShape f.before && f.livePt0

/-- `type` is the type of the unit after the CID-0 correction. -/
def rtpPt0Crc3 (f : Frame) (type : RohcPacketType) (live : Live) : Option Return :=
  if f.rtpPt0Crc3Candidate type then
    match f.rtpPt0Reading, f.rtpPrivateValid with
    | some _, true => some (f.fail live)
    | some r, false => some (f.commitReading live r)
    | none, true => none
    | none, false => some (f.fail live)
  else none

/-! ## Private markers that are also PT-0 octets -/

inductive Interpretation where
  | formalPt0
  | privateFo
deriving DecidableEq, Repr

/-- A meaning of the unit that authenticated completely. -/
structure TentativeMeaning where
  interpretation : Interpretation
  context : Context
  output : Bytes
  consumedLen : Nat
  profile : Profile
  cid : Nat

/-- `reconstruct_tentative`. -/
def reconstructTentative (f : Frame) (ctx : Context) (headerLen : Nat) : Option Bytes := do
  let payload ← payloadAfterHeader f.packet headerLen
  match ctx.profile with
  | .rtp => buildRtpPacket maxReconstructedIpPacket ctx payload
  | .udp => buildUdpPacket maxReconstructedIpPacket ctx payload
  | .esp =>
    if ctx.legacyEspPayloadIncludesHeader then buildIpPacket maxReconstructedIpPacket ctx payload
    else buildEspPacket maxReconstructedIpPacket ctx payload
  | .ip => buildIpPacket maxReconstructedIpPacket ctx payload
  | _ => none

/-- The context a PT-0 leads to, by the profile of the context. -/
def advanceFormal (ctx : Context) (nextMsn : UInt16) : Context :=
  let delta := nextMsn - ctx.msn
  let ctx := { ctx with
    msn := nextMsn
    ipv4Id := if ctx.ipVersion = 4 ∧ ctx.ipv4IdBehavior = 0 then ctx.ipv4Id + delta else ctx.ipv4Id
    espSequence := if ctx.profile = .esp then ctx.espSequence + delta.toUInt32 else ctx.espSequence }
  if ctx.profile = .rtp then
    ctx.withRtp fun rtp => { rtp with lastSeq := nextMsn, lastTs := rtp.lastTs + rtp.tsStride * delta.toUInt32 }
  else ctx

/-- How many octets of the rebuilt packet the CRC-3 covers. -/
def crcHeaderLen : Profile → Nat
  | .rtp => 40
  | .ip => 20
  | _ => 28

/-- `try_formal_pt0`; it knows neither the reject gate nor the sequential limit. -/
def tryFormalPt0 (f : Frame) : Option TentativeMeaning := do
  let before := f.before
  let formal ← readFormalCoBase f.packet 1 before.profile .pt0Crc3
  let nextMsn ← decodeForwardFormalPt0Msn before formal.msn
  if !legacyPt0DeltaSafeForProfile before (nextMsn - before.msn) then none
  else
    let (ctx, headerLen) ← readCompactUdpCheck (advanceFormal before nextMsn) f.packet 1
    let output ← f.reconstructTentative ctx headerLen
    let len := crcHeaderLen ctx.profile
    if output.length < len ∨ crc3 (output.take len) ≠ formal.headerCrc then none
    else return ⟨.formalPt0, ctx, output, headerLen, before.profile, f.cid⟩

/-- `try_private_fo`. -/
def tryPrivateFo (f : Frame) : Option TentativeMeaning := do
  let (decode, profile) ← match f.parsed.type with
    | .foUdp => some (decodeUdpFo, Profile.udp)
    | .foEsp => some (decodeEspFo, Profile.esp)
    | .foIp => some (decodeIpFo, Profile.ip)
    | _ => none
  let (ctx, headerLen) ← f.privateReading decode
  if ctx.profile ≠ profile then none
  else
    let output ← f.reconstructTentative ctx headerLen
    return ⟨.privateFo, ctx, output, headerLen, ctx.profile, ctx.cid⟩

def sameMeaning (a b : TentativeMeaning) : Bool :=
  a.interpretation = b.interpretation && a.consumedLen = b.consumedLen && a.profile = b.profile && a.cid = b.cid &&
    a.output = b.output && standardContextEqual a.context b.context

/-- `private_fo_overlap` in a context in which PT-0 is live. -/
def privateFoOverlap (f : Frame) : Bool :=
  (f.parsed.type = .foUdpLite || f.parsed.type = .foEsp || f.parsed.type = .foIp || f.parsed.type = .foUdp) &&
    decide (0 < f.packet.length) && u8At f.packet 0 &&& 0x80 = 0 && f.livePt0

/-- Two meanings that differ: context and mode are put back before the feedback is made. -/
def conflictingMeanings (f : Frame) (live : Live) : Option Return :=
  if f.privateFoOverlap then
    match f.tryFormalPt0, f.tryPrivateFo with
    | some formal, some privateFo =>
      if sameMeaning formal privateFo then none
      else some (((live.setCtx f.cid f.before).setMode f.modeBefore).failWithFeedback f.cid)
    | _, _ => none
  else none

/-- The type the unit is decoded as from here on: a PT-0 that authenticated goes the way of type `foRtp`. -/
def resolveOverlap (f : Frame) (type : RohcPacketType) : RohcPacketType :=
  if f.privateFoOverlap ∧ f.tryFormalPt0.isSome then .foRtp else type

/-! ## Feedback and segments -/

def feedbackUnit (f : Frame) (type : RohcPacketType) (live : Live) : Option Return :=
  if type = .feedback then
    some (match readFeedbackPacket f.packet with
      | some _ => (-1, live)
      | none => live.failWithFeedback f.cid)
  else none

/-- Drop what was collected and fail. -/
def failSegment (f : Frame) (live : Live) : Return :=
  ({ live with handle := live.handle.dropReassembly } : Live).failWithFeedback f.cid

/-- A segment: collected (return 1), or completed and handed to `again`, or refused. -/
def segmentUnit (f : Frame) (type : RohcPacketType) (again : Live → Bytes → Return) (live : Live) : Option Return :=
  if type ≠ .segment then none
  else
    match readSegmentHeader f.packet with
    | none => some (f.failSegment live)
    | some (final, sequence) =>
      let decomp := live.handle
      if decomp.mrru = 0 ∨ f.packet.length ≤ segmentHeaderLen then some (f.failSegment live)
      else if !decomp.reassemblyActive ∧ sequence ≠ 0 then some (live.failWithFeedback f.cid)
      else
        let expected := decomp.expectedSequence
        let next := decomp.collected ++ f.packet.drop segmentHeaderLen
        if sequence ≠ expected &&& 0xFF ∨ next.length > decomp.mrru ∨ next.length > segmentBufferMax then
          some (f.failSegment { live with handle := { decomp with expectedSegmentSequence := expected } })
        else if !final then
          some (1, { live with handle := { decomp with
            reassemblyActive := true, reassembly := next, expectedSegmentSequence := expected + 1 } })
        else
          some (again { live with handle := { decomp with
            reassemblyActive := false, reassembly := [], expectedSegmentSequence := 0 } } next)

/-! ## Decoding into the live context -/

/-- The profile an IR or IR-DYN names. -/
def incomingProfile (profileId : UInt8) : Option Profile :=
  if profileId = 0x01 then some .rtp
  else if profileId = 0x02 then some .udp
  else if profileId = 0x03 then some .esp
  else if profileId = 0x04 then some .ip
  else if profileId = 0x07 then some .rtpUdpLite
  else if profileId = 0x08 then some .udpLite
  else none

def decodeIrOf : Profile → Bytes → Context → Option (Context × Nat)
  | .udp => decodeIrUdp
  | .udpLite => decodeIrUdpLite
  | .esp => decodeIrEsp
  | .ip => decodeIrIp
  | .rtpUdpLite => decodeIrRtpUdpLite
  | .rtp => decodeIrRtp
  | _ => fun _ _ => none

def decodeIrDynOf : Profile → Bytes → Proc (Cursor Context) Nat
  | .udp => decodeIrDynUdp
  | .udpLite => decodeIrDynUdpLite
  | .esp => decodeIrDynEsp
  | .ip => decodeIrDynIp
  | .rtpUdpLite => decodeIrDynRtpUdpLite
  | .rtp => decodeIrDynRtp
  | _ => fun _ => Proc.reject

/-- The context an IR is decoded into: a fresh one on a change of profile; after CRC-7 units a refresh retires the
CRC-3 form. -/
def irContext (f : Frame) (incoming : Profile) : Context :=
  if f.before.rohcState ≠ .noContext ∧ f.before.profile ≠ incoming then
    { ({} : Context) with cid := f.cid, largeCid := f.largeCidSpace, mode := f.before.mode }
  else if f.before.rohcState ≠ .noContext ∧ incoming = .esp ∧ f.before.formalPt0Crc7Seen then
    { f.ctx with formalPt0Crc3Retired := true }
  else f.ctx

/-- The gates after an IR. -/
def irGates (f : Frame) (incoming : Profile) (ctx : Context) : Context :=
  let ctx := { ctx with formalPt0SinceConfirmation := 0 }
  if f.before.rohcState ≠ .noContext ∧ f.cid ≠ 0 ∧ f.before.profile ≠ incoming ∧ profileUsesFormalPt0 incoming then
    { ctx with
      compactProfileReplacementSeen := true, rejectLegacyUdpPt0UntilRefresh := true
      limitLegacyUdpPt0ToSequential := false }
  else if f.before.rohcState ≠ .noContext ∧ f.cid ≠ 0 ∧ incoming = .udp ∧ !ctx.udpChecksumUsed then
    { ctx with rejectLegacyUdpPt0UntilRefresh := false, limitLegacyUdpPt0ToSequential := true }
  else if f.before.profile = incoming then
    { ctx with rejectLegacyUdpPt0UntilRefresh := false, limitLegacyUdpPt0ToSequential := false }
  else ctx

/-- A unit decoded into the live context: the context and where its header ends. With `crc` the rebuilt header must
have that CRC-3 before the packet leaves the call. -/
structure Decoded where
  ctx : Context
  headerLen : Nat
  crc : Option UInt8 := none

def decodeIrUnit (f : Frame) : Option Decoded := do
  let incoming ← incomingProfile f.parsed.profileId
  let (ctx, headerLen) ← decodeIrOf incoming (decoderPacket f.parsed) (f.irContext incoming)
  return { ctx := f.irGates incoming ctx, headerLen := headerLen }

def decodeIrDynUnit (f : Frame) : Option Decoded := do
  let incoming ← incomingProfile f.parsed.profileId
  match exec (decodeIrDynOf incoming (decoderPacket f.parsed)) f.ctx with
  | (none, _) => none
  | (some headerLen, ctx) =>
    let ctx := if f.before.profile = incoming then
        { ctx with
          formalPt0SinceConfirmation := 0, rejectLegacyUdpPt0UntilRefresh := false
          limitLegacyUdpPt0ToSequential := false }
      else ctx
    return { ctx := ctx, headerLen := headerLen }

/-- The PT-0 path that rebuilds the whole packet before it checks the CRC-3. -/
def decodePt0Unit (f : Frame) : Option Decoded :=
  if f.ctx.profile = .rtp ∧ f.ctx.rtp.tsStride = 0 then none
  else do
    let (nextMsn, crc) ← pt0Crc3Msn f.ctx f.packet f.ctx.profile
    if f.ctx.profile = .udp ∧ f.ctx.limitLegacyUdpPt0ToSequential ∧ nextMsn - f.ctx.msn ≠ 1 then none
    else
      let (ctx, headerLen) ← readCompactUdpCheck (advanceFormal f.ctx nextMsn) f.packet 1
      let ctx := { ctx with
        limitLegacyUdpPt0ToSequential := if ctx.profile = .udp then false else ctx.limitLegacyUdpPt0ToSequential }
      return { ctx := ctx, headerLen := headerLen, crc := some crc }

/-- `private_fo_context_ready`. -/
def privateFoContextReady (f : Frame) (profile : Profile) : Bool :=
  f.before.rohcState ≠ .noContext && f.before.profile = profile

/-- A private unit in a context of its profile; `after` is what the block does with the new context. -/
def decodePrivateUnit (f : Frame) (profile : Profile) (decode : Bytes → Proc (Cursor Context) Nat)
    (after : Context → Context) : Option Decoded :=
  if f.privateFoContextReady profile then
    match exec (decode f.packet) f.ctx with
    | (some headerLen, ctx) => some { ctx := after ctx, headerLen := headerLen }
    | (none, _) => none
  else none

/-- A private RTP unit, which is always framed with Add-CID. -/
def decodePrivateRtpUnit (f : Frame) : Option Decoded :=
  if !f.largeCidSpace ∧ f.parsed.hasAddCid ∧ (f.privateFoContextReady .rtp ∨ f.privateFoContextReady .rtpUdpLite) then do
    let (ctx, headerLen) ← decodeFoRtp f.packet f.ctx
    if ctx.rohcState ≠ .dynamicEstablished then none
    else return { ctx := { ctx with msn := ctx.rtp.lastSeq }, headerLen := headerLen }
  else none

/-- Is a unit of type `foRtp` a PT-0 here? -/
def takesPt0 (f : Frame) (preferPrivate : Bool) : Bool :=
  !preferPrivate && f.ctx.profile ≠ .rtpUdpLite && f.ctx.profile ≠ .uncompressed && decide (0 < f.packet.length) &&
    u8At f.packet 0 &&& 0x80 = 0 && livePt0ContextSupported f.ctx f.largeCidSpace f.cid f.parsed.hasAddCid

def decodeUnit (f : Frame) (type : RohcPacketType) (preferPrivate : Bool) : Option Decoded :=
  match type with
  | .ir => f.decodeIrUnit
  | .irDyn => f.decodeIrDynUnit
  | .foUdp => f.decodePrivateUnit .udp decodeUdpFo fun ctx => { ctx with msn := f.ctx.msn + 1 }
  | .foIp => f.decodePrivateUnit .ip decodeIpFo fun ctx =>
      updateIpv4IdBehavior { ctx with msn := f.ctx.msn + 1 } (f.ctx.ipVersion = 4) f.ctx.ipv4Id
  | .foEsp => f.decodePrivateUnit .esp decodeEspFo id
  | .foUdpLite => f.decodePrivateUnit .udpLite decodeUdpLiteFo id
  | .foRtp => if f.takesPt0 preferPrivate then f.decodePt0Unit else f.decodePrivateRtpUnit
  | _ => none

/-- The builder for a context. -/
def rebuild (cap : Nat) (ctx : Context) (payload : Bytes) : Option Bytes :=
  let v6 := ctx.ipVersion = 6
  match ctx.profile with
  | .udp | .udpLite => if v6 then buildIpv6UdpPacket cap ctx payload else buildUdpPacket cap ctx payload
  | .esp =>
    if ctx.legacyEspPayloadIncludesHeader then
      if v6 then buildIpv6IpPacket cap ctx payload else buildIpPacket cap ctx payload
    else buildEspPacket cap ctx payload
  | .ip => if v6 then buildIpv6IpPacket cap ctx payload else buildIpPacket cap ctx payload
  | _ => if v6 then buildIpv6RtpPacket cap ctx payload else buildRtpPacket cap ctx payload

/-- The failure of the last block: the context goes back, the feedback is made after that. -/
def failDecode (f : Frame) (live : Live) : Return := (live.setCtx f.cid f.before).failWithFeedback f.cid

/-- Does a rebuilt packet have the CRC-3 of its unit? -/
def crcHolds (d : Decoded) (octets : Bytes) : Bool :=
  match d.crc with
  | none => true
  | some crc =>
    let len := match d.ctx.profile with
      | .rtp => 40
      | .udp | .esp => 28
      | _ => 20
    decide (len ≤ octets.length) && crc3 (octets.take len) = crc

/-- From the decoded context to the packet. A PT-0 is rebuilt in a buffer of its own. -/
def finishUnit (f : Frame) (live : Live) (d : Decoded) : Return :=
  let live := live.setCtx f.cid d.ctx
  match payloadAfterHeader (decoderPacket f.parsed) d.headerLen with
  | none => f.failDecode live
  | some payload =>
    let cap := if d.crc.isSome ∧ !f.staged then min f.cap maxReconstructedIpPacket else f.cap
    match rebuild cap d.ctx payload with
    | none => f.failDecode live
    | some octets =>
      let staged := f.staged || d.crc.isSome
      let live := writeReconstruction staged live octets
      if !crcHolds d octets then f.failDecode live
      else f.finishDecoding staged octets (f.verifyIcv (live.setMode d.ctx.mode) octets)

def decodeInPlace (f : Frame) (type : RohcPacketType) (preferPrivate : Bool) (live : Live) : Return :=
  match f.decodeUnit type preferPrivate with
  | none => f.failDecode live
  | some d => f.finishUnit live d

/-! ## All blocks -/

/-- A CID-0 unit that looks like an IP packet is an RTP unit in an established RTP context. -/
def correctedType (f : Frame) : RohcPacketType :=
  if !f.largeCidSpace ∧ f.parsed.cid = 0 ∧ f.parsed.type = .uncompressed ∧ 0 < f.packet.length ∧ u8At f.packet 0 = 0 ∧
      f.ctx.rohcState = .dynamicEstablished ∧ (f.ctx.profile = .rtp ∨ f.ctx.profile = .rtpUdpLite) then .foRtp
  else f.parsed.type

/-- The blocks in order; `again` is the call of `rohc_decompress4` on a reassembled unit. -/
def decode (f : Frame) (again : Live → Bytes → Return) (live : Live) : Return :=
  let type := f.correctedType
  let preferPrivate := f.rtpPt0Crc3Candidate type && f.rtpPrivateValid
  (f.normalPacket live).getD <|
  (f.uncompressedIr live).getD <|
  (f.rtpPt0Crc7 live).getD <|
  (f.espPt0Crc7 live).getD <|
  (f.pt1SeqId live).getD <|
  (f.udpPt0Crc3 live).getD <|
  (f.espPt0Crc3 live).getD <|
  (f.ipPt0Crc3 live).getD <|
  (f.rtpPt0Crc3 type live).getD <|
  (f.conflictingMeanings live).getD <|
  (f.feedbackUnit (f.resolveOverlap type) live).getD <|
  (f.segmentUnit (f.resolveOverlap type) again live).getD <|
  f.decodeInPlace (f.resolveOverlap type) preferPrivate live

end Frame

/-! ## The entry point -/

/-- The CID of a unit, corrected from the contexts: a PT-0 of CID 0 has MSN bits where a private RTP unit has its CID. -/
def selectCid (decomp : Decompressor) (parsed : ParsedRohcPacket) : Nat × Nat :=
  let pt0 := !decomp.largeCidSpace && !parsed.hasAddCid && decide (0 < parsed.packet.length) &&
    u8At parsed.packet 0 &&& 0x80 = 0 &&
    (decomp.contexts.get 0).any fun ctx => livePt0ContextSupported ctx false 0 false
  let parsedCid := if pt0 then 0 else parsed.cid
  let unusable := (decomp.contexts.get parsedCid).all fun ctx => ctx.rohcState = .noContext
  let established := (decomp.contexts.get 0).any fun ctx => ctx.rohcState = .dynamicEstablished
  if parsed.type = .foRtp ∧ !parsed.hasAddCid ∧ unusable ∧ established then (parsedCid, 0) else (parsedCid, parsedCid)

/-- The labels a call writes to a context before it decodes. -/
def labelContext (decomp : Decompressor) (cid : Nat) (ctx : Context) : Context :=
  { ctx with
    cid := cid, largeCid := decomp.largeCidSpace
    mode := if ctx.txCount = 0 ∧ ctx.rohcState = .noContext then decomp.mode else ctx.mode }

/-- What a call fixes once the context of its unit is found. -/
def openFrame (live : Live) (pending : Option Feedback) (parsed : ParsedRohcPacket) (cid : Nat) (before : Context)
    (icv : Bytes) : Frame where
  parsed := parsed
  cid := cid
  before := before
  ctx := labelContext live.handle cid before
  modeBefore := live.handle.mode
  largeCidSpace := live.handle.largeCidSpace
  cap := if 0 < icv.length then min live.outLen maxReconstructedIpPacket else live.outLen
  icv := icv
  integrity := live.handle.integrity
  pending := pending

/-- A parsed unit, its ICV taken off. -/
def decompressParsed (again : Live → Bytes → Return) (live : Live) (pending : Option Feedback)
    (parsed : ParsedRohcPacket) (icv : Bytes) : Return :=
  let (parsedCid, cid) := selectCid live.handle parsed
  match live.handle.contexts.get cid with
  | none => live.failWithFeedback cid
  | some before =>
    let f := openFrame live pending { parsed with cid := parsedCid } cid before icv
    f.decode again (live.setCtx cid f.ctx)

/-- One unit behind the feedback elements. -/
def decompressUnit (again : Live → Bytes → Return) (live : Live) (pending : Option Feedback) (unit : Bytes) : Return :=
  let space := live.handle.largeCidSpace
  match parseRohcPacket unit space with
  | none => live.failWithFeedback 0
  | some parsed =>
    match live.handle.integrity with
    | none => decompressParsed again live pending parsed []
    | some integrity =>
      if parsed.type = .segment ∨ integrity.icvLen = 0 then decompressParsed again live pending parsed []
      else if integrity.icvLen > 32 ∨ unit.length < integrity.icvLen then live.failWithFeedback parsed.cid
      else
        let bodyLen := unit.length - integrity.icvLen
        match parseRohcPacket (unit.take bodyLen) space with
        | none => live.failWithFeedback 0
        | some parsed => decompressParsed again live pending parsed (unit.drop bodyLen)

/-- The output length is the caller's only after return 0. -/
def guardLength (ret : Return) : Return := if ret.1 = 0 then ret else (ret.1, { ret.2 with outLen := 0 })

/-- The body of `rohc_decompress4`; `again` is the nested call. -/
def decompressCall (again : Live → Bytes → Return) (live : Live) (input : Bytes) : Return :=
  guardLength <|
    if input = [] then (-1, live)
    else
      let pending := if live.handle.hasFeedback then some live.handle.lastFeedback else none
      let live := { live with handle := { live.handle with hasFeedback := false } }
      match skipFeedback input.length input with
      | none => live.failWithFeedback 0
      | some [] => (-1, live)
      | some unit => decompressUnit again live pending unit

/-- Nested calls, at most `fuel` deep. -/
def decompressNested : Nat → Live → Bytes → Return
  | 0, live, _ => (-1, live)
  | fuel + 1, live, input => decompressCall (decompressNested fuel) live input

/-- **`rohc_decompress4`**. A nested call gets the collected octets and those of the final segment less its header, so
the octets at hand bound the depth. -/
def rohcDecompress4 (decomp : Decompressor) (input out : Bytes) (cap : Nat) : Return :=
  decompressNested (decomp.reassembly.length + input.length + 1) ⟨decomp, out, cap⟩ input

end Rohccxx
