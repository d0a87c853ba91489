import Rohccxx.Build
import Rohccxx.FormalCo
import Rohccxx.PacketType

/-!
# What the compressor expects the decompressor to rebuild

The predicates by which `rohc_compress4` chooses a unit: the IP-ID behaviour of a flow, the timestamp stride, whether a
PT-0 or a private unit lets the peer rebuild the packet, and whether the octets of one could be taken for the other.
-/

set_option autoImplicit false

namespace Rohccxx

open Octets

/-! ## IP-ID behaviour and timestamp stride -/

def swap16 (v : UInt16) : UInt16 := (v >>> 8) ||| (v <<< 8)

/-- `update_rtp_ipv4_id_behavior`: the new behaviour, and whether a private RTP unit can carry the change. -/
def updateRtpIpv4IdBehavior (ctx : Context) (hadIpv4RtpContext : Bool) (previousIpv4Id : UInt16)
    (previousIpv4Flags : UInt8) (previousIpv4IdSequential : Bool) (previousRtpSeq seq : UInt16) : Bool × Context :=
  if ctx.ipVersion ≠ 4 ∨ !hadIpv4RtpContext then
    (true, { ctx with ipv4IdBehavior := if ctx.ipv4Id = 0 then 3 else 2, ipv4IdSequential := false })
  else
    let idDelta := ctx.ipv4Id - previousIpv4Id
    let seqDelta := seq - previousRtpSeq
    let swappedDelta := swap16 ctx.ipv4Id - swap16 previousIpv4Id
    let behavior : UInt8 := if idDelta = seqDelta then 0 else if ctx.ipv4Id = 0 then 3
      else if swappedDelta = seqDelta then 1 else 2
    let sequential := decide (behavior ≤ 1)
    let safe := decide (ctx.ipv4Flags = previousIpv4Flags) && sequential == previousIpv4IdSequential &&
      (decide (ctx.ipv4Id = previousIpv4Id) || sequential)
    (safe, { ctx with ipv4IdBehavior := behavior, ipv4IdSequential := sequential })

/-- `update_ipv4_id_behavior` of the profiles without a sequence number of their own. -/
def updateIpv4IdBehavior (ctx : Context) (hadIpv4Context : Bool) (previousIpv4Id : UInt16) : Context :=
  if ctx.ipVersion ≠ 4 then ctx
  else
    let behavior : UInt8 :=
      if hadIpv4Context then
        if ctx.ipv4Id - previousIpv4Id = 1 then 0
        else if swap16 ctx.ipv4Id - swap16 previousIpv4Id = 1 then 1
        else if ctx.ipv4Id = 0 then 3 else 2
      else if ctx.ipv4Id = 0 then 3 else 2
    { ctx with ipv4IdBehavior := behavior, ipv4IdSequential := behavior ≤ 1 }

/-- `update_rtp_timestamp_stride`: cleared on the first packet of a context, inferred on the second, then kept. -/
def updateRtpTimestampStride (ctx : Context) (seq : UInt16) (ts : UInt32) : Context :=
  if ctx.txCount = 0 then ctx.withRtp fun rtp => { rtp with tsStride := 0, tsResidue := 0 }
  else if ctx.txCount ≠ 1 then ctx
  else
    match inferTimestampStride ctx.rtp.lastSeq ctx.rtp.lastTs seq ts with
    | some (stride, residue) => ctx.withRtp fun rtp => { rtp with tsStride := stride, tsResidue := residue }
    | none => ctx

/-! ## Which fields a compact unit relies on -/

def profileUsesFormalPt0 : Profile → Bool
  | .rtp | .udp | .esp | .ip => true
  | _ => false

/-- The IPv4 fields no compact unit carries. -/
def sameIpv4Header (previous current : Context) : Bool :=
  current.ipv4Tos = previous.ipv4Tos && current.ipv4Ttl = previous.ipv4Ttl &&
    current.ipv4Flags = previous.ipv4Flags && current.ipv4Protocol = previous.ipv4Protocol &&
    current.ipv4Saddr = previous.ipv4Saddr && current.ipv4Daddr = previous.ipv4Daddr &&
    current.ipv4OptionsLen = previous.ipv4OptionsLen && current.ipv4Options = previous.ipv4Options

/-- A dynamic IPv4 context of the profile, and an IPv4 packet. -/
def establishedIpv4 (profile : Profile) (previous current : Context) : Bool :=
  previous.profile = profile && previous.rohcState = .dynamicEstablished && previous.ipVersion = 4 &&
    current.ipVersion = 4

def rtpPt0Reconstructable (previous current : Context) : Bool :=
  let delta := current.rtp.lastSeq - previous.rtp.lastSeq
  establishedIpv4 .rtp previous current && previous.rtp.tsStride ≠ 0 &&
    delta ≠ 0 && delta ≤ 15 &&
    current.rtp.lastTs = previous.rtp.lastTs + previous.rtp.tsStride * delta.toUInt32 &&
    current.rtp.vpxcc = previous.rtp.vpxcc && current.rtp.mpt = previous.rtp.mpt &&
    current.rtp.ssrc = previous.rtp.ssrc &&
    current.udpSport = previous.udpSport && current.udpDport = previous.udpDport &&
    current.udpCheck = previous.udpCheck && sameIpv4Header previous current &&
    current.ipv4IdBehavior = previous.ipv4IdBehavior &&
    if current.ipv4IdBehavior = 0 then current.ipv4Id = previous.ipv4Id + delta
    else (current.ipv4IdBehavior = 2 || current.ipv4IdBehavior = 3) && current.ipv4Id = previous.ipv4Id

def udpPt0Reconstructable (previous current : Context) : Bool :=
  establishedIpv4 .udp previous current && current.msn = previous.msn + 1 && current.ipv4IdBehavior = 0 &&
    current.ipv4Id = previous.ipv4Id + 1 && current.udpSport = previous.udpSport &&
    current.udpDport = previous.udpDport && current.udpCheck = 0 && previous.udpCheck = 0 &&
    sameIpv4Header previous current

def espPt0Reconstructable (previous current : Context) : Bool :=
  let delta := current.espSequence - previous.espSequence
  establishedIpv4 .esp previous current && current.espSpi = previous.espSpi && current.ipv4IdBehavior = 0 &&
    sameIpv4Header previous current && 0 < delta && delta ≤ 15 && current.msn = previous.msn + delta.toUInt16 &&
    current.ipv4Id = previous.ipv4Id + delta.toUInt16

/-- `ip_private_fo_reconstructable`: entering sequential behaviour needs a refresh first, a private unit cannot
establish it. -/
def ipPrivateFoReconstructable (previous current : Context) : Bool :=
  establishedIpv4 .ip previous current && sameIpv4Header previous current &&
    (current.ipv4IdBehavior ≠ 0 || previous.ipv4IdBehavior = 0)

def ipPt0Reconstructable (previous current : Context) : Bool :=
  ipPrivateFoReconstructable previous current && current.msn = previous.msn + 1 && current.ipv4IdBehavior = 0 &&
    current.ipv4Id = previous.ipv4Id + 1

/-! ## One octet string, two readings -/

/-- Would `first` followed by the payload authenticate as a private unit in this context? -/
def decodesAsPrivate (payload : Bytes) (context : Context) (first : UInt8) : Bool :=
  let authenticates := fun (headerLen : Nat) (decode : Bytes → Proc (Cursor Context) Nat) =>
    decide (payload.length ≥ headerLen - 1) &&
      (Reader.exec (decode (first :: payload.take (headerLen - 1))) context).1.isSome
  match detectPacketType first with
  | .foUdp => authenticates 6 decodeUdpFo
  | .foEsp => authenticates 4 decodeEspFo
  | .foIp => authenticates 4 decodeIpFo
  | _ => false

/-- `pt0_private_fo_ambiguous`. Without a context it is answered for a fresh one; with the last flag also for the octets
one bit away. -/
def pt0PrivateFoAmbiguous (pt0 : UInt8) (payload : Bytes) (context : Option Context)
    (includeOneBitNeighbors : Bool) : Bool :=
  let decodes := decodesAsPrivate payload (context.getD {})
  decodes pt0 || (includeOneBitNeighbors && (List.range 7).any fun bit => decodes (pt0 ^^^ (1 <<< UInt8.ofNat bit)))

/-- The context a PT-0 with this MSN leads to: the IP-ID moves with the MSN. -/
def advanceFormalUdp (ctx : Context) (nextMsn : UInt16) : Context :=
  { ctx with msn := nextMsn, ipv4Id := ctx.ipv4Id + (nextMsn - ctx.msn) }

/-- `private_udp_fo_is_formal_pt0_ambiguous`: the private unit also reads as a CRC-3 PT-0 of the same context. With a
checksum in use, the UDP checksum decides between the two readings where it can. -/
def privateUdpFoIsFormalPt0Ambiguous (previous : Context) (privatePacket payload : Bytes) : Bool :=
  if privatePacket = [] ∨ previous.profile ≠ .udp ∨ previous.rohcState ≠ .dynamicEstablished then false
  else
    match readFormalCoBase privatePacket 1 .udp .pt0Crc3 with
    | none => false
    | some formal =>
      match decodeForwardFormalPt0Msn previous formal.msn with
      | none => false
      | some nextMsn =>
        let formalContext := advanceFormalUdp previous nextMsn
        let used := formalContext.udpChecksumUsed
        if used ∧ privatePacket.length < 3 then false
        else
          let formalHeaderLen := if used then 3 else 1
          let formalContext :=
            if used then { formalContext with udpCheck := u16At privatePacket 1 } else formalContext
          let formalPayloadLen := privatePacket.length - formalHeaderLen + payload.length
          match buildFixedUdpIpv4Header formalContext formalPayloadLen with
          | none => false
          | some header =>
            if crc3 header ≠ formal.headerCrc then false
            else if !used then true
            else
              let formalChecksumValid := udpChecksumValid header (privatePacket.drop formalHeaderLen) payload
              let privateChecksumValid :=
                match Reader.exec (decodeUdpFo privatePacket) previous with
                | (some _, privateContext) =>
                  match buildFixedUdpIpv4Header privateContext payload.length with
                  | some privateHeader => udpChecksumValid privateHeader [] payload
                  | none => false
                | (none, _) => false
              formalChecksumValid || !privateChecksumValid

/-- The context an IP-only PT-0 leads to: the IP-ID moves only when it is sequential. -/
def advanceFormalIp (ctx : Context) (nextMsn : UInt16) : Context :=
  { ctx with
    msn := nextMsn
    ipv4Id := if ctx.ipv4IdBehavior = 0 then ctx.ipv4Id + (nextMsn - ctx.msn) else ctx.ipv4Id }

def privateIpFoIsFormalPt0Ambiguous (previous : Context) (privatePacket : Bytes) (payloadLen : Nat) : Bool :=
  if privatePacket = [] ∨ previous.profile ≠ .ip ∨ previous.rohcState ≠ .dynamicEstablished then false
  else
    match readFormalCoBase privatePacket 1 .ip .pt0Crc3 with
    | none => false
    | some formal =>
      match decodeForwardFormalPt0Msn previous formal.msn with
      | none => false
      | some nextMsn =>
        match buildFixedIpIpv4Header (advanceFormalIp previous nextMsn) (privatePacket.length - 1 + payloadLen) with
        | none => false
        | some header => crc3 header = formal.headerCrc

/-- `legacy_private_ip_fo_crc_valid`: the older form of the private IP unit, whose CRC covers its own octets only. -/
def legacyPrivateIpFoCrcValid (packet : Bytes) : Bool :=
  if packet.length < 4 ∨ u8At packet 0 ≠ 0x79 then false
  else crc8 ((packet.take 4).set 1 0) = u8At packet 1

end Rohccxx
