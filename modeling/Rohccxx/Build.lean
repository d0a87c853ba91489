import Rohccxx.Protocols

/-!
# Rebuilding packets

The Internet checksum and the packet builders of the C API. A builder makes all its checks before it touches the output
buffer, so it is a function to `Option Bytes`: the octets written to the front of the buffer, or nothing written. Sizes
are far below `SIZE_MAX`, so `checked_packet_size` reduces to its bound of 65535.
-/

set_option autoImplicit false

namespace Rohccxx

open Octets

/-! ## The Internet checksum -/

/-- The sum of the 16-bit words of an octet string, an odd last octet counted as the high half of a word. -/
def wordSum : Bytes → UInt32
  | [] => 0
  | [hi] => (ofBe16 hi 0).toUInt32
  | hi :: lo :: rest => (ofBe16 hi lo).toUInt32 + wordSum rest

/-- `while(sum >> 16) sum = (sum & 0xFFFF) + (sum >> 16)`: from 32 bits two rounds are enough. -/
def foldCarry (sum : UInt32) : UInt32 :=
  let round := fun s : UInt32 => if s >>> 16 ≠ 0 then (s &&& (0xFFFF : UInt32)) + (s >>> 16) else s
  round (round sum)

def ipv4Checksum (hdr : Bytes) : UInt16 := ~~~(foldCarry (wordSum hdr)).toUInt16

/-- `InternetChecksum`: a sum over chunks, with the odd octet of the last chunk held back. -/
structure InternetChecksum where
  sum : UInt32 := 0
  high : Option UInt8 := none

namespace InternetChecksum

/-- The words of a chunk, and the octet left over. -/
def addWords (sum : UInt32) : Bytes → InternetChecksum
  | [] => ⟨sum, none⟩
  | [hi] => ⟨sum, some hi⟩
  | hi :: lo :: rest => addWords (sum + (ofBe16 hi lo).toUInt32) rest

def add (c : InternetChecksum) (data : Bytes) : InternetChecksum :=
  match c.high, data with
  | some hi, lo :: rest => addWords (c.sum + (ofBe16 hi lo).toUInt32) rest
  | some hi, [] => ⟨c.sum, some hi⟩
  | none, data => addWords c.sum data

def valid (c : InternetChecksum) : Bool :=
  let sum := match c.high with
    | some hi => c.sum + (ofBe16 hi 0).toUInt32
    | none => c.sum
  (foldCarry sum).toUInt16 = 0xFFFF

end InternetChecksum

/-- `udp_checksum_valid`: the UDP checksum of a 28-octet IPv4/UDP header with the payload in two pieces. A zero field
means "no checksum" and is refused. -/
def udpChecksumValid (header pre payload : Bytes) : Bool :=
  if u8At header 26 = 0 ∧ u8At header 27 = 0 then false
  else
    let pseudoTail : Bytes := [0, 17, u8At header 24, u8At header 25]
    let c : InternetChecksum := {}
    let c := c.add ((header.drop 12).take 8)
    let c := c.add pseudoTail
    let c := c.add ((header.drop 20).take 8)
    ((c.add pre).add payload).valid

/-! ## IPv4 headers -/

/-- An IPv4 header with its checksum field still zero. -/
def ipv4HeaderRaw (ctx : Context) (protocol : UInt8) (total : Nat) (options : Bytes) : Bytes :=
  [(0x40 : UInt8) ||| UInt8.ofNat ((20 + ctx.ipv4OptionsLen) / 4), ctx.ipv4Tos] ++ be16 (UInt16.ofNat total) ++ be16 ctx.ipv4Id ++
    [ctx.ipv4Flags <<< 5, 0, ctx.ipv4Ttl, protocol, 0, 0] ++ be32 ctx.ipv4Saddr ++ be32 ctx.ipv4Daddr ++ options

/-- The checksum of a header written into octets 10 and 11. -/
def fillChecksum (hdr : Bytes) : Bytes :=
  let checksum := ipv4Checksum hdr
  (hdr.set 10 (checksum >>> 8).toUInt8).set 11 checksum.toUInt8

def ipv4Header (ctx : Context) (protocol : UInt8) (total : Nat) : Bytes :=
  fillChecksum (ipv4HeaderRaw ctx protocol total (stored ctx.ipv4Options ctx.ipv4OptionsLen))

/-! ## IPv4 packets -/

/-- Room and size checks shared by the IPv4 builders. -/
def emitIpv4 (cap : Nat) (ctx : Context) (protocol : UInt8) (upper : Bytes) : Option Bytes :=
  let total := 20 + ctx.ipv4OptionsLen + upper.length
  if total > 0xFFFF ∨ cap < total then none else some (ipv4Header ctx protocol total ++ upper)

def buildIpPacket (cap : Nat) (ctx : Context) (payload : Bytes) : Option Bytes :=
  emitIpv4 cap ctx ctx.ipv4Protocol payload

/-- The UDP header with its length field, which UDP-Lite uses for the coverage. -/
def udpHeader (ctx : Context) (lengthOrCoverage : UInt16) : Bytes :=
  be16 ctx.udpSport ++ be16 ctx.udpDport ++ be16 lengthOrCoverage ++ be16 ctx.udpCheck

def buildUdpPacket (cap : Nat) (ctx : Context) (payload : Bytes) : Option Bytes :=
  let lite := ctx.profile = .udpLite
  let udpTotal := UInt16.ofNat (8 + payload.length)
  emitIpv4 cap ctx (if lite then 136 else 17)
    (udpHeader ctx (if lite then ctx.udpLengthOrCoverage else udpTotal) ++ payload)

/-- The RTP header, its lists, the payload and the padding. -/
def rtpWire (rtp : RtpContext) (payload : Bytes) : Bytes :=
  [rtp.vpxcc, rtp.mpt] ++ be16 rtp.lastSeq ++ be32 rtp.lastTs ++ be32 rtp.ssrc ++
    stored rtp.csrcList rtp.csrcListLen ++ stored rtp.extensionBytes rtp.extensionLen ++ payload ++
    stored rtp.paddingBytes rtp.paddingLen

def buildRtpPacket (cap : Nat) (ctx : Context) (payload : Bytes) : Option Bytes := do
  let _ ← rtpExtrasBodyLen ctx.rtp
  let lite := ctx.profile = .rtpUdpLite
  let wire := rtpWire ctx.rtp payload
  let udpTotal := UInt16.ofNat (8 + wire.length)
  emitIpv4 cap ctx (if lite then 136 else 17)
    (udpHeader ctx (if lite then ctx.udpLengthOrCoverage else udpTotal) ++ wire)

/-! ## IPv6 packets -/

def ipv6Header (ctx : Context) (upperLen : Nat) : Bytes :=
  be32 ((0x60000000 : UInt32) ||| (ctx.ipv6TrafficClass.toUInt32 <<< 20) ||| (ctx.ipv6FlowLabel &&& 0x000FFFFF)) ++
    be16 (UInt16.ofNat upperLen) ++ [ctx.ipv6NextHeader, ctx.ipv6HopLimit] ++ ctx.ipv6Saddr.toList ++
    ctx.ipv6Daddr.toList ++ stored ctx.ipv6Extensions ctx.ipv6ExtensionLen

def emitIpv6 (cap : Nat) (ctx : Context) (upper : Bytes) : Option Bytes :=
  let upperLen := ctx.ipv6ExtensionLen + upper.length
  if upperLen > 0xFFFF ∨ cap < 40 + upperLen then none else some (ipv6Header ctx upperLen ++ upper)

def buildIpv6IpPacket (cap : Nat) (ctx : Context) (payload : Bytes) : Option Bytes := emitIpv6 cap ctx payload

def buildIpv6UdpPacket (cap : Nat) (ctx : Context) (payload : Bytes) : Option Bytes :=
  let udpTotal := UInt16.ofNat (8 + payload.length)
  emitIpv6 cap ctx
    (udpHeader ctx (if ctx.profile = .udpLite then ctx.udpLengthOrCoverage else udpTotal) ++ payload)

def buildIpv6RtpPacket (cap : Nat) (ctx : Context) (payload : Bytes) : Option Bytes := do
  let _ ← rtpExtrasBodyLen ctx.rtp
  let wire := rtpWire ctx.rtp payload
  let udpTotal := UInt16.ofNat (8 + wire.length)
  emitIpv6 cap ctx
    (udpHeader ctx (if ctx.profile = .rtpUdpLite then ctx.udpLengthOrCoverage else udpTotal) ++ wire)

/-! ## ESP packets -/

/-- `build_esp_packet`: the ESP header goes in front of the payload and the IP builder makes the rest. -/
def buildEspPacket (cap : Nat) (ctx : Context) (payload : Bytes) : Option Bytes :=
  let v6 := ctx.ipVersion = 6
  let ipLen := if v6 then 40 else 20
  let espPayload := be32 ctx.espSpi ++ be32 ctx.espSequence ++ payload
  let limit := if v6 then 0xFFFF - ctx.ipv6ExtensionLen else 0xFFFF - ipLen
  if espPayload.length > limit ∨ cap < ipLen + espPayload.length then none
  else if v6 then buildIpv6IpPacket cap ctx espPayload else buildIpPacket cap ctx espPayload

/-! ## Fixed headers of the formal units -/

/-- The IPv4 header the fixed builders write: no options, whatever the context holds. -/
def fixedIpv4Header (ctx : Context) (protocol : UInt8) (total : Nat) (transport : Bytes) : Bytes :=
  fillChecksum ([0x45, ctx.ipv4Tos] ++ be16 (UInt16.ofNat total) ++ be16 ctx.ipv4Id ++
    [ctx.ipv4Flags <<< 5, 0, ctx.ipv4Ttl, protocol, 0, 0] ++ be32 ctx.ipv4Saddr ++ be32 ctx.ipv4Daddr) ++ transport

def buildFixedRtpIpv4Header (ctx : Context) (payloadLen : Nat) : Option Bytes :=
  if ctx.ipVersion ≠ 4 ∨ ctx.ipv4OptionsLen ≠ 0 ∨ ctx.rtp.vpxcc &&& 0x3F ≠ 0 ∨ ctx.rtp.csrcListLen ≠ 0 ∨
      ctx.rtp.extensionLen ≠ 0 ∨ ctx.rtp.paddingLen ≠ 0 ∨ payloadLen > 0xFFFF - 40 then none
  else some (fixedIpv4Header ctx 17 (40 + payloadLen)
    (udpHeader ctx (UInt16.ofNat (20 + payloadLen)) ++ [ctx.rtp.vpxcc, ctx.rtp.mpt] ++ be16 ctx.rtp.lastSeq ++
      be32 ctx.rtp.lastTs ++ be32 ctx.rtp.ssrc))

def buildFixedUdpIpv4Header (ctx : Context) (payloadLen : Nat) : Option Bytes :=
  if ctx.profile ≠ .udp ∨ ctx.ipVersion ≠ 4 ∨ ctx.ipv4OptionsLen ≠ 0 ∨ payloadLen > 0xFFFF - 28 then none
  else some (fixedIpv4Header ctx 17 (28 + payloadLen) (udpHeader ctx (UInt16.ofNat (8 + payloadLen))))

def buildFixedEspIpv4Header (ctx : Context) (payloadLen : Nat) : Option Bytes :=
  if ctx.profile ≠ .esp ∨ ctx.ipVersion ≠ 4 ∨ ctx.ipv4OptionsLen ≠ 0 ∨ payloadLen > 0xFFFF - 28 then none
  else some (fixedIpv4Header ctx 50 (28 + payloadLen) (be32 ctx.espSpi ++ be32 ctx.espSequence))

def buildFixedIpIpv4Header (ctx : Context) (payloadLen : Nat) : Option Bytes :=
  if ctx.profile ≠ .ip ∨ ctx.ipVersion ≠ 4 ∨ ctx.ipv4OptionsLen ≠ 0 ∨ payloadLen > 0xFFFF - 20 then none
  else some (fixedIpv4Header ctx ctx.ipv4Protocol (20 + payloadLen) [])

end Rohccxx
