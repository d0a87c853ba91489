import Rohccxx.Chains
import Rohccxx.Crc

/-!
# Decoding IR units

`core/decode_ir.hpp`. A unit of the four RFC 5225 profiles is tried under two grammars, the standard one and the legacy
one; `decodeIrCompatible` takes whichever accepts and refuses a unit that both accept with different results. The
UDP-Lite profiles know the legacy grammar only.
-/

set_option autoImplicit false

namespace Rohccxx

open Octets Reader

/-! ## Pieces -/

/-- `crc8_exact_matches`: the CRC of the first `crcLen` octets with the CRC octet itself taken as zero. -/
def crc8ExactMatches (bs : Bytes) (crcLen crcIndex : Nat) (receivedCrc : UInt8) : Bool :=
  if crcLen > 1024 ∨ bs.length < crcLen ∨ crcIndex ≥ crcLen then false
  else crc8 ((bs.take crcLen).set crcIndex 0x00) = receivedCrc

def readLargeCidIfPresent (bs : Bytes) (ctx : Context) : Proc (Cursor Context) Unit :=
  if !ctx.largeCid then pure ()
  else do
    available bs 1
    let (wireCid, consumed) ← scan Cid.readLarge bs
    Proc.require (wireCid = ctx.cid)
    let _ ← take bs consumed

/-- `read_legacy_mode`; it looks at the octet without consuming it. -/
def readLegacyMode (bs : Bytes) : Proc (Cursor Context) Unit := do
  available bs 1
  let value ← peek bs
  Proc.require (value &&& 0xF3 = 0)
  let wireMode := (value >>> 2) &&& 0x03
  Proc.require (wireMode = 1 ∨ wireMode = 2)
  update fun ctx => { ctx with mode := if wireMode = 1 then .optimistic else .reliable }

def readIpStaticChain (bs : Bytes) : Proc (Cursor Context) Unit := do
  available bs 1
  let first ← u8 bs
  if first >>> 4 = 4 then do
    update fun ctx => { ctx with ipVersion := 4 }
    available bs 1
    let protocol ← u8 bs
    update fun ctx => { ctx with ipv4Protocol := protocol }
    need bs 8
    let saddr ← u32 bs
    let daddr ← u32 bs
    update fun ctx => { ctx with ipv4Saddr := saddr, ipv4Daddr := daddr }
  else if first >>> 4 = 6 then do
    update fun ctx => { ctx with ipVersion := 6 }
    need bs 33
    let nextHeader ← u8 bs
    let saddr ← take bs 16
    let daddr ← take bs 16
    update fun ctx => { ctx with
      ipv6NextHeader := nextHeader, ipv6Saddr := fillCopy 16 saddr, ipv6Daddr := fillCopy 16 daddr
      ipv4Protocol := nextHeader }
  else Proc.reject

def readIpDynamicChain (bs : Bytes) : Proc (Cursor Context) Unit := do
  let ctx ← value
  if ctx.ipVersion = 6 then do
    need bs 7
    let trafficClass ← u8 bs
    let a ← u8 bs
    let b ← u8 bs
    let c ← u8 bs
    let hopLimit ← u8 bs
    let protocol ← u8 bs
    update fun ctx => { ctx with
      ipv6TrafficClass := trafficClass
      ipv6FlowLabel := ((a &&& 0x0F).toUInt32 <<< 16) ||| (b.toUInt32 <<< 8) ||| c.toUInt32
      ipv6HopLimit := hopLimit, ipv4Protocol := protocol }
    readIpv6ExtensionsList bs
  else do
    need bs 6
    let tos ← u8 bs
    let ttl ← u8 bs
    let id ← u16 bs
    let flags ← u8 bs
    update fun ctx => { ctx with ipv4Tos := tos, ipv4Ttl := ttl, ipv4Id := id, ipv4Flags := flags }
    readIpv4OptionsList bs

/-- `read_legacy_ip_dynamic_consistent`: the terminal protocol of an IPv6 dynamic chain is that of the static one. -/
def readLegacyIpDynamicConsistent (bs : Bytes) : Proc (Cursor Context) Unit := do
  let before ← value
  let staticTerminal := if before.ipVersion = 6 then before.ipv6NextHeader else before.ipv4Protocol
  readIpDynamicChain bs
  let ctx ← value
  Proc.require (ctx.ipVersion ≠ 6 ∨ ctx.ipv4Protocol = staticTerminal)

def readUdpPorts (bs : Bytes) : Proc (Cursor Context) Unit := do
  let sport ← u16 bs
  let dport ← u16 bs
  update fun ctx => { ctx with udpSport := sport, udpDport := dport }

/-! ## The legacy grammar -/

/-- The Add-CID octet of a small nonzero CID. -/
def readAddCid (bs : Bytes) (ctx : Context) (minLen : Nat) : Proc (Cursor Context) Unit :=
  if !ctx.largeCid && ctx.cid > 0 then do
    Proc.require (bs.length ≥ minLen + 1)
    let b ← u8 bs
    Proc.require (b &&& 0xF0 = 0xE0 ∧ b &&& 0x0F = UInt8.ofNat ctx.cid &&& 0x0F)
  else pure ()

/-- What every legacy IR decoder does first. The answer is the index of the CRC octet and its value. -/
def legacyIrHead (bs : Bytes) (minLen : Nat) (profileId : UInt8) : Proc (Cursor Context) (Nat × UInt8) := do
  let ctx ← value
  let hasCid := !ctx.largeCid && decide (ctx.cid > 0)
  Proc.require (bs.length ≥ minLen)
  readAddCid bs ctx minLen
  available bs 1
  let packetType ← u8 bs
  Proc.require (packetType &&& 0xFE = 0xFC)
  readLargeCidIfPresent bs ctx
  available bs 2
  let profile ← u8 bs
  Proc.require (profile = profileId)
  let receivedCrc ← u8 bs
  let crcIndex := if hasCid then 3 else if ctx.largeCid then 2 + Cid.encodedLen ctx.cid else 2
  return (crcIndex, receivedCrc)

/-- What every legacy IR decoder does last: CRC, mode octet, and the octet itself counted as consumed. -/
def legacyIrTail (bs : Bytes) (crc : Nat × UInt8) : Proc (Cursor Context) Unit := do
  let p ← pos
  Proc.require (crc8ExactMatches bs p crc.1 crc.2)
  readLegacyMode bs
  let _ ← u8 bs

def decodeIrEspLegacy (bs : Bytes) : Proc (Cursor Context) Unit := do
  let crc ← legacyIrHead bs 20 0x03
  readIpStaticChain bs
  readLegacyIpDynamicConsistent bs
  let ctx ← value
  Proc.require (ctx.ipv4Protocol = 50)
  legacyIrTail bs crc
  update fun ctx => { ctx with
    profile := .esp, rohcState := .staticEstablished, legacyEspPayloadIncludesHeader := true }

def decodeIrIpLegacy (bs : Bytes) : Proc (Cursor Context) Unit := do
  let crc ← legacyIrHead bs 20 0x04
  readIpStaticChain bs
  readLegacyIpDynamicConsistent bs
  available bs 1
  legacyIrTail bs crc
  update fun ctx => { ctx with profile := .ip, rohcState := .staticEstablished }

def decodeIrUdpLiteLegacy (bs : Bytes) : Proc (Cursor Context) Unit := do
  let crc ← legacyIrHead bs 28 0x08
  readIpStaticChain bs
  available bs 4
  readUdpPorts bs
  readLegacyIpDynamicConsistent bs
  let ctx ← value
  Proc.require (ctx.ipv4Protocol = 136)
  available bs 4
  let coverage ← u16 bs
  let check ← u16 bs
  update fun ctx => { ctx with udpLengthOrCoverage := coverage, udpCheck := check }
  available bs 1
  legacyIrTail bs crc
  update fun ctx => { ctx with profile := .udpLite, rohcState := .staticEstablished }

def decodeIrUdpLegacy (bs : Bytes) : Proc (Cursor Context) Unit := do
  let crc ← legacyIrHead bs 26 0x02
  readIpStaticChain bs
  available bs 4
  readUdpPorts bs
  readLegacyIpDynamicConsistent bs
  let ctx ← value
  Proc.require (ctx.ipv4Protocol = 17)
  available bs 2
  let check ← u16 bs
  update fun ctx => { ctx with udpCheck := check }
  available bs 1
  legacyIrTail bs crc
  update fun ctx => { ctx with profile := .udp, rohcState := .staticEstablished }

/-- The RTP dynamic chain of the legacy grammar. -/
def readRtpDynamicChain (bs : Bytes) : Proc (Cursor Context) Unit := do
  let vpxcc ← u8 bs
  let mpt ← u8 bs
  let seq ← u16 bs
  let ts ← u32 bs
  update fun ctx => ctx.withRtp fun rtp => { rtp with vpxcc := vpxcc, mpt := mpt, lastSeq := seq, lastTs := ts }
  readRtpExtrasList bs

/-- The state both legacy RTP decoders leave on success. -/
def finishLegacyRtp (profile : Profile) (ctx : Context) : Context :=
  { ctx with
    ipv4IdSequential := false, profile := profile, rohcState := .dynamicEstablished
    rtp := { ctx.rtp with
      seqWindow := ⟨ctx.rtp.lastSeq⟩, tsWindow := ⟨ctx.rtp.lastTs⟩
      tsResidue := if ctx.rtp.tsStride = 0 then 0 else ctx.rtp.lastTs % ctx.rtp.tsStride
      initialized := 1 } }

def decodeIrRtpUdpLiteLegacy (bs : Bytes) : Proc (Cursor Context) Unit := do
  let crc ← legacyIrHead bs 41 0x07
  readIpStaticChain bs
  available bs 8
  readUdpPorts bs
  let ssrc ← u32 bs
  update fun ctx => ctx.withRtp fun rtp => { rtp with ssrc := ssrc }
  readLegacyIpDynamicConsistent bs
  let ctx ← value
  Proc.require (ctx.ipv4Protocol = 136)
  available bs 12
  let coverage ← u16 bs
  let check ← u16 bs
  update fun ctx => { ctx with udpLengthOrCoverage := coverage, udpCheck := check }
  readRtpDynamicChain bs
  available bs 1
  legacyIrTail bs crc
  update (finishLegacyRtp .rtpUdpLite)

def decodeIrRtpLegacy (bs : Bytes) : Proc (Cursor Context) Unit := do
  let crc ← legacyIrHead bs 4 0x01
  readIpStaticChain bs
  available bs 8
  readUdpPorts bs
  let ssrc ← u32 bs
  update fun ctx => ctx.withRtp fun rtp => { rtp with ssrc := ssrc }
  readLegacyIpDynamicConsistent bs
  let ctx ← value
  Proc.require (ctx.ipv4Protocol = 17)
  available bs 12
  let check ← u16 bs
  update fun ctx => { ctx with udpCheck := check }
  readRtpDynamicChain bs
  available bs 1
  legacyIrTail bs crc
  update (finishLegacyRtp .rtp)

/-! ## The standard grammar -/

def readStandardIpStatic (bs : Bytes) : Proc (Cursor Context) Unit := do
  available bs 1
  let first ← u8 bs
  -- Only an innermost IP header is supported.
  Proc.require (first &&& 0x40 ≠ 0)
  if first &&& 0x80 = 0 then do
    Proc.require (first &&& 0x3F = 0)
    need bs 9
    let protocol ← u8 bs
    let saddr ← u32 bs
    let daddr ← u32 bs
    update fun ctx => { ctx with
      ipVersion := 4, ipv4Protocol := protocol, ipv4Saddr := saddr, ipv4Daddr := daddr
      ipv4OptionsLen := 0, ipv4Options := Vector.replicate 40 0 }
  else do
    Proc.require (first = 0xC0)
    need bs 33
    let nextHeader ← u8 bs
    let saddr ← take bs 16
    let daddr ← take bs 16
    update fun ctx => { ctx with
      ipVersion := 6, ipv6FlowLabel := 0, ipv6NextHeader := nextHeader, ipv4Protocol := nextHeader
      ipv6Saddr := fillCopy 16 saddr, ipv6Daddr := fillCopy 16 daddr
      ipv6ExtensionLen := 0, ipv6Extensions := Vector.replicate 128 0 }

/-- The MSN that ends the dynamic chain of an IP-only unit. -/
def readEndpointMsn (bs : Bytes) : Proc (Cursor Context) Unit := do
  need bs 2
  let msn ← u16 bs
  update fun ctx => { ctx with msn := msn }

def readStandardIpv6Dynamic (bs : Bytes) (endpoint : Bool) : Proc (Cursor Context) Unit := do
  need bs (if endpoint then 5 else 2)
  let trafficClass ← u8 bs
  let hopLimit ← u8 bs
  update fun ctx => { ctx with ipv6TrafficClass := trafficClass, ipv6HopLimit := hopLimit }
  if endpoint then do
    let control ← u8 bs
    Proc.require (control &&& 0xFC = 0)
    let msn ← u16 bs
    update fun ctx => { ctx with reorderRatio := control &&& 0x03, msn := msn }
  else pure ()

/-- The identification, present unless the behaviour says it is always zero. -/
def readStandardIpv4Id (bs : Bytes) (behavior : UInt8) : Proc (Cursor Context) Unit :=
  if behavior ≠ 3 then do
    need bs 2
    let id ← u16 bs
    update fun ctx => { ctx with ipv4Id := id }
  else update fun ctx => { ctx with ipv4Id := 0 }

def readStandardIpv4Dynamic (bs : Bytes) (endpoint : Bool) : Proc (Cursor Context) Unit := do
  need bs 3
  let control ← u8 bs
  Proc.require (if endpoint then control &&& 0xE0 = 0 else control &&& 0xF8 = 0)
  update fun ctx => { ctx with reorderRatio := if endpoint then (control >>> 3) &&& 0x03 else ctx.reorderRatio }
  let tos ← u8 bs
  let ttl ← u8 bs
  update fun ctx => { ctx with
    ipv4Flags := ((control >>> 2) &&& 0x01) <<< 1, ipv4IdBehavior := control &&& 0x03
    ipv4IdSequential := control &&& 0x03 ≤ 1, ipv4Tos := tos, ipv4Ttl := ttl }
  readStandardIpv4Id bs (control &&& 0x03)
  if endpoint then readEndpointMsn bs else pure ()

def readStandardIpDynamic (bs : Bytes) (endpoint : Bool) : Proc (Cursor Context) Unit := do
  let ctx ← value
  if ctx.ipVersion = 6 then readStandardIpv6Dynamic bs endpoint else readStandardIpv4Dynamic bs endpoint

/-- The Add-CID octet, when the CID is small and not 0. -/
def readStandardAddCid (bs : Bytes) (expected : Context) : Proc (Cursor Context) Unit :=
  if !expected.largeCid && expected.cid > 0 then do
    available bs 1
    let b ← u8 bs
    Proc.require (b = 0xE0 ||| UInt8.ofNat expected.cid)
  else pure ()

/-- The large CID; here the room is not checked before the octets are looked at. -/
def readStandardLargeCid (bs : Bytes) (expected : Context) : Proc (Cursor Context) Unit :=
  if expected.largeCid then do
    let (wireCid, cidLen) ← scan Cid.readLarge bs
    Proc.require (wireCid = expected.cid)
    let _ ← take bs cidLen
  else pure ()

/-- `read_standard_ir_prefix`: the index of the CRC octet and its value. -/
def readStandardIrPrefix (bs : Bytes) (expected : Context) (profileId : UInt8) :
    Proc (Cursor Context) (Nat × UInt8) := do
  readStandardAddCid bs expected
  available bs 1
  let packetType ← u8 bs
  Proc.require (packetType = 0xFD)
  readStandardLargeCid bs expected
  need bs 2
  let profile ← u8 bs
  Proc.require (profile = profileId)
  let crcIndex ← pos
  let receivedCrc ← u8 bs
  return (crcIndex, receivedCrc)

/-- The static chain behind the IP header. -/
def readStandardTransportStatic (bs : Bytes) (profile : Profile) : Proc (Cursor Context) Unit :=
  match profile with
  | .udp => do
    need bs 4
    readUdpPorts bs
    update fun ctx => { ctx with udpChecksumUsed := false }
  | .rtp => do
    need bs 4
    readUdpPorts bs
    update fun ctx => { ctx with udpChecksumUsed := false }
    need bs 4
    let ssrc ← u32 bs
    update fun ctx => ctx.withRtp fun rtp => { rtp with ssrc := ssrc }
  | .esp => do
    need bs 4
    let spi ← u32 bs
    update fun ctx => { ctx with espSpi := spi }
  | _ => pure ()

/-- The stride and the IP-ID behaviour an RTP refresh implies, given the context as it was before the unit. -/
def refreshRtp (previous ctx : Context) : Context :=
  let rtp := if previous.rtp.initialized ≠ 0 then
      match inferTimestampStride previous.rtp.lastSeq previous.rtp.lastTs ctx.rtp.lastSeq ctx.rtp.lastTs with
      | some (stride, residue) => { ctx.rtp with tsStride := stride, tsResidue := residue }
      | none => ctx.rtp
    else ctx.rtp
  let hadIpv4Context := previous.ipVersion = 4 ∧ previous.rohcState ≠ .noContext
  { ctx with
    ipv4IdSequential := if ctx.ipVersion = 4 ∧ hadIpv4Context then
        ctx.ipv4Id - previous.ipv4Id = ctx.rtp.lastSeq - previous.rtp.lastSeq
      else ctx.ipv4IdSequential
    msn := ctx.rtp.lastSeq
    rtp := { rtp with initialized := 1, seqWindow := ⟨ctx.rtp.lastSeq⟩, tsWindow := ⟨ctx.rtp.lastTs⟩ } }

/-- The dynamic chain behind the IP header. -/
def readStandardTransportDynamic (bs : Bytes) (previous : Context) (profile : Profile) :
    Proc (Cursor Context) Unit :=
  match profile with
  | .udp => do
    need bs 5
    let check ← u16 bs
    let msn ← u16 bs
    update fun ctx => { ctx with udpCheck := check, udpChecksumUsed := check ≠ 0, msn := msn }
    let control ← u8 bs
    Proc.require (control &&& 0xFC = 0)
    update fun ctx => { ctx with reorderRatio := control &&& 0x03 }
  | .esp => do
    need bs 5
    let sequence ← u32 bs
    update fun ctx => { ctx with espSequence := sequence }
    let control ← u8 bs
    Proc.require (control &&& 0xFC = 0)
    update fun ctx => { ctx with reorderRatio := control &&& 0x03, msn := sequence.toUInt16 }
  | .rtp => do
    need bs 10
    let check ← u16 bs
    update fun ctx => { ctx with udpCheck := check, udpChecksumUsed := check ≠ 0 }
    let indicators ← u8 bs
    -- Strides and CSRC lists are not supported here.
    Proc.require (indicators &&& 0x80 = 0 ∧ indicators &&& 0x1C = 0)
    let padExtension := indicators &&& 0x03
    let mpt ← u8 bs
    let seq ← u16 bs
    let ts ← u32 bs
    update fun ctx => refreshRtp previous { ctx with
      reorderRatio := (indicators >>> 5) &&& 0x03
      rtp := { ctx.rtp with
        vpxcc := (0x80 : UInt8) ||| ((padExtension &&& 0x02) <<< 4) ||| ((padExtension &&& 0x01) <<< 4)
        mpt := mpt, lastSeq := seq, lastTs := ts } }
  | _ => pure ()

/-- The terminal protocol a profile insists on; `none` for IP-only, which takes any. -/
def requiredProtocol : Profile → Option UInt8
  | .esp => some 50
  | .udp => some 17
  | .rtp => some 17
  | _ => none

def decodeIrStandard (profile : Profile) (profileId : UInt8) (bs : Bytes) : Proc (Cursor Context) Unit := do
  let previous ← value
  let (crcIndex, receivedCrc) ← readStandardIrPrefix bs previous profileId
  readStandardIpStatic bs
  let ctx ← value
  let terminalProtocol := if ctx.ipVersion = 6 then ctx.ipv6NextHeader else ctx.ipv4Protocol
  Proc.require (terminalProtocol = (requiredProtocol profile).getD terminalProtocol)
  update fun ctx => { ctx with legacyEspPayloadIncludesHeader := false }
  readStandardTransportStatic bs profile
  readStandardIpDynamic bs (profile = .ip)
  readStandardTransportDynamic bs previous profile
  let p ← pos
  Proc.require (crc8ExactMatches bs p crcIndex receivedCrc)
  update fun ctx => { ctx with profile := profile, rohcState := .dynamicEstablished }

/-! ## Both grammars -/

/-- `standard_context_equal`: every field but the transmitted-MSN history, which no decoder touches. -/
def standardContextEqual (a b : Context) : Bool :=
  a.toControl = b.toControl && a.toIpv4Context = b.toIpv4Context && a.toIpv6Context = b.toIpv6Context &&
    a.toTransportContext = b.toTransportContext && a.rtp = b.rtp

/-- `decode_ir_compatible`: the new context and the octets consumed. -/
def decodeIrCompatible (profile : Profile) (profileId : UInt8) (legacy : Bytes → Proc (Cursor Context) Unit)
    (bs : Bytes) (ctx : Context) : Option (Context × Nat) :=
  match run (decodeIrStandard profile profileId bs) ctx, run (legacy bs) ctx with
  | some (standardCtx, standardLen), some (legacyCtx, legacyLen) =>
    if standardLen ≠ legacyLen ∨ !standardContextEqual standardCtx legacyCtx then none
    else some (standardCtx, standardLen)
  | some standard, none => some standard
  | none, some legacy => some legacy
  | none, none => none

def decodeIrEsp := decodeIrCompatible .esp 0x03 decodeIrEspLegacy
def decodeIrIp := decodeIrCompatible .ip 0x04 decodeIrIpLegacy
def decodeIrUdp := decodeIrCompatible .udp 0x02 decodeIrUdpLegacy
def decodeIrRtp := decodeIrCompatible .rtp 0x01 decodeIrRtpLegacy
def decodeIrUdpLite (bs : Bytes) (ctx : Context) : Option (Context × Nat) := run (decodeIrUdpLiteLegacy bs) ctx
def decodeIrRtpUdpLite (bs : Bytes) (ctx : Context) : Option (Context × Nat) := run (decodeIrRtpUdpLiteLegacy bs) ctx

end Rohccxx
