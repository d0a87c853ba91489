import Rohccxx.Encoding
import Rohccxx.Lib.Proc

/-!
# Static and dynamic chains

`core/rfc5225_chains.hpp`. The `write…` functions take the octets written so far and the size of the buffer; where the
source writes without checking the room left, the octets are appended. The `standard` chains are those of RFC 5225, the
others the legacy wire format, which the UDP-Lite profiles still send. Readers work on the context in place.
-/

set_option autoImplicit false

namespace Rohccxx

open Octets

def ipv4StaticChainTerminal : UInt8 := 0x40
def ipv4OptionsListMarker : UInt8 := 0x40
def ipv6StaticChainTerminal : UInt8 := 0x60
def ipv6ExtensionsListMarker : UInt8 := 0x80
def rtpExtrasListMarker : UInt8 := 0x80
def rtpExtraCsrcPresent : UInt8 := 0x01
def rtpExtraExtensionPresent : UInt8 := 0x02
def rtpExtraPaddingPresent : UInt8 := 0x04

/-! ## Writing static chains -/

def writeIpv4StaticWithProtocol (ctx : Context) (protocol : UInt8) : Bytes :=
  [ipv4StaticChainTerminal, protocol] ++ be32 ctx.ipv4Saddr ++ be32 ctx.ipv4Daddr

def writeIpv6Static (ctx : Context) : Bytes :=
  [ipv6StaticChainTerminal, ctx.ipv6NextHeader] ++ ctx.ipv6Saddr.toList ++ ctx.ipv6Daddr.toList

def writeIpStaticWithProtocol (ctx : Context) (protocol : UInt8) : Bytes :=
  if ctx.ipVersion = 6 then writeIpv6Static ctx else writeIpv4StaticWithProtocol ctx protocol

def writeUdpStatic (ctx : Context) : Bytes := be16 ctx.udpSport ++ be16 ctx.udpDport

def writeRtpStatic (ctx : Context) : Bytes := be32 ctx.rtp.ssrc

/-! ## Writing the chains of RFC 5225 -/

def writeStandardIpStatic (cap : Nat) (ctx : Context) (out : Bytes) : Option Bytes :=
  if ctx.ipVersion = 4 then
    if ctx.ipv4OptionsLen ≠ 0 then none else put cap (writeIpv4StaticWithProtocol ctx ctx.ipv4Protocol) out
  else if ctx.ipVersion ≠ 6 ∨ ctx.ipv6ExtensionLen ≠ 0 ∨ ctx.ipv6FlowLabel ≠ 0 then none
  else put cap ([0xC0, ctx.ipv6NextHeader] ++ ctx.ipv6Saddr.toList ++ ctx.ipv6Daddr.toList) out

/-- The octets of the standard IPv4 dynamic chain. -/
def standardIpv4Dynamic (ctx : Context) (endpoint : Bool) : Bytes :=
  let behavior := ctx.ipv4IdBehavior &&& 0x03
  let df := (ctx.ipv4Flags >>> 1) &&& 0x01
  [if endpoint then ((ctx.reorderRatio &&& 0x03) <<< 3) ||| (df <<< 2) ||| behavior else (df <<< 2) ||| behavior,
    ctx.ipv4Tos, ctx.ipv4Ttl] ++ (if behavior ≠ 3 then be16 ctx.ipv4Id else []) ++
    (if endpoint then be16 ctx.msn else [])

def standardIpv6Dynamic (ctx : Context) (endpoint : Bool) : Bytes :=
  [ctx.ipv6TrafficClass, ctx.ipv6HopLimit] ++
    (if endpoint then [ctx.reorderRatio &&& 0x03] ++ be16 ctx.msn else [])

def writeStandardIpDynamic (cap : Nat) (ctx : Context) (endpoint : Bool) (out : Bytes) : Option Bytes :=
  if ctx.ipVersion = 6 then
    if ctx.ipv6ExtensionLen ≠ 0 then none else put cap (standardIpv6Dynamic ctx endpoint) out
  else if ctx.ipVersion ≠ 4 ∨ ctx.ipv4OptionsLen ≠ 0 then none
  else put cap (standardIpv4Dynamic ctx endpoint) out

def standardUdpEndpointDynamic (ctx : Context) : Bytes :=
  be16 ctx.udpCheck ++ be16 ctx.msn ++ [ctx.reorderRatio &&& 0x03]

def writeStandardUdpEndpointDynamic (cap : Nat) (ctx : Context) (out : Bytes) : Option Bytes :=
  put cap (standardUdpEndpointDynamic ctx) out

def writeStandardEspStatic (cap : Nat) (ctx : Context) (out : Bytes) : Option Bytes := put cap (be32 ctx.espSpi) out

def standardEspDynamic (ctx : Context) : Bytes := be32 ctx.espSequence ++ [ctx.reorderRatio &&& 0x03]

def writeStandardEspDynamic (cap : Nat) (ctx : Context) (out : Bytes) : Option Bytes :=
  put cap (standardEspDynamic ctx) out

def standardRtpDynamic (ctx : Context) : Bytes :=
  [(ctx.reorderRatio &&& 0x03) <<< 5, ctx.rtp.mpt] ++ be16 ctx.rtp.lastSeq ++ be32 ctx.rtp.lastTs

def writeStandardRtpDynamic (cap : Nat) (ctx : Context) (out : Bytes) : Option Bytes :=
  let cc := ctx.rtp.vpxcc &&& 0x0F
  let padding := ctx.rtp.vpxcc &&& 0x20
  let extension := ctx.rtp.vpxcc &&& 0x10
  if cc ≠ 0 ∨ padding ≠ 0 ∨ extension ≠ 0 ∨ ctx.rtp.csrcListLen ≠ 0 ∨ ctx.rtp.extensionLen ≠ 0 ∨
      ctx.rtp.paddingLen ≠ 0 then none
  else put cap (standardRtpDynamic ctx) out

/-! ## Writing legacy dynamic chains -/

/-- `write_ipv4_options_list` into exactly the room it needs; a longer list than the array is refused silently. -/
def writeIpv4OptionsList (ctx : Context) : Bytes :=
  if ctx.ipv4OptionsLen = 0 then [emptyListMarker]
  else if ctx.ipv4OptionsLen > 40 then []
  else (ipv4OptionsListMarker ||| UInt8.ofNat ctx.ipv4OptionsLen) :: stored ctx.ipv4Options ctx.ipv4OptionsLen

def writeIpv4Dynamic (ctx : Context) : Bytes :=
  [ctx.ipv4Tos, ctx.ipv4Ttl] ++ be16 ctx.ipv4Id ++ [ctx.ipv4Flags] ++ writeIpv4OptionsList ctx

def writeIpv6ExtensionsList (ctx : Context) : Bytes :=
  if ctx.ipv6ExtensionLen = 0 then [emptyListMarker]
  else if ctx.ipv6ExtensionLen > 127 then []
  else (ipv6ExtensionsListMarker ||| UInt8.ofNat ctx.ipv6ExtensionLen) :: stored ctx.ipv6Extensions ctx.ipv6ExtensionLen

def writeIpv6Dynamic (ctx : Context) : Bytes :=
  [ctx.ipv6TrafficClass, ((ctx.ipv6FlowLabel >>> 16) &&& 0x0F).toUInt8, (ctx.ipv6FlowLabel >>> 8).toUInt8,
    ctx.ipv6FlowLabel.toUInt8, ctx.ipv6HopLimit, ctx.ipv4Protocol] ++ writeIpv6ExtensionsList ctx

def writeIpDynamic (ctx : Context) : Bytes :=
  if ctx.ipVersion = 6 then writeIpv6Dynamic ctx else writeIpv4Dynamic ctx

def writeUdpDynamic (ctx : Context) : Bytes := be16 ctx.udpCheck

def writeUdpLiteDynamic (ctx : Context) : Bytes := be16 ctx.udpLengthOrCoverage ++ be16 ctx.udpCheck

/-! ## The RTP extras list -/

def rtpExtensionBytesValid (rtp : RtpContext) : Bool :=
  if rtp.extensionLen = 0 then true
  else if rtp.extensionLen < 4 ∨ rtp.extensionLen > 256 ∨ rtp.extensionLen % 4 ≠ 0 then false
  else 4 + (ofBe16 rtp.extensionBytes[2] rtp.extensionBytes[3]).toNat * 4 = rtp.extensionLen

/-- `rtp_extras_body_len`: the length of the list body, 0 when there is nothing to list. -/
def rtpExtrasBodyLen (rtp : RtpContext) : Option Nat :=
  let csrcLen := (rtp.vpxcc &&& 0x0F).toNat * 4
  let extensionPresent := rtp.vpxcc &&& 0x10 ≠ 0
  let paddingPresent := rtp.vpxcc &&& 0x20 ≠ 0
  if rtp.csrcListLen ≠ csrcLen ∨ csrcLen > 60 then none
  else if extensionPresent ∧ (rtp.extensionLen = 0 ∨ !rtpExtensionBytesValid rtp) then none
  else if ¬extensionPresent ∧ rtp.extensionLen ≠ 0 then none
  else if paddingPresent ∧ (rtp.paddingLen = 0 ∨ rtp.paddingLen > 255 ∨
      (rtp.paddingBytes.toList.getD (rtp.paddingLen - 1) 0).toNat ≠ rtp.paddingLen) then none
  else if ¬paddingPresent ∧ rtp.paddingLen ≠ 0 then none
  else if csrcLen = 0 ∧ rtp.extensionLen = 0 ∧ rtp.paddingLen = 0 then some 0
  else
    let bodyLen := 5 + csrcLen + rtp.extensionLen + rtp.paddingLen
    if bodyLen ≤ Cid.largeCidMax then some bodyLen else none

/-- The list body: flags, the three lengths, then the CSRCs, the header extension and the padding. -/
def rtpExtrasBody (rtp : RtpContext) : Bytes :=
  let flags := (if rtp.csrcListLen > 0 then rtpExtraCsrcPresent else 0) |||
    (if rtp.extensionLen > 0 then rtpExtraExtensionPresent else 0) |||
    (if rtp.paddingLen > 0 then rtpExtraPaddingPresent else 0)
  [flags, rtp.vpxcc &&& 0x0F] ++ be16 (UInt16.ofNat rtp.extensionLen) ++ [UInt8.ofNat rtp.paddingLen] ++
    stored rtp.csrcList rtp.csrcListLen ++ stored rtp.extensionBytes rtp.extensionLen ++
    stored rtp.paddingBytes rtp.paddingLen

def writeRtpExtrasList (cap : Nat) (rtp : RtpContext) (out : Bytes) : Option Bytes := do
  let bodyLen ← rtpExtrasBodyLen rtp
  if bodyLen = 0 then writeEmptyList cap out
  else
    let out ← put cap [rtpExtrasListMarker] out
    let out ← writeSdvl14 cap bodyLen out
    put cap (rtpExtrasBody rtp) out

/-- The eight fixed octets of the legacy RTP dynamic chain. -/
def rtpDynamicFixed (rtp : RtpContext) : Bytes :=
  let version := (rtp.vpxcc >>> 6) &&& 0x03
  let padding := (rtp.vpxcc >>> 5) &&& 0x01
  let extension := (rtp.vpxcc >>> 4) &&& 0x01
  let csrcCount := rtp.vpxcc &&& 0x0F
  let marker := (rtp.mpt >>> 7) &&& 0x01
  let payloadType := rtp.mpt &&& 0x7F
  [(version <<< 6) ||| (padding <<< 5) ||| (extension <<< 4) ||| csrcCount, (marker <<< 7) ||| payloadType] ++
    be16 rtp.lastSeq ++ be32 rtp.lastTs

def writeRtpDynamic (cap : Nat) (rtp : RtpContext) (out : Bytes) : Option Bytes := do
  let out ← put cap (rtpDynamicFixed rtp) out
  writeRtpExtrasList cap rtp out

/-! ## Reading lists -/

open Reader in
def readIpv4OptionsList (bs : Bytes) : Proc (Cursor Context) Unit := do
  available bs 1
  let marker ← u8 bs
  update fun ctx => { ctx with ipv4OptionsLen := 0, ipv4Options := Vector.replicate 40 0 }
  if isEmptyList marker then return ()
  else do
    Proc.require (marker &&& 0xC0 = ipv4OptionsListMarker)
    let optionsLen := (marker &&& 0x3F).toNat
    Proc.require (optionsLen ≠ 0 ∧ optionsLen ≤ 40)
    need bs optionsLen
    let options ← take bs optionsLen
    update fun ctx => { ctx with ipv4OptionsLen := optionsLen, ipv4Options := fillCopy 40 options }

open Reader in
def readIpv6ExtensionsList (bs : Bytes) : Proc (Cursor Context) Unit := do
  available bs 1
  let marker ← u8 bs
  update fun ctx => { ctx with ipv6ExtensionLen := 0, ipv6Extensions := Vector.replicate 128 0 }
  if isEmptyList marker then return ()
  else do
    Proc.require (marker &&& 0x80 = ipv6ExtensionsListMarker)
    let extLen := (marker &&& 0x7F).toNat
    Proc.require (extLen ≠ 0 ∧ extLen ≤ 128)
    need bs extLen
    let extensions ← take bs extLen
    update fun ctx => { ctx with ipv6ExtensionLen := extLen, ipv6Extensions := fillCopy 128 extensions }

/-- The context with its RTP part changed. -/
def Context.withRtp (ctx : Context) (f : RtpContext → RtpContext) : Context := { ctx with rtp := f ctx.rtp }

def RtpContext.clearExtras (rtp : RtpContext) : RtpContext :=
  { rtp with
    csrcListLen := 0, csrcList := Vector.replicate 60 0
    extensionLen := 0, extensionBytes := Vector.replicate 256 0
    paddingLen := 0, paddingBytes := Vector.replicate 255 0 }

/-- The checks `read_rtp_extras_list` makes on the five octets that open the body, against the first RTP octet. -/
def rtpExtrasHeaderOk (vpxcc flags csrcCount : UInt8) (extensionLen paddingLen bodyLen : Nat) : Bool :=
  let csrcLen := csrcCount.toNat * 4
  csrcCount = vpxcc &&& 0x0F && csrcLen ≤ 60 &&
    (flags &&& rtpExtraCsrcPresent ≠ 0) = (csrcLen > 0) &&
    (flags &&& rtpExtraExtensionPresent ≠ 0) = (vpxcc &&& 0x10 ≠ 0) &&
    (flags &&& rtpExtraPaddingPresent ≠ 0) = (vpxcc &&& 0x20 ≠ 0) &&
    (flags &&& rtpExtraExtensionPresent = 0) = (extensionLen = 0) &&
    (flags &&& rtpExtraPaddingPresent = 0) = (paddingLen = 0) &&
    extensionLen ≤ 256 && paddingLen ≤ 255 && bodyLen - 5 = csrcLen + extensionLen + paddingLen

open Reader in
/-- `read_rtp_extras_list`. The five octets read first are part of the body, so `body_end - pos` is `body_len - 5`. -/
def readRtpExtrasList (bs : Bytes) : Proc (Cursor Context) Unit := do
  update fun ctx => ctx.withRtp RtpContext.clearExtras
  available bs 1
  let marker ← u8 bs
  if isEmptyList marker then update fun ctx => ctx.withRtp fun rtp => { rtp with vpxcc := rtp.vpxcc &&& 0xC0 }
  else do
    Proc.require (marker = rtpExtrasListMarker)
    let (bodyLen, consumed) ← scan readSdvl14 bs
    Proc.require (bodyLen ≥ 5)
    let _ ← take bs consumed
    need bs bodyLen
    let flags ← u8 bs
    Proc.require (flags &&& ~~~0x07 = 0)
    let csrcCount ← u8 bs
    let extensionLen ← u16 bs
    let paddingLen ← u8 bs
    let ctx ← value
    Proc.require (rtpExtrasHeaderOk ctx.rtp.vpxcc flags csrcCount extensionLen.toNat paddingLen.toNat bodyLen)
    let csrcList ← take bs (csrcCount.toNat * 4)
    let extensionBytes ← take bs extensionLen.toNat
    let paddingBytes ← take bs paddingLen.toNat
    update fun ctx => ctx.withRtp fun rtp =>
      { rtp with
        csrcListLen := csrcCount.toNat * 4, csrcList := fillCopy 60 csrcList
        extensionLen := extensionLen.toNat, extensionBytes := fillCopy 256 extensionBytes
        paddingLen := paddingLen.toNat, paddingBytes := fillCopy 255 paddingBytes }
    let ctx ← value
    Proc.require (rtpExtrasBodyLen ctx.rtp = some bodyLen)

end Rohccxx
