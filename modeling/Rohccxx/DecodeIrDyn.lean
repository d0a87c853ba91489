import Rohccxx.DecodeIr

/-!
# Decoding IR-DYN units

`core/decode_ir_dyn.hpp`. The decoders work on the context in place, check the CRC over a length computed from the list
markers, and only then read the chains. They answer the length of the header.
-/

set_option autoImplicit false

namespace Rohccxx

open Octets Reader

/-! ## Lengths read off the markers -/

def ipv4OptionsExtraLen (bs : Bytes) (markerPos : Nat) : Option Nat := do
  let marker ← bs[markerPos]?
  if isEmptyList marker then return 0
  else if marker &&& 0xC0 ≠ ipv4OptionsListMarker then none
  else
    let extraLen := (marker &&& 0x3F).toNat
    if extraLen > 0 ∧ extraLen ≤ 40 ∧ bs.length - markerPos - 1 ≥ extraLen then return extraLen else none

def ipDynamicExtraLen (bs : Bytes) (dynamicPos : Nat) (ctx : Context) : Option Nat :=
  if ctx.ipVersion = 6 then do
    let markerPos := dynamicPos + 6
    let marker ← bs[markerPos]?
    if isEmptyList marker then return 0
    else if marker &&& 0x80 ≠ ipv6ExtensionsListMarker then none
    else
      let extraLen := (marker &&& 0x7F).toNat
      if extraLen > 0 ∧ extraLen ≤ 127 ∧ bs.length - markerPos - 1 ≥ extraLen then return extraLen else none
  else ipv4OptionsExtraLen bs (dynamicPos + 5)

def rtpDynamicExtraLen (bs : Bytes) (markerPos : Nat) : Option Nat := do
  let marker ← bs[markerPos]?
  if isEmptyList marker then return 0
  else if marker ≠ rtpExtrasListMarker then none
  else
    let (bodyLen, consumed) ← readSdvl14 (bs.drop (markerPos + 1))
    if bodyLen < 5 ∨ bodyLen > Cid.largeCidMax ∨ bs.length - markerPos - 1 - consumed < bodyLen then none
    else return consumed + bodyLen

/-! ## Head and tail of the family -/

def hasSmallCid (ctx : Context) : Bool := !ctx.largeCid && decide (ctx.cid > 0)

/-- The octets the CID takes in a unit: Add-CID, large CID, or none. -/
def cidOctets (ctx : Context) : Nat :=
  (if hasSmallCid ctx then 1 else 0) + (if ctx.largeCid then Cid.encodedLen ctx.cid else 0)

def irDynCrcIndex (ctx : Context) : Nat :=
  if hasSmallCid ctx then 3 else if ctx.largeCid then 2 + Cid.encodedLen ctx.cid else 2

def irDynAddCid (bs : Bytes) (ctx : Context) : Proc (Cursor Context) Unit :=
  if hasSmallCid ctx then do
    let b ← u8 bs
    Proc.require (b &&& 0xF0 = 0xE0 ∧ b &&& 0x0F = UInt8.ofNat ctx.cid &&& 0x0F)
  else pure ()

/-- Length check, CID, packet type and profile; the answer is the received CRC. -/
def irDynHead (bs : Bytes) (minLen : Nat) (profileId : UInt8) : Proc (Cursor Context) UInt8 := do
  let ctx ← value
  Proc.require (bs.length ≥ minLen)
  irDynAddCid bs ctx
  let packetType ← u8 bs
  Proc.require (packetType = 0xF8)
  readLargeCidIfPresent bs ctx
  let profile ← u8 bs
  Proc.require (profile = profileId)
  u8 bs

/-- The CRC check of the profiles without RTP: the header is `headerLenNoCid` octets plus CID and options. -/
def irDynCheck (bs : Bytes) (headerLenNoCid : Nat) (receivedCrc : UInt8) : Proc (Cursor Context) Nat := do
  let ctx ← value
  let p ← pos
  let optionsExtraLen ← scan (fun _ => ipDynamicExtraLen bs p ctx) bs
  let headerLen := headerLenNoCid + (if ctx.ipVersion = 6 then 1 else 0) + cidOctets ctx + optionsExtraLen
  Proc.require (crc8ExactMatches bs headerLen (irDynCrcIndex ctx) receivedCrc)
  return headerLen

def finishIrDyn (profile : Profile) (ctx : Context) : Context :=
  { ctx with profile := profile, rohcState := .dynamicEstablished }

def decodeIrDynEsp (bs : Bytes) : Proc (Cursor Context) Nat := do
  let ctx ← value
  let receivedCrc ← irDynHead bs (9 + if hasSmallCid ctx then 1 else 0) 0x03
  let headerLen ← irDynCheck bs 9 receivedCrc
  readLegacyIpDynamicConsistent bs
  update (finishIrDyn .esp)
  return headerLen

def decodeIrDynIp (bs : Bytes) : Proc (Cursor Context) Nat := do
  let ctx ← value
  let receivedCrc ← irDynHead bs (9 + if hasSmallCid ctx then 1 else 0) 0x04
  let headerLen ← irDynCheck bs 9 receivedCrc
  readLegacyIpDynamicConsistent bs
  update (finishIrDyn .ip)
  return headerLen

def decodeIrDynUdpLite (bs : Bytes) : Proc (Cursor Context) Nat := do
  let ctx ← value
  let receivedCrc ← irDynHead bs (13 + if hasSmallCid ctx then 1 else 0) 0x08
  let headerLen ← irDynCheck bs 13 receivedCrc
  readLegacyIpDynamicConsistent bs
  let coverage ← u16 bs
  let check ← u16 bs
  update fun ctx => finishIrDyn .udpLite { ctx with udpLengthOrCoverage := coverage, udpCheck := check }
  return headerLen

def decodeIrDynUdp (bs : Bytes) : Proc (Cursor Context) Nat := do
  let ctx ← value
  let receivedCrc ← irDynHead bs (11 + if hasSmallCid ctx then 1 else 0) 0x02
  let headerLen ← irDynCheck bs 11 receivedCrc
  readLegacyIpDynamicConsistent bs
  let check ← u16 bs
  update fun ctx => finishIrDyn .udp { ctx with udpCheck := check }
  return headerLen

/-! ## The RTP profiles -/

/-- The length of an RTP unit, read off the two list markers, and its CRC check. -/
def irDynRtpCheck (bs : Bytes) (headerLenNoCid udpLen : Nat) (receivedCrc : UInt8) : Proc (Cursor Context) Nat := do
  let ctx ← value
  let p ← pos
  let optionsExtraLen ← scan (fun _ => ipDynamicExtraLen bs p ctx) bs
  let ipDynamicLen := (if ctx.ipVersion = 6 then 7 else 6) + optionsExtraLen
  let rtpExtraLen ← scan (fun _ => rtpDynamicExtraLen bs (p + ipDynamicLen + udpLen + 8)) bs
  let candidateLen := headerLenNoCid + cidOctets ctx + (if ctx.ipVersion = 6 then 1 else 0) + optionsExtraLen +
    rtpExtraLen
  Proc.require (crc8ExactMatches bs candidateLen (irDynCrcIndex ctx) receivedCrc)
  return candidateLen

/-- The stride and the IP-ID behaviour an RTP IR-DYN implies, given the context before the unit. -/
def refreshIrDynRtp (previous : Context) (seq : UInt16) (ts : UInt32) (ctx : Context) : Context :=
  let rtp := if ctx.rtp.initialized ≠ 0 then
      match inferTimestampStride ctx.rtp.lastSeq ctx.rtp.lastTs seq ts with
      | some (stride, residue) => { ctx.rtp with tsStride := stride, tsResidue := residue }
      | none => ctx.rtp
    else ctx.rtp
  { ctx with
    ipv4IdSequential := ctx.ipVersion = 4 ∧ (previous.ipVersion = 4 ∧ previous.rtp.initialized ≠ 0) ∧
      ctx.ipv4Id - previous.ipv4Id ≠ 0 ∧ ctx.ipv4Id - previous.ipv4Id = seq - previous.rtp.lastSeq
    rtp := { rtp with lastSeq := seq, lastTs := ts } }

/-- The RTP dynamic chain; the extras list must end exactly at the end of the header. -/
def readIrDynRtp (bs : Bytes) (previous : Context) (candidateLen : Nat) : Proc (Cursor Context) Unit := do
  let vpxcc ← u8 bs
  let mpt ← u8 bs
  update fun ctx => ctx.withRtp fun rtp => { rtp with vpxcc := vpxcc, mpt := mpt }
  let seq ← u16 bs
  let ts ← u32 bs
  update (refreshIrDynRtp previous seq ts)
  readRtpExtrasList (bs.take candidateLen)
  let p ← pos
  Proc.require (p = candidateLen)

def finishIrDynRtp (ctx : Context) : Context :=
  { ctx with
    rohcState := .dynamicEstablished
    rtp := { ctx.rtp with
      seqWindow := ⟨ctx.rtp.lastSeq⟩, tsWindow := ⟨ctx.rtp.lastTs⟩
      tsResidue := if ctx.rtp.tsStride = 0 then 0 else ctx.rtp.lastTs % ctx.rtp.tsStride
      initialized := 1 } }

def decodeIrDynRtpUdpLite (bs : Bytes) : Proc (Cursor Context) Nat := do
  let previous ← value
  let receivedCrc ← irDynHead bs (22 + cidOctets previous) 0x07
  let candidateLen ← irDynRtpCheck bs 22 4 receivedCrc
  readLegacyIpDynamicConsistent bs
  let coverage ← u16 bs
  let check ← u16 bs
  update fun ctx => { ctx with udpLengthOrCoverage := coverage, udpCheck := check }
  readIrDynRtp bs previous candidateLen
  update fun ctx => finishIrDynRtp { ctx with profile := .rtpUdpLite }
  return candidateLen

/-- `decode_ir_dyn_rtp`; unlike its siblings it leaves the profile as it is. -/
def decodeIrDynRtp (bs : Bytes) : Proc (Cursor Context) Nat := do
  let previous ← value
  let receivedCrc ← irDynHead bs (20 + cidOctets previous) 0x01
  let candidateLen ← irDynRtpCheck bs 20 2 receivedCrc
  readLegacyIpDynamicConsistent bs
  let check ← u16 bs
  update fun ctx => { ctx with udpCheck := check }
  readIrDynRtp bs previous candidateLen
  update finishIrDynRtp
  return candidateLen

end Rohccxx
