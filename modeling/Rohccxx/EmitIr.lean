import Rohccxx.Chains
import Rohccxx.Crc

/-!
# Emitting IR and IR-DYN units

`core/emit_ir.hpp`, `core/emit_ir_dyn.hpp` and `core/emit_uncompressed.hpp`. Every emitter fills a cleared buffer of
`cap` octets; the CRC octet is written as zero and filled in at the end. `emitIrAtomically` runs an emitter in its
scratch buffer and copies the result out when it fits.
-/

set_option autoImplicit false

namespace Rohccxx

open Octets

/-- `emit_add_cid_if_needed`. -/
def emitAddCidIfNeeded (cap : Nat) (ctx : Context) (out : Bytes) : Option Bytes :=
  if !ctx.largeCid && !Cid.isSmall ctx.cid then none
  else if !ctx.largeCid && ctx.cid > 0 then put cap [0xE0 ||| (UInt8.ofNat ctx.cid &&& 0x0F)] out
  else some out

/-- The CID behind the type octet, in the large-CID space. -/
def writeLargeCidIfNeeded (cap : Nat) (ctx : Context) (out : Bytes) : Option Bytes :=
  if ctx.largeCid then Cid.writeLarge cap ctx.cid out else some out

/-- `emit_ir_prefix`: the octets up to and including the CRC octet, and the position of that octet. -/
def emitIrPrefix (cap : Nat) (ctx : Context) (profile : UInt8) : Option (Bytes × Nat) := do
  let out ← emitAddCidIfNeeded cap ctx []
  let out ← put cap [0xFD] out
  let out ← writeLargeCidIfNeeded cap ctx out
  let out ← put cap [profile, 0x00] out
  return (out, out.length - 1)

/-- `*crc_pos = utils::crc8(out, p - out)`: the CRC is taken while its own octet is still zero. -/
def fillCrc8 (crcPos : Nat) (out : Bytes) : Bytes := out.set crcPos (crc8 out)

/-! ## The RFC 5225 units -/

def emitIrEspInto (cap : Nat) (ctx : Context) : Option Bytes := do
  let (out, crcPos) ← emitIrPrefix cap ctx 0x03
  let out ← writeStandardIpStatic cap ctx out
  let out ← writeStandardEspStatic cap ctx out
  let out ← writeStandardIpDynamic cap ctx false out
  let out ← writeStandardEspDynamic cap ctx out
  return fillCrc8 crcPos out

def emitIrIpInto (cap : Nat) (ctx : Context) : Option Bytes := do
  let (out, crcPos) ← emitIrPrefix cap ctx 0x04
  let out ← writeStandardIpStatic cap ctx out
  let out ← writeStandardIpDynamic cap ctx true out
  return fillCrc8 crcPos out

def emitIrUdpInto (cap : Nat) (ctx : Context) : Option Bytes := do
  let (out, crcPos) ← emitIrPrefix cap ctx 0x02
  let out ← writeStandardIpStatic cap ctx out
  let out ← put cap (writeUdpStatic ctx) out
  let out ← writeStandardIpDynamic cap ctx false out
  let out ← writeStandardUdpEndpointDynamic cap ctx out
  return fillCrc8 crcPos out

def emitIrRtpInto (cap : Nat) (ctx : Context) : Option Bytes := do
  let (out, crcPos) ← emitIrPrefix cap ctx 0x01
  let out ← writeStandardIpStatic cap ctx out
  let out ← put cap (writeUdpStatic ctx ++ writeRtpStatic ctx) out
  let out ← writeStandardIpDynamic cap ctx false out
  let out ← writeStandardRtpDynamic cap ctx (out ++ writeUdpDynamic ctx)
  return fillCrc8 crcPos out

/-! ## The legacy units of the UDP-Lite profiles -/

/-- `legacy_ir_lengths`: the lengths of the two chains. -/
def legacyIrLengths (ctx : Context) (withRtp : Bool) (transportStaticLen transportDynamicLen : Nat) :
    Option (Nat × Nat) := do
  let (staticLen, dynamicLen) ←
    if ctx.ipVersion = 4 then
      if ctx.ipv4OptionsLen > 40 then none
      else some (10 + transportStaticLen, 6 + ctx.ipv4OptionsLen + transportDynamicLen)
    else if ctx.ipVersion = 6 then
      if ctx.ipv6ExtensionLen > 127 then none
      else some (34 + transportStaticLen, 7 + ctx.ipv6ExtensionLen + transportDynamicLen)
    else none
  if withRtp then
    let bodyLen ← rtpExtrasBodyLen ctx.rtp
    let extrasLen := if bodyLen = 0 then 1 else 1 + Cid.encodedLen bodyLen + bodyLen
    return (staticLen, dynamicLen + 8 + extrasLen)
  else return (staticLen, dynamicLen)

def legacyIrCapacityOk (cap : Nat) (ctx : Context) (dynamicOnly withRtp : Bool)
    (transportStaticLen transportDynamicLen : Nat) (trailingMode : Bool) : Bool :=
  if (ctx.largeCid && ctx.cid > Cid.largeCidMax) || (!ctx.largeCid && !Cid.isSmall ctx.cid) then false
  else
    match legacyIrLengths ctx withRtp transportStaticLen transportDynamicLen with
    | none => false
    | some (staticLen, dynamicLen) =>
      let cidLen := if ctx.largeCid then Cid.encodedLen ctx.cid else if ctx.cid > 0 then 1 else 0
      cidLen + 3 + (if dynamicOnly then 0 else staticLen) + dynamicLen + (if trailingMode then 1 else 0) ≤ cap

/-- The prefix of a legacy unit; past the capacity check its octets are written unchecked. -/
def legacyIrPrefix (cap : Nat) (ctx : Context) (packetType profile : UInt8) : Option (Bytes × Nat) := do
  let out ← emitAddCidIfNeeded cap ctx []
  let out := out ++ [packetType]
  let out ← writeLargeCidIfNeeded cap ctx out
  let out := out ++ [profile, 0x00]
  return (out, out.length - 1)

/-- The octet that closes a legacy IR: the operating mode, outside the CRC. -/
def legacyModeOctet (mode : Mode) : UInt8 := (mode.toWire &&& 0x03) <<< 2

def emitIrUdpLiteInto (cap : Nat) (ctx : Context) : Option Bytes :=
  if !legacyIrCapacityOk cap ctx false false 4 4 true then none
  else do
    let (out, crcPos) ← legacyIrPrefix cap ctx 0xFD 0x08
    let out := out ++ writeIpStaticWithProtocol ctx ctx.ipv4Protocol ++ writeUdpStatic ctx ++ writeIpDynamic ctx ++
      writeUdpLiteDynamic ctx
    return fillCrc8 crcPos out ++ [legacyModeOctet ctx.mode]

def emitIrRtpUdpLiteInto (cap : Nat) (ctx : Context) : Option Bytes :=
  if !legacyIrCapacityOk cap ctx false true 8 4 true then none
  else do
    let (out, crcPos) ← legacyIrPrefix cap ctx 0xFD 0x07
    let out := out ++ writeIpStaticWithProtocol ctx ctx.ipv4Protocol ++ writeUdpStatic ctx ++ writeRtpStatic ctx ++
      writeIpDynamic ctx ++ writeUdpLiteDynamic ctx
    let out ← writeRtpDynamic cap ctx.rtp out
    return fillCrc8 crcPos out ++ [legacyModeOctet ctx.mode]

def emitIrDynUdpLiteInto (cap : Nat) (ctx : Context) : Option Bytes :=
  if !legacyIrCapacityOk cap ctx true false 0 4 false then none
  else do
    let (out, crcPos) ← legacyIrPrefix cap ctx 0xF8 0x08
    return fillCrc8 crcPos (out ++ writeIpDynamic ctx ++ writeUdpLiteDynamic ctx)

def emitIrDynRtpUdpLiteInto (cap : Nat) (ctx : Context) : Option Bytes :=
  if !legacyIrCapacityOk cap ctx true true 0 4 false then none
  else do
    let (out, crcPos) ← legacyIrPrefix cap ctx 0xF8 0x07
    let out ← writeRtpDynamic cap ctx.rtp (out ++ writeIpDynamic ctx ++ writeUdpLiteDynamic ctx)
    return fillCrc8 crcPos out

/-! ## The emitters the compressor calls -/

def irScratchLen : Nat := 2048

def emitIrAtomically (emitter : Nat → Context → Option Bytes) (cap : Nat) (ctx : Context) : Option Bytes := do
  let scratch ← emitter irScratchLen ctx
  if scratch.length > cap then none else return scratch

def emitIrEsp := emitIrAtomically emitIrEspInto
def emitIrIp := emitIrAtomically emitIrIpInto
def emitIrUdpLite := emitIrAtomically emitIrUdpLiteInto
def emitIrUdp := emitIrAtomically emitIrUdpInto
def emitIrRtpUdpLite := emitIrAtomically emitIrRtpUdpLiteInto
def emitIrRtp := emitIrAtomically emitIrRtpInto

-- Only the UDP-Lite profiles still have an IR-DYN of their own; the others refresh with a whole IR.
def emitIrDynEsp := emitIrEsp
def emitIrDynIp := emitIrIp
def emitIrDynUdp := emitIrUdp
def emitIrDynRtp := emitIrRtp
def emitIrDynUdpLite := emitIrAtomically emitIrDynUdpLiteInto
def emitIrDynRtpUdpLite := emitIrAtomically emitIrDynRtpUdpLiteInto

/-- `emit_uncompressed_ir`: the CRC covers the header only, the packet follows it verbatim. -/
def emitUncompressedIr (cap : Nat) (ctx : Context) (input : Bytes) : Option Bytes :=
  let cidLen := if ctx.largeCid then Cid.encodedLen ctx.cid else if ctx.cid > 0 then 1 else 0
  let headerLen := cidLen + 3
  if (ctx.largeCid && ctx.cid > Cid.largeCidMax) || (!ctx.largeCid && !Cid.isSmall ctx.cid) then none
  else if cap < headerLen ∨ input.length > cap - headerLen then none
  else do
    let out := if !ctx.largeCid && ctx.cid > 0 then [0xE0 ||| UInt8.ofNat ctx.cid] else []
    let out := out ++ [0xFD]
    let out ← writeLargeCidIfNeeded cap ctx out
    let out := out ++ [0x00, 0x00]
    return fillCrc8 (out.length - 1) out ++ input

end Rohccxx
