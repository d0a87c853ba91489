import Rohccxx.DecodeIrDyn
import Rohccxx.Lib.Bits

/-!
# Private first-order units

The private compact units (`core/emit_*_fo.hpp`, `core/decode_*_fo.hpp`, `core/decode_fo.hpp`). UDP, UDP-Lite, IP-only
and ESP share one layout: a marker octet, the large CID if there is one, a CRC-8, and a few whole fields. The CRC also
covers the context the unit relies on (`core/private_udp_fo_crc.hpp`). The RTP unit is packed in bits and has a CRC-7
over its own octets only.
-/

set_option autoImplicit false

namespace Rohccxx

open Octets Reader

/-! ## The context CRC -/

/-- What `append_private_fo_ip_context` appends behind the unit: the IP header of the context. -/
def privateFoIpContext (ctx : Context) : Bytes :=
  be16 ctx.profile.toWire ++ be32 (UInt32.ofNat ctx.cid) ++ [if ctx.largeCid then 1 else 0, ctx.ipVersion] ++
    if ctx.ipVersion = 4 then
      [ctx.ipv4Tos, ctx.ipv4Ttl, ctx.ipv4Flags, ctx.ipv4Protocol] ++ be32 ctx.ipv4Saddr ++ be32 ctx.ipv4Daddr ++
        [UInt8.ofNat (min ctx.ipv4OptionsLen 40)] ++ stored ctx.ipv4Options (min ctx.ipv4OptionsLen 40)
    else if ctx.ipVersion = 6 then
      [ctx.ipv6TrafficClass] ++ be32 ctx.ipv6FlowLabel ++ [ctx.ipv6NextHeader, ctx.ipv6HopLimit] ++
        ctx.ipv6Saddr.toList ++ ctx.ipv6Daddr.toList ++ [UInt8.ofNat (min ctx.ipv6ExtensionLen 128)] ++
        stored ctx.ipv6Extensions (min ctx.ipv6ExtensionLen 128)
    else []

/-- `append_private_fo_ip_context` into a buffer of 256 octets, `profileBytes` of which stay reserved. -/
def appendPrivateFoIpContext (header : Bytes) (ctx : Context) (profileBytes : Nat) : Option Bytes :=
  let ipContext := privateFoIpContext ctx
  if profileBytes > 256 ∨ ipContext.length > 256 - profileBytes ∨
      header.length > 256 - profileBytes - ipContext.length then none
  else some (header ++ ipContext)

/-- The CRC-8 over unit, IP context and the profile's own fields; 0 when they do not fit the buffer. -/
def privateFoCrc8 (header : Bytes) (ctx : Context) (tail : Bytes) : UInt8 :=
  match appendPrivateFoIpContext header ctx tail.length with
  | some data => crc8 (data ++ tail)
  | none => 0

def privateIpFoCrc8 (header : Bytes) (ctx : Context) : UInt8 := privateFoCrc8 header ctx []

def privateUdpFoCrc8 (header : Bytes) (ctx : Context) : UInt8 :=
  privateFoCrc8 header ctx (be16 ctx.udpSport ++ be16 ctx.udpDport)

def privateUdpLiteFoCrc8 (header : Bytes) (ctx : Context) : UInt8 := privateUdpFoCrc8 header ctx

def privateEspFoCrc8 (header : Bytes) (ctx : Context) : UInt8 :=
  privateFoCrc8 header ctx
    (be32 ctx.espSpi ++ be32 ctx.espSequence ++ [if ctx.legacyEspPayloadIncludesHeader then 1 else 0])

/-! ## The four CRC-8 units -/

/-- The common emitter: marker, large CID, CRC, fields. -/
def emitPrivateFo (marker : UInt8) (crc : Bytes → Context → UInt8) (fields : Context → Bytes) (cap : Nat)
    (ctx : Context) : Option Bytes :=
  if !Cid.isValidForSpace ctx.cid ctx.largeCid then none
  else
    let cid := if ctx.largeCid then Cid.largeOctets ctx.cid else []
    let header := [marker] ++ cid ++ [0x00] ++ fields ctx
    if cap < header.length then none else some (header.set (1 + cid.length) (crc header ctx))

def emitUdpFo := emitPrivateFo 0x7A privateUdpFoCrc8 fun ctx => be16 ctx.ipv4Id ++ be16 ctx.udpCheck
def emitIpFo := emitPrivateFo 0x79 privateIpFoCrc8 fun ctx => be16 ctx.ipv4Id
def emitEspFo := emitPrivateFo 0x78 privateEspFoCrc8 fun ctx => be16 ctx.ipv4Id
def emitUdpLiteFo := emitPrivateFo 0x77 privateUdpLiteFoCrc8 fun ctx =>
  be16 ctx.ipv4Id ++ be16 ctx.udpLengthOrCoverage ++ be16 ctx.udpCheck

/-- The common decoder; it writes to the context only after the CRC matched. -/
def decodePrivateFo (marker : UInt8) (fieldsLen : Nat) (crc : Bytes → Context → UInt8) (profile : Profile)
    (readFields : Bytes → Proc (Cursor Context) Unit) (bs : Bytes) : Proc (Cursor Context) Nat := do
  let ctx ← value
  let headerLen := 2 + fieldsLen + (if ctx.largeCid then Cid.encodedLen ctx.cid else 0)
  Proc.require (bs.length ≥ headerLen)
  let packetType ← u8 bs
  Proc.require (packetType = marker)
  readLargeCidIfPresent bs ctx
  Proc.require (headerLen ≤ 16)
  let crcPos ← pos
  let receivedCrc ← u8 bs
  Proc.require (crc ((bs.take headerLen).set crcPos 0x00) ctx = receivedCrc)
  readFields bs
  update (finishIrDyn profile)
  return headerLen

def decodeUdpFo := decodePrivateFo 0x7A 4 privateUdpFoCrc8 .udp fun bs => do
  let id ← u16 bs
  let check ← u16 bs
  update fun ctx => { ctx with ipv4Id := id, udpCheck := check }

def decodeIpFo := decodePrivateFo 0x79 2 privateIpFoCrc8 .ip fun bs => do
  let id ← u16 bs
  update fun ctx => { ctx with ipv4Id := id }

def decodeEspFo := decodePrivateFo 0x78 2 privateEspFoCrc8 .esp fun bs => do
  let id ← u16 bs
  update fun ctx => { ctx with ipv4Id := id }

def decodeUdpLiteFo := decodePrivateFo 0x77 6 privateUdpLiteFoCrc8 .udpLite fun bs => do
  let id ← u16 bs
  let coverage ← u16 bs
  let check ← u16 bs
  update fun ctx => { ctx with ipv4Id := id, udpLengthOrCoverage := coverage, udpCheck := check }

/-! ## The RTP unit -/

def kSeq : Nat := 6
def kTs : Nat := 8

/-- `emit_rtp_fo`. A capacity of 0 means "unchecked" in the source. -/
def emitRtpFo (cap : Nat) (ctx : Context) : Option Bytes :=
  if !Cid.isValidForSpace ctx.cid ctx.largeCid then none
  else
    let cidLen := if ctx.largeCid then Cid.encodedLen ctx.cid else 0
    let requiredLen := 5 + cidLen
    if cap ≠ 0 ∧ cap < requiredLen then none
    else
      let bw : BitWriter := ⟨List.replicate requiredLen 0, 0⟩
      let bw := (bw.writeBits 0 1).writeBits 0 1
      let bw := bw.writeBits (if ctx.largeCid then 0 else ctx.cid % 16) 4
      let bw : BitWriter := if ctx.largeCid then
          ⟨bw.buf.take 1 ++ Cid.largeOctets ctx.cid ++ bw.buf.drop (1 + cidLen), (1 + cidLen) * 8⟩
        else bw
      let bw := bw.writeBits kSeq 6
      let bw := bw.writeBits (encodeFieldLsb .rtpSequence ctx.rtp.lastSeq.toNat kSeq) kSeq
      let scaledTs := scaleTimestamp ctx.rtp.lastTs ctx.rtp.tsStride
      let bw := bw.writeBits (encodeFieldLsb .rtpTimestamp scaledTs.scaled.toNat kTs) kTs
      let payloadBytes := (bw.bitpos + 7) / 8
      let crc := crc7 (bw.buf.take payloadBytes)
      some (BitWriter.writeBits ⟨bw.buf, payloadBytes * 8⟩ crc.toNat 7).buf

/-- `BitReader::read_bits`, with the `valid` flag turned into failure: every read of the decoder is followed by a check
of the flag before anything else happens. -/
def readBits? (bs : Bytes) (bitpos bits : Nat) : Option Nat :=
  if bitpos + bits ≤ bs.length * 8 then some (readBits bs bitpos bits) else none

/-- `validate_crc7_bits` for a CRC that starts on an octet boundary or not. -/
def validateCrc7Bits (bs : Bytes) (totalBits : Nat) : Bool :=
  if totalBits < 7 then false
  else
    let dataBits := totalBits - 7
    let dataBytes := (dataBits + 7) / 8
    (crc7 (bs.take dataBytes) &&& 0x7F).toNat = readBits bs dataBits 7

/-- The octets between the first one and the field widths: a large CID that must be the context's. -/
def decodeFoRtpCid (bs : Bytes) (ctx : Context) (embeddedCid : Nat) : Option Nat :=
  if ctx.largeCid then
    if embeddedCid ≠ 0 then none
    else do
      let (wireCid, cidLen) ← Cid.readLarge (bs.drop 1)
      if wireCid ≠ ctx.cid ∨ cidLen > bs.length - 1 then none else return (1 + cidLen) * 8
  else if embeddedCid ≠ ctx.cid then none
  else some 6

/-- The timestamp an RTP FO stands for. -/
def decodeFoRtpTs (rtp : RtpContext) (seq : UInt16) (tsLsb : UInt32) : Option UInt32 :=
  if rtp.timerBasedTs then
    decodeTimerScaledLsb tsLsb 8 rtp.lastTs rtp.tsStride rtp.timerElapsedTicks rtp.tsResidue
  else
    let seqDelta := (seq - rtp.lastSeq).toUInt32
    some (decodeScaledLsbWithTimestampPrediction tsLsb 8 (rtp.lastTs + rtp.tsStride * seqDelta) rtp.lastTs rtp.tsStride
      rtp.tsResidue)

/-- The context after a sequence number and a timestamp were decoded. -/
def advanceFoRtp (ctx : Context) (seq : UInt16) (ts : UInt32) : Context :=
  { ctx with
    ipv4Id := if ctx.ipVersion = 4 ∧ ctx.ipv4IdSequential then ctx.ipv4Id + (seq - ctx.rtp.lastSeq) else ctx.ipv4Id
    rtp := { ctx.rtp with seqWindow := ⟨seq⟩, tsWindow := ⟨ts⟩, lastSeq := seq, lastTs := ts } }

/-- `decode_fo_rtp`: the new context and the octets consumed. -/
def decodeFoRtp (bs : Bytes) (ctx : Context) : Option (Context × Nat) := do
  let indicator ← readBits? bs 0 1
  if indicator ≠ 0 then none
  else
    let embeddedCid ← readBits? bs 2 4
    let bitpos ← decodeFoRtpCid bs ctx embeddedCid
    let k ← readBits? bs bitpos 6
    if k > 16 then none
    else
      let seqLsb ← readBits? bs (bitpos + 6) k
      let tsLsb ← readBits? bs (bitpos + 6 + k) 8
      let payloadBytes := (bitpos + 6 + k + 8 + 7) / 8
      let _ ← readBits? bs (payloadBytes * 8) 7
      let totalBits := payloadBytes * 8 + 7
      if !validateCrc7Bits bs totalBits then none
      else
        let seq := UInt16.ofNat (decodeFieldLsb .rtpSequence seqLsb ctx.rtp.lastSeq.toNat k)
        let ts ← decodeFoRtpTs ctx.rtp seq (UInt32.ofNat tsLsb)
        return (advanceFoRtp ctx seq ts, (totalBits + 7) / 8)

end Rohccxx
