import Rohccxx.PrivateFo

/-!
# Formal compressed units

`core/formal_co.hpp`: the compressed base headers of RFC 5225. Writer and reader are two separate switches over the
variant, as in the source; `emitFormalCo` puts the CID around the base.
-/

set_option autoImplicit false

namespace Rohccxx

open Octets

inductive FormalCoVariant where
  | pt0Crc3
  | pt0Crc7
  | pt1Rnd
  | pt1SeqId
  | pt1SeqTs
  | pt2Rnd
  | pt2SeqId
  | pt2SeqBoth
  | pt2SeqTs
  | coCommon
  | coRepair
deriving DecidableEq, Repr

structure FormalCoFields where
  msn : UInt16 := 0
  ipId : UInt16 := 0
  tsScaled : UInt16 := 0
  marker : Bool := false
deriving DecidableEq, Repr

def isRtpFormalCoProfile : Profile → Bool
  | .rtp => true
  | .rtpUdpLite => true
  | _ => false

def isSupportedFormalCoProfile : Profile → Bool
  | .uncompressed => false
  | .llaRtp => false
  | _ => true

/-- `live_pt0_context_supported`: the contexts in which a PT-0 may be decoded at all. -/
def livePt0ContextSupported (ctx : Context) (largeCidSpace : Bool) (cidValue : Nat) (hasAddCid : Bool) : Bool :=
  if ctx.rohcState ≠ .dynamicEstablished ∨ ctx.ipVersion ≠ 4 ∨ largeCidSpace ∨ ctx.largeCid then false
  else
    let cidOk := decide (cidValue ≤ 0x0F) && hasAddCid == decide (cidValue ≠ 0)
    match ctx.profile with
    | .rtp => cidOk && (ctx.ipv4IdBehavior = 0 || ctx.ipv4IdBehavior = 2 || ctx.ipv4IdBehavior = 3)
    | .udp => ctx.ipv4IdBehavior = 0 && cidOk
    | .esp => ctx.ipv4IdBehavior = 0 && cidOk
    | .ip => ctx.ipv4IdBehavior = 0 && cidOk
    | _ => false

def formalCoVariantValidForProfile (profile : Profile) (variant : FormalCoVariant) : Bool :=
  isSupportedFormalCoProfile profile &&
    match variant with
    | .pt1Rnd | .pt1SeqTs | .pt2Rnd | .pt2SeqBoth | .pt2SeqTs => isRtpFormalCoProfile profile
    | _ => true

def formalCoVariantUsesCrc3 : FormalCoVariant → Bool
  | .pt0Crc3 | .pt1Rnd | .pt1SeqId | .pt1SeqTs => true
  | _ => false

def formalCoMsnLsbBits (profile : Profile) (variant : FormalCoVariant) : Nat :=
  if !formalCoVariantValidForProfile profile variant then 0
  else
    match variant with
    | .pt0Crc3 | .pt1Rnd | .pt1SeqTs => 4
    | .pt0Crc7 | .pt1SeqId => if isRtpFormalCoProfile profile then 5 else 6
    | .pt2Rnd | .pt2SeqBoth | .pt2SeqTs => 7
    | .pt2SeqId => if isRtpFormalCoProfile profile then 7 else 8
    | .coCommon | .coRepair => 0

def formalCoIpIdLsbBits (profile : Profile) (variant : FormalCoVariant) : Nat :=
  if !formalCoVariantValidForProfile profile variant then 0
  else
    match variant with
    | .pt1SeqId => 4
    | .pt2SeqId => if isRtpFormalCoProfile profile then 5 else 6
    | .pt2SeqBoth => 5
    | _ => 0

def formalCoBaseLen (profile : Profile) (variant : FormalCoVariant) : Nat :=
  if !formalCoVariantValidForProfile profile variant then 0
  else
    match variant with
    | .pt0Crc3 => 1
    | .pt0Crc7 | .pt1Rnd | .pt1SeqId | .pt1SeqTs => 2
    | .pt2Rnd | .pt2SeqId | .pt2SeqTs => 3
    | .pt2SeqBoth => 4
    | .coCommon | .coRepair => 0

def formalCoHeaderCrc (variant : FormalCoVariant) (crcInput : Bytes) : UInt8 :=
  if formalCoVariantUsesCrc3 variant then crc3 crcInput else crc7 crcInput &&& 0x7F

/-- `write_formal_co_base`: the base header in a cleared buffer of `baseLen` octets. -/
def writeFormalCoBase (baseLen : Nat) (profile : Profile) (variant : FormalCoVariant) (fields : FormalCoFields)
    (crc : UInt8) : Option Bytes :=
  if baseLen = 0 ∨ baseLen > 4 ∨ !formalCoVariantValidForProfile profile variant then none
  else
    let w : BitWriter := ⟨List.replicate baseLen 0, 0⟩
    let rtp := isRtpFormalCoProfile profile
    let msn := fields.msn.toNat
    let ipId := fields.ipId.toNat
    let ts := fields.tsScaled.toNat
    let marker := fields.marker.toNat
    let crc := crc.toNat
    let written : Option BitWriter :=
      match variant with
      | .pt0Crc3 => some (((w.writeBits 0 1).writeBits (msn % 16) 4).writeBits (crc % 8) 3)
      | .pt0Crc7 =>
        if rtp then some (((w.writeBits 0x08 4).writeBits (msn % 32) 5).writeBits (crc % 128) 7)
        else some (((w.writeBits 0x04 3).writeBits (msn % 64) 6).writeBits (crc % 128) 7)
      | .pt1Rnd | .pt1SeqTs =>
        if !rtp then none
        else some (((((w.writeBits 0x05 3).writeBits marker 1).writeBits (msn % 16) 4).writeBits (ts % 32) 5).writeBits
          (crc % 8) 3)
      | .pt1SeqId =>
        if rtp then
          some ((((w.writeBits 0x09 4).writeBits (ipId % 16) 4).writeBits (msn % 32) 5).writeBits (crc % 8) 3)
        else some ((((w.writeBits 0x05 3).writeBits (crc % 8) 3).writeBits (msn % 64) 6).writeBits (ipId % 16) 4)
      | .pt2Rnd =>
        if !rtp then none
        else some (((((w.writeBits 0x06 3).writeBits (msn % 128) 7).writeBits (ts % 64) 6).writeBits marker 1).writeBits
          (crc % 128) 7)
      | .pt2SeqId =>
        if rtp then
          some ((((w.writeBits 0x18 5).writeBits (msn % 128) 7).writeBits (ipId % 32) 5).writeBits (crc % 128) 7)
        else some ((((w.writeBits 0x06 3).writeBits (ipId % 64) 6).writeBits (crc % 128) 7).writeBits (msn % 256) 8)
      | .pt2SeqBoth =>
        if !rtp then none
        else some ((((((w.writeBits 0x19 5).writeBits (msn % 128) 7).writeBits (ipId % 32) 5).writeBits
          (crc % 128) 7).writeBits (ts % 128) 7).writeBits marker 1)
      | .pt2SeqTs =>
        if !rtp then none
        else some (((((w.writeBits 0x0D 4).writeBits (msn % 128) 7).writeBits (ts % 32) 5).writeBits marker 1).writeBits
          (crc % 128) 7)
      | .coCommon | .coRepair => none
    match written with
    | some w => if (w.bitpos + 7) / 8 = baseLen then some w.buf else none
    | none => none

/-- The fields `read_formal_co_base` fills in. -/
structure FormalCoBase where
  msn : UInt16 := 0
  ipId : UInt16 := 0
  tsScaled : UInt16 := 0
  marker : Bool := false
  headerCrc : UInt8 := 0
deriving DecidableEq, Repr

/-- `read_formal_co_base` on a base header that starts `base`. -/
def readFormalCoBase (base : Bytes) (baseLen : Nat) (profile : Profile) (variant : FormalCoVariant) :
    Option FormalCoBase :=
  if baseLen = 0 ∨ !formalCoVariantValidForProfile profile variant then none
  else
    let rtp := isRtpFormalCoProfile profile
    let word := fun i n => UInt16.ofNat (readBits base i n)
    let octet := fun i n => UInt8.ofNat (readBits base i n)
    let bit := fun i => decide (readBits base i 1 ≠ 0)
    let read : Option (FormalCoBase × Nat) :=
      match variant with
      | .pt0Crc3 =>
        if readBits base 0 1 ≠ 0 then none else some ({ msn := word 1 4, headerCrc := octet 5 3 }, 8)
      | .pt0Crc7 =>
        if rtp then
          if readBits base 0 4 ≠ 0x08 then none else some ({ msn := word 4 5, headerCrc := octet 9 7 }, 16)
        else if readBits base 0 3 ≠ 0x04 then none
        else some ({ msn := word 3 6, headerCrc := octet 9 7 }, 16)
      | .pt1Rnd | .pt1SeqTs =>
        if !rtp ∨ readBits base 0 3 ≠ 0x05 then none
        else some ({ marker := bit 3, msn := word 4 4, tsScaled := word 8 5, headerCrc := octet 13 3 }, 16)
      | .pt1SeqId =>
        if rtp then
          if readBits base 0 4 ≠ 0x09 then none
          else some ({ ipId := word 4 4, msn := word 8 5, headerCrc := octet 13 3 }, 16)
        else if readBits base 0 3 ≠ 0x05 then none
        else some ({ headerCrc := octet 3 3, msn := word 6 6, ipId := word 12 4 }, 16)
      | .pt2Rnd =>
        if !rtp ∨ readBits base 0 3 ≠ 0x06 then none
        else some ({ msn := word 3 7, tsScaled := word 10 6, marker := bit 16, headerCrc := octet 17 7 }, 24)
      | .pt2SeqId =>
        if rtp then
          if readBits base 0 5 ≠ 0x18 then none
          else some ({ msn := word 5 7, ipId := word 12 5, headerCrc := octet 17 7 }, 24)
        else if readBits base 0 3 ≠ 0x06 then none
        else some ({ ipId := word 3 6, headerCrc := octet 9 7, msn := word 16 8 }, 24)
      | .pt2SeqBoth =>
        if !rtp ∨ readBits base 0 5 ≠ 0x19 then none
        else some ({ msn := word 5 7, ipId := word 12 5, headerCrc := octet 17 7, tsScaled := word 24 7,
                     marker := bit 31 }, 32)
      | .pt2SeqTs =>
        if !rtp ∨ readBits base 0 4 ≠ 0x0D then none
        else some ({ msn := word 4 7, tsScaled := word 11 5, marker := bit 16, headerCrc := octet 17 7 }, 24)
      | .coCommon | .coRepair => none
    match read with
    | some (packet, bitpos) => if (bitpos + 7) / 8 = baseLen then some packet else none
    | none => none

/-- `emit_formal_co`: Add-CID or large CID around the base header. -/
def emitFormalCo (cap : Nat) (profile : Profile) (variant : FormalCoVariant) (cidValue : Nat) (largeCidSpace : Bool)
    (fields : FormalCoFields) (crcInput : Bytes) : Option Bytes :=
  if !formalCoVariantValidForProfile profile variant ∨ !Cid.isValidForSpace cidValue largeCidSpace then none
  else do
    let base ← writeFormalCoBase (formalCoBaseLen profile variant) profile variant fields
      (formalCoHeaderCrc variant crcInput)
    let addCid := if !largeCidSpace && cidValue > 0 then [0xE0 ||| (UInt8.ofNat cidValue &&& 0x0F)] else []
    let cid := if largeCidSpace then Cid.largeOctets cidValue else []
    let out := addCid ++ base.take 1 ++ cid ++ base.drop 1
    if cap < out.length then none else return out

/-! ## MSN decoding -/

/-- The interval offset for a reorder ratio and an LSB width. -/
def formalMsnOffset (reorderRatio : UInt8) (range : Nat) : Option Nat :=
  if reorderRatio = 0 then some 1
  else if reorderRatio = 1 then some (range / 4 - 1)
  else if reorderRatio = 2 then some (range / 2 - 1)
  else if reorderRatio = 3 then some (range * 3 / 4 - 1)
  else none

/-- `decode_forward_formal_msn`: the MSN with these LSBs, only if it lies ahead of the context's. -/
def decodeForwardFormalMsn (ctx : Context) (msnLsb : UInt16) (width : Nat) : Option UInt16 :=
  if width < 2 ∨ width ≥ 16 then none
  else do
    let p ← formalMsnOffset ctx.reorderRatio (2 ^ width)
    let decoded ← decodeLsbWithP msnLsb.toNat width ctx.msn.toNat p 16
    let nextMsn := UInt16.ofNat decoded
    let forwardDelta := (nextMsn - ctx.msn).toNat
    if 0 < forwardDelta ∧ forwardDelta ≤ 2 ^ width - 1 - p then return nextMsn else none

/-- `decode_forward_formal_pt0_msn`, the four-bit form with its own table of offsets. -/
def decodeForwardFormalPt0Msn (ctx : Context) (msnLsb : UInt16) : Option UInt16 :=
  if msnLsb > 0x0F then none
  else do
    let p ← if ctx.reorderRatio = 0 then some 1 else if ctx.reorderRatio = 1 then some 3
      else if ctx.reorderRatio = 2 then some 7 else if ctx.reorderRatio = 3 then some 11 else none
    let decoded ← decodeLsbWithP msnLsb.toNat 4 ctx.msn.toNat p 16
    let nextMsn := UInt16.ofNat decoded
    let forwardDelta := (nextMsn - ctx.msn).toNat
    if 0 < forwardDelta ∧ forwardDelta ≤ 15 - p then return nextMsn else none

end Rohccxx
