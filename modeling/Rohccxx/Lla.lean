import Rohccxx.Compress
import Rohccxx.Decompress

/-!
# Link-layer assistance

`core/lla.hpp`, `core/context_crc.hpp` and the RFC 4362 calls of both handles: no-header packets, of which only the
payload travels, context checks, and context synchronisation packets, which wrap an ordinary unit. The calls ask for a
contract with the assisting layer; a handle stores only contracts that passed the check (`LlaSettings`).
-/

set_option autoImplicit false

namespace Rohccxx

open Octets

/-! ## Contracts -/

/-- `lla::AssistingLayerContract`. -/
structure AssistingLayerContract where
  identifiesPacketTypes : Bool := false
  preservesOrder : Bool := false
  reportsLoss : Bool := false
  reportsResidualErrors : Bool := false
  deliversFeedback : Bool := false
  protectsContextPackets : Bool := false
  supportsContextSynchronization : Bool := false
  supportsContextCheck : Bool := false
deriving DecidableEq, Repr

/-- `lla::ZeroByteFlow`. -/
structure ZeroByteFlow where
  ipv4UdpRtp : Bool := false
  udpChecksumDisabled : Bool := false
  rtpSequenceIncrementsByOne : Bool := false
  compressorObservedInOrder : Bool := false
  synchronizedTiming : Bool := false
deriving DecidableEq, Repr

/-- The `valid` of `validate_rfc3243_zero_byte_assumptions`. -/
def validateRfc3243ZeroByteAssumptions (contract : AssistingLayerContract) : Bool :=
  contract.identifiesPacketTypes && contract.preservesOrder && contract.reportsLoss && contract.reportsResidualErrors &&
    contract.deliversFeedback

def validateRfc3409LowerLayerGuidelines (contract : AssistingLayerContract) : Bool :=
  validateRfc3243ZeroByteAssumptions contract && contract.protectsContextPackets &&
    contract.supportsContextSynchronization && contract.supportsContextCheck

def validateRfc3243ZeroByteFlow (contract : AssistingLayerContract) (flow : ZeroByteFlow) : Bool :=
  validateRfc3243ZeroByteAssumptions contract && flow.ipv4UdpRtp && flow.udpChecksumDisabled &&
    flow.rtpSequenceIncrementsByOne && flow.compressorObservedInOrder && flow.synchronizedTiming

def canEmitNoHeaderPacketForFlow := validateRfc3243ZeroByteFlow

def canEmitContextSynchronizationPacket (contract : AssistingLayerContract) : Bool :=
  validateRfc3409LowerLayerGuidelines contract && contract.supportsContextSynchronization

def canEmitContextCheckPacket (contract : AssistingLayerContract) : Bool :=
  validateRfc3409LowerLayerGuidelines contract && contract.supportsContextCheck

def llaRuntimeContractValid (contract : AssistingLayerContract) (flow : ZeroByteFlow) : Bool :=
  validateRfc3409LowerLayerGuidelines contract && validateRfc3243ZeroByteFlow contract flow

/-- What a handle stores once `enable_rfc4362_lla` returned 0. -/
structure LlaSettings where
  contract : AssistingLayerContract
  flow : ZeroByteFlow
  valid : llaRuntimeContractValid contract flow = true

/-- `rohc_comp_enable_rfc4362_lla` and `rohc_decomp_enable_rfc4362_lla`; `none` leaves the handle as it is. -/
def enableRfc4362Lla (contract : AssistingLayerContract) (flow : ZeroByteFlow) : Option LlaSettings :=
  if h : llaRuntimeContractValid contract flow = true then some ⟨contract, flow, h⟩ else none

namespace LlaSettings

variable (settings : LlaSettings)

/-- A stored contract allows everything the calls ask for. -/
theorem guidelines : validateRfc3409LowerLayerGuidelines settings.contract = true := by
  have h := settings.valid
  rw [llaRuntimeContractValid, Bool.and_eq_true] at h
  exact h.1

@[simp] theorem canEmitNoHeaderPacketForFlow :
    Rohccxx.canEmitNoHeaderPacketForFlow settings.contract settings.flow = true := by
  have h := settings.valid
  rw [llaRuntimeContractValid, Bool.and_eq_true] at h
  exact h.2

@[simp] theorem canEmitContextCheckPacket : Rohccxx.canEmitContextCheckPacket settings.contract = true := by
  have h := settings.guidelines
  rw [Rohccxx.canEmitContextCheckPacket, h, Bool.true_and]
  rw [validateRfc3409LowerLayerGuidelines, Bool.and_eq_true] at h
  exact h.2

end LlaSettings

/-! ## Contexts -/

/-- `context_crc7`. -/
def contextCrc7 (ctx : Context) : UInt8 :=
  crc7 (be16 ctx.profile.toWire ++ be32 (UInt32.ofNat ctx.cid) ++ [ctx.ipVersion, ctx.ipv4Tos, ctx.ipv4Ttl] ++
    be16 ctx.ipv4Id ++ [ctx.ipv4Flags, if ctx.ipv4IdSequential then 1 else 0] ++ be32 ctx.ipv4Saddr ++
    be32 ctx.ipv4Daddr ++ be16 ctx.udpSport ++ be16 ctx.udpDport ++ be16 ctx.udpCheck ++
    [ctx.rtp.vpxcc, ctx.rtp.mpt] ++ be16 ctx.rtp.lastSeq ++ be32 ctx.rtp.lastTs ++ be32 ctx.rtp.ssrc ++
    be32 ctx.rtp.tsStride) &&& 0x7F

def llaContextEstablished (ctx : Context) : Bool :=
  (ctx.profile = .rtp || ctx.profile = .llaRtp) && ctx.rohcState ≠ .noContext

def llaContextReady (ctx : Context) : Bool := llaContextEstablished ctx && ctx.rohcState = .dynamicEstablished

/-- The header a no-header packet stands for: one step in sequence number, timestamp and, if it is sequential, IP-ID. The
MSN is not touched. -/
def advanceNoHeader (ctx : Context) : Context :=
  { ctx with
    ipv4Id := if ctx.ipVersion = 4 ∧ ctx.ipv4IdSequential then ctx.ipv4Id + 1 else ctx.ipv4Id
    rtp := { ctx.rtp with
      lastSeq := ctx.rtp.lastSeq + 1
      lastTs := ctx.rtp.lastTs + (if ctx.rtp.tsStride ≠ 0 then ctx.rtp.tsStride else 160) } }

/-! ## The compressor's calls -/

/-- `rohc_comp_rfc4362_emit_nhp`: is the payload alone enough? The packet is compressed too, its unit thrown away. -/
def emitNhp (lla : Option LlaSettings) (comp : Compressor) (packet : Bytes) : Bool × Compressor :=
  match lla with
  | none => (false, comp)
  | some settings =>
    if !canEmitNoHeaderPacketForFlow settings.contract settings.flow then (false, comp)
    else
      match comp.contexts.get comp.currentCid with
      | none => (false, comp)
      | some ctx =>
        if !llaContextReady ctx ∨ (ctx.mode = .reliable ∧ !ctx.dynamicAcked) ∨ packet.length < 40 then (false, comp)
        else
          match buildFixedRtpIpv4Header (advanceNoHeader ctx) (packet.length - 40) with
          | none => (false, comp)
          | some header =>
            if header ≠ packet.take 40 then (false, comp)
            else
              match compressInner comp packet with
              | (none, comp) => (false, comp)
              | (some _, comp) => (true, comp)

/-- The length of the RTP payload a context synchronisation packet announces; 0 for a packet that is not RTP. -/
def cspPayloadLen (packet : Bytes) : Nat :=
  match parseIpView packet with
  | some view =>
    if udpFits packet view.headerLen && rtpFits packet (view.headerLen + 8) then packet.length - (view.headerLen + 20)
    else 0
  | none => 0

/-- `write_context_synchronization_packet`. -/
def writeContextSynchronizationPacket (cap : Nat) (rtpPayloadLen : UInt16) (rohcHeader : Bytes) : Option Bytes :=
  if cap < 3 + rohcHeader.length then none else some (0xFA :: be16 rtpPayloadLen ++ rohcHeader)

/-- `rohc_comp_rfc4362_emit_csp`: the unit goes out behind the length of the payload. A unit that finds no room stays
compressed. -/
def emitCsp (lla : Option LlaSettings) (comp : Compressor) (packet : Bytes) (cap : Nat) : Option Bytes × Compressor :=
  match lla with
  | none => (none, comp)
  | some settings =>
    if !canEmitContextSynchronizationPacket settings.contract then (none, comp)
    else
      match compressInner comp packet with
      | (none, comp) => (none, comp)
      | (some unit, comp) =>
        if cspPayloadLen packet > 0xFFFF then (none, comp)
        else (writeContextSynchronizationPacket cap (UInt16.ofNat (cspPayloadLen packet)) unit, comp)

/-- `write_context_check_packet`. -/
def writeContextCheckPacket (cap : Nat) (hasCrc : Bool) (crc : UInt8) : Option Bytes :=
  if cap < 2 then none else some [0xFB, (if hasCrc then 0x80 else 0x00) ||| (crc &&& 0x7F)]

/-- `rohc_comp_rfc4362_emit_ccp`. -/
def emitCcp (lla : Option LlaSettings) (comp : Compressor) (cap : Nat) : Option Bytes := do
  let settings ← lla
  if !canEmitContextCheckPacket settings.contract then none
  else
    let ctx ← comp.contexts.get comp.currentCid
    if !llaContextEstablished ctx then none else writeContextCheckPacket cap true (contextCrc7 ctx)

/-! ## The decompressor's calls -/

/-- `read_context_check_packet`: whether there is a CRC, and the CRC. -/
def readContextCheckPacket (packet : Bytes) : Option (Bool × UInt8) :=
  if packet.length < 2 ∨ u8At packet 0 ≠ 0xFB then none
  else some (u8At packet 1 &&& 0x80 ≠ 0, u8At packet 1 &&& 0x7F)

/-- `rohc_decomp_rfc4362_receive_ccp_for_cid`. -/
def receiveCcp (lla : Option LlaSettings) (decomp : Decompressor) (cid : Nat) (packet : Bytes) : Bool × Decompressor :=
  match lla with
  | none => (false, decomp)
  | some settings =>
    if !canEmitContextCheckPacket settings.contract then (false, decomp)
    else
      match readContextCheckPacket packet with
      | none | some (false, _) => (false, decomp.setFeedback cid .nack)
      | some (true, crc) =>
        match decomp.contexts.get cid with
        | none => (false, decomp.setFeedback cid .staticNack)
        | some ctx =>
          if !llaContextEstablished ctx then (false, decomp.setFeedback cid .staticNack)
          else if crc ≠ contextCrc7 ctx then (false, decomp.setFeedback ctx.cid .staticNack)
          else (true, { decomp with hasFeedback := false })

/-- `rohc_decomp_rfc4362_receive_nhp_for_cid`. The context advances before the packet is built and stays advanced when it
cannot be built. -/
def receiveNhp (lla : Option LlaSettings) (live : Live) (cid : Nat) (payload : Bytes) : Return :=
  match lla with
  | none => (-1, live)
  | some settings =>
    if !canEmitNoHeaderPacketForFlow settings.contract settings.flow then (-1, live)
    else
      match live.handle.contexts.get cid with
      | none => (-1, live)
      | some ctx =>
        if !llaContextReady ctx then (-1, live)
        else
          let ctx := advanceNoHeader ctx
          let live := live.setCtx cid ctx
          let built := if ctx.ipVersion = 6 then buildIpv6RtpPacket live.outLen ctx payload
            else buildRtpPacket live.outLen ctx payload
          match built with
          | none => live.failWithFeedback ctx.cid
          | some octets =>
            (0, { live with
              handle := { live.handle with hasFeedback := false }
              out := overwrite live.out octets, outLen := octets.length })

/-- `rohc_decomp_rfc4362_receive_csp`: the unit inside goes to `rohc_decompress4`. -/
def receiveCsp (lla : Option LlaSettings) (live : Live) (packet : Bytes) : Return :=
  match lla with
  | none => (-1, live)
  | some settings =>
    if !canEmitContextSynchronizationPacket settings.contract then (-1, live)
    else if packet.length < 4 ∨ u8At packet 0 ≠ 0xFA then live.failWithFeedback 0
    else rohcDecompress4 live.handle (packet.drop 3) live.out live.outLen

end Rohccxx
