import Rohccxx.Protocols

/-!
# Packet types

`core/packet_type.hpp`: what the first octet of a unit says, and where its CID stands.
-/

set_option autoImplicit false

namespace Rohccxx

open Octets

inductive RohcPacketType where
  | unknown
  | uncompressed
  | ir
  | irDyn
  | formalCo
  | foRtp
  | foUdp
  | foIp
  | foEsp
  | foUdpLite
  | llaContextSync
  | llaContextCheck
  | feedback
  | segment
deriving DecidableEq, Repr

/-- `is_uncompressed_ip_payload`: an IP packet whose length field is its length. -/
def isUncompressedIpPayload (ip : Bytes) : Bool :=
  if ip = [] then false
  else
    let version := u8At ip 0 >>> 4
    if version = 4 then
      if ip.length < 20 then false
      else
        let ihl := (u8At ip 0 &&& 0x0F).toNat * 4
        20 ≤ ihl && ihl ≤ ip.length && (u16At ip 2).toNat = ip.length
    else if version = 6 then
      if ip.length < 40 then false else (u16At ip 4).toNat + 40 = ip.length
    else false

def detectPacketType (b : UInt8) : RohcPacketType :=
  if b &&& 0xFE = 0xFE then .segment
  else if b = 0xFA then .llaContextSync
  else if b = 0xFB then .llaContextCheck
  else if b &&& 0xF8 = 0xF0 then .feedback
  else if b &&& 0xFE = 0xFC then .ir
  else if b = 0xF8 then .irDyn
  else if b = 0x7A then .foUdp
  else if b = 0x79 then .foIp
  else if b = 0x78 then .foEsp
  else if b = 0x77 then .foUdpLite
  else if b &&& 0xE0 = 0x80 ∨ b &&& 0xE0 = 0xA0 then .formalCo
  else if b &&& 0x80 = 0x00 then .foRtp
  else .unknown

/-- `ParsedRohcPacket`; `packet` is `wire` without its Add-CID octet. -/
structure ParsedRohcPacket where
  wire : Bytes
  packet : Bytes
  cid : Nat
  hasAddCid : Bool
  hasLargeCid : Bool
  cidLen : Nat
  type : RohcPacketType
  profileId : UInt8
deriving DecidableEq, Repr

/-- The type octet, unless the whole unit is an IP packet. -/
def packetTypeOf (packet : Bytes) : RohcPacketType :=
  if isUncompressedIpPayload packet then .uncompressed else detectPacketType (u8At packet 0)

/-- The CID of a unit, the octets a large CID takes, and whether there is one. -/
def readPacketCid (packet : Bytes) (type : RohcPacketType) (addCid : Option Nat) (largeCidSpace : Bool) :
    Option (Nat × Nat × Bool) :=
  if largeCidSpace ∧ type ≠ .uncompressed then
    if packet.length < 2 then none
    else (Cid.readLarge (packet.drop 1)).map fun r => (r.1, r.2, true)
  else some (addCid.getD 0, 0, false)

/-- `parse_rohc_packet` behind the Add-CID octet. -/
def parseRohcPacketBody (wire packet : Bytes) (addCid : Option Nat) (largeCidSpace : Bool) :
    Option ParsedRohcPacket :=
  if packet = [] then none
  else do
    let type := packetTypeOf packet
    let (cid, cidLen, hasLarge) ← readPacketCid packet type addCid largeCidSpace
    let profilePos := if largeCidSpace then 1 + cidLen else 1
    if type = .ir ∨ type = .irDyn then
      if packet.length ≤ profilePos then none
      else return ⟨wire, packet, cid, addCid.isSome, hasLarge, cidLen, type, u8At packet profilePos⟩
    else
      -- A private RTP unit without Add-CID carries its CID in the first octet.
      let cid := if type = .foRtp ∧ !largeCidSpace ∧ addCid = none then ((u8At packet 0 >>> 2) &&& 0x0F).toNat else cid
      if type = .unknown then none else return ⟨wire, packet, cid, addCid.isSome, hasLarge, cidLen, type, 0⟩

def parseRohcPacket (input : Bytes) (largeCidSpace : Bool) : Option ParsedRohcPacket :=
  if input = [] then none
  else if !largeCidSpace ∧ u8At input 0 &&& 0xF0 = 0xE0 then
    if input.length < 2 then none
    else parseRohcPacketBody input (input.drop 1) (some (u8At input 0 &&& 0x0F).toNat) largeCidSpace
  else parseRohcPacketBody input input none largeCidSpace

/-- The parser keeps the octets it was given. -/
theorem packet_parseRohcPacketBody {wire packet : Bytes} {addCid : Option Nat} {space : Bool}
    {parsed : ParsedRohcPacket} (h : parseRohcPacketBody wire packet addCid space = some parsed) :
    parsed.packet = packet := by
  unfold parseRohcPacketBody at h
  split at h
  · cases h
  · simp only [Option.bind_eq_bind, Option.bind_eq_some_iff, Option.pure_def] at h
    obtain ⟨⟨cid, cidLen, large⟩, -, h⟩ := h
    dsimp only at h
    split_ifs at h <;> exact congrArg ParsedRohcPacket.packet (Option.some.inj h).symm

/-- The type of a unit is that of its octets. -/
theorem type_parseRohcPacketBody {wire packet : Bytes} {addCid : Option Nat} {space : Bool}
    {parsed : ParsedRohcPacket} (h : parseRohcPacketBody wire packet addCid space = some parsed) :
    parsed.type = packetTypeOf packet := by
  unfold parseRohcPacketBody at h
  split at h
  · cases h
  · simp only [Option.bind_eq_bind, Option.bind_eq_some_iff, Option.pure_def] at h
    obtain ⟨⟨cid, cidLen, large⟩, -, h⟩ := h
    dsimp only at h
    split_ifs at h <;> exact congrArg ParsedRohcPacket.type (Option.some.inj h).symm

theorem type_parseRohcPacket {input : Bytes} {space : Bool} {parsed : ParsedRohcPacket}
    (h : parseRohcPacket input space = some parsed) : parsed.type = packetTypeOf parsed.packet := by
  unfold parseRohcPacket at h
  split at h
  · cases h
  · split at h
    · split at h
      · cases h
      · rw [packet_parseRohcPacketBody h, type_parseRohcPacketBody h]
    · rw [packet_parseRohcPacketBody h, type_parseRohcPacketBody h]

/-- The packet of a unit is part of the unit. -/
theorem length_parseRohcPacket_le {input : Bytes} {space : Bool} {parsed : ParsedRohcPacket}
    (h : parseRohcPacket input space = some parsed) : parsed.packet.length ≤ input.length := by
  unfold parseRohcPacket at h
  split at h
  · cases h
  · split at h
    · split at h
      · cases h
      · rw [packet_parseRohcPacketBody h, List.length_drop]
        omega
    · exact Nat.le_of_eq (congrArg List.length (packet_parseRohcPacketBody h))

/-- `decoder_packet_start` and `decoder_packet_len`: IR and IR-DYN decoders see the Add-CID octet. -/
def decoderPacket (parsed : ParsedRohcPacket) : Bytes :=
  if parsed.hasAddCid ∧ (parsed.type = .ir ∨ parsed.type = .irDyn) then parsed.wire else parsed.packet

/-! ## Segments -/

def segmentBufferMax : Nat := 4096

def segmentHeaderLen : Nat := 2

/-- `read_segment_header`: whether it is the final one, and its sequence octet. -/
def readSegmentHeader (packet : Bytes) : Option (Bool × UInt16) :=
  if packet.length < 2 ∨ u8At packet 0 &&& 0xFE ≠ 0xFE then none
  else some (u8At packet 0 &&& 0x01 ≠ 0, (u8At packet 1).toUInt16)

/-- `write_segment_packet`. -/
def writeSegmentPacket (cap : Nat) (final : Bool) (sequence : UInt16) (payload : Bytes) : Option Bytes :=
  if cap < 2 + payload.length then none
  else some ([0xFE ||| (if final then 0x01 else 0x00), sequence.toUInt8] ++ payload)

end Rohccxx
