import Rohccxx.Tun.Flows

/-!
# Datagrams of the tunnel

A datagram is an envelope around a ROHC unit or around one piece of feedback.

* `readMessage_iff` — what is read from a datagram is what was written to it, and nothing else is read.
* `Codec` — what the tunnel asks of a codec; `prepareCompressedDatagram` and `consumeDatagram` are its two directions.
-/

set_option autoImplicit false

namespace Rohccxx.Tun

open Octets

inductive MessageType where
  | compressed
  | feedback
deriving DecidableEq

def MessageType.toOctet : MessageType → UInt8
  | .compressed => 1
  | .feedback => 2

/-- `known_type`. -/
def knownType (octet : UInt8) : Option MessageType :=
  if octet = 1 then some .compressed else if octet = 2 then some .feedback else none

structure FrameView where
  type : MessageType
  payload : Bytes
deriving DecidableEq

/-- The octets `RHCT`. -/
def magic : Bytes := [0x52, 0x48, 0x43, 0x54]

def envelopeSize : Nat := 8

def transportVersion : UInt8 := 1

def feedbackPayloadSize : Nat := 5

def encodeFrame (type : MessageType) (payload : Bytes) (cap : Nat) : Except Failure Bytes :=
  if payload.length > 0xFFFF ∨ cap < envelopeSize + payload.length then .error .oversized
  else .ok (magic ++ [transportVersion, type.toOctet] ++ be16 (UInt16.ofNat payload.length) ++ payload)

def decodeFrame (datagram : Bytes) : Except Failure FrameView :=
  if datagram.length < envelopeSize ∨ datagram.take 4 ≠ magic then .error .malformed
  else if u8At datagram 4 ≠ transportVersion then .error .unknownVersion
  else
    match knownType (u8At datagram 5) with
    | none => .error .unknownType
    | some type =>
      let payloadLen := (u16At datagram 6).toNat
      if payloadLen ≠ datagram.length - envelopeSize then .error .malformed
      else if type = .compressed ∧ payloadLen = 0 ∨ type = .feedback ∧ payloadLen ≠ feedbackPayloadSize then
        .error .malformed
      else .ok { type := type, payload := datagram.drop envelopeSize }

def encodeFeedback (cid : UInt32) (type : UInt8) (cap : Nat) : Except Failure Bytes :=
  if cap < feedbackPayloadSize ∨ cid > 15 ∨ type > 2 then .error .invalidArgument else .ok (be32 cid ++ [type])

def decodeFeedback (payload : Bytes) : Except Failure (UInt32 × UInt8) :=
  if payload.length ≠ feedbackPayloadSize then .error .malformed
  else
    let cid := u32At payload 0
    let type := u8At payload 4
    if cid ≤ 15 ∧ type ≤ 2 then .ok (cid, type) else .error .malformed

/-! ## Envelopes -/

theorem knownType_eq_some {octet : UInt8} {type : MessageType} : knownType octet = some type ↔ octet = type.toOctet := by
  unfold knownType
  constructor
  · intro h
    split at h
    · cases h
      assumption
    · split at h
      · cases h
        assumption
      · cases h
  · rintro rfl
    cases type <;> rfl

/-- The octets of an envelope. -/
def envelope (frame : FrameView) : Bytes :=
  magic ++ [transportVersion, frame.type.toOctet] ++ be16 (UInt16.ofNat frame.payload.length) ++ frame.payload

/-- What may stand in an envelope. -/
structure FrameView.Sendable (frame : FrameView) : Prop where
  compressed : frame.type = .compressed → frame.payload ≠ []
  feedback : frame.type = .feedback → frame.payload.length = feedbackPayloadSize
  short : frame.payload.length ≤ 0xFFFF

theorem length_envelope (frame : FrameView) : (envelope frame).length = envelopeSize + frame.payload.length := by
  simp only [envelope, magic, List.length_append, List.length_cons, List.length_nil, length_be16]
  rfl

theorem encodeFrame_eq_ok {frame : FrameView} {cap : Nat} {datagram : Bytes} :
    encodeFrame frame.type frame.payload cap = .ok datagram ↔
      frame.payload.length ≤ 0xFFFF ∧ envelopeSize + frame.payload.length ≤ cap ∧ datagram = envelope frame := by
  unfold encodeFrame
  constructor
  · intro h
    split at h
    · cases h
    · rename_i hno
      cases h
      exact ⟨by omega, by omega, rfl⟩
  · rintro ⟨hshort, hcap, rfl⟩
    rw [if_neg (by omega)]
    rfl

/-- The fields of an envelope. -/
theorem envelope_fields (frame : FrameView) (hshort : frame.payload.length ≤ 0xFFFF) :
    (envelope frame).take 4 = magic ∧ u8At (envelope frame) 4 = transportVersion ∧
      u8At (envelope frame) 5 = frame.type.toOctet ∧ (u16At (envelope frame) 6).toNat = frame.payload.length ∧
      (envelope frame).drop envelopeSize = frame.payload := by
  refine ⟨rfl, rfl, rfl, ?_, rfl⟩
  change (ofBe16 ((UInt16.ofNat frame.payload.length) >>> 8).toUInt8 (UInt16.ofNat frame.payload.length).toUInt8).toNat = _
  rw [ofBe16_be16, UInt16.toNat_ofNat_of_lt' (Nat.lt_succ_of_le hshort)]

/-- **The reader of envelopes accepts what the writer writes, and nothing else.** -/
theorem decodeFrame_iff {datagram : Bytes} {frame : FrameView} :
    decodeFrame datagram = .ok frame ↔ frame.Sendable ∧ datagram = envelope frame := by
  constructor
  · intro h
    unfold decodeFrame at h
    split at h
    · cases h
    rename_i hhead
    obtain ⟨hlen, hmagic⟩ := not_or.mp hhead
    split at h
    · cases h
    rename_i hversion
    split at h
    · cases h
    rename_i type htype
    dsimp only at h
    split at h
    · cases h
    rename_i hpayload
    split at h
    · cases h
    rename_i hrule
    cases h
    have hlen : 8 ≤ datagram.length := Nat.not_lt.mp hlen
    have hpayload : (datagram.drop envelopeSize).length = (u16At datagram 6).toNat := by
      rw [List.length_drop]
      exact (not_not.mp hpayload).symm
    have hshort : (u16At datagram 6).toNat ≤ 0xFFFF := Nat.le_of_lt_succ (u16At datagram 6).toNat_lt
    refine ⟨⟨fun htype he => ?_, fun htype => ?_, hpayload.le.trans hshort⟩, ?_⟩
    · refine hrule (.inl ⟨htype, ?_⟩)
      rw [← hpayload]
      exact List.length_eq_zero_iff.mpr he
    · by_contra hne
      exact hrule (.inr ⟨htype, hpayload ▸ hne⟩)
    · have hfields : slice datagram 4 1 ++ (slice datagram 5 1 ++ (slice datagram 6 2 ++ datagram.drop 8)) =
          datagram.drop 4 := by
        rw [slice_append_drop rfl, slice_append_drop rfl, slice_append_drop rfl]
      have hsize : slice datagram 6 2 = be16 (UInt16.ofNat (datagram.drop envelopeSize).length) := by
        rw [hpayload, UInt16.ofNat_toNat]
        exact (be16_slice (by omega)).symm
      have hversion : datagram.getD 4 0 = transportVersion := not_not.mp hversion
      have htype : datagram.getD 5 0 = type.toOctet := knownType_eq_some.mp htype
      rw [slice_one (by omega), slice_one (by omega), hsize, hversion, htype] at hfields
      have hsplit := (List.take_append_drop 4 datagram).symm
      rw [not_not.mp hmagic] at hsplit
      exact hsplit.trans (congrArg (magic ++ ·) hfields.symm)
  · rintro ⟨⟨compressed, feedback, short⟩, rfl⟩
    obtain ⟨hmagic, hversion, htype, hlen, hdrop⟩ := envelope_fields frame short
    unfold decodeFrame
    rw [if_neg (by rw [length_envelope, hmagic]; simp), if_neg (by rw [hversion]; simp), knownType_eq_some.mpr htype]
    dsimp only
    rw [if_neg (by rw [hlen, length_envelope]; simp), if_neg ?_, hdrop]
    rw [hlen]
    rintro (⟨htype, hzero⟩ | ⟨htype, hsize⟩)
    · exact compressed htype (List.length_eq_zero_iff.mp hzero)
    · exact hsize (feedback htype)

/-- The writer writes what the reader accepts. -/
theorem decodeFrame_of_encode {frame : FrameView} {cap : Nat} {datagram : Bytes}
    (h : encodeFrame frame.type frame.payload cap = .ok datagram)
    (compressed : frame.type = .compressed → frame.payload ≠ [])
    (feedback : frame.type = .feedback → frame.payload.length = feedbackPayloadSize) :
    decodeFrame datagram = .ok frame := by
  obtain ⟨short, -, rfl⟩ := encodeFrame_eq_ok.mp h
  exact decodeFrame_iff.mpr ⟨⟨compressed, feedback, short⟩, rfl⟩

/-! ## Feedback -/

theorem encodeFeedback_eq_ok {cid : UInt32} {type : UInt8} {cap : Nat} {payload : Bytes} :
    encodeFeedback cid type cap = .ok payload ↔
      feedbackPayloadSize ≤ cap ∧ cid ≤ 15 ∧ type ≤ 2 ∧ payload = be32 cid ++ [type] := by
  unfold encodeFeedback
  constructor
  · intro h
    split at h
    · cases h
    · rename_i hno
      obtain ⟨hcap, hno⟩ := not_or.mp hno
      obtain ⟨hcid, htype⟩ := not_or.mp hno
      cases h
      exact ⟨Nat.not_lt.mp hcap, UInt32.not_lt.mp hcid, UInt8.not_lt.mp htype, rfl⟩
  · rintro ⟨hcap, hcid, htype, rfl⟩
    rw [if_neg]
    rintro (h | h | h)
    · exact absurd h (Nat.not_lt.mpr hcap)
    · exact absurd h (UInt32.not_lt.mpr hcid)
    · exact absurd h (UInt8.not_lt.mpr htype)

/-- **The reader of feedback accepts what the writer writes, and nothing else.** -/
theorem decodeFeedback_iff {payload : Bytes} {cid : UInt32} {type : UInt8} :
    decodeFeedback payload = .ok (cid, type) ↔ cid ≤ 15 ∧ type ≤ 2 ∧ payload = be32 cid ++ [type] := by
  unfold decodeFeedback
  constructor
  · intro h
    split at h
    · cases h
    rename_i hlen
    have hlen : payload.length = 5 := not_not.mp hlen
    dsimp only at h
    split at h
    · rename_i hvalid
      cases h
      refine ⟨hvalid.1, hvalid.2, ?_⟩
      have hcid : be32 (u32At payload 0) = slice payload 0 4 := be32_slice (by omega)
      have htype : [u8At payload 4] = slice payload 4 1 := (slice_one (by omega)).symm
      rw [hcid, htype, slice_append_slice rfl]
      exact (List.take_of_length_le (by simp [hlen])).symm
    · cases h
  · rintro ⟨hcid, htype, rfl⟩
    have hread : u32At (be32 cid ++ [type]) 0 = cid := ofBe32_be32 cid
    have hlast : u8At (be32 cid ++ [type]) 4 = type := rfl
    rw [if_neg (by simp [feedbackPayloadSize]), hread, hlast]
    dsimp only
    rw [if_pos ⟨hcid, htype⟩]

/-- What a datagram says. -/
inductive Message where
  | compressed (unit : Bytes)
  | feedback (cid : UInt32) (type : UInt8)

/-- What a node puts into a datagram. -/
def writeMessage : Message → Except Failure Bytes
  | .compressed unit => encodeFrame .compressed unit (envelopeSize + unit.length)
  | .feedback cid type => do
    let payload ← encodeFeedback cid type feedbackPayloadSize
    encodeFrame .feedback payload (envelopeSize + feedbackPayloadSize)

/-- What a node takes out of it. -/
def readMessage (datagram : Bytes) : Except Failure Message := do
  let frame ← decodeFrame datagram
  match frame.type with
  | .compressed => return .compressed frame.payload
  | .feedback => do
    let (cid, type) ← decodeFeedback frame.payload
    return .feedback cid type

theorem readMessage_compressed {datagram unit : Bytes} :
    readMessage datagram = .ok (.compressed unit) ↔ decodeFrame datagram = .ok ⟨.compressed, unit⟩ := by
  unfold readMessage
  cases decodeFrame datagram with
  | error failure => exact ⟨nofun, nofun⟩
  | ok frame =>
    obtain ⟨type, payload⟩ := frame
    cases type with
    | compressed =>
      constructor
      · rintro ⟨⟩
        rfl
      · rintro ⟨⟩
        rfl
    | feedback =>
      refine ⟨fun h => ?_, nofun⟩
      cases hread : decodeFeedback payload with
      | error failure =>
        simp only [bind, Except.bind, hread] at h
        cases h
      | ok read =>
        simp only [bind, Except.bind, hread] at h
        cases h

theorem readMessage_feedback {datagram : Bytes} {cid : UInt32} {type : UInt8} :
    readMessage datagram = .ok (.feedback cid type) ↔
      ∃ payload, decodeFrame datagram = .ok ⟨.feedback, payload⟩ ∧ decodeFeedback payload = .ok (cid, type) := by
  unfold readMessage
  cases decodeFrame datagram with
  | error failure => exact ⟨nofun, nofun⟩
  | ok frame =>
    obtain ⟨type', payload⟩ := frame
    cases type' with
    | compressed => exact ⟨nofun, nofun⟩
    | feedback =>
      cases hread : decodeFeedback payload with
      | error failure =>
        simp only [bind, Except.bind, hread]
        refine ⟨nofun, ?_⟩
        rintro ⟨payload', h, hread'⟩
        cases h
        cases hread.symm.trans hread'
      | ok read =>
        simp only [bind, Except.bind, hread]
        constructor
        · rintro ⟨⟩
          exact ⟨payload, rfl, hread⟩
        · rintro ⟨payload', h, hread'⟩
          cases h
          cases hread.symm.trans hread'
          rfl

/-- **Datagrams are read as they were written**, and nothing else is read. A node writes no empty unit. -/
theorem readMessage_iff {datagram : Bytes} {message : Message} :
    readMessage datagram = .ok message ↔ message ≠ .compressed [] ∧ writeMessage message = .ok datagram := by
  cases message with
  | compressed unit =>
    have hwrite : writeMessage (.compressed unit) = .ok datagram ↔
        unit.length ≤ 0xFFFF ∧ datagram = envelope ⟨.compressed, unit⟩ := by
      refine (@encodeFrame_eq_ok ⟨.compressed, unit⟩ _ _).trans ?_
      exact ⟨fun h => ⟨h.1, h.2.2⟩, fun h => ⟨h.1, le_refl _, h.2⟩⟩
    rw [readMessage_compressed, decodeFrame_iff, hwrite]
    constructor
    · rintro ⟨⟨compressed, -, short⟩, h⟩
      exact ⟨fun he => compressed rfl (Message.compressed.inj he), short, h⟩
    · rintro ⟨hne, short, h⟩
      exact ⟨⟨fun _ he => hne (congrArg Message.compressed he), nofun, short⟩, h⟩
  | feedback cid type =>
    have hwrite : writeMessage (.feedback cid type) = .ok datagram ↔
        cid ≤ 15 ∧ type ≤ 2 ∧ datagram = envelope ⟨.feedback, be32 cid ++ [type]⟩ := by
      simp only [writeMessage]
      cases hfb : encodeFeedback cid type feedbackPayloadSize with
      | error failure =>
        refine ⟨nofun, fun h => ?_⟩
        cases hfb.symm.trans (encodeFeedback_eq_ok.mpr ⟨le_refl _, h.1, h.2.1, rfl⟩)
      | ok payload =>
        obtain ⟨-, hcid, htype, rfl⟩ := encodeFeedback_eq_ok.mp hfb
        change encodeFrame .feedback (be32 cid ++ [type]) (envelopeSize + feedbackPayloadSize) = .ok datagram ↔ _
        refine (@encodeFrame_eq_ok ⟨.feedback, be32 cid ++ [type]⟩ _ _).trans ?_
        exact ⟨fun h => ⟨hcid, htype, h.2.2⟩, fun h => ⟨by simp, by simp [feedbackPayloadSize], h.2.2⟩⟩
    rw [readMessage_feedback, hwrite]
    constructor
    · rintro ⟨payload, hframe, hread⟩
      obtain ⟨hcid, htype, rfl⟩ := decodeFeedback_iff.mp hread
      exact ⟨nofun, hcid, htype, (decodeFrame_iff.mp hframe).2⟩
    · rintro ⟨-, hcid, htype, h⟩
      refine ⟨_, decodeFrame_iff.mpr ⟨⟨nofun, fun _ => by simp [feedbackPayloadSize], by simp⟩, h⟩, ?_⟩
      exact decodeFeedback_iff.mpr ⟨hcid, htype, rfl⟩

/-- A NACK for CID 5, and one for a CID that is not small. -/
theorem readMessage_iff_nack :
    readMessage [0x52, 0x48, 0x43, 0x54, 1, 2, 0, 5, 0, 0, 0, 5, 1] = .ok (.feedback 5 1) ∧
      readMessage [0x52, 0x48, 0x43, 0x54, 1, 2, 0, 5, 0, 0, 0, 16, 1] ≠ .ok (.feedback 16 1) := by
  refine ⟨readMessage_iff.mpr ⟨nofun, by decide +kernel⟩, fun h => ?_⟩
  have hw := (readMessage_iff.mp h).2
  revert hw
  decide +kernel

/-- Octets that are no message fail as such, not in the codec. -/
theorem readMessage_ne_codecFailure {datagram : Bytes} {failure : Failure} (h : readMessage datagram = .error failure) :
    failure ≠ .codecFailure := by
  rintro rfl
  unfold readMessage at h
  cases hframe : decodeFrame datagram with
  | error other =>
    rw [hframe] at h
    cases h
    unfold decodeFrame at hframe
    dsimp only at hframe
    repeat' split at hframe
    all_goals cases hframe
  | ok frame =>
    obtain ⟨type, payload⟩ := frame
    rw [hframe] at h
    cases type with
    | compressed => cases h
    | feedback =>
      cases hread : decodeFeedback payload with
      | error other =>
        simp only [bind, Except.bind, hread] at h
        cases h
        unfold decodeFeedback at hread
        dsimp only at hread
        repeat' split at hread
        all_goals cases hread
      | ok read =>
        simp only [bind, Except.bind, hread] at h
        cases h

/-! ## The codec -/

/-- What a call of a decoder leaves: its status, the buffer, and the length it says it has written. -/
structure Decoded where
  status : Int
  out : Bytes
  outLen : Nat

/-- The callbacks and what they work on. A compressor gets the room for the unit, a decompressor the buffer and the room in
it. -/
structure Codec (σ : Type) where
  compress : σ → Bytes → Nat → Option Bytes × σ
  decompress : σ → Bytes → Bytes → Nat → Decoded × σ
  feedback : σ → UInt32 → UInt8 → σ

def prepareCompressedDatagram {σ : Type} (codec : Codec σ) (state : σ) (packet : Bytes) (maximumPacketSize compressedCap
    datagramCap : Nat) : Except Failure Bytes × σ :=
  match validateIpv4Packet packet maximumPacketSize with
  | .error failure => (.error failure, state)
  | .ok () =>
    match codec.compress state packet compressedCap with
    | (none, state) => (.error .codecFailure, state)
    | (some compressed, state) =>
      if compressed.length = 0 ∨ compressed.length > compressedCap then (.error .codecFailure, state)
      else (encodeFrame .compressed compressed datagramCap, state)

/-- What a datagram leaves: the result with the type that was consumed, the packet buffer and the length in it. -/
structure Consumed (σ : Type) where
  result : Except Failure MessageType
  out : Bytes
  outLen : Nat
  state : σ

def consumeDatagram {σ : Type} (codec : Codec σ) (state : σ) (datagram : Bytes) (maximumPacketSize : Nat) (packet : Bytes)
    (cap : Nat) : Consumed σ :=
  match decodeFrame datagram with
  | .error failure => ⟨.error failure, packet, 0, state⟩
  | .ok { type := .feedback, payload := payload } =>
    match decodeFeedback payload with
    | .error failure => ⟨.error failure, packet, 0, state⟩
    | .ok (cid, type) => ⟨.ok .feedback, packet, 0, codec.feedback state cid type⟩
  | .ok { type := .compressed, payload := payload } =>
    let (decoded, state) := codec.decompress state payload packet cap
    if decoded.status ≠ 0 ∨ decoded.outLen > cap then ⟨.error .codecFailure, decoded.out, 0, state⟩
    else
      match validateIpv4Packet (decoded.out.take decoded.outLen) maximumPacketSize with
      | .error failure => ⟨.error failure, decoded.out, 0, state⟩
      | .ok () => ⟨.ok .compressed, decoded.out, decoded.outLen, state⟩

section Consume

variable {σ : Type} (codec : Codec σ) (state : σ) {datagram : Bytes} (maximumPacketSize : Nat) (packet : Bytes) (cap : Nat)

/-- Octets that are no message change nothing. -/
theorem consumeDatagram_of_error {failure : Failure} (h : readMessage datagram = .error failure) :
    consumeDatagram codec state datagram maximumPacketSize packet cap = ⟨.error failure, packet, 0, state⟩ := by
  unfold readMessage at h
  unfold consumeDatagram
  cases hframe : decodeFrame datagram with
  | error other =>
    rw [hframe] at h
    cases h
    rfl
  | ok frame =>
    obtain ⟨type, payload⟩ := frame
    rw [hframe] at h
    cases type with
    | compressed => cases h
    | feedback =>
      cases hread : decodeFeedback payload with
      | error other =>
        simp only [bind, Except.bind, hread] at h
        cases h
        simp only [hread]
      | ok read =>
        simp only [bind, Except.bind, hread] at h
        cases h

theorem consumeDatagram_of_feedback {cid : UInt32} {type : UInt8} (h : readMessage datagram = .ok (.feedback cid type)) :
    consumeDatagram codec state datagram maximumPacketSize packet cap =
      ⟨.ok .feedback, packet, 0, codec.feedback state cid type⟩ := by
  obtain ⟨payload, hframe, hread⟩ := readMessage_feedback.mp h
  unfold consumeDatagram
  simp only [hframe, hread]

theorem consumeDatagram_of_compressed {unit : Bytes} (h : readMessage datagram = .ok (.compressed unit)) :
    consumeDatagram codec state datagram maximumPacketSize packet cap =
      (let (decoded, state) := codec.decompress state unit packet cap
      if decoded.status ≠ 0 ∨ decoded.outLen > cap then ⟨.error .codecFailure, decoded.out, 0, state⟩
      else
        match validateIpv4Packet (decoded.out.take decoded.outLen) maximumPacketSize with
        | .error failure => ⟨.error failure, decoded.out, 0, state⟩
        | .ok () => ⟨.ok .compressed, decoded.out, decoded.outLen, state⟩) := by
  unfold consumeDatagram
  rw [readMessage_compressed.mp h]

/-- A unit leaves the codec as the decompressor left it. -/
theorem state_consumeDatagram {unit : Bytes} (h : readMessage datagram = .ok (.compressed unit)) :
    (consumeDatagram codec state datagram maximumPacketSize packet cap).state = (codec.decompress state unit packet cap).2 := by
  rw [consumeDatagram_of_compressed codec state _ _ _ h]
  dsimp only
  split
  · rfl
  · split <;> rfl

end Consume

end Rohccxx.Tun
