import Rohccxx.Protocols

/-!
# Feedback

The feedback record of `core/feedback.hpp` and the reader of the RFC 3095 feedback element that may stand in front of a
unit. The decompressor only skips such elements, so what matters below is which octets one takes up.
-/

set_option autoImplicit false

namespace Rohccxx

open Octets

inductive FeedbackType where
  | nack
  | staticNack
  | ack
deriving DecidableEq, Repr

/-- `FeedbackOption`; the type octet is kept as it came, the source casts it unchecked. -/
structure FeedbackOption where
  type : UInt8
  value : Bytes
deriving DecidableEq, Repr

structure Feedback where
  cid : Nat := 0
  type : FeedbackType := .nack
  mode : Option Mode := none
  options : List FeedbackOption := []
  acknowledgmentNumber : UInt16 := 0
  acknowledgmentBits : UInt8 := 0
  acknowledgmentValid : Bool := false
  acknowledgedContextRevision : Option UInt64 := none
  acknowledgedContextDistance : Option UInt16 := none
  crcPresent : Bool := false
  crcValid : Bool := false
deriving DecidableEq, Repr

def isFeedbackPacketStart (b : UInt8) : Bool := b &&& 0xF8 = 0xF0

def feedbackTypeFromAckType (ackType : UInt8) : Option FeedbackType :=
  if ackType = 0 then some .ack
  else if ackType = 1 then some .nack
  else if ackType = 2 then some .staticNack
  else none

/-- The mode bits of a feedback code octet; 3 is no mode. -/
def feedbackMode (bits : UInt8) : Option Mode :=
  if bits = 0 then some .uncompressed
  else if bits = 1 then some .optimistic
  else if bits = 2 then some .reliable
  else none

/-- The option loop of `read_feedback_packet` over the octets left in the body. Every round takes at least two. -/
def readFeedbackOptions : Nat → Bytes → List FeedbackOption → Option (List FeedbackOption)
  | 0, _, _ => none
  | _ + 1, [], options => some options
  | fuel + 1, body, options =>
    if body.length < 2 ∨ options.length ≥ 4 then none
    else
      let optionLen := (u8At body 1).toNat
      let value := body.drop 2
      if optionLen > 4 ∨ value.length < optionLen then none
      else readFeedbackOptions fuel (value.drop optionLen) (options ++ [⟨u8At body 0, value.take optionLen⟩])

/-- The body of a feedback element behind its Add-CID octet. -/
def readFeedbackBody (cid : Nat) (body : Bytes) : Option Feedback :=
  if body.length < 2 then none
  else do
    let code := u8At body 0
    let rest := body.drop 2
    let type ← feedbackTypeFromAckType ((code >>> 6) &&& 0x03)
    let mode ← if code &&& 0x20 ≠ 0 then (feedbackMode (code &&& 0x03)).map some else some none
    let options ←
      if code &&& 0x10 ≠ 0 then
        if rest.length < 1 ∨ rest.length - 1 ≠ (u8At rest 0).toNat then none
        else readFeedbackOptions rest.length (rest.drop 1) []
      else if rest = [] then some [] else none
    return { cid := cid, type := type, mode := mode, options := options }

/-- `read_feedback_packet`: the feedback and the octets its element takes. -/
def readFeedbackPacket (input : Bytes) : Option (Feedback × Nat) :=
  if input.length < 2 ∨ !isFeedbackPacketStart (u8At input 0) then none
  else
    let code := u8At input 0 &&& 0x07
    let start := if code = 0 then 2 else 1
    let bodyLen := if code = 0 then (u8At input 1).toNat else code.toNat
    if bodyLen = 0 ∨ input.length - start < bodyLen then none
    else do
      let body := (input.drop start).take bodyLen
      let cid := (u8At body 0 &&& 0x0F).toNat
      let feedback ←
        if u8At body 0 &&& 0xF0 = 0xE0 then
          if cid = 0 then none else readFeedbackBody cid (body.drop 1)
        else readFeedbackBody 0 body
      return (feedback, start + bodyLen)

/-- The loop over the feedback elements in front of a unit: what is left, or `none` at a malformed one. -/
def skipFeedback : Nat → Bytes → Option Bytes
  | 0, input => some input
  | fuel + 1, input =>
    if input = [] ∨ !isFeedbackPacketStart (u8At input 0) then some input
    else do
      let (_, consumed) ← readFeedbackPacket input
      skipFeedback fuel (input.drop consumed)

/-- A unit that does not start like feedback stays as it is. -/
theorem skipFeedback_of_not_start (fuel : Nat) {input : Bytes} (h : isFeedbackPacketStart (u8At input 0) = false) :
    skipFeedback fuel input = some input := by
  cases fuel with
  | zero => rfl
  | succ fuel => simp [skipFeedback, h]

/-- What is left is no longer than what came in. -/
theorem length_skipFeedback_le (fuel : Nat) {input rest : Bytes} (h : skipFeedback fuel input = some rest) :
    rest.length ≤ input.length := by
  induction fuel generalizing input with
  | zero => simp only [skipFeedback, Option.some.injEq] at h; simp [← h]
  | succ fuel ih =>
    rw [skipFeedback] at h
    split at h
    · simp only [Option.some.injEq] at h
      simp [← h]
    · simp only [Option.bind_eq_bind, Option.bind_eq_some_iff] at h
      obtain ⟨⟨_, consumed⟩, -, h⟩ := h
      have := ih h
      simp only [List.length_drop] at this
      omega

end Rohccxx
