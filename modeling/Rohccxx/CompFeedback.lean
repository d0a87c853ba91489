import Rohccxx.Compress
import Rohccxx.Feedback

/-!
# Feedback at the compressor

`apply_feedback_to_context` and the three calls that deliver feedback. The two legacy calls carry no MSN; the v1 call
looks the acknowledged MSN up among the transmitted ones and hands the revision it was sent under to the context. Each
call comes down to a list of elements taken one after the other (`takeFeedback`).
-/

set_option autoImplicit false

namespace Rohccxx

open Octets

/-! ## One context -/

/-- The state of a context on feedback, its mode set. -/
def acknowledge (ctx : Context) (feedback : Feedback) : Context :=
  let currentRevisionAck := feedback.acknowledgmentValid ∧
    feedback.acknowledgedContextRevision = some ctx.contextRevision
  let ctx := { ctx with nackCount := 0 }
  let ctx := if currentRevisionAck then
      { ctx with
        profileReplacementPending := false
        formalPt0SinceConfirmation := (feedback.acknowledgedContextDistance.map (·.toUInt8)).getD 0 }
    else ctx
  let mayAckCurrentState := !ctx.profileReplacementPending ∨ currentRevisionAck
  { ctx with
    staticAcked := if mayAckCurrentState ∧ ctx.rohcState ≠ .noContext then true else ctx.staticAcked
    dynamicAcked := if mayAckCurrentState ∧ ctx.rohcState = .dynamicEstablished then true else ctx.dynamicAcked }

/-- The context starts over with an IR. -/
def dropContext (ctx : Context) : Context :=
  { ctx with staticAcked := false, dynamicAcked := false, rohcState := .noContext, txCount := 0 }

/-- `apply_feedback_to_context`. The first NACK asks for the dynamic part again, a second one for everything. -/
def applyFeedbackToContext (ctx : Context) (feedback : Feedback) : Context :=
  let ctx := { ctx with mode := feedback.mode.getD ctx.mode }
  match feedback.type with
  | .ack => acknowledge ctx feedback
  | .staticNack => dropContext { ctx with nackCount := 0 }
  | .nack =>
    let ctx := { ctx with nackCount := ctx.nackCount + 1, dynamicAcked := false }
    if ctx.nackCount > 1 then dropContext ctx else { ctx with rohcState := .staticEstablished, txCount := 1 }

/-- What feedback leaves alone. -/
structure FeedbackKeeps (a b : Context) : Prop where
  profile : b.profile = a.profile
  used : b.profileHasBeenUsed = a.profileHasBeenUsed
  revision : b.contextRevision = a.contextRevision
  msn : b.msn = a.msn
  reorderRatio : b.reorderRatio = a.reorderRatio

theorem applyFeedbackToContext_keeps (ctx : Context) (feedback : Feedback) :
    FeedbackKeeps ctx (applyFeedbackToContext ctx feedback) := by
  unfold applyFeedbackToContext
  dsimp only
  split
  · unfold acknowledge
    dsimp only
    split
    · exact ⟨rfl, rfl, rfl, rfl, rfl⟩
    · exact ⟨rfl, rfl, rfl, rfl, rfl⟩
  · exact ⟨rfl, rfl, rfl, rfl, rfl⟩
  · split
    · exact ⟨rfl, rfl, rfl, rfl, rfl⟩
    · exact ⟨rfl, rfl, rfl, rfl, rfl⟩

/-- Only an ACK of the current revision lifts the hold of a replacement. -/
theorem applyFeedbackToContext_pending {ctx : Context} {feedback : Feedback} (hp : ctx.profileReplacementPending = true)
    (h : (applyFeedbackToContext ctx feedback).profileReplacementPending = false) :
    feedback.type = .ack ∧ feedback.acknowledgedContextRevision = some ctx.contextRevision := by
  unfold applyFeedbackToContext at h
  dsimp only at h
  split at h
  · rename_i htype
    refine ⟨htype, ?_⟩
    unfold acknowledge at h
    dsimp only at h
    split at h
    · rename_i hack
      exact hack.2
    · exact nomatch hp.symm.trans h
  · exact nomatch hp.symm.trans h
  · split at h
    · exact nomatch hp.symm.trans h
    · exact nomatch hp.symm.trans h

/-- Feedback establishes no dynamic part. -/
theorem applyFeedbackToContext_state {ctx : Context} {feedback : Feedback}
    (h : (applyFeedbackToContext ctx feedback).rohcState = .dynamicEstablished) :
    ctx.rohcState = .dynamicEstablished := by
  unfold applyFeedbackToContext at h
  dsimp only at h
  split at h
  · unfold acknowledge at h
    dsimp only at h
    split at h
    · exact h
    · exact h
  · cases h
  · split at h
    · cases h
    · cases h

/-- Only an ACK marks the dynamic part, once it is established. -/
theorem applyFeedbackToContext_dynamicAcked {ctx : Context} {feedback : Feedback}
    (h : (applyFeedbackToContext ctx feedback).dynamicAcked = true) :
    feedback.type = .ack ∧ (ctx.dynamicAcked = true ∨ ctx.rohcState = .dynamicEstablished) := by
  unfold applyFeedbackToContext at h
  dsimp only at h
  split at h
  · rename_i htype
    refine ⟨htype, ?_⟩
    by_contra hno
    rw [not_or] at hno
    unfold acknowledge at h
    dsimp only at h
    split at h
    · rw [if_neg (fun hc => hno.2 hc.2)] at h
      exact hno.1 h
    · rw [if_neg (fun hc => hno.2 hc.2)] at h
      exact hno.1 h
  · cases h
  · split at h
    · cases h
    · cases h

/-- One element: its mode goes to the handle, the rest to the context of its CID, if there is one. -/
def Compressor.takeFeedback (comp : Compressor) (feedback : Feedback) : Compressor :=
  { comp with
    mode := feedback.mode.getD comp.mode
    contexts := match comp.contexts.get feedback.cid with
      | some ctx => comp.contexts.set feedback.cid (applyFeedbackToContext ctx feedback)
      | none => comp.contexts }

theorem Compressor.contexts_takeFeedback {comp : Compressor} {feedback : Feedback} {ctx : Context}
    (h : comp.contexts.get feedback.cid = some ctx) :
    (comp.takeFeedback feedback).contexts = comp.contexts.set feedback.cid (applyFeedbackToContext ctx feedback) := by
  unfold takeFeedback
  rw [h]

theorem Compressor.contexts_takeFeedback_of_none {comp : Compressor} {feedback : Feedback}
    (h : comp.contexts.get feedback.cid = none) : (comp.takeFeedback feedback).contexts = comp.contexts := by
  unfold takeFeedback
  rw [h]

/-! ## The legacy calls -/

/-- `FeedbackType` behind the octet, and `is_known_feedback_type`. -/
def feedbackTypeOf (octet : UInt8) : Option FeedbackType :=
  if octet = 0 then some .nack else if octet = 1 then some .staticNack else if octet = 2 then some .ack else none

/-- The elements at the front of `rohc_comp_deliver_feedback_packet`'s octets; those before a malformed one count. -/
def deliveredFeedback : Nat → Bytes → List Feedback
  | 0, _ => []
  | fuel + 1, input =>
    if input = [] ∨ !isFeedbackPacketStart (u8At input 0) then []
    else
      match readFeedbackPacket input with
      | none => []
      | some (feedback, consumed) => feedback :: deliveredFeedback fuel (input.drop consumed)

/-! ## The v1 call -/

inductive FeedbackStatus where
  | accepted
  | stale
  | malformed
  | uncorrelated
  | unsupported
deriving DecidableEq, Repr

inductive Direction where
  | uplink
  | downlink
deriving DecidableEq, Repr

/-- `transmitted_msn_revision`: the newest transmitted MSN that ends in the acknowledged bits, with its revision. -/
def transmittedMsnRevision (ctx : Context) (acknowledgment : UInt16) (bits : UInt8) : Option (UInt64 × UInt16) :=
  if bits = 0 ∨ bits > 16 ∨ ctx.transmittedMsnCount = 0 then none
  else
    let mask : UInt16 := if bits = 16 then 0xFFFF else ((1 : UInt16) <<< bits.toUInt16) - 1
    (List.range ctx.transmittedMsnCount).findSome? fun offset =>
      let index := Fin.ofNat 64 (ctx.transmittedMsnHead + 64 - 1 - offset)
      let msn := ctx.transmittedMsnHistory.get index
      if msn &&& mask = acknowledgment &&& mask then some (ctx.transmittedContextRevisionHistory.get index, msn) else none

/-- The option loop of `read_feedback2_v1`: is there an ACKNUMBER-NOT-VALID? It is the only option known. -/
def readFeedback2Options : Bytes → Except FeedbackStatus Bool
  | [] => .ok false
  | option :: rest =>
    if (option &&& 0x0F).toNat > rest.length then .error .malformed
    else if option >>> 4 ≠ 3 then .error .unsupported
    else if option &&& 0x0F ≠ 0 then .error .malformed
    else (readFeedback2Options rest).map fun _ => true

/-- The body of an element from `pos` on, behind its Add-CID octet. The CRC is taken with its own octet zero. -/
def readFeedback2Body (cid pos : Nat) (body : Bytes) (isWhole : Bool) : Except FeedbackStatus Feedback :=
  if body.length - pos < 3 then .error .malformed
  else
    match feedbackTypeFromAckType (u8At body pos >>> 6), readFeedback2Options (body.drop (pos + 3)) with
    | none, _ => .error .unsupported
    | some _, .error status => .error status
    | some type, .ok notValid =>
      if !isWhole ∨ crc8 (body.set (pos + 2) 0) ≠ u8At body (pos + 2) then .error .malformed
      else .ok {
        cid := cid, type := type, acknowledgmentNumber := u16At body pos &&& 0x3FFF, acknowledgmentBits := 14
        acknowledgmentValid := !notValid, crcPresent := true, crcValid := true }

/-- `read_feedback2_v1` of octets that are one element. -/
def readFeedback2V1 (input : Bytes) : Except FeedbackStatus Feedback :=
  let bodyLen := (u8At input 0 &&& 0x07).toNat
  if input.length < 4 ∨ !isFeedbackPacketStart (u8At input 0) ∨ bodyLen = 0 ∨ input.length < 1 + bodyLen then
    .error .malformed
  else
    let body := (input.drop 1).take bodyLen
    let isWhole := decide (1 + bodyLen = input.length)
    let cid := (u8At body 0 &&& 0x0F).toNat
    if u8At body 0 &&& 0xF0 ≠ 0xE0 then readFeedback2Body 0 0 body isWhole
    else if cid = 0 then .error .malformed
    else readFeedback2Body cid 1 body isWhole

/-- `rohccxx_feedback_v1_t`; `raw` holds the first `raw_len` octets. -/
structure FeedbackV1 where
  apiVersion : Nat
  structSize : Nat
  channel : Direction
  cid : Nat
  feedbackType : UInt8
  acknowledgmentNumber : UInt16
  acknowledgmentBits : UInt8
  acknowledgmentValid : Int
  crcPresent : Int
  crcValid : Int
  raw : Bytes

/-- `sizeof(rohccxx_feedback_v1_t)` where pointers have 64 bits. -/
def feedbackV1Size : Nat := 320

/-- `ROHCCXX_FEEDBACK_RAW_MAX`. -/
def feedbackRawMax : Nat := 260

def feedbackV1HeaderValid (feedback : FeedbackV1) : Bool :=
  feedback.apiVersion = 1 && decide (feedback.structSize ≥ feedbackV1Size)

/-- The numbers of the C enumeration. -/
def FeedbackType.toOctet : FeedbackType → UInt8
  | .nack => 0
  | .staticNack => 1
  | .ack => 2

/-- The fields of the record are those of its octets. -/
def feedbackV1Agrees (parsed : Feedback) (feedback : FeedbackV1) : Bool :=
  parsed.cid = feedback.cid && parsed.type.toOctet = feedback.feedbackType &&
    parsed.acknowledgmentNumber = feedback.acknowledgmentNumber &&
    parsed.acknowledgmentBits = feedback.acknowledgmentBits &&
    decide ((if parsed.acknowledgmentValid then 1 else 0) = feedback.acknowledgmentValid) &&
    decide ((if parsed.crcPresent then 1 else 0) = feedback.crcPresent) &&
    decide ((if parsed.crcValid then 1 else 0) = feedback.crcValid)

/-- The lookup of `rohc_comp_deliver_feedback_v1`: feedback that acknowledges an MSN, with the revision and the distance
of that MSN. -/
def correlateFeedback (comp : Compressor) (parsed : Feedback) : Except FeedbackStatus Feedback :=
  match comp.contexts.get parsed.cid with
  | none => .error .uncorrelated
  | some ctx =>
    match transmittedMsnRevision ctx parsed.acknowledgmentNumber parsed.acknowledgmentBits with
    | none => .error .stale
    | some (revision, msn) =>
      if revision ≠ ctx.contextRevision then .error .stale
      else if profileUsesFormalPt0 ctx.profile ∧ ctx.msn - msn > (formalPt0ForwardLimit ctx).toUInt16 then .error .stale
      else .ok { parsed with
        acknowledgedContextRevision := some revision, acknowledgedContextDistance := some (ctx.msn - msn) }

/-- The checks of `rohc_comp_deliver_feedback_v1`: what it applies, or why it does not. -/
def correlateFeedbackV1 (direction : Direction) (comp : Compressor) (feedback : FeedbackV1) :
    Except FeedbackStatus Feedback :=
  if !feedbackV1HeaderValid feedback ∨ feedback.raw = [] ∨ feedback.raw.length > feedbackRawMax then .error .malformed
  else if feedback.channel ≠ direction then .error .uncorrelated
  else
    match readFeedback2V1 feedback.raw with
    | .error status => .error status
    | .ok parsed =>
      if !feedbackV1Agrees parsed feedback then .error .malformed
      else if !parsed.acknowledgmentValid then .error .uncorrelated
      else correlateFeedback comp parsed

/-- What v1 feedback that passed the checks says about the context of its CID. -/
structure Correlated (ctx : Context) (feedback : Feedback) (msn : UInt16) : Prop where
  newest : transmittedMsnRevision ctx feedback.acknowledgmentNumber feedback.acknowledgmentBits =
    some (ctx.contextRevision, msn)
  revision : feedback.acknowledgedContextRevision = some ctx.contextRevision
  distance : feedback.acknowledgedContextDistance = some (ctx.msn - msn)
  valid : feedback.acknowledgmentValid = true
  noMode : feedback.mode = none
  window : profileUsesFormalPt0 ctx.profile = true → ctx.msn - msn ≤ (formalPt0ForwardLimit ctx).toUInt16

theorem readFeedback2Body_mode {cid pos : Nat} {body : Bytes} {isWhole : Bool} {feedback : Feedback}
    (h : readFeedback2Body cid pos body isWhole = .ok feedback) : feedback.mode = none := by
  unfold readFeedback2Body at h
  split at h
  · cases h
  · split at h
    · cases h
    · cases h
    · split at h
      · cases h
      · cases h
        rfl

theorem readFeedback2V1_mode {input : Bytes} {feedback : Feedback} (h : readFeedback2V1 input = .ok feedback) :
    feedback.mode = none := by
  unfold readFeedback2V1 at h
  dsimp only at h
  by_cases h₁ : input.length < 4 ∨ !isFeedbackPacketStart (u8At input 0) ∨ (u8At input 0 &&& 0x07).toNat = 0 ∨
      input.length < 1 + (u8At input 0 &&& 0x07).toNat
  · rw [if_pos h₁] at h
    cases h
  · rw [if_neg h₁] at h
    split at h
    · exact readFeedback2Body_mode h
    · split at h
      · cases h
      · exact readFeedback2Body_mode h

theorem correlateFeedback_ok {comp : Compressor} {parsed feedback : Feedback} (hv : parsed.acknowledgmentValid = true)
    (hm : parsed.mode = none) (h : correlateFeedback comp parsed = .ok feedback) :
    ∃ ctx msn, comp.contexts.get feedback.cid = some ctx ∧ Correlated ctx feedback msn := by
  unfold correlateFeedback at h
  split at h
  · cases h
  · rename_i ctx hctx
    split at h
    · cases h
    · rename_i revision msn hnewest
      split at h
      · cases h
      · rename_i hrev
        split at h
        · cases h
        · rename_i hwindow
          rw [ne_eq, Decidable.not_not] at hrev
          subst hrev
          cases h
          refine ⟨ctx, msn, hctx, hnewest, rfl, rfl, hv, hm, fun hf => ?_⟩
          exact UInt16.not_lt.mp fun hlt => hwindow ⟨hf, hlt⟩

theorem correlateFeedbackV1_ok {direction : Direction} {comp : Compressor} {record : FeedbackV1} {feedback : Feedback}
    (h : correlateFeedbackV1 direction comp record = .ok feedback) :
    ∃ ctx msn, comp.contexts.get feedback.cid = some ctx ∧ Correlated ctx feedback msn := by
  unfold correlateFeedbackV1 at h
  split at h
  · cases h
  · split at h
    · cases h
    · split at h
      · cases h
      · rename_i parsed hparsed
        split at h
        · cases h
        · split at h
          · cases h
          · rename_i hvalid
            exact correlateFeedback_ok (by simpa using hvalid) (readFeedback2V1_mode hparsed) h

end Rohccxx
