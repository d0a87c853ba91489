import Rohccxx.CrcTables
import Rohccxx.FeedbackWriters

/-!
# Correlated feedback elements

`write_feedback2_v1` and what its CRC-8 is good for. The CRC notices every change of a single octet, so none
behind the first one is accepted: in the CRC octet it contradicts the rest, and anywhere else it changes the CRC of the
rest.

* `readFeedback2V1_write` — a written element is accepted with its CID, type, number and validity.
* `readFeedback2V1_set` — no accepted element is accepted with one octet changed.
-/

set_option autoImplicit false

namespace Rohccxx

open Octets Checksum

/-! ## The writer -/

/-- The octets of an element in front of its CRC, without the first. -/
def feedback2Head (feedback : Feedback) : Bytes :=
  let ack := if feedback.acknowledgmentValid then feedback.acknowledgmentNumber else 0
  (if feedback.cid ≠ 0 then [0xE0 ||| UInt8.ofNat feedback.cid] else []) ++
    [(feedbackAckType feedback.type <<< 6) ||| ((ack >>> 8) &&& 0x3F).toUInt8, (ack &&& 0xFF).toUInt8]

/-- The octets behind the CRC: the ACKNUMBER-NOT-VALID option. -/
def feedback2Tail (feedback : Feedback) : Bytes := if !feedback.acknowledgmentValid then [0x30] else []

/-- `write_feedback2_v1`. The CRC is taken with its own octet zero. -/
def writeFeedback2V1 (cap : Nat) (feedback : Feedback) : Option Bytes :=
  if feedback.cid > 0x0F ∨ (feedback.acknowledgmentValid ∧ feedback.acknowledgmentBits ≠ 14) then none
  else
    let bodyLen := (if feedback.cid ≠ 0 then 1 else 0) + 3 + (if !feedback.acknowledgmentValid then 1 else 0)
    let required := 1 + bodyLen
    if bodyLen > 7 ∨ cap < required then none
    else
      let crc := crc8 (feedback2Head feedback ++ [0] ++ feedback2Tail feedback)
      some ([0xF0 ||| UInt8.ofNat bodyLen] ++ feedback2Head feedback ++ [crc] ++ feedback2Tail feedback)

/-! ## Acceptance -/

section Acceptance

variable {input : Bytes} {read : Feedback}

/-- The octets in front of the feedback code in a body. -/
def addCidLen (body : Bytes) : Nat := if u8At body 0 &&& 0xF0 = 0xE0 then 1 else 0

/-- What the reader returns for a body. -/
def feedback2Of (cid pos : Nat) (body : Bytes) (type : FeedbackType) (notValid : Bool) : Feedback where
  cid := cid
  type := type
  acknowledgmentNumber := u16At body pos &&& 0x3FFF
  acknowledgmentBits := 14
  acknowledgmentValid := !notValid
  crcPresent := true
  crcValid := true

/-- The reader's conditions on a body whose feedback code stands at `pos`. -/
structure BodyAccepted (cid pos : Nat) (body : Bytes) (read : Feedback) : Prop where
  room : pos + 3 ≤ body.length
  crc : crc8 (body.set (pos + 2) 0) = u8At body (pos + 2)
  parts : ∃ type notValid, feedbackTypeFromAckType (u8At body pos >>> 6) = some type ∧
    readFeedback2Options (body.drop (pos + 3)) = .ok notValid ∧ read = feedback2Of cid pos body type notValid

theorem readFeedback2Body_eq_ok {cid pos : Nat} {body : Bytes} {isWhole : Bool} :
    readFeedback2Body cid pos body isWhole = .ok read ↔ isWhole = true ∧ BodyAccepted cid pos body read := by
  unfold readFeedback2Body
  by_cases hroom : body.length - pos < 3
  · rw [if_pos hroom]
    refine iff_of_false (fun h => by cases h) fun h => ?_
    have := h.2.room
    omega
  rw [if_neg hroom]
  cases htype : feedbackTypeFromAckType (u8At body pos >>> 6) with
  | none =>
    refine iff_of_false (fun h => by cases h) fun h => ?_
    obtain ⟨type, -, h', -⟩ := h.2.parts
    rw [htype] at h'
    cases h'
  | some type =>
    cases hoptions : readFeedback2Options (body.drop (pos + 3)) with
    | error status =>
      refine iff_of_false (fun h => by cases h) fun h => ?_
      obtain ⟨-, notValid, -, h', -⟩ := h.2.parts
      rw [hoptions] at h'
      cases h'
    | ok notValid =>
      dsimp only
      by_cases hbad : (!isWhole) = true ∨ crc8 (body.set (pos + 2) 0) ≠ u8At body (pos + 2)
      · rw [if_pos hbad]
        refine iff_of_false (fun h => by cases h) fun h => ?_
        rcases hbad with hwhole | hcrc
        · rw [h.1] at hwhole
          cases hwhole
        · exact hcrc h.2.crc
      · rw [if_neg hbad]
        simp only [not_or, Bool.not_eq_true, Bool.not_eq_false', ne_eq, Decidable.not_not] at hbad
        constructor
        · intro h
          exact ⟨hbad.1, by omega, hbad.2, type, notValid, htype, hoptions, (Except.ok.inj h).symm⟩
        · rintro ⟨-, -, -, type', notValid', htype', hoptions', rfl⟩
          rw [htype] at htype'
          rw [hoptions] at hoptions'
          obtain rfl := Option.some.inj htype'
          obtain rfl := Except.ok.inj hoptions'
          rfl

/-- **What the reader accepts:** one size octet, then a body that fills the input. -/
theorem readFeedback2V1_eq_ok : readFeedback2V1 input = .ok read ↔
    4 ≤ input.length ∧ isFeedbackPacketStart (u8At input 0) = true ∧
      1 + (u8At input 0 &&& 0x07).toNat = input.length ∧
      (addCidLen (input.drop 1) = 1 → (u8At (input.drop 1) 0 &&& 0x0F).toNat ≠ 0) ∧
      BodyAccepted (if addCidLen (input.drop 1) = 1 then (u8At (input.drop 1) 0 &&& 0x0F).toNat else 0)
        (addCidLen (input.drop 1)) (input.drop 1) read := by
  unfold readFeedback2V1
  dsimp only
  by_cases hbad : input.length < 4 ∨ (!isFeedbackPacketStart (u8At input 0)) = true ∨
      (u8At input 0 &&& 0x07).toNat = 0 ∨ input.length < 1 + (u8At input 0 &&& 0x07).toNat
  · rw [if_pos hbad]
    refine iff_of_false (fun h => by cases h) fun h => ?_
    obtain ⟨hlen, hstart, hsize, -⟩ := h
    rw [hstart] at hbad
    simp only [Bool.not_true, Bool.false_eq_true, false_or] at hbad
    omega
  rw [if_neg hbad]
  simp only [not_or, Bool.not_eq_true, Bool.not_eq_false'] at hbad
  obtain ⟨hlen, hstart, hpos, hroom⟩ := hbad
  have hwhole : ∀ {cid pos : Nat},
      (readFeedback2Body cid pos ((input.drop 1).take (u8At input 0 &&& 0x07).toNat)
        (decide (1 + (u8At input 0 &&& 0x07).toNat = input.length)) = .ok read ↔
      1 + (u8At input 0 &&& 0x07).toNat = input.length ∧ BodyAccepted cid pos (input.drop 1) read) := by
    intro cid pos
    rw [readFeedback2Body_eq_ok, decide_eq_true_eq]
    refine and_congr_right fun hsize => ?_
    rw [List.take_of_length_le (by rw [List.length_drop]; omega)]
  have hfirst : u8At ((input.drop 1).take (u8At input 0 &&& 0x07).toNat) 0 = u8At (input.drop 1) 0 := by
    obtain ⟨n, hn⟩ := Nat.exists_eq_succ_of_ne_zero hpos
    rw [hn]
    cases input.drop 1 with
    | nil => rfl
    | cons b rest => rfl
  rw [hfirst]
  unfold addCidLen
  by_cases htag : u8At (input.drop 1) 0 &&& 0xF0 = 0xE0
  · simp only [htag, ne_eq, not_true_eq_false, if_false, if_true, true_imp_iff, hstart, true_and, Nat.not_lt.mp hlen]
    by_cases hcid : (u8At (input.drop 1) 0 &&& 0x0F).toNat = 0
    · rw [if_pos hcid]
      exact iff_of_false (fun h => by cases h) fun h => h.2.1 hcid
    · rw [if_neg hcid, hwhole]
      simp only [hcid, not_false_eq_true, true_and]
  · simp only [htag, ne_eq, not_false_eq_true, if_true, if_false, Nat.zero_ne_one, false_imp_iff, true_and, hstart,
      Nat.not_lt.mp hlen]
    exact hwhole

/-- **No change of one octet behind the first is accepted**, unless it makes or breaks an Add-CID octet. -/
theorem readFeedback2V1_set (h : readFeedback2V1 input = .ok read) {i : Nat} (hpos : 1 ≤ i) (hi : i < input.length)
    {v : UInt8} (hne : v ≠ input[i]) (hcid : addCidLen ((input.set i v).drop 1) = addCidLen (input.drop 1))
    (read' : Feedback) : readFeedback2V1 (input.set i v) ≠ .ok read' := by
  intro h'
  obtain ⟨-, -, -, -, hbody⟩ := readFeedback2V1_eq_ok.mp h
  obtain ⟨-, -, -, -, hbody'⟩ := readFeedback2V1_eq_ok.mp h'
  rw [hcid] at hbody'
  obtain ⟨j, rfl⟩ := Nat.exists_eq_add_of_le hpos
  have hdrop : (input.set (1 + j) v).drop 1 = (input.drop 1).set j v := by
    rw [List.drop_set, if_neg (by omega), Nat.add_sub_cancel_left]
  rw [hdrop] at hbody'
  have hold : (input.drop 1)[j]? = some input[1 + j] := by
    rw [List.getElem?_drop, List.getElem?_eq_getElem hi]
  have hroom := hbody.room
  have hcrc := hbody.crc
  have hcrc' := hbody'.crc
  generalize input.drop 1 = body at hold hroom hcrc hcrc'
  generalize addCidLen body + 2 = p at hroom hcrc hcrc'
  have hj : j < body.length := (List.getElem?_eq_some_iff.mp hold).1
  have hbodyj : body[j] = input[1 + j] := (List.getElem?_eq_some_iff.mp hold).2
  by_cases hp : j = p
  · -- The CRC octet itself: the CRC of the rest is the same.
    subst hp
    rw [List.set_set, hcrc] at hcrc'
    refine hne ?_
    rw [← hbodyj]
    simpa [u8At, List.getElem?_set_self hj, List.getElem?_eq_getElem hj] using hcrc'.symm
  · -- Any other octet: the CRC octet is the same, the CRC of the rest is not.
    have hset : (body.set j v).set p 0 = (body.set p 0).set j v := (List.set_comm v 0 hp)
    have hsame : u8At (body.set j v) p = u8At body p := by simp [u8At, List.getElem?_set_ne hp]
    rw [hset, hsame, ← hcrc] at hcrc'
    have hlen : j < (body.set p 0).length := by rw [List.length_set]; exact hj
    refine crc8_set_ne hlen ?_ hcrc'
    rw [List.getElem_set_ne (fun e => hp e.symm), hbodyj]
    exact hne

end Acceptance

/-! ## Written elements -/

section Written

variable {feedback : Feedback} {out : Bytes} {cap : Nat}

/-- The octet that holds the type and the six highest bits of the number. -/
theorem feedback2_code (type : FeedbackType) (y : UInt8) :
    ((feedbackAckType type <<< 6) ||| (y &&& 0x3F)) >>> 6 = feedbackAckType type ∧
      ((feedbackAckType type <<< 6) ||| (y &&& 0x3F)) &&& 0xF0 ≠ 0xE0 ∧
      ((feedbackAckType type <<< 6) ||| (y &&& 0x3F)).toNat = (feedbackAckType type).toNat * 64 + y.toNat % 64 := by
  revert y
  cases type with
  | ack => exact forall_octet (by decide)
  | nack => exact forall_octet (by decide)
  | staticNack => exact forall_octet (by decide)

theorem feedbackTypeFromAckType_ackType (type : FeedbackType) :
    feedbackTypeFromAckType (feedbackAckType type) = some type := by
  cases type <;> rfl

/-- The number an element carries. -/
def Feedback.wireNumber (feedback : Feedback) : UInt16 :=
  if feedback.acknowledgmentValid then feedback.acknowledgmentNumber else 0

/-- The code octet of an element. -/
def Feedback.codeOctet (feedback : Feedback) : UInt8 :=
  (feedbackAckType feedback.type <<< 6) ||| ((feedback.wireNumber >>> 8).toUInt8 &&& 0x3F)

theorem feedback2Head_eq (feedback : Feedback) :
    feedback2Head feedback = (if feedback.cid ≠ 0 then [0xE0 ||| UInt8.ofNat feedback.cid] else []) ++
      [feedback.codeOctet, feedback.wireNumber.toUInt8] := by
  have hlow : ∀ ack : UInt16, (ack &&& 0xFF).toUInt8 = ack.toUInt8 := fun ack => by
    apply UInt8.toNat_inj.mp
    have hand := Nat.and_two_pow_sub_one_eq_mod ack.toNat 8
    have h255 : (0xFF : UInt16).toNat = 2 ^ 8 - 1 := rfl
    rw [UInt16.toNat_toUInt8, UInt16.toNat_toUInt8, UInt16.toNat_and, h255, hand]
    exact Nat.mod_mod ack.toNat 256
  have hhigh : ∀ ack : UInt16, ((ack >>> 8) &&& 0x3F).toUInt8 = (ack >>> 8).toUInt8 &&& 0x3F := fun ack =>
    UInt16.toUInt8_and _ _
  unfold feedback2Head Feedback.codeOctet Feedback.wireNumber
  dsimp only
  rw [hlow, hhigh]

/-- Where the feedback code stands. -/
theorem addCidLen_head (hcid : feedback.cid ≤ 15) (rest : Bytes) :
    addCidLen (feedback2Head feedback ++ rest) = (if feedback.cid ≠ 0 then 1 else 0) ∧
      (feedback.cid ≠ 0 → (u8At (feedback2Head feedback ++ rest) 0 &&& 0x0F).toNat = feedback.cid) := by
  have hkey : ∀ m : Fin 16, ((0xE0 : UInt8) ||| UInt8.ofNat m) &&& 0xF0 = 0xE0 ∧
      (((0xE0 : UInt8) ||| UInt8.ofNat m) &&& 0x0F).toNat = m := by decide
  obtain ⟨htag, hvalue⟩ := hkey ⟨feedback.cid, by omega⟩
  dsimp only at htag hvalue
  rw [feedback2Head_eq]
  unfold addCidLen
  by_cases hzero : feedback.cid = 0
  · have hcode := (feedback2_code feedback.type (feedback.wireNumber >>> 8).toUInt8).2.1
    have hfirst : u8At ([] ++ [feedback.codeOctet, feedback.wireNumber.toUInt8] ++ rest) 0 = feedback.codeOctet := rfl
    simp only [hzero, ne_eq, not_true_eq_false, if_false, hfirst]
    exact ⟨if_neg hcode, fun h => absurd h (by simp)⟩
  · simp only [ne_eq, hzero, not_false_eq_true, if_true, List.cons_append, u8At, List.getD_cons_zero, htag, hvalue,
      true_imp_iff, and_self]

/-- The octets of an element. -/
def feedback2Element (feedback : Feedback) : Bytes :=
  [0xF0 ||| UInt8.ofNat ((if feedback.cid ≠ 0 then 1 else 0) + 3 + (if !feedback.acknowledgmentValid then 1 else 0))] ++
    feedback2Head feedback ++ [crc8 (feedback2Head feedback ++ [0] ++ feedback2Tail feedback)] ++ feedback2Tail feedback

/-- The writer's octets, and when it writes. -/
theorem writeFeedback2V1_eq (hcid : feedback.cid ≤ 15)
    (hbits : feedback.acknowledgmentValid = true → feedback.acknowledgmentBits = 14) :
    writeFeedback2V1 cap feedback =
      if cap < (feedback2Element feedback).length then none else some (feedback2Element feedback) := by
  have hok : ¬ (feedback.cid > 0x0F ∨ (feedback.acknowledgmentValid = true ∧ feedback.acknowledgmentBits ≠ 14)) := by
    rintro (h | ⟨hvalid, h⟩)
    · omega
    · exact h (hbits hvalid)
  unfold writeFeedback2V1
  rw [if_neg hok]
  dsimp only
  have hlen : (feedback2Element feedback).length =
      1 + ((if feedback.cid ≠ 0 then 1 else 0) + 3 + (if !feedback.acknowledgmentValid then 1 else 0)) := by
    unfold feedback2Element
    rw [feedback2Head_eq]
    unfold feedback2Tail
    by_cases hzero : feedback.cid = 0 <;> cases feedback.acknowledgmentValid <;> simp [hzero]
  have hle : (if feedback.cid ≠ 0 then 1 else 0) + 3 + (if !feedback.acknowledgmentValid then 1 else 0) ≤ 7 := by
    split <;> split <;> omega
  rw [← hlen]
  have hiff : ((if feedback.cid ≠ 0 then 1 else 0) + 3 + (if !feedback.acknowledgmentValid then 1 else 0) > 7 ∨
      cap < (feedback2Element feedback).length) ↔ cap < (feedback2Element feedback).length :=
    or_iff_right (Nat.not_lt.mpr hle)
  simp only [hiff]
  rfl

/-- Nothing else is written. -/
theorem of_writeFeedback2V1 (h : writeFeedback2V1 cap feedback = some out) : feedback.cid ≤ 15 ∧
    (feedback.acknowledgmentValid = true → feedback.acknowledgmentBits = 14) ∧ out = feedback2Element feedback := by
  have hok : feedback.cid ≤ 15 ∧ (feedback.acknowledgmentValid = true → feedback.acknowledgmentBits = 14) := by
    unfold writeFeedback2V1 at h
    split at h
    · cases h
    · rename_i hok
      simp only [not_or, not_and, ne_eq, Decidable.not_not, gt_iff_lt, Nat.not_lt] at hok
      exact hok
  rw [writeFeedback2V1_eq hok.1 hok.2] at h
  split at h
  · cases h
  · exact ⟨hok.1, hok.2, (Option.some.inj h).symm⟩

/-- The 14 bits of the number. -/
theorem number_of_octets (feedback : Feedback) :
    (ofBe16 feedback.codeOctet feedback.wireNumber.toUInt8 &&& 0x3FFF).toNat = feedback.wireNumber.toNat % 2 ^ 14 := by
  have hcode := (feedback2_code feedback.type (feedback.wireNumber >>> 8).toUInt8).2.2
  have hmask : (0x3FFF : UInt16).toNat = 2 ^ 14 - 1 := rfl
  have hhigh : (feedback.wireNumber >>> 8).toUInt8.toNat = feedback.wireNumber.toNat / 256 % 256 := by
    rw [UInt16.toNat_toUInt8, UInt16.toNat_shiftRight]
    simp only [UInt16.reduceToNat, Nat.reduceMod, Nat.shiftRight_eq_div_pow, Nat.reducePow]
  rw [UInt16.toNat_and, hmask, Nat.and_two_pow_sub_one_eq_mod, toNat_ofBe16]
  unfold Feedback.codeOctet
  rw [hcode, hhigh, UInt16.toNat_toUInt8]
  omega

theorem u8At_code (feedback : Feedback) (rest : Bytes) :
    u8At (feedback2Head feedback ++ rest) (if feedback.cid ≠ 0 then 1 else 0) = feedback.codeOctet := by
  rw [feedback2Head_eq]
  by_cases hzero : feedback.cid = 0 <;> simp [hzero, u8At]

theorem u8At_code_succ (feedback : Feedback) (rest : Bytes) :
    u8At (feedback2Head feedback ++ rest) ((if feedback.cid ≠ 0 then 1 else 0) + 1) = feedback.wireNumber.toUInt8 := by
  rw [feedback2Head_eq]
  by_cases hzero : feedback.cid = 0 <;> simp [hzero, u8At]

/-- **A written element is accepted** with its CID, type, number and validity. -/
theorem readFeedback2V1_write (hcid : feedback.cid ≤ 15) : ∃ read, readFeedback2V1 (feedback2Element feedback) = .ok read ∧
    read.cid = feedback.cid ∧ read.type = feedback.type ∧ read.acknowledgmentValid = feedback.acknowledgmentValid ∧
      read.acknowledgmentNumber.toNat = feedback.wireNumber.toNat % 2 ^ 14 := by
  obtain ⟨hpos, hvalue⟩ := addCidLen_head hcid ([crc8 (feedback2Head feedback ++ [0] ++ feedback2Tail feedback)] ++
    feedback2Tail feedback)
  have hhead : (feedback2Head feedback).length = (if feedback.cid ≠ 0 then 1 else 0) + 2 := by
    rw [feedback2Head_eq]
    by_cases hzero : feedback.cid = 0 <;> simp [hzero]
  have htail : (feedback2Tail feedback).length = if !feedback.acknowledgmentValid then 1 else 0 := by
    unfold feedback2Tail
    cases feedback.acknowledgmentValid <;> rfl
  have hdrop : (feedback2Element feedback).drop 1 = feedback2Head feedback ++
      ([crc8 (feedback2Head feedback ++ [0] ++ feedback2Tail feedback)] ++ feedback2Tail feedback) := by
    unfold feedback2Element
    simp only [List.cons_append, List.nil_append, List.drop_succ_cons, List.drop_zero, List.append_assoc]
  have hkey : ∀ n : Fin 8, isFeedbackPacketStart ((0xF0 : UInt8) ||| UInt8.ofNat n) = true ∧
      (((0xF0 : UInt8) ||| UInt8.ofNat n) &&& 0x07).toNat = n := by decide
  have hle : (if feedback.cid ≠ 0 then 1 else 0) + 3 + (if !feedback.acknowledgmentValid then 1 else 0) < 8 := by
    split <;> split <;> omega
  obtain ⟨hstart, hsize⟩ := hkey ⟨_, hle⟩
  dsimp only at hstart hsize
  have hfirst : u8At (feedback2Element feedback) 0 = 0xF0 |||
      UInt8.ofNat ((if feedback.cid ≠ 0 then 1 else 0) + 3 + (if !feedback.acknowledgmentValid then 1 else 0)) := rfl
  have hlen : (feedback2Element feedback).length = 1 + ((if feedback.cid ≠ 0 then 1 else 0) + 3 +
      (if !feedback.acknowledgmentValid then 1 else 0)) := by
    unfold feedback2Element
    simp only [List.length_append, List.length_singleton, hhead, htail]
    omega
  have hoptions : readFeedback2Options (feedback2Tail feedback) = .ok (!feedback.acknowledgmentValid) := by
    unfold feedback2Tail
    cases feedback.acknowledgmentValid
    · rfl
    · rfl
  have hcode := (feedback2_code feedback.type (feedback.wireNumber >>> 8).toUInt8).1
  refine ⟨feedback2Of feedback.cid (if feedback.cid ≠ 0 then 1 else 0) ((feedback2Element feedback).drop 1) feedback.type
    (!feedback.acknowledgmentValid), readFeedback2V1_eq_ok.mpr ⟨by omega, ?_, ?_, ?_, ?_⟩, rfl, rfl, Bool.not_not _, ?_⟩
  · rw [hfirst]
    exact hstart
  · rw [hfirst, hsize, hlen]
  · rw [hdrop, hpos]
    intro hone
    have hzero : feedback.cid ≠ 0 := by
      intro h
      simp [h] at hone
    rw [hvalue hzero]
    exact hzero
  · have hcidEq : (if addCidLen ((feedback2Element feedback).drop 1) = 1 then
        (u8At ((feedback2Element feedback).drop 1) 0 &&& 0x0F).toNat else 0) = feedback.cid := by
      rw [hdrop, hpos]
      by_cases hzero : feedback.cid = 0
      · simp [hzero]
      · rw [hvalue hzero]
        simp [hzero]
    rw [hcidEq, hdrop, hpos]
    refine ⟨?_, ?_, feedback.type, !feedback.acknowledgmentValid, ?_, ?_, rfl⟩
    · simp only [List.length_append, List.length_singleton, hhead]
      omega
    · rw [← hhead, List.set_append_right _ _ (Nat.le_refl _), Nat.sub_self, List.singleton_append, u8At_append_length,
        List.append_assoc]
      rfl
    · rw [u8At_code]
      unfold Feedback.codeOctet
      rw [hcode, feedbackTypeFromAckType_ackType]
    · have hbehind : (if feedback.cid ≠ 0 then 1 else 0) + 3 = (feedback2Head feedback).length + 1 := by rw [hhead]
      rw [hbehind, ← List.drop_drop, List.drop_left]
      exact hoptions
  · rw [hdrop]
    unfold feedback2Of u16At
    dsimp only
    rw [u8At_code, u8At_code_succ]
    exact number_of_octets feedback

end Written

/-- **Correlated feedback.** What the writer writes is accepted with the same CID, type and validity, and with the number
modulo 2^14 if it is valid; with any one octet behind the first changed it is not accepted, unless the change makes or
breaks an Add-CID octet. -/
theorem feedback2_v1_round_trip (feedback : Feedback) (hcid : feedback.cid ≤ 15) :
    (∀ cap, 6 ≤ cap → (feedback.acknowledgmentValid = true → feedback.acknowledgmentBits = 14) →
      (writeFeedback2V1 cap feedback).isSome = true) ∧
    ∀ (cap : Nat) (out : Bytes), writeFeedback2V1 cap feedback = some out →
      (∃ read, readFeedback2V1 out = .ok read ∧ read.cid = feedback.cid ∧ read.type = feedback.type ∧
        read.acknowledgmentValid = feedback.acknowledgmentValid ∧
        (feedback.acknowledgmentValid = true →
          read.acknowledgmentNumber.toNat = feedback.acknowledgmentNumber.toNat % 2 ^ 14)) ∧
      ∀ (i : Nat) (v : UInt8), 1 ≤ i → i < out.length → v ≠ u8At out i →
        (u8At (out.set i v) 1 &&& 0xF0 = 0xE0 ↔ u8At out 1 &&& 0xF0 = 0xE0) →
        ∀ read, readFeedback2V1 (out.set i v) ≠ .ok read := by
  refine ⟨fun cap hcap hbits => ?_, fun cap out hwrite => ?_⟩
  · have hlen : (feedback2Element feedback).length ≤ 6 := by
      unfold feedback2Element
      rw [feedback2Head_eq]
      unfold feedback2Tail
      by_cases hzero : feedback.cid = 0 <;> cases feedback.acknowledgmentValid <;> simp [hzero]
    rw [writeFeedback2V1_eq hcid hbits, if_neg (by omega)]
    rfl
  · obtain ⟨-, -, rfl⟩ := of_writeFeedback2V1 hwrite
    obtain ⟨read, hread, hcid', htype, hvalid, hnumber⟩ := readFeedback2V1_write hcid
    refine ⟨⟨read, hread, hcid', htype, hvalid, fun h => ?_⟩, fun i v hpos hi hne hadd read' => ?_⟩
    · rw [hnumber, Feedback.wireNumber, if_pos h]
    · refine readFeedback2V1_set hread hpos hi ?_ ?_ read'
      · simpa [u8At, List.getElem?_eq_getElem hi] using hne
      · unfold addCidLen
        rw [u8At_drop, u8At_drop]
        exact if_congr hadd rfl rfl

/-- An acknowledgment of MSN 0x1234 on CID 5. -/
theorem feedback2_v1_round_trip_ack :
    ∃ read, readFeedback2V1 [0xF4, 0xE5, 0x12, 0x34, 0x93] = .ok read ∧ read.cid = 5 ∧ read.type = .ack ∧
      read.acknowledgmentValid = true ∧ (true = true → read.acknowledgmentNumber.toNat = 0x1234 % 2 ^ 14) :=
  ((feedback2_v1_round_trip
    { cid := 5, type := .ack, acknowledgmentNumber := 0x1234, acknowledgmentBits := 14, acknowledgmentValid := true }
    (by decide)).2 6 _ (by decide)).1

end Rohccxx
