import Rohccxx.Fallback
import Rohccxx.FeedbackElements
import Rohccxx.Transactional

/-!
# Feedback in front of a unit

`rohc_decompress4` steps over the feedback elements in front of a unit with `read_feedback_prefix`, the reader of
`write_feedback_packet`. A FEEDBACK-2 element of `write_feedback2_v1` has the same framing and another body: where the
reader expects options behind the two octets of an acknowledgment there is the CRC. It is taken only if the number sets
the bit that announces options and the CRC is zero, the size of an empty list (`readFeedbackAddCid_correlated`).

* `readFeedbackPacket_written` — one element in front of any octets.
* `skipFeedback_written` — the loop, by induction on the elements.
* `piggyback_transparent_iff` — when elements in front of a unit change nothing.
-/

set_option autoImplicit false

namespace Rohccxx

open Octets

/-! ## Elements -/

/-- A feedback value together with the writer it is for. -/
inductive FeedbackElement where
  | packet (feedback : Feedback)
  | correlated (feedback : Feedback)

namespace FeedbackElement

/-- The two writers. -/
def write (cap : Nat) : FeedbackElement → Option Bytes
  | packet feedback => writeFeedbackPacket cap feedback
  | correlated feedback => writeFeedback2V1 cap feedback

/-- The fields are in their ranges: up to four options of up to four octets. -/
def InRange : FeedbackElement → Prop
  | packet feedback => feedback.options.length ≤ 4 ∧ ∀ option ∈ feedback.options, option.value.length ≤ 4
  | correlated _ => True

/-- The elements that the loop of the decompressor steps over. Those of `write_feedback2_v1` hold a valid number that
looks like a code octet with options and without a reserved mode, and have CRC zero. -/
def Skipped : FeedbackElement → Prop
  | packet _ => True
  | correlated feedback =>
    feedback.acknowledgmentValid = true ∧
      (feedback.acknowledgmentNumber >>> 8).toUInt8 &&& 0x10 ≠ 0 ∧
      ((feedback.acknowledgmentNumber >>> 8).toUInt8 &&& 0x20 ≠ 0 →
        (feedback.acknowledgmentNumber >>> 8).toUInt8 &&& 0x03 ≠ 0x03) ∧
      crc8 (feedback2Head feedback ++ [0]) = 0

instance : DecidablePred Skipped
  | packet _ => inferInstanceAs (Decidable True)
  | correlated _ => inferInstanceAs (Decidable (_ ∧ _))

end FeedbackElement

/-- An element that one of the writers has written. -/
structure WrittenFeedback where
  source : FeedbackElement
  cap : Nat
  octets : Bytes
  inRange : source.InRange
  written : source.write cap = some octets

/-- The elements one behind the other. -/
def feedbackFront (elements : List WrittenFeedback) : Bytes := elements.flatMap (·.octets)

/-! ## The reader on an element of the other writer -/

section Correlated

variable {feedback : Feedback}

/-- The flags that the reader sees in the code octet of a FEEDBACK-2 element. -/
theorem codeOctet_flags (type : FeedbackType) (y : UInt8) :
    (((feedbackAckType type <<< 6) ||| (y &&& 0x3F)) &&& 0x10 = y &&& 0x10) ∧
      (((feedbackAckType type <<< 6) ||| (y &&& 0x3F)) &&& 0x20 = y &&& 0x20) ∧
      (((feedbackAckType type <<< 6) ||| (y &&& 0x3F)) &&& 0x03 = y &&& 0x03) ∧
      (feedbackTypeFromAckType ((((feedbackAckType type <<< 6) ||| (y &&& 0x3F)) >>> 6) &&& 0x03)).isSome = true := by
  revert y
  cases type with
  | ack => exact forall_octet (by decide)
  | nack => exact forall_octet (by decide)
  | staticNack => exact forall_octet (by decide)

theorem feedbackMode_isSome (y : UInt8) : (feedbackMode (y &&& 0x03)).isSome = true ↔ y &&& 0x03 ≠ 0x03 := by
  revert y
  exact forall_octet (by decide)

/-- The mode of a body is refused only if it is the reserved one. -/
theorem readFeedbackMode_isSome (body : Bytes) : (readFeedbackMode body).isSome = true ↔
    (u8At body 0 &&& 0x20 ≠ 0 → u8At body 0 &&& 0x03 ≠ 0x03) := by
  unfold readFeedbackMode
  by_cases hmode : u8At body 0 &&& 0x20 ≠ 0
  · rw [if_pos hmode, Option.isSome_map, feedbackMode_isSome]
    exact ⟨fun h _ => h, fun h => h hmode⟩
  · rw [if_neg hmode]
    exact ⟨fun _ h => absurd h hmode, fun _ => rfl⟩

/-- Behind two octets a CRC octet is taken for the size of an option list. -/
theorem readFeedbackTail_crc {code number crc : UInt8} {tail : Bytes} (htail : tail = [] ∨ tail = [0x30]) :
    (readFeedbackTail (code :: number :: crc :: tail)).isSome = true ↔ code &&& 0x10 ≠ 0 ∧ tail = [] ∧ crc = 0 := by
  unfold readFeedbackTail
  have hcode : u8At (code :: number :: crc :: tail) 0 = code := rfl
  have hdrop : (code :: number :: crc :: tail).drop 2 = crc :: tail := rfl
  have hsize : u8At (crc :: tail) 0 = crc := rfl
  rw [hcode, hdrop]
  by_cases hflag : code &&& 0x10 ≠ 0
  · rw [if_pos hflag]
    simp only [hsize, List.length_cons, Nat.add_sub_cancel, List.drop_succ_cons, List.drop_zero]
    rcases htail with rfl | rfl
    · by_cases hcrc : crc = 0
      · subst hcrc
        exact iff_of_true rfl ⟨hflag, rfl, rfl⟩
      · have hne : (0 : Nat) ≠ crc.toNat := fun h => hcrc (UInt8.toNat_inj.mp h.symm)
        rw [if_pos (.inr hne)]
        exact iff_of_false (fun h => by cases h) fun h => hcrc h.2.2
    · refine iff_of_false (fun h => ?_) fun h => by cases h.2.1
      split at h
      · cases h
      · -- One octet is no option.
        cases h
  · rw [if_neg hflag, if_neg (List.cons_ne_nil _ _)]
    exact iff_of_false (fun h => by cases h) fun h => hflag h.1

/-- The octets of a FEEDBACK-2 element behind its size. -/
def feedback2Body (feedback : Feedback) : Bytes :=
  feedback2Head feedback ++ [crc8 (feedback2Head feedback ++ [0] ++ feedback2Tail feedback)] ++ feedback2Tail feedback

theorem length_feedback2Body (feedback : Feedback) : (feedback2Body feedback).length =
    (if feedback.cid ≠ 0 then 1 else 0) + 3 + (if !feedback.acknowledgmentValid then 1 else 0) := by
  unfold feedback2Body
  rw [feedback2Head_eq]
  unfold feedback2Tail
  by_cases hzero : feedback.cid = 0 <;> cases feedback.acknowledgmentValid <;> simp [hzero]

theorem length_feedback2Body_le (feedback : Feedback) :
    3 ≤ (feedback2Body feedback).length ∧ (feedback2Body feedback).length ≤ 5 := by
  rw [length_feedback2Body]
  constructor
  · omega
  · split <;> split <;> omega

/-- Both encodings have the same framing. -/
theorem feedback2Element_eq (feedback : Feedback) :
    feedback2Element feedback = feedbackSize (feedback2Body feedback).length ++ feedback2Body feedback := by
  have hle := length_feedback2Body_le feedback
  have hsize : feedbackSize (feedback2Body feedback).length = [0xF0 ||| UInt8.ofNat (feedback2Body feedback).length] :=
    if_neg (by omega)
  rw [hsize, length_feedback2Body]
  unfold feedback2Element feedback2Body
  simp only [List.append_assoc]

/-- **What the reader takes of the other encoding.** -/
theorem readFeedbackAddCid_correlated (hcid : feedback.cid ≤ 15) :
    (readFeedbackAddCid (feedback2Body feedback)).isSome = true ↔ (FeedbackElement.correlated feedback).Skipped := by
  generalize hrest : [crc8 (feedback2Head feedback ++ [0] ++ feedback2Tail feedback)] ++ feedback2Tail feedback = rest
  have hbody : feedback2Body feedback = feedback2Head feedback ++ rest := by
    rw [← hrest, feedback2Body, List.append_assoc]
  -- The Add-CID octet is read as it was written, so the rest is the same body on some CID.
  have hread : readFeedbackAddCid (feedback2Body feedback) =
      readFeedbackBody feedback.cid (feedback.codeOctet :: feedback.wireNumber.toUInt8 :: rest) := by
    obtain ⟨hpos, hvalue⟩ := addCidLen_head hcid rest
    rw [← hbody] at hpos hvalue
    unfold addCidLen at hpos
    unfold readFeedbackAddCid
    rw [hbody] at hpos hvalue ⊢
    rw [feedback2Head_eq] at hpos hvalue ⊢
    by_cases hzero : feedback.cid = 0
    · simp only [hzero, ne_eq, not_true_eq_false, if_false, List.nil_append] at hpos ⊢
      rw [if_neg (fun h => by rw [if_pos h] at hpos; cases hpos)]
      rfl
    · simp only [ne_eq, hzero, not_false_eq_true, if_true, true_imp_iff] at hpos hvalue ⊢
      rw [if_pos (by by_contra h; rw [if_neg h] at hpos; cases hpos), hvalue, if_neg hzero]
      rfl
  obtain ⟨hoptions, hmode, hbits, htype⟩ := codeOctet_flags feedback.type (feedback.wireNumber >>> 8).toUInt8
  have htail : feedback2Tail feedback = [] ∨ feedback2Tail feedback = [0x30] := by
    unfold feedback2Tail
    cases feedback.acknowledgmentValid
    · exact .inr rfl
    · exact .inl rfl
  have hparts : (readFeedbackBody feedback.cid (feedback.codeOctet :: feedback.wireNumber.toUInt8 :: rest)).isSome = true ↔
      (readFeedbackMode (feedback.codeOctet :: feedback.wireNumber.toUInt8 :: rest)).isSome = true ∧
        (readFeedbackTail (feedback.codeOctet :: feedback.wireNumber.toUInt8 :: rest)).isSome = true := by
    rw [readFeedbackBody_eq, if_neg (by simp only [List.length_cons]; omega)]
    obtain ⟨type, htype⟩ := Option.isSome_iff_exists.mp htype
    have hcode : u8At (feedback.codeOctet :: feedback.wireNumber.toUInt8 :: rest) 0 = feedback.codeOctet := rfl
    rw [hcode, Feedback.codeOctet, htype, Option.bind_some]
    cases readFeedbackMode _ with
    | none => simp
    | some mode =>
      cases readFeedbackTail _ with
      | none => simp
      | some options => simp
  rw [hread, hparts, readFeedbackMode_isSome, ← hrest, List.singleton_append, readFeedbackTail_crc htail]
  have hcode : ∀ rest, u8At (feedback.codeOctet :: feedback.wireNumber.toUInt8 :: rest) 0 = feedback.codeOctet :=
    fun _ => rfl
  rw [hcode]
  unfold Feedback.codeOctet FeedbackElement.Skipped
  rw [hoptions, hmode, hbits]
  unfold Feedback.wireNumber feedback2Tail
  cases hvalid : feedback.acknowledgmentValid with
  | false => exact iff_of_false (fun h => by cases h.2.2.1) fun h => absurd (hvalid.symm.trans h.1) Bool.false_ne_true
  | true =>
    simp only [if_true, Bool.not_true, Bool.false_eq_true, if_false, List.append_nil, true_and]
    exact ⟨fun h => ⟨hvalid, h.2.1, h.1, h.2.2⟩, fun h => ⟨h.2.2.1, h.2.1, h.2.2.2⟩⟩

end Correlated

/-! ## Elements in front of octets -/

section Front

/-- Both writers frame their elements alike, and the reader takes the body of those that are skipped. -/
theorem WrittenFeedback.framed (e : WrittenFeedback) : ∃ body : Bytes,
    e.octets = feedbackSize body.length ++ body ∧ 1 ≤ body.length ∧ body.length ≤ 255 ∧
      ((readFeedbackAddCid body).isSome = true ↔ e.source.Skipped) := by
  obtain ⟨source, cap, octets, hrange, hwritten⟩ := e
  cases source with
  | packet feedback =>
    have hcid : feedback.cid ≤ 15 := by
      by_contra hbad
      unfold FeedbackElement.write writeFeedbackPacket at hwritten
      dsimp only at hwritten
      rw [if_pos (by omega)] at hwritten
      cases hwritten
    have hfits : feedback.Fits := ⟨hcid, hrange.1, hrange.2⟩
    obtain ⟨hpos, hle⟩ := length_feedbackBody_le hfits
    refine ⟨feedbackBody feedback, ?_, by omega, by omega, ?_⟩
    · have hwrite : writeFeedbackPacket cap feedback = some octets := hwritten
      rw [writeFeedbackPacket_eq hfits] at hwrite
      split at hwrite
      · cases hwrite
      · exact (Option.some.inj hwrite).symm
    · rw [readFeedbackAddCid_write hfits]
      exact iff_of_true rfl trivial
  | correlated feedback =>
    obtain ⟨hcid, -, rfl⟩ := of_writeFeedback2V1 hwritten
    obtain ⟨hpos, hle⟩ := length_feedback2Body_le feedback
    exact ⟨feedback2Body feedback, feedback2Element_eq feedback, by omega, by omega, readFeedbackAddCid_correlated hcid⟩

theorem isFeedbackPacketStart_size (n : Nat) (rest : Bytes) :
    isFeedbackPacketStart (u8At (feedbackSize n ++ rest) 0) = true := by
  have hshort : ∀ m : Fin 8, isFeedbackPacketStart ((0xF0 : UInt8) ||| UInt8.ofNat m) = true := by decide
  unfold feedbackSize
  split
  · exact hshort 0
  · exact hshort ⟨n, by omega⟩

/-- **One element** in front of any octets: it is taken with exactly its length, or not at all. -/
theorem readFeedbackPacket_written (e : WrittenFeedback) (rest : Bytes) :
    (readFeedbackPacket (e.octets ++ rest)).map (·.2) = if e.source.Skipped then some e.octets.length else none := by
  obtain ⟨body, hoctets, hpos, hle, hread⟩ := e.framed
  rw [hoctets, readFeedbackPacket_frame hpos hle, Option.map_map]
  by_cases hskip : e.source.Skipped
  · obtain ⟨feedback, hfeedback⟩ := Option.isSome_iff_exists.mp (hread.mpr hskip)
    rw [if_pos hskip, hfeedback]
    rfl
  · have hnone : readFeedbackAddCid body = none := by
      rw [← Option.not_isSome_iff_eq_none]
      exact fun h => hskip (hread.mp h)
    rw [if_neg hskip, hnone]
    rfl

variable {unit : Bytes} (hunit : isFeedbackPacketStart (u8At unit 0) = false)

include hunit

/-- **The loop** leaves the unit behind elements that are all skipped, and fails at the first that is not. -/
theorem skipFeedback_written (es : List WrittenFeedback) :
    skipFeedback (feedbackFront es ++ unit).length (feedbackFront es ++ unit) =
      if ∀ e ∈ es, e.source.Skipped then some unit else none := by
  induction es with
  | nil => exact skipFeedback_of_not_start _ hunit
  | cons e es ih =>
    have hfront : feedbackFront (e :: es) ++ unit = e.octets ++ (feedbackFront es ++ unit) := List.append_assoc ..
    have hread := readFeedbackPacket_written e (feedbackFront es ++ unit)
    obtain ⟨body, hoctets, hpos, -, -⟩ := e.framed
    have hgoes : ¬ (e.octets ++ (feedbackFront es ++ unit) = [] ∨
        (!isFeedbackPacketStart (u8At (e.octets ++ (feedbackFront es ++ unit)) 0)) = true) := by
      rw [hoctets, List.append_assoc, isFeedbackPacketStart_size]
      rintro (hnil | h)
      · obtain ⟨-, hnil⟩ := List.append_eq_nil_iff.mp hnil
        rw [(List.append_eq_nil_iff.mp hnil).1] at hpos
        exact absurd hpos (by decide)
      · cases h
    rw [hfront, skipFeedback_round, if_neg hgoes]
    by_cases hskip : e.source.Skipped
    · rw [if_pos hskip] at hread
      obtain ⟨read, hread, hlen⟩ := Option.map_eq_some_iff.mp hread
      rw [hread, Option.bind_some, hlen, List.drop_left, ih]
      simp only [List.forall_mem_cons, hskip, true_and]
    · rw [if_neg hskip, Option.map_eq_none_iff] at hread
      rw [hread, Option.bind_none, if_neg fun h => hskip (h e List.mem_cons_self)]

end Front

/-! ## The call -/

/-- Two calls with the same code, output and contexts. -/
structure SameAnswer (a b : Return) : Prop where
  rc : a.1 = b.1
  out : a.2.out = b.2.out
  outLen : a.2.outLen = b.2.outLen
  contexts : a.2.handle.contexts = b.2.handle.contexts

/-- Elements in front of a unit make no difference to a call. -/
def Transparent (es : List WrittenFeedback) (dec : Decompressor) (unit out : Bytes) (cap : Nat) : Prop :=
  SameAnswer (rohcDecompress4 dec (feedbackFront es ++ unit) out cap) (rohcDecompress4 dec unit out cap)

section Call

variable {es : List WrittenFeedback} {dec : Decompressor} {unit out : Bytes} {cap : Nat}

/-- An IPv4 header on CID 3 behind an Uncompressed IR. -/
def fallbackUnit : Bytes := [0xE3, 0xFD, 0x00, 0x2D, 0x45, 0, 0, 20] ++ List.replicate 16 0

theorem transparent_of_skipped (hunit : isFeedbackPacketStart (u8At unit 0) = false)
    (hskip : ∀ e ∈ es, e.source.Skipped) : Transparent es dec unit out cap := by
  have hloop := skipFeedback_written hunit es
  rw [if_pos hskip] at hloop
  have halone := skipFeedback_of_not_start unit.length hunit
  unfold Transparent
  rw [rohcDecompress4_unfold, rohcDecompress4_unfold]
  unfold decompressCall
  dsimp only
  rw [hloop, halone]
  cases unit with
  | nil =>
    rw [if_pos rfl]
    split
    · exact ⟨rfl, rfl, rfl, rfl⟩
    · exact ⟨rfl, rfl, rfl, rfl⟩
  | cons b rest =>
    rw [if_neg (List.append_ne_nil_of_right_ne_nil _ (List.cons_ne_nil _ _)), if_neg (List.cons_ne_nil _ _)]
    exact ⟨rfl, rfl, rfl, rfl⟩

/-- A call that stops at an element fails. -/
theorem refused_of_not_skipped (hunit : isFeedbackPacketStart (u8At unit 0) = false)
    (hskip : ¬ ∀ e ∈ es, e.source.Skipped) : (rohcDecompress4 dec (feedbackFront es ++ unit) out cap).1 = -1 := by
  have hloop := skipFeedback_written hunit es
  rw [if_neg hskip] at hloop
  rw [rohcDecompress4_unfold]
  unfold decompressCall
  dsimp only
  rw [hloop]
  unfold guardLength
  split <;> rfl

/-- There is a unit that is accepted. -/
theorem fallbackUnit_accepted :
    (rohcDecompress4 { contexts := .init 15, largeCidSpace := false } fallbackUnit [] 64).1 = 0 := by
  have hcid : CidFits { ({} : Context) with cid := 3 } := by
    unfold CidFits
    decide
  have hunit : fallbackUnit = irSealed (irFront { ({} : Context) with cid := 3 } 0xFD 0x00) [] ++
      ([0x45, 0, 0, 20] ++ List.replicate 16 0) := by decide
  rw [hunit]
  exact (receive_whole_delivered (c := { ({} : Context) with cid := 3 }) rfl rfl hcid (ContextTable.get_init (by decide))
    (by decide) [] (by decide)).rc

end Call

/-- **Piggybacked feedback** is transparent exactly when every element is one of those that the loop steps over; and in
front of a unit that is accepted on its own no other run of elements is. -/
theorem piggyback_transparent_iff (es : List WrittenFeedback) :
    ((∀ (dec : Decompressor) (unit out : Bytes) (cap : Nat), isFeedbackPacketStart (u8At unit 0) = false →
        Transparent es dec unit out cap) ↔ ∀ e ∈ es, e.source.Skipped) ∧
      ∀ (dec : Decompressor) (unit out : Bytes) (cap : Nat), isFeedbackPacketStart (u8At unit 0) = false →
        (rohcDecompress4 dec unit out cap).1 = 0 →
          (Transparent es dec unit out cap ↔ ∀ e ∈ es, e.source.Skipped) := by
  have haccepted : ∀ (dec : Decompressor) (unit out : Bytes) (cap : Nat), isFeedbackPacketStart (u8At unit 0) = false →
      (rohcDecompress4 dec unit out cap).1 = 0 →
        (Transparent es dec unit out cap ↔ ∀ e ∈ es, e.source.Skipped) := by
    intro dec unit out cap hunit hrc
    refine ⟨fun h => ?_, transparent_of_skipped hunit⟩
    by_contra hskip
    have hrefused := @refused_of_not_skipped es dec unit out cap hunit hskip
    rw [h.rc, hrc] at hrefused
    cases hrefused
  refine ⟨⟨fun h => ?_, fun hskip dec unit out cap hunit => transparent_of_skipped hunit hskip⟩, haccepted⟩
  have hunit : isFeedbackPacketStart (u8At fallbackUnit 0) = false := by decide
  exact (haccepted _ _ _ _ hunit fallbackUnit_accepted).mp (h _ _ _ _ hunit)

/-- A NACK for CID 5 that names mode R. -/
def nackElement : WrittenFeedback where
  source := .packet { cid := 5, type := .nack, mode := some .reliable }
  cap := 4
  octets := [0xF3, 0xE5, 0x62, 0x00]
  inRange := ⟨by decide, by simp⟩
  written := by decide

/-- Two of them in front of a unit that is accepted. -/
theorem piggyback_transparent_nack :
    Transparent [nackElement, nackElement] { contexts := .init 15, largeCidSpace := false } fallbackUnit [] 64 ∧
      (rohcDecompress4 { contexts := .init 15, largeCidSpace := false }
        ([0xF3, 0xE5, 0x62, 0x00, 0xF3, 0xE5, 0x62, 0x00] ++ fallbackUnit) [] 64).1 = 0 := by
  have hunit : isFeedbackPacketStart (u8At fallbackUnit 0) = false := by decide
  have h := ((piggyback_transparent_iff [nackElement, nackElement]).1.mpr (by decide))
    { contexts := .init 15, largeCidSpace := false } fallbackUnit [] 64 hunit
  exact ⟨h, h.rc.trans fallbackUnit_accepted⟩

/-- An acknowledgment of MSN 0x1234 on CID 5. -/
def ackElement : WrittenFeedback where
  source := .correlated
    { cid := 5, type := .ack, acknowledgmentNumber := 0x1234, acknowledgmentBits := 14, acknowledgmentValid := true }
  cap := 6
  octets := [0xF4, 0xE5, 0x12, 0x34, 0x93]
  inRange := trivial
  written := by decide

/-- In front of a unit that is accepted the acknowledgment makes the call fail. -/
theorem not_transparent_ack : isFeedbackPacketStart (u8At fallbackUnit 0) = false ∧
    (rohcDecompress4 { contexts := .init 15, largeCidSpace := false } fallbackUnit [] 64).1 = 0 ∧
    (rohcDecompress4 { contexts := .init 15, largeCidSpace := false } ([0xF4, 0xE5, 0x12, 0x34, 0x93] ++ fallbackUnit) [] 64).1
      = -1 ∧
    ¬ Transparent [ackElement] { contexts := .init 15, largeCidSpace := false } fallbackUnit [] 64 := by
  have hunit : isFeedbackPacketStart (u8At fallbackUnit 0) = false := by decide
  have hskip : ¬ ∀ e ∈ [ackElement], e.source.Skipped := by
    intro h
    exact absurd (h ackElement List.mem_cons_self) (by decide)
  have hrefused : (rohcDecompress4 { contexts := .init 15, largeCidSpace := false }
      (feedbackFront [ackElement] ++ fallbackUnit) [] 64).1 = -1 := refused_of_not_skipped hunit hskip
  refine ⟨hunit, fallbackUnit_accepted, hrefused, fun h => ?_⟩
  rw [h.rc, fallbackUnit_accepted] at hrefused
  cases hrefused

end Rohccxx
