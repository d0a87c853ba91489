import Rohccxx.Calls
import Rohccxx.Transactional

/-!
# Nested calls

The unit that a final segment completes is decoded by a nested call of `rohc_decompress4`. `reassembles` says what that
call gets, so the depth of a call is the length of a chain of completions (`Nests`). A completed unit may be a final
segment itself. Then it is one octet of type, one of sequence and a shorter unit, so that a chain that the MRRU lets in
ends after half as many calls; and a unit of that depth exists.

* `decompressCall_reassembles` — `reassembles` is the only nested call.
* `reassembles_spec` — what is completed, and that it is shorter than its segment.
* `Nests.two_mul_le`, `exists_nests` — the bound and the end of every chain.
* `nests_nestedSegments` — the bound is reached.
-/

set_option autoImplicit false

namespace Rohccxx

open Octets

/-! ## The nested call -/

/-- A final segment that completes a unit: the state in which the unit is decoded, and the unit. -/
def Frame.completedUnit (f : Frame) (live : Live) : Option (Live × Bytes) :=
  if f.parsed.type ≠ .segment then none
  else
    match readSegmentHeader f.packet with
    | none => none
    | some (final, sequence) =>
      let next := live.handle.collected ++ f.packet.drop segmentHeaderLen
      if live.handle.mrru = 0 ∨ f.packet.length ≤ segmentHeaderLen ∨ (!live.handle.reassemblyActive ∧ sequence ≠ 0) ∨
          sequence ≠ live.handle.expectedSequence &&& 0xFF ∨ next.length > live.handle.mrru ∨
          next.length > segmentBufferMax ∨ !final then none
      else some (live.completed, next)

/-- The nested call that a call makes on its input: its state and its input. -/
def reassembles (live : Live) (input : Bytes) : Option (Live × Bytes) :=
  (enter live input).bind fun entered =>
    entered.2.completedUnit (live.clearFeedback.setCtx entered.2.cid entered.2.ctx)

/-- What stands for the nested call where there is none. -/
def noCall (live : Live) (_ : Bytes) : Return := (-1, live)

section Calls

variable {f : Frame} {again : Live → Bytes → Return} {live : Live}

/-- The block of segments hands on the unit that is complete, and nothing else. -/
theorem Frame.segmentUnit_completedUnit (htype : f.parsed.type = .segment) (again : Live → Bytes → Return) (live : Live) :
    f.segmentUnit .segment again live = match f.completedUnit live with
      | some (live', content) => some (again live' content)
      | none => f.segmentUnit .segment noCall live := by
  unfold segmentUnit completedUnit
  rw [if_neg (fun h => h rfl), if_neg (fun h => h htype), if_neg (fun h => h rfl)]
  cases readSegmentHeader f.packet with
  | none => rfl
  | some header =>
    obtain ⟨final, sequence⟩ := header
    dsimp only
    by_cases hlen : live.handle.mrru = 0 ∨ f.packet.length ≤ segmentHeaderLen
    · rw [if_pos hlen, if_pos hlen, if_pos (by rw [← or_assoc]; exact .inl hlen)]
    rw [if_neg hlen, if_neg hlen]
    by_cases hfirst : (!live.handle.reassemblyActive) = true ∧ sequence ≠ 0
    · rw [if_pos hfirst, if_pos hfirst, if_pos (.inr (.inr (.inl hfirst)))]
    rw [if_neg hfirst, if_neg hfirst]
    by_cases hnext : sequence ≠ live.handle.expectedSequence &&& 0xFF ∨
        (live.handle.collected ++ f.packet.drop segmentHeaderLen).length > live.handle.mrru ∨
        (live.handle.collected ++ f.packet.drop segmentHeaderLen).length > segmentBufferMax
    · have hbad : live.handle.mrru = 0 ∨ f.packet.length ≤ segmentHeaderLen ∨
          ((!live.handle.reassemblyActive) = true ∧ sequence ≠ 0) ∨ sequence ≠ live.handle.expectedSequence &&& 0xFF ∨
          (live.handle.collected ++ f.packet.drop segmentHeaderLen).length > live.handle.mrru ∨
          (live.handle.collected ++ f.packet.drop segmentHeaderLen).length > segmentBufferMax ∨ (!final) = true := by
        rcases hnext with h | h | h
        · exact .inr (.inr (.inr (.inl h)))
        · exact .inr (.inr (.inr (.inr (.inl h))))
        · exact .inr (.inr (.inr (.inr (.inr (.inl h)))))
      rw [if_pos hnext, if_pos hnext, if_pos hbad]
    rw [if_neg hnext, if_neg hnext]
    simp only [not_or] at hlen hnext
    cases final with
    | false =>
      rw [if_pos Bool.not_false, if_pos Bool.not_false,
        if_pos (.inr (.inr (.inr (.inr (.inr (.inr Bool.not_false))))))]
    | true =>
      rw [if_neg (by decide), if_neg (by simp only [Bool.not_true, Bool.false_eq_true, or_false, not_or]; exact
        ⟨hlen.1, hlen.2, hfirst, hnext⟩)]
      rfl

/-- A segment goes to its block. -/
theorem Frame.decode_of_segment (hreg : f.Regular) (htype : f.parsed.type = .segment) (again : Live → Bytes → Return)
    (live : Live) : f.decode again live =
      (f.segmentUnit .segment again live).getD (f.decodeInPlace .segment false live) := by
  have hbit := top_bit_of_segment (hreg.type.symm.trans htype)
  rw [decode_of_top_bit again live hbit (by simp [htype]) (by simp [htype]) (by simp [htype]), htype]
  rfl

/-- No other unit is handed on. -/
theorem Frame.decode_of_not_segment (htype : f.parsed.type ≠ .segment) (again again' : Live → Bytes → Return)
    (live : Live) : f.decode again live = f.decode again' live := by
  have hlast : f.resolveOverlap f.correctedType ≠ .segment := by
    have h : f.lastType = .foRtp ∨ f.lastType = f.parsed.type := lastType_eq
    unfold lastType at h
    rcases h with h | h
    · rw [h]
      decide
    · rw [h]
      exact htype
  have hnone : ∀ again, f.segmentUnit (f.resolveOverlap f.correctedType) again live = none := fun again => by
    unfold segmentUnit
    rw [if_pos hlast]
  unfold decode
  dsimp only
  rw [hnone, hnone]

theorem Frame.decode_completedUnit (hreg : f.Regular) (again : Live → Bytes → Return) (live : Live) :
    f.decode again live = match f.completedUnit live with
      | some (live', content) => again live' content
      | none => f.decode noCall live := by
  by_cases htype : f.parsed.type = .segment
  · rw [decode_of_segment hreg htype, segmentUnit_completedUnit htype, decode_of_segment hreg htype]
    cases f.completedUnit live with
    | none => rfl
    | some completed => rfl
  · have hnone : f.completedUnit live = none := if_pos htype
    rw [hnone]
    exact decode_of_not_segment htype again noCall live

theorem decompressUnit_openUnit (again : Live → Bytes → Return) (live : Live) (pending : Option Feedback) (unit : Bytes) :
    decompressUnit again live pending unit = match openUnit live.handle unit with
      | some (parsed, icv) => decompressParsed again live pending parsed icv
      | none => decompressUnit noCall live pending unit := by
  unfold decompressUnit openUnit
  dsimp only
  cases parseRohcPacket unit live.handle.largeCidSpace with
  | none => rfl
  | some parsed =>
    simp only [Option.bind_eq_bind, Option.bind_some]
    cases live.handle.integrity with
    | none => rfl
    | some integrity =>
      dsimp only
      split
      · rfl
      · split
        · rfl
        · cases parseRohcPacket (unit.take (unit.length - integrity.icvLen)) live.handle.largeCidSpace with
          | none => rfl
          | some body => rfl

/-- A call is what its frame makes of the unit; without a frame there is no nested call. -/
theorem decompressCall_enter (again : Live → Bytes → Return) (live : Live) (input : Bytes) :
    decompressCall again live input = match enter live input with
      | some (_, f) => guardLength (f.decode again (live.clearFeedback.setCtx f.cid f.ctx))
      | none => decompressCall noCall live input := by
  unfold decompressCall enter
  by_cases hin : input = []
  · subst hin
    rfl
  · rw [if_neg hin, if_neg hin]
    cases skipFeedback input.length input with
    | none => rfl
    | some unit =>
      cases unit with
      | nil =>
        have hnone : openUnit live.handle [] = none := rfl
        simp only [Option.bind_eq_bind, Option.bind_some, hnone, Option.bind_none]
      | cons b rest =>
        have hunit := fun again => decompressUnit_openUnit again live.clearFeedback live.pending (b :: rest)
        have hhandle : openUnit live.clearFeedback.handle (b :: rest) = openUnit live.handle (b :: rest) := rfl
        simp only [Option.bind_eq_bind, Option.bind_some]
        conv_lhs => change guardLength (decompressUnit again live.clearFeedback live.pending (b :: rest))
        rw [hunit again, hhandle]
        cases hopen : openUnit live.handle (b :: rest) with
        | none => rfl
        | some opened =>
          obtain ⟨parsed, icv⟩ := opened
          simp only [Option.bind_some]
          cases hget : live.handle.contexts.get (selectCid live.handle parsed).2 with
          | none =>
            have hright := hunit noCall
            rw [hhandle, hopen] at hright
            dsimp only at hright
            rw [@decompressParsed_of_none noCall live.clearFeedback _ _ _ hget] at hright
            rw [@decompressParsed_of_none again live.clearFeedback _ _ _ hget]
            exact (congrArg guardLength hright).symm
          | some before =>
            rw [@decompressParsed_eq again live.clearFeedback _ _ _ _ _ _ rfl hget]
            rfl

/-- **The nested call of a call** is the one that `reassembles` says, and the length of what it returns is the outer
call's. -/
theorem decompressCall_reassembles (again : Live → Bytes → Return) (live : Live) (input : Bytes) :
    decompressCall again live input = match reassembles live input with
      | some (live', content) => guardLength (again live' content)
      | none => decompressCall noCall live input := by
  rw [decompressCall_enter again, decompressCall_enter noCall]
  unfold reassembles
  cases henter : enter live input with
  | none => rfl
  | some entered =>
    obtain ⟨unit, f⟩ := entered
    have hreg := (enter_meets henter).regular
    simp only [Option.bind_some]
    rw [Frame.decode_completedUnit hreg again]
    cases f.completedUnit (live.clearFeedback.setCtx f.cid f.ctx) with
    | none => rfl
    | some completed => rfl

end Calls

/-! ## What is completed -/

/-- The most octets a completed unit has. -/
def Decompressor.reassemblyLimit (decomp : Decompressor) : Nat := min decomp.mrru segmentBufferMax

/-- The input of a call is, behind feedback elements, a final segment that completes `content`. -/
structure Completes (live : Live) (input : Bytes) (live' : Live) (content : Bytes) : Prop where
  segment : ∃ unit f, enter live input = some (unit, f) ∧ f.parsed.type = .segment ∧
    readSegmentHeader f.packet = some (true, live.handle.expectedSequence &&& 0xFF) ∧
    content = live.handle.collected ++ f.packet.drop segmentHeaderLen
  nonempty : 0 < content.length
  shorter : content.length + segmentHeaderLen ≤ live.handle.collected.length + input.length
  limit : content.length ≤ live.handle.reassemblyLimit
  idle : live'.handle.reassemblyActive = false
  mrru : live'.handle.mrru = live.handle.mrru

theorem length_enter_le {live : Live} {input unit : Bytes} {f : Frame} (h : enter live input = some (unit, f)) :
    f.packet.length ≤ input.length := by
  have hopened : ∀ {unit icv : Bytes} {parsed : ParsedRohcPacket}, openUnit live.handle unit = some (parsed, icv) →
      parsed.packet.length ≤ unit.length := by
    intro unit icv parsed hopen
    simp only [openUnit, Option.bind_eq_bind, Option.bind_eq_some_iff] at hopen
    obtain ⟨whole, hwhole, hopen⟩ := hopen
    split at hopen
    · cases hopen
      exact length_parseRohcPacket_le hwhole
    · split at hopen
      · cases hopen
        exact length_parseRohcPacket_le hwhole
      · split at hopen
        · cases hopen
        · obtain ⟨body, hbody, heq⟩ := Option.map_eq_some_iff.mp hopen
          cases heq
          have hle := length_parseRohcPacket_le hbody
          rw [List.length_take] at hle
          omega
  simp only [enter, Option.bind_eq_bind, Option.bind_eq_some_iff] at h
  obtain ⟨unit', hskip, ⟨parsed, icv⟩, hopen, before, -, h⟩ := h
  cases h
  have hle := hopened hopen
  exact Nat.le_trans hle (length_skipFeedback_le _ hskip)

/-- **What a nested call gets.** -/
theorem reassembles_spec {live live' : Live} {input content : Bytes} (h : reassembles live input = some (live', content)) :
    Completes live input live' content := by
  obtain ⟨⟨unit, f⟩, henter, h⟩ := Option.bind_eq_some_iff.mp h
  have hlen := length_enter_le henter
  dsimp only at h
  unfold Frame.completedUnit at h
  split at h
  · cases h
  rename_i htype
  rw [not_not] at htype
  cases hread : readSegmentHeader f.packet with
  | none =>
    rw [hread] at h
    cases h
  | some header =>
    obtain ⟨final, sequence⟩ := header
    rw [hread] at h
    dsimp only at h
    split at h
    · cases h
    rename_i hok
    simp only [not_or, Bool.not_eq_true, Bool.not_eq_false', not_not, Nat.not_le, Nat.not_lt, gt_iff_lt] at hok
    obtain ⟨-, hpacket, -, hsequence, hmrru, hbuffer, hfinal⟩ := hok
    obtain ⟨rfl, rfl⟩ := Prod.mk.inj (Option.some.inj h)
    unfold segmentHeaderLen at hpacket
    refine ⟨⟨unit, f, henter, htype, ?_, rfl⟩, ?_, ?_, ?_, rfl, rfl⟩
    · rw [hread, hfinal, hsequence]
      rfl
    · simp only [List.length_append, List.length_drop, segmentHeaderLen]
      omega
    · have hcollected : (live.clearFeedback.setCtx f.cid f.ctx).handle.collected = live.handle.collected := rfl
      rw [hcollected]
      simp only [List.length_append, List.length_drop, segmentHeaderLen]
      omega
    · exact Nat.le_min.mpr ⟨hmrru, hbuffer⟩

/-! ## The depth of a call -/

/-- A call that makes a chain of `n` nested calls. -/
inductive Nests : Live → Bytes → Nat → Prop
  | last {live input} : reassembles live input = none → Nests live input 0
  | call {live input live' content n} : reassembles live input = some (live', content) → Nests live' content n →
      Nests live input (n + 1)

section Depth

variable {live : Live} {input : Bytes} {n : Nat}

/-- Nothing is collected in front of a unit that stands on its own. -/
theorem collected_of_idle {decomp : Decompressor} (h : decomp.reassemblyActive = false) : decomp.collected = [] := by
  unfold Decompressor.collected
  rw [h]
  rfl

theorem expectedSequence_of_idle {decomp : Decompressor} (h : decomp.reassemblyActive = false) :
    decomp.expectedSequence = 0 := by
  unfold Decompressor.expectedSequence
  rw [h]
  rfl

/-- **One step of the chain**: between segments a completed unit is two octets shorter than its segment. -/
theorem Completes.length_of_idle {live' : Live} {content : Bytes} (h : Completes live input live' content)
    (hidle : live.handle.reassemblyActive = false) : content.length + 2 ≤ input.length := by
  have := h.shorter
  rw [collected_of_idle hidle, List.length_nil, Nat.zero_add] at this
  exact this

/-- Between segments every nested call takes two octets of the input. By induction on the chain. -/
theorem Nests.two_mul_lt (h : Nests live input n) (hidle : live.handle.reassemblyActive = false) :
    n = 0 ∨ 2 * n < input.length := by
  induction h with
  | last _ => exact .inl rfl
  | call hcall _ ih =>
    have hspec := reassembles_spec hcall
    have hlen := hspec.length_of_idle hidle
    have hpos := hspec.nonempty
    rcases ih hspec.idle with hzero | hlt
    · omega
    · omega

/-- **The depth of a call** is half the octets that a completed unit may have. -/
theorem Nests.two_mul_le (h : Nests live input n) : 2 * n ≤ live.handle.reassemblyLimit + 1 := by
  cases h with
  | last _ => exact Nat.zero_le _
  | call hcall hchain =>
    have hspec := reassembles_spec hcall
    have hlimit := hspec.limit
    have hpos := hspec.nonempty
    rcases hchain.two_mul_lt hspec.idle with hzero | hlt
    · omega
    · omega

/-- Every chain ends: the octets at hand get fewer with every call. -/
theorem exists_nests (live : Live) (input : Bytes) : ∃ n, Nests live input n := by
  suffices hall : ∀ size live input, live.handle.collected.length + input.length < size → ∃ n, Nests live input n from
    hall _ live input (Nat.lt_succ_self _)
  intro size
  induction size with
  | zero => exact fun _ _ h => absurd h (Nat.not_lt_zero _)
  | succ size ih =>
    intro live input hsize
    cases hcall : reassembles live input with
    | none => exact ⟨0, .last hcall⟩
    | some next =>
      obtain ⟨live', content⟩ := next
      have hspec := reassembles_spec hcall
      have hshorter := hspec.shorter
      unfold segmentHeaderLen at hshorter
      obtain ⟨n, hn⟩ := ih live' content (by rw [collected_of_idle hspec.idle, List.length_nil]; omega)
      exact ⟨n + 1, .call hcall hn⟩

end Depth

/-! ## Segments -/

/-- The octets of a segment. -/
def segmentOctets (final : Bool) (sequence : UInt16) (payload : Bytes) : Bytes :=
  [0xFE ||| (if final then 0x01 else 0x00), sequence.toUInt8] ++ payload

section Segments

variable {final : Bool} {sequence : UInt16} {payload : Bytes} {live : Live}

theorem segmentOctets_ne_nil : segmentOctets final sequence payload ≠ [] := List.cons_ne_nil _ _

theorem length_segmentOctets : (segmentOctets final sequence payload).length = payload.length + 2 := rfl

theorem drop_segmentOctets : (segmentOctets final sequence payload).drop segmentHeaderLen = payload := rfl

/-- The type octet is 0xFE or 0xFF. -/
theorem u8At_segmentOctets : u8At (segmentOctets final sequence payload) 0 &&& 0xFE = 0xFE := by
  cases final with
  | false => exact (by decide : (0xFE : UInt8) &&& 0xFE = 0xFE)
  | true => exact (by decide : (0xFF : UInt8) &&& 0xFE = 0xFE)

/-- What the mask of a segment says about the other bits of its first octet. -/
theorem bits_of_segment_mask {b : UInt8} (h : b &&& 0xFE = 0xFE) :
    b >>> 4 = 15 ∧ b &&& 0xF0 = 0xF0 ∧ b &&& 0x80 = 0x80 ∧ isFeedbackPacketStart b = false :=
  forall_octet (P := fun b => b &&& 0xFE = 0xFE →
    b >>> 4 = 15 ∧ b &&& 0xF0 = 0xF0 ∧ b &&& 0x80 = 0x80 ∧ isFeedbackPacketStart b = false) (by decide) b h

theorem packetTypeOf_segmentOctets : packetTypeOf (segmentOctets final sequence payload) = .segment := by
  obtain ⟨hversion, -⟩ := bits_of_segment_mask (@u8At_segmentOctets final sequence payload)
  have hip : isUncompressedIpPayload (segmentOctets final sequence payload) = false := by
    unfold isUncompressedIpPayload
    dsimp only
    rw [if_neg segmentOctets_ne_nil, hversion, if_neg (by decide), if_neg (by decide)]
  unfold packetTypeOf detectPacketType
  rw [hip, if_neg Bool.false_ne_true, if_pos u8At_segmentOctets]

/-- What the parser makes of a segment with a CID. -/
def segmentParsed (octets : Bytes) (cid : Nat × Nat × Bool) : ParsedRohcPacket where
  wire := octets
  packet := octets
  cid := cid.1
  hasAddCid := false
  hasLargeCid := cid.2.2
  cidLen := cid.2.1
  type := .segment
  profileId := 0

/-- **How a segment is parsed**: it has a CID, like every unit. -/
theorem parseRohcPacket_segmentOctets (space : Bool) : parseRohcPacket (segmentOctets final sequence payload) space =
    (readPacketCid (segmentOctets final sequence payload) .segment none space).map
      (segmentParsed (segmentOctets final sequence payload)) := by
  obtain ⟨-, hadd, -⟩ := bits_of_segment_mask (@u8At_segmentOctets final sequence payload)
  unfold parseRohcPacket parseRohcPacketBody
  rw [if_neg segmentOctets_ne_nil, if_neg (by rw [hadd]; exact fun h => absurd h.2 (by decide)),
    if_neg segmentOctets_ne_nil, packetTypeOf_segmentOctets]
  dsimp only
  cases readPacketCid (segmentOctets final sequence payload) .segment none space with
  | none => rfl
  | some cid => rfl

theorem readSegmentHeader_segmentOctets :
    readSegmentHeader (segmentOctets final sequence payload) = some (final, sequence.toUInt8.toUInt16) := by
  have hlen : ¬ (segmentOctets final sequence payload).length < 2 := by
    rw [length_segmentOctets]
    omega
  unfold readSegmentHeader
  rw [if_neg (not_or.mpr ⟨hlen, not_not.mpr u8At_segmentOctets⟩)]
  have hfinal : decide (u8At (segmentOctets final sequence payload) 0 &&& 0x01 ≠ 0) = final := by
    cases final with
    | false => exact (by decide : decide ((0xFE ||| 0x00 : UInt8) &&& 0x01 ≠ 0) = false)
    | true => exact (by decide : decide ((0xFE ||| 0x01 : UInt8) &&& 0x01 ≠ 0) = true)
  rw [hfinal]
  rfl

theorem selectCid_segment (decomp : Decompressor) (cid : Nat × Nat × Bool) :
    selectCid decomp (segmentParsed (segmentOctets final sequence payload) cid) = (cid.1, cid.1) := by
  obtain ⟨-, -, hbit, -⟩ := bits_of_segment_mask (@u8At_segmentOctets final sequence payload)
  have hno : ¬ (0x80 : UInt8) = 0 := by decide
  unfold selectCid
  simp only [segmentParsed, hbit, hno, decide_false, Bool.and_false, Bool.false_and, Bool.false_eq_true, if_false]
  rw [if_neg fun h => by cases h.1]

theorem openUnit_segmentOctets {decomp : Decompressor} {parsed : ParsedRohcPacket}
    (hparse : parseRohcPacket (segmentOctets final sequence payload) decomp.largeCidSpace = some parsed)
    (htype : parsed.type = .segment) :
    openUnit decomp (segmentOctets final sequence payload) = some (parsed, []) := by
  unfold openUnit
  rw [hparse]
  simp only [Option.bind_eq_bind, Option.bind_some]
  cases decomp.integrity with
  | none => rfl
  | some integrity => exact if_pos (.inl htype)

/-- The frame of a segment whose CID has a context. -/
theorem enter_segmentOctets {cid : Nat × Nat × Bool} {before : Context}
    (hcid : readPacketCid (segmentOctets final sequence payload) .segment none live.handle.largeCidSpace = some cid)
    (hget : live.handle.contexts.get cid.1 = some before) :
    enter live (segmentOctets final sequence payload) = some (segmentOctets final sequence payload,
      openFrame live.clearFeedback live.pending (segmentParsed (segmentOctets final sequence payload) cid) cid.1 before []) := by
  obtain ⟨-, -, -, hstart⟩ := bits_of_segment_mask (@u8At_segmentOctets final sequence payload)
  have hparse := @parseRohcPacket_segmentOctets final sequence payload live.handle.largeCidSpace
  rw [hcid, Option.map_some] at hparse
  unfold enter
  rw [skipFeedback_of_not_start _ hstart]
  simp only [Option.bind_eq_bind, Option.bind_some, openUnit_segmentOctets hparse rfl, selectCid_segment, hget]
  rfl

/-- A segment whose CID has no context is met by no frame. -/
theorem enter_segmentOctets_none
    (h : ∀ cid, readPacketCid (segmentOctets final sequence payload) .segment none live.handle.largeCidSpace = some cid →
      live.handle.contexts.get cid.1 = none) : enter live (segmentOctets final sequence payload) = none := by
  obtain ⟨-, -, -, hstart⟩ := bits_of_segment_mask (@u8At_segmentOctets final sequence payload)
  have hparse := @parseRohcPacket_segmentOctets final sequence payload live.handle.largeCidSpace
  unfold enter
  rw [skipFeedback_of_not_start _ hstart]
  simp only [Option.bind_eq_bind, Option.bind_some]
  cases hcid : readPacketCid (segmentOctets final sequence payload) .segment none live.handle.largeCidSpace with
  | none =>
    rw [hcid] at hparse
    unfold openUnit
    rw [hparse]
    rfl
  | some cid =>
    rw [hcid, Option.map_some] at hparse
    rw [openUnit_segmentOctets hparse rfl]
    simp only [Option.bind_some, selectCid_segment, h cid hcid, Option.bind_none]

end Segments

theorem guardLength_failed {ret : Return} (h : ret.1 = -1) : (guardLength ret).1 = -1 := by
  unfold guardLength
  split <;> exact h

/-- A unit that cannot be opened is refused. -/
theorem decompressUnit_of_openUnit_none {again : Live → Bytes → Return} {live : Live} {unit : Bytes}
    (pending : Option Feedback) (h : openUnit live.handle unit = none) :
    (decompressUnit again live pending unit).1 = -1 := by
  unfold decompressUnit
  unfold openUnit at h
  dsimp only
  cases hparse : parseRohcPacket unit live.handle.largeCidSpace with
  | none => rfl
  | some parsed =>
    rw [hparse] at h
    simp only [Option.bind_eq_bind, Option.bind_some] at h
    cases hintegrity : live.handle.integrity with
    | none =>
      rw [hintegrity] at h
      cases h
    | some integrity =>
      rw [hintegrity] at h
      dsimp only at h ⊢
      by_cases hplain : parsed.type = .segment ∨ integrity.icvLen = 0
      · rw [if_pos hplain] at h
        cases h
      rw [if_neg hplain] at h ⊢
      by_cases hshort : integrity.icvLen > 32 ∨ unit.length < integrity.icvLen
      · rw [if_pos hshort]
        rfl
      rw [if_neg hshort] at h ⊢
      rw [Option.map_eq_none_iff] at h
      rw [h]
      rfl

/-- **Without a frame a call fails.** -/
theorem decompressCall_of_enter_none {again : Live → Bytes → Return} {live : Live} {input : Bytes}
    (h : enter live input = none) : (decompressCall again live input).1 = -1 := by
  unfold decompressCall
  apply guardLength_failed
  by_cases hin : input = []
  · rw [if_pos hin]
  rw [if_neg hin]
  unfold enter at h
  dsimp only
  cases hskip : skipFeedback input.length input with
  | none => rfl
  | some unit =>
    cases unit with
    | nil => rfl
    | cons b rest =>
      rw [hskip] at h
      simp only [Option.bind_eq_bind, Option.bind_some] at h
      change (decompressUnit again live.clearFeedback live.pending (b :: rest)).1 = -1
      cases hopen : openUnit live.handle (b :: rest) with
      | none => exact decompressUnit_of_openUnit_none _ hopen
      | some opened =>
        obtain ⟨parsed, icv⟩ := opened
        have hunit := decompressUnit_openUnit again live.clearFeedback live.pending (b :: rest)
        have hopen' : openUnit live.clearFeedback.handle (b :: rest) = some (parsed, icv) := hopen
        rw [hopen'] at hunit
        rw [hopen] at h
        simp only [Option.bind_some] at h
        cases hget : live.handle.contexts.get (selectCid live.handle parsed).2 with
        | none =>
          rw [hunit]
          dsimp only
          rw [@decompressParsed_of_none again live.clearFeedback _ _ _ hget]
          rfl
        | some before =>
          rw [hget] at h
          cases h

/-- The state after a segment that is not the final one. -/
def Live.collecting (live : Live) (octets : Bytes) (expected : UInt16) : Live :=
  { live with handle := { live.handle with
      reassemblyActive := true, reassembly := octets, expectedSegmentSequence := expected } }

theorem toUInt8_toUInt16 (sequence : UInt16) : sequence.toUInt8.toUInt16 = sequence &&& 0xFF := by
  rw [← UInt16.toNat_inj, UInt16.toNat_and]
  exact (Nat.and_two_pow_sub_one_eq_mod sequence.toNat 8).symm

theorem Frame.segmentUnit_continues {f : Frame} {again : Live → Bytes → Return} {live : Live} {final : Bool}
    {payload : Bytes} (hpacket : f.packet = segmentOctets final live.handle.expectedSequence payload)
    (hpayload : payload ≠ []) (hbegun : live.handle.reassemblyActive = true ∨ live.handle.expectedSequence = 0)
    (hlimit : (live.handle.collected ++ payload).length ≤ live.handle.reassemblyLimit) :
    f.segmentUnit .segment again live = some (if final then again live.completed (live.handle.collected ++ payload)
      else (1, live.collecting (live.handle.collected ++ payload) (live.handle.expectedSequence + 1))) := by
  have hpos := List.length_pos_iff.mpr hpayload
  have hfit := Nat.le_min.mp hlimit
  rw [List.length_append] at hfit
  have hread := @readSegmentHeader_segmentOctets final live.handle.expectedSequence payload
  unfold segmentUnit
  rw [if_neg (fun h => h rfl), hpacket, hread, drop_segmentOctets, length_segmentOctets, toUInt8_toUInt16]
  dsimp only
  have hlen : ¬ (live.handle.mrru = 0 ∨ payload.length + 2 ≤ segmentHeaderLen) := by
    unfold segmentHeaderLen
    omega
  have hfirst : ¬ ((!live.handle.reassemblyActive) = true ∧ live.handle.expectedSequence &&& 0xFF ≠ 0) := by
    rintro ⟨hidle, hne⟩
    rcases hbegun with hactive | hzero
    · rw [hactive] at hidle
      cases hidle
    · rw [hzero] at hne
      exact hne (by decide)
  have hnext : ¬ (live.handle.expectedSequence &&& 0xFF ≠ live.handle.expectedSequence &&& 0xFF ∨
      (live.handle.collected ++ payload).length > live.handle.mrru ∨
      (live.handle.collected ++ payload).length > segmentBufferMax) := by
    rw [List.length_append]
    rintro (h | h | h)
    · exact h rfl
    · omega
    · omega
  rw [if_neg hlen, if_neg hfirst, if_neg hnext]
  cases final with
  | false => rfl
  | true => rfl

/-- **A segment that continues a unit** is collected, or completes the unit for the nested call. -/
theorem decompressCall_segmentOctets {again : Live → Bytes → Return} {live : Live} {final : Bool} {payload : Bytes}
    {cid : Nat × Nat × Bool} {before : Context}
    (hcid : readPacketCid (segmentOctets final live.handle.expectedSequence payload) .segment none
      live.handle.largeCidSpace = some cid) (hget : live.handle.contexts.get cid.1 = some before)
    (hpayload : payload ≠ []) (hbegun : live.handle.reassemblyActive = true ∨ live.handle.expectedSequence = 0)
    (hlimit : (live.handle.collected ++ payload).length ≤ live.handle.reassemblyLimit) :
    decompressCall again live (segmentOctets final live.handle.expectedSequence payload) =
      guardLength (if final then
          again (live.clearFeedback.setCtx cid.1 (labelContext live.handle cid.1 before)).completed
            (live.handle.collected ++ payload)
        else
          (1, (live.clearFeedback.setCtx cid.1 (labelContext live.handle cid.1 before)).collecting
            (live.handle.collected ++ payload) (live.handle.expectedSequence + 1))) := by
  have henter := enter_segmentOctets hcid hget
  rw [decompressCall_enter, henter]
  dsimp only
  rw [Frame.decode_of_segment (enter_meets henter).regular rfl]
  have hunit := @Frame.segmentUnit_continues (openFrame live.clearFeedback live.pending
    (segmentParsed (segmentOctets final live.handle.expectedSequence payload) cid) cid.1 before []) again
    (live.clearFeedback.setCtx cid.1 (labelContext live.handle cid.1 before)) final payload rfl hpayload hbegun hlimit
  exact congrArg guardLength (congrArg (Option.getD · _) hunit)

/-! ## Segments inside segments -/

section Nested

variable {live : Live} {rest : Bytes}

/-- A first segment that is also the last, on CID 0 of either space. -/
def wholeSegment (payload : Bytes) : Bytes := 0xFF :: 0x00 :: payload

/-- `n` segments, each the payload of the one before. -/
def nestedSegments : Nat → Bytes
  | 0 => [0x00]
  | n + 1 => wholeSegment (nestedSegments n)

theorem length_nestedSegments (n : Nat) : (nestedSegments n).length = 2 * n + 1 := by
  induction n with
  | zero => rfl
  | succ n ih =>
    simp only [nestedSegments, wholeSegment, List.length_cons, ih]
    omega

theorem enter_wholeSegment {before : Context} (hget : live.handle.contexts.get 0 = some before) (payload : Bytes) :
    enter live (wholeSegment payload) = some (wholeSegment payload, openFrame live.clearFeedback live.pending
      (segmentParsed (wholeSegment payload) (0, live.handle.largeCidSpace.toNat, live.handle.largeCidSpace)) 0 before []) := by
  have hcid : readPacketCid (segmentOctets true 0 payload) .segment none live.handle.largeCidSpace =
      some (0, live.handle.largeCidSpace.toNat, live.handle.largeCidSpace) := by
    unfold readPacketCid
    cases live.handle.largeCidSpace with
    | true =>
      rw [if_pos ⟨rfl, by decide⟩, if_neg (by rw [length_segmentOctets]; omega)]
      rfl
    | false => rfl
  exact enter_segmentOctets hcid hget

/-- **A whole segment completes its payload** if that is within the limit. -/
theorem reassembles_wholeSegment (hidle : live.handle.reassemblyActive = false) (hpos : 0 < rest.length)
    (hlimit : rest.length ≤ live.handle.reassemblyLimit) :
    ∃ live', reassembles live (wholeSegment rest) = some (live', rest) := by
  have hmrru : rest.length ≤ live.handle.mrru := Nat.le_trans hlimit (Nat.min_le_left _ _)
  have hbuffer : rest.length ≤ segmentBufferMax := Nat.le_trans hlimit (Nat.min_le_right _ _)
  obtain ⟨before, hget⟩ := Option.isSome_iff_exists.mp ((@ContextTable.get_isSome live.handle.contexts 0).mpr (Nat.zero_le _))
  have hread : readSegmentHeader (wholeSegment rest) = some (true, 0) :=
    @readSegmentHeader_segmentOctets true 0 rest
  unfold reassembles
  rw [enter_wholeSegment hget, Option.bind_some]
  generalize hlabelled : live.clearFeedback.setCtx _ _ = labelled
  refine ⟨labelled.completed, ?_⟩
  have hcollected : labelled.handle.collected = [] := by rw [← hlabelled]; exact collected_of_idle hidle
  have hexpected : labelled.handle.expectedSequence = 0 := by rw [← hlabelled]; exact expectedSequence_of_idle hidle
  have hmrru' : labelled.handle.mrru = live.handle.mrru := by rw [← hlabelled]; rfl
  unfold Frame.completedUnit
  rw [if_neg (fun h => h rfl)]
  have hpacket : (openFrame live.clearFeedback live.pending (segmentParsed (wholeSegment rest)
      (0, live.handle.largeCidSpace.toNat, live.handle.largeCidSpace)) 0 before []).packet = wholeSegment rest := rfl
  simp only [hpacket, hread, hcollected, hexpected, hmrru', List.nil_append]
  have hdrop : (wholeSegment rest).drop segmentHeaderLen = rest := rfl
  rw [hdrop, if_neg]
  simp only [wholeSegment, List.length_cons, segmentHeaderLen, ne_eq, not_true_eq_false, and_false, Bool.not_true,
    Bool.false_eq_true, or_false, false_or, not_or]
  exact ⟨by omega, by omega, by decide, by omega, by omega⟩

/-- **Segments inside segments** are taken apart one nested call at a time. -/
theorem nests_nestedSegments {n : Nat} (hidle : live.handle.reassemblyActive = false)
    (hlimit : 2 * n ≤ live.handle.reassemblyLimit + 1) : Nests live (nestedSegments n) n := by
  induction n generalizing live with
  | zero =>
    refine .last ?_
    cases hcall : reassembles live (nestedSegments 0) with
    | none => rfl
    | some next =>
      -- One octet is no segment.
      have hlen := (reassembles_spec hcall).length_of_idle hidle
      have hone : (nestedSegments 0).length = 1 := rfl
      omega
  | succ n ih =>
    have hlen := length_nestedSegments n
    obtain ⟨live', hcall⟩ := @reassembles_wholeSegment _ (nestedSegments n) hidle (by omega) (by omega)
    have hspec := reassembles_spec hcall
    have hkept : live'.handle.reassemblyLimit = live.handle.reassemblyLimit := by
      unfold Decompressor.reassemblyLimit
      rw [hspec.mrru]
    exact .call hcall (ih hspec.idle (by rw [hkept]; omega))

end Nested

/-- A final segment of sequence 0 in a final segment of sequence 0: the nested call completes a unit itself. -/
theorem reassembly_nests : ∃ live live' : Live,
    reassembles ⟨{ freshDecompressor with mrru := 3 }, [], 64⟩ [0xFF, 0x00, 0xFF, 0x00, 0x45] =
        some (live, [0xFF, 0x00, 0x45]) ∧
      reassembles live [0xFF, 0x00, 0x45] = some (live', [0x45]) := by
  obtain ⟨live, hfirst⟩ := @reassembles_wholeSegment ⟨{ freshDecompressor with mrru := 3 }, [], 64⟩
    (wholeSegment [0x45]) rfl (by decide) (by decide)
  have hspec := reassembles_spec hfirst
  have hmrru : live.handle.mrru = 3 := hspec.mrru
  obtain ⟨live', hsecond⟩ := @reassembles_wholeSegment live [0x45] hspec.idle (by decide) (by
    unfold Decompressor.reassemblyLimit
    rw [hmrru]
    decide)
  exact ⟨live, live', hfirst, hsecond⟩

/-- **Nested reassembly.** A call of `rohc_decompress4` makes at most the one nested call that `reassembles` says. The
unit of a nested call completes a unit itself only if it is a single final segment of sequence 0, and then the next one
is two octets shorter; so every chain of nested calls ends, within half the octets that the MRRU allows, and a chain of
that length exists. -/
theorem reassembly_depth :
    (∀ (dec : Decompressor) (input out : Bytes) (cap : Nat),
      rohcDecompress4 dec input out cap = match reassembles ⟨dec, out, cap⟩ input with
        | some (live, content) => guardLength (rohcDecompress4 live.handle content live.out live.outLen)
        | none => decompressCall noCall ⟨dec, out, cap⟩ input) ∧
      (∀ (live live' live'' : Live) (input content content' : Bytes), reassembles live input = some (live', content) →
        reassembles live' content = some (live'', content') →
          (∃ unit f, enter live' content = some (unit, f) ∧ f.parsed.type = .segment ∧
            readSegmentHeader f.packet = some (true, 0)) ∧ content'.length + 2 ≤ content.length) ∧
      (∀ (live : Live) (input : Bytes), ∃ n, Nests live input n) ∧
      (∀ (live : Live) (input : Bytes) (n : Nat), Nests live input n → 2 * n ≤ min live.handle.mrru segmentBufferMax + 1) ∧
      ∀ (live : Live) (n : Nat), live.handle.reassemblyActive = false → 2 * n ≤ min live.handle.mrru segmentBufferMax + 1 →
        ∃ input, Nests live input n := by
  refine ⟨fun dec input out cap => ?_, fun live live' live'' input content content' hfirst hsecond => ?_, exists_nests,
    fun live input n h => h.two_mul_le, fun live n hidle hlimit => ⟨nestedSegments n, nests_nestedSegments hidle hlimit⟩⟩
  · rw [rohcDecompress4_unfold]
    exact decompressCall_reassembles _ _ _
  · have hidle := (reassembles_spec hfirst).idle
    have hspec := reassembles_spec hsecond
    refine ⟨?_, hspec.length_of_idle hidle⟩
    obtain ⟨unit, f, henter, htype, hread, -⟩ := hspec.segment
    rw [expectedSequence_of_idle hidle] at hread
    exact ⟨unit, f, henter, htype, hread⟩

end Rohccxx
