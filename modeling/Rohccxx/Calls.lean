import Rohccxx.Accepted
import Rohccxx.Untouched

/-!
# What a call decoded

A call of `rohc_decompress4` that returns 0 decoded one unit: the one behind the feedback elements of its input, or the
one that its input, a final segment, completed (`Decodes`). `rohcDecompress4_zero` says which frame the unit met and that
this frame accepted it.
-/

set_option autoImplicit false

namespace Rohccxx

open Octets Reader

/-! ## ESP units with two readings -/

/-- The octet a read answers. -/
theorem u8_eq_ok {σ : Type} {bs : Bytes} {c c' : Cursor σ} {b : UInt8} (h : u8 bs c = (.ok b, c')) :
    b = u8At bs c.pos := by
  unfold u8 at h
  split at h
  · rename_i hget
    cases h
    simp [u8At, hget]
  · cases h

/-- An accepted private unit starts with its marker and is as long as its header. -/
theorem decodePrivateFo_reads {marker : UInt8} {fieldsLen : Nat} {crc : Bytes → Context → UInt8} {profile : Profile}
    {readFields : Bytes → Proc (Cursor Context) Unit} {bs : Bytes} {ctx ctx' : Context} {n : Nat}
    (h : exec (decodePrivateFo marker fieldsLen crc profile readFields bs) ctx = (some n, ctx')) :
    u8At bs 0 = marker ∧ 2 + fieldsLen ≤ n ∧ n ≤ bs.length := by
  unfold exec at h
  split at h
  · rename_i hm
    cases h
    obtain ⟨_, _, h₁, hm⟩ := Proc.bind_eq_ok hm
    cases h₁
    obtain ⟨_, _, h₁, hm⟩ := Proc.bind_eq_ok hm
    obtain ⟨hlen, rfl⟩ := Proc.require_eq_ok h₁
    obtain ⟨b, _, h₁, hm⟩ := Proc.bind_eq_ok hm
    obtain ⟨_, _, h₂, hm⟩ := Proc.bind_eq_ok hm
    obtain ⟨hb, rfl⟩ := Proc.require_eq_ok h₂
    obtain ⟨_, _, -, hm⟩ := Proc.bind_eq_ok hm
    obtain ⟨_, _, -, hm⟩ := Proc.bind_eq_ok hm
    obtain ⟨_, _, -, hm⟩ := Proc.bind_eq_ok hm
    obtain ⟨_, _, -, hm⟩ := Proc.bind_eq_ok hm
    obtain ⟨_, _, -, hm⟩ := Proc.bind_eq_ok hm
    obtain ⟨_, _, -, hm⟩ := Proc.bind_eq_ok hm
    obtain ⟨_, _, -, hm⟩ := Proc.bind_eq_ok hm
    cases hm
    simp only [decide_eq_true_eq] at hlen hb
    exact ⟨(u8_eq_ok h₁).symm.trans hb, by omega, hlen⟩
  · cases h

/-- What the size of a rebuilt ESP packet depends on. -/
def espShape (ctx : Context) : UInt8 × Nat × Bool :=
  (ctx.ipVersion, ctx.ipv4OptionsLen, ctx.legacyEspPayloadIncludesHeader)

theorem keeps_espShape_decodeEspFo (bs : Bytes) : Keeps espShape (decodeEspFo bs) := by
  refine .bind .value fun ctx => .bind .require fun _ => .bind .u8 fun _ => .bind .require fun _ => .bind ?_ fun _ => ?_
  · exact .ite .pure <| .bind .available fun _ => .bind .scan fun _ => .bind .require fun _ => .bind .take fun _ => .pure
  · exact .bind .require fun _ => .bind .pos fun _ => .bind .u8 fun _ => .bind .require fun _ =>
      .bind (.bind .u16 fun _ => .update fun _ => rfl) fun _ => .bind (.update fun _ => rfl) fun _ => .pure

namespace Frame

variable {f : Frame} {live : Live}

theorem reconstructTentative_esp {ctx : Context} {n : Nat} (hp : ctx.profile = .esp) (hv : ctx.ipVersion = 4) :
    (f.reconstructTentative ctx n).isSome ↔ n ≤ f.packet.length ∧
      20 + ctx.ipv4OptionsLen + (if ctx.legacyEspPayloadIncludesHeader then 0 else 8) + (f.packet.length - n) ≤ 0xFFFF := by
  unfold reconstructTentative payloadAfterHeader
  by_cases hn : n ≤ f.packet.length
  · rw [if_neg (by omega)]
    simp only [Option.bind_eq_bind, Option.bind_some, hp]
    have hdrop : (f.packet.drop n).length = f.packet.length - n := List.length_drop
    by_cases hl : ctx.legacyEspPayloadIncludesHeader
    · simp only [if_pos hl, buildIpPacket, emitIpv4, hdrop, maxReconstructedIpPacket]
      split <;> simp <;> omega
    · simp only [if_neg hl, buildEspPacket, hv, buildIpPacket, emitIpv4, List.length_append, length_be32, hdrop,
        maxReconstructedIpPacket, show ¬((4 : UInt8) = 6) by decide, if_false]
      split
      · simp
        omega
      · split <;> simp <;> omega
  · rw [if_pos (by omega)]
    simp [hn]

/-- An ESP unit that the block of the four-bit form leaves to the last block reads as a private unit. -/
theorem espPt0Crc3_none (h : f.espPt0Crc3 live = none) (hs : f.pt0Shaped = true) (ho : f.before.ipv4OptionsLen = 0)
    (ha : f.espPt0AliasContext = true) :
    ∃ ctx n, f.privateReading decodeEspFo = some (ctx, n) ∧ ctx.profile = .esp := by
  unfold espPt0Crc3 at h
  rw [if_pos ⟨hs, ho, ha⟩] at h
  dsimp only at h
  split at h
  · cases h
  · split at h
    · cases h
    · split at h
      · cases h
      · split at h
        · rename_i hp
          obtain ⟨⟨ctx, n⟩, hr, hc⟩ := (Option.any_eq_true _ _).mp hp
          exact ⟨ctx, n, hr, by simpa using hc⟩
        · cases h

/-- What `advanceFormal` leaves of an ESP context. -/
theorem advanceFormal_esp {ctx : Context} (hp : ctx.profile = .esp) (msn : UInt16) :
    (advanceFormal ctx msn).profile = .esp ∧ espShape (advanceFormal ctx msn) = espShape ctx := by
  simp [advanceFormal, espShape, hp]

theorem tryFormalPt0_esp {formal : TentativeMeaning} (h : f.tryFormalPt0 = some formal) (hp : f.before.profile = .esp) :
    formal.interpretation = .formalPt0 ∧ ∃ ctx, ctx.profile = .esp ∧ espShape ctx = espShape f.before ∧
      (f.reconstructTentative ctx 1).isSome := by
  simp only [tryFormalPt0, Option.bind_eq_bind, Option.bind_eq_some_iff] at h
  obtain ⟨_, -, nextMsn, -, h⟩ := h
  obtain ⟨hprofile, hshape⟩ := advanceFormal_esp hp nextMsn
  obtain ⟨-, h⟩ := Option.ite_none_left_eq_some.mp h
  simp only [readCompactUdpCheck, hprofile, Option.bind_eq_some_iff] at h
  obtain ⟨⟨ctx, n⟩, he, output, hout, h⟩ := h
  rw [if_neg (by simp)] at he
  cases he
  obtain ⟨-, h⟩ := Option.ite_none_left_eq_some.mp h
  cases h
  exact ⟨rfl, _, hprofile, hshape, by rw [hout]; rfl⟩

/-- A private marker says what it is: no IP packet starts with it. -/
theorem packetTypeOf_espMarker {packet : Bytes} (h : u8At packet 0 = 0x78) : packetTypeOf packet = .foEsp := by
  have hip : isUncompressedIpPayload packet = false := by
    unfold isUncompressedIpPayload
    rw [h, if_neg (show ¬((0x78 : UInt8) >>> 4 = 4) by decide), if_neg (show ¬((0x78 : UInt8) >>> 4 = 6) by decide)]
    split <;> rfl
  rw [packetTypeOf, hip, h]
  decide

/-- **An ESP unit with both readings is refused before the last block**, so what this block takes for a PT-0 of a plain
ESP context was staged. -/
theorem esp_overlap_refused (hreg : f.Regular) (hb : f.espPt0Crc3 live = none) (hc : f.conflictingMeanings live = none)
    (hlast : f.lastType = .foRtp) {preferPrivate : Bool} (ht : f.takesPt0 preferPrivate = true)
    (hp : f.before.profile = .esp) :
    f.staged = true ∨ f.before.ipv4OptionsLen ≠ 0 ∨ f.before.largeCid = true := by
  by_contra hn
  simp only [not_or, Bool.not_eq_true, not_not] at hn
  obtain ⟨hst, hopt, hlarge⟩ := hn
  obtain ⟨mode, hctx⟩ := hreg.ctx
  simp only [takesPt0, Bool.and_eq_true, decide_eq_true_eq] at ht
  obtain ⟨⟨⟨-, hpos⟩, htop⟩, hlive⟩ := ht
  simp only [hctx, livePt0ContextSupported, hp] at hlive
  by_cases hguard : f.before.rohcState ≠ .dynamicEstablished ∨ f.before.ipVersion ≠ 4 ∨ f.largeCidSpace = true ∨
      f.largeCidSpace = true
  · rw [if_pos hguard] at hlive
    cases hlive
  · rw [if_neg hguard] at hlive
    simp only [not_or, not_not, Bool.not_eq_true] at hguard
    obtain ⟨hstate, hver, hspace, -⟩ := hguard
    simp only [Bool.and_eq_true, decide_eq_true_eq] at hlive
    obtain ⟨ctx, n, hread, hprofile⟩ := espPt0Crc3_none hb (by simp [pt0Shaped, hst, hpos, htop]) hopt
      (by
        have hadd : f.parsed.hasAddCid = decide (f.cid ≠ 0) := by simpa using hlive.2.2
        simp [espPt0AliasContext, hstate, hp, hver, hspace, hlarge, hlive.2.1, hadd])
    have hexec : exec (decodeEspFo f.packet) f.before = (some n, ctx) := by
      unfold privateReading at hread
      split at hread
      · rename_i e
        cases hread
        exact e
      · cases hread
    obtain ⟨hfirst, hn4, hnlen⟩ := decodePrivateFo_reads hexec
    have hshape : espShape ctx = espShape f.before := (keeps_espShape_decodeEspFo f.packet).exec_eq hexec
    have htype : f.parsed.type = .foEsp := hreg.type.trans (packetTypeOf_espMarker hfirst)
    -- The private unit becomes type `foRtp` only through the resolver, so the formal reading is there too.
    have hover : f.privateFoOverlap = true ∧ f.tryFormalPt0.isSome = true := by
      by_contra hn
      rw [lastType, resolveOverlap, if_neg hn, correctedType, if_neg (by simp [htype]), htype] at hlast
      cases hlast
    obtain ⟨formal, hformal⟩ := Option.isSome_iff_exists.mp hover.2
    obtain ⟨hint, ctx₁, hp₁, hshape₁, hsize₁⟩ := tryFormalPt0_esp hformal hp
    simp only [espShape, Prod.mk.injEq] at hshape hshape₁
    have hsize : (f.reconstructTentative ctx n).isSome := by
      rw [reconstructTentative_esp hp₁ (hshape₁.1.trans hver), hshape₁.2.1, hshape₁.2.2] at hsize₁
      rw [reconstructTentative_esp hprofile (hshape.1.trans hver), hshape.2.1, hshape.2.2]
      omega
    obtain ⟨output, hout⟩ := Option.isSome_iff_exists.mp hsize
    have hpriv : f.tryPrivateFo = some ⟨.privateFo, ctx, output, n, ctx.profile, ctx.cid⟩ := by
      simp [tryPrivateFo, htype, hread, hprofile, hout]
    rw [conflictingMeanings, if_pos hover.1, hformal, hpriv] at hc
    simp [sameMeaning, hint] at hc

/-! ## All blocks -/

theorem lastType_eq : f.lastType = .foRtp ∨ f.lastType = f.parsed.type := by
  unfold lastType resolveOverlap
  split
  · exact .inl rfl
  · unfold correctedType
    split
    · exact .inl rfl
    · exact .inr rfl

theorem conflictingMeanings_ne_zero {ret : Return} (h : f.conflictingMeanings live = some ret) : ret.1 ≠ 0 := by
  unfold conflictingMeanings at h
  split at h
  · split at h
    · split at h
      · cases h
      · cases h
        simp [Live.failWithFeedback]
    · cases h
  · cases h

theorem feedbackUnit_ne_zero {type : RohcPacketType} {ret : Return} (h : f.feedbackUnit type live = some ret) :
    ret.1 ≠ 0 := by
  unfold feedbackUnit at h
  split at h
  · cases h
    split
    · simp
    · simp [Live.failWithFeedback]
  · cases h

end Frame

/-- The state in which a reassembled unit is decoded. -/
def Live.completed (live : Live) : Live :=
  { live with handle := { live.handle with
    reassemblyActive := false, reassembly := [], expectedSegmentSequence := 0 } }

namespace Frame

variable {f : Frame} {live : Live}

/-- A segment returns 0 only through the unit it completes. -/
theorem segmentUnit_zero {type : RohcPacketType} {again : Live → Bytes → Return} {ret : Return}
    (h : f.segmentUnit type again live = some ret) (h0 : ret.1 = 0) :
    type = .segment ∧ ret = again live.completed (live.handle.collected ++ f.packet.drop segmentHeaderLen) := by
  have hfail : ∀ live : Live, (f.failSegment live).1 ≠ 0 := fun _ => by simp [failSegment, Live.failWithFeedback]
  unfold segmentUnit at h
  split at h
  · cases h
  · rename_i htype
    rw [not_not] at htype
    split at h
    · cases h
      exact absurd h0 (hfail _)
    · dsimp only at h
      split at h
      · cases h
        exact absurd h0 (hfail _)
      · split at h
        · cases h
          exact absurd h0 (by simp [Live.failWithFeedback])
        · split at h
          · cases h
            exact absurd h0 (hfail _)
          · split at h
            · cases h
              exact absurd h0 (by simp)
            · cases h
              exact ⟨htype, rfl⟩

theorem ite_ne_segment {p : Prop} [Decidable p] {a b : RohcPacketType} (ha : a ≠ .segment) (hb : b ≠ .segment) :
    (if p then a else b) ≠ .segment := by
  split
  · exact ha
  · exact hb

theorem detectPacketType_segment {b : UInt8} (h : detectPacketType b = .segment) : b &&& 0xFE = 0xFE := by
  by_contra hn
  rw [detectPacketType, if_neg hn] at h
  revert h
  repeat refine ite_ne_segment (by decide) ?_
  decide

theorem top_bit_of_segment {packet : Bytes} (h : packetTypeOf packet = .segment) : u8At packet 0 &&& 0x80 ≠ 0 := by
  unfold packetTypeOf at h
  split at h
  · cases h
  · have : u8At packet 0 &&& 0x80 = (u8At packet 0 &&& 0xFE) &&& 0x80 := by rw [UInt8.and_assoc]; rfl
    rw [this, detectPacketType_segment h]
    decide

/-- The frame accepted its unit as one of this kind. -/
def Takes (f : Frame) (live : Live) (kind : UnitKind) (ret : Return) : Prop :=
  ∃ ctx octets, f.Accepted live kind ctx octets ret

/-- The first block that answers gives the return and the kind. -/
theorem first_answer {block : Option Return} {k k' : UnitKind} {rest : Return}
    (hb : ∀ ret, block = some ret → ret.1 = 0 → f.Takes live k ret)
    (hr : block = none → rest.1 = 0 → f.Takes live k' rest) (h : (block.getD rest).1 = 0) :
    f.Takes live (if block.isSome then k else k') (block.getD rest) := by
  cases block with
  | none => exact hr rfl h
  | some ret => exact hb ret rfl h

/-- A block that can only refuse did not answer. -/
theorem no_answer {block : Option Return} {k : UnitKind} {rest : Return}
    (hb : ∀ ret, block = some ret → ret.1 ≠ 0) (hr : block = none → rest.1 = 0 → f.Takes live k rest)
    (h : (block.getD rest).1 = 0) : f.Takes live k (block.getD rest) := by
  cases block with
  | none => exact hr rfl h
  | some ret => exact absurd h (hb ret rfl)

/-- **A unit that returns 0** was accepted by the frame, or it was the last segment of another unit. -/
theorem decode_zero (hreg : f.Regular) {again : Live → Bytes → Return} (h : (f.decode again live).1 = 0) :
    (f.parsed.type ≠ .segment ∧ f.Takes live (f.kind live) (f.decode again live)) ∨
      (f.parsed.type = .segment ∧
        f.decode again live = again live.completed (live.handle.collected ++ f.packet.drop segmentHeaderLen)) := by
  by_cases htype : f.parsed.type = .segment
  · refine .inr ⟨htype, ?_⟩
    have hbit := top_bit_of_segment (hreg.type.symm.trans htype)
    rw [decode_of_top_bit again live hbit (by simp [htype]) (by simp [htype]) (by simp [htype])] at h ⊢
    have hf : f.feedbackUnit f.parsed.type live = none := by simp [feedbackUnit, htype]
    rw [hf, Option.getD_none] at h ⊢
    cases hs : f.segmentUnit f.parsed.type again live with
    | none =>
      rw [hs, htype] at h
      exact absurd h (failDecode_ne_zero _)
    | some ret =>
      rw [hs] at h
      exact (segmentUnit_zero hs h).2
  · refine .inl ⟨htype, ?_⟩
    refine first_answer (fun _ => normalPacket_zero) (fun _ => ?_) h
    refine first_answer (fun _ => uncompressedIr_zero) fun _ => ?_
    refine first_answer (fun _ => rtpPt0Crc7_zero) fun _ => ?_
    refine first_answer (fun _ => espPt0Crc7_zero) fun _ => ?_
    refine first_answer (fun _ => pt1SeqId_zero) fun _ => ?_
    refine first_answer (fun _ => udpPt0Crc3_zero) fun _ => ?_
    refine first_answer (fun _ => espPt0Crc3_zero) fun hesp => ?_
    refine first_answer (fun _ => ipPt0Crc3_zero) fun _ => ?_
    refine first_answer (fun _ => rtpPt0Crc3_zero) fun _ => ?_
    refine no_answer (fun _ => conflictingMeanings_ne_zero) fun hconf => ?_
    refine no_answer (fun _ => feedbackUnit_ne_zero) fun _ => ?_
    have hlast : f.lastType = .foRtp ∨ f.lastType = f.parsed.type := lastType_eq
    refine no_answer (fun ret hret h0 => ?_) fun _ h => ?_
    · have : f.lastType = .segment := (segmentUnit_zero hret h0).1
      rcases hlast with e | e
      · rw [e] at this
        cases this
      · exact htype (e.symm.trans this)
    · refine decodeInPlace_zero h (fun e => ?_) fun e ht hp => esp_overlap_refused hreg hesp hconf e ht hp
      rcases hlast with e' | e'
      · exact absurd (e'.symm.trans e) (by simp)
      · exact e'.symm.trans e

end Frame

/-! ## The unit of a call -/

/-- The parsed unit and the ICV taken off its end, as `decompressUnit` finds them. -/
def openUnit (decomp : Decompressor) (unit : Bytes) : Option (ParsedRohcPacket × Bytes) := do
  let parsed ← parseRohcPacket unit decomp.largeCidSpace
  match decomp.integrity with
  | none => some (parsed, [])
  | some integrity =>
    if parsed.type = .segment ∨ integrity.icvLen = 0 then some (parsed, [])
    else if integrity.icvLen > 32 ∨ unit.length < integrity.icvLen then none
    else
      let bodyLen := unit.length - integrity.icvLen
      (parseRohcPacket (unit.take bodyLen) decomp.largeCidSpace).map fun parsed => (parsed, unit.drop bodyLen)

/-- The state of a call behind the feedback elements. -/
def Live.clearFeedback (live : Live) : Live := { live with handle := { live.handle with hasFeedback := false } }

def Live.pending (live : Live) : Option Feedback :=
  if live.handle.hasFeedback then some live.handle.lastFeedback else none

/-- The unit behind the feedback elements of an input and the frame it meets. -/
def enter (live : Live) (input : Bytes) : Option (Bytes × Frame) := do
  let unit ← skipFeedback input.length input
  let (parsed, icv) ← openUnit live.handle unit
  let (parsedCid, cid) := selectCid live.handle parsed
  let before ← live.handle.contexts.get cid
  return (unit, openFrame live.clearFeedback live.pending { parsed with cid := parsedCid } cid before icv)

/-- The state in which the unit of a final segment is decoded. -/
def Frame.completes (f : Frame) (live : Live) : Live := (live.clearFeedback.setCtx f.cid f.ctx).completed

/-- **The unit a call decodes**, its frame and the state it meets: a segment leads to the unit it completes. -/
def decodes : Nat → Live → Bytes → Option (Bytes × Frame × Live)
  | 0, _, _ => none
  | fuel + 1, live, input => do
    let (unit, f) ← enter live input
    if f.parsed.type = .segment then
      decodes fuel (f.completes live) (live.handle.collected ++ f.packet.drop segmentHeaderLen)
    else return (unit, f, live.clearFeedback)

section Call

variable {again : Live → Bytes → Return} {live : Live}

theorem decompressUnit_zero {pending : Option Feedback} {unit : Bytes}
    (h : (decompressUnit again live pending unit).1 = 0) :
    ∃ parsed icv, openUnit live.handle unit = some (parsed, icv) ∧
      decompressUnit again live pending unit = decompressParsed again live pending parsed icv := by
  have hfail : ∀ cid, (live.failWithFeedback cid).1 ≠ 0 := fun _ => by simp [Live.failWithFeedback]
  unfold decompressUnit at h ⊢
  unfold openUnit
  dsimp only at h ⊢
  cases hp : parseRohcPacket unit live.handle.largeCidSpace with
  | none =>
    rw [hp] at h
    exact absurd h (hfail 0)
  | some parsed =>
    rw [hp] at h
    simp only [Option.bind_eq_bind, Option.bind_some] at h ⊢
    cases hi : live.handle.integrity with
    | none => exact ⟨parsed, [], rfl, rfl⟩
    | some integrity =>
      rw [hi] at h
      dsimp only at h ⊢
      split
      · exact ⟨parsed, [], rfl, rfl⟩
      · rename_i hs
        rw [if_neg hs] at h
        split
        · rename_i hl
          rw [if_pos hl] at h
          exact absurd h (hfail _)
        · rename_i hl
          rw [if_neg hl] at h
          cases hb : parseRohcPacket (unit.take (unit.length - integrity.icvLen)) live.handle.largeCidSpace with
          | none =>
            rw [hb] at h
            exact absurd h (hfail 0)
          | some body => exact ⟨body, _, rfl, rfl⟩

theorem type_openUnit {decomp : Decompressor} {unit icv : Bytes} {parsed : ParsedRohcPacket}
    (h : openUnit decomp unit = some (parsed, icv)) : parsed.type = packetTypeOf parsed.packet := by
  simp only [openUnit, Option.bind_eq_bind, Option.bind_eq_some_iff] at h
  obtain ⟨whole, hw, h⟩ := h
  split at h
  · cases h
    exact type_parseRohcPacket hw
  · split at h
    · cases h
      exact type_parseRohcPacket hw
    · split at h
      · cases h
      · obtain ⟨body, hb, e⟩ := Option.map_eq_some_iff.mp h
        cases e
        exact type_parseRohcPacket hb

/-- What is known of the frame a unit meets. -/
structure Meets (live : Live) (unit : Bytes) (f : Frame) : Prop where
  context : live.handle.contexts.get f.cid = some f.before
  regular : f.Regular
  labelled : f.ctx = labelContext live.handle f.cid f.before
  largeCidSpace : f.largeCidSpace = live.handle.largeCidSpace
  integrity : f.integrity = live.handle.integrity
  icv : ∃ parsed, openUnit live.handle unit = some (parsed, f.icv) ∧ parsed.type = f.parsed.type

theorem enter_meets {input unit : Bytes} {f : Frame} (h : enter live input = some (unit, f)) :
    Meets live.clearFeedback unit f := by
  simp only [enter, Option.bind_eq_bind, Option.bind_eq_some_iff] at h
  obtain ⟨unit', -, ⟨parsed, icv⟩, hopen, before, hget, h⟩ := h
  have htype := type_openUnit hopen
  cases h
  exact ⟨hget, ⟨⟨_, rfl⟩, htype⟩, rfl, rfl, rfl, parsed, hopen, rfl⟩

theorem guardLength_zero {ret : Return} (h : (guardLength ret).1 = 0) : ret.1 = 0 ∧ guardLength ret = ret := by
  unfold guardLength at h ⊢
  split at h
  · rename_i h0
    exact ⟨h0, by rw [if_pos h0]⟩
  · rename_i h0
    exact absurd h h0

theorem decompressCall_zero {input : Bytes} (h : (decompressCall again live input).1 = 0) :
    ∃ unit f, enter live input = some (unit, f) ∧
      decompressCall again live input = f.decode again (live.clearFeedback.setCtx f.cid f.ctx) := by
  obtain ⟨h, e⟩ := guardLength_zero h
  rw [decompressCall, e]
  by_cases hin : input = []
  · rw [if_pos hin] at h
    cases h
  · rw [if_neg hin] at h ⊢
    dsimp only at h ⊢
    cases hs : skipFeedback input.length input with
    | none =>
      rw [hs] at h
      exact absurd h (by simp [Live.failWithFeedback])
    | some unit =>
      rw [hs] at h
      cases unit with
      | nil => cases h
      | cons b rest =>
        obtain ⟨parsed, icv, hopen, he⟩ := decompressUnit_zero h
        dsimp only at h ⊢
        rw [he] at h ⊢
        cases hget : live.handle.contexts.get (selectCid live.handle parsed).2 with
        | none =>
          have hfail := @decompressParsed_of_none again live.clearFeedback parsed live.pending icv hget
          change (decompressParsed again live.clearFeedback live.pending parsed icv).1 = 0 at h
          rw [hfail] at h
          exact absurd h (by simp [Live.failWithFeedback])
        | some before =>
          have hin' : enter live input = some (b :: rest, openFrame live.clearFeedback live.pending
              { parsed with cid := (selectCid live.handle parsed).1 } (selectCid live.handle parsed).2 before icv) := by
            change openUnit live.handle (b :: rest) = some (parsed, icv) at hopen
            simp only [enter, hs, hopen, Option.bind_eq_bind, Option.bind_some, hget]
            rfl
          exact ⟨_, _, hin', decompressParsed_eq _ _ rfl hget⟩

end Call

theorem clearFeedback_spared (live : Live) : Spared live live.clearFeedback := .of_eq rfl rfl ⟨rfl, rfl, rfl, rfl⟩ rfl

theorem Meets.completes_spared {live : Live} {unit : Bytes} {f : Frame} (h : Meets live.clearFeedback unit f) :
    Spared live (f.completes live) := by
  refine (clearFeedback_spared live).trans ?_
  have := Spared.labelled h.context
  rw [← h.labelled] at this
  exact this.trans (.of_eq rfl rfl ⟨rfl, rfl, rfl, rfl⟩ rfl)

/-- The unit meets a state that differs from that of the call in labels only. By induction on the segments. -/
theorem decodes_spec {fuel : Nat} {live : Live} {input unit : Bytes} {f : Frame} {mid : Live}
    (h : decodes fuel live input = some (unit, f, mid)) :
    Spared live mid ∧ Meets mid unit f ∧ f.parsed.type ≠ .segment := by
  induction fuel generalizing live input with
  | zero => cases h
  | succ fuel ih =>
    simp only [decodes, Option.bind_eq_bind, Option.bind_eq_some_iff] at h
    obtain ⟨⟨unit', f'⟩, henter, h⟩ := h
    have hmeets := enter_meets henter
    dsimp only at h
    by_cases ht : f'.parsed.type = .segment
    · rw [if_pos ht] at h
      obtain ⟨hs, hm, ht⟩ := ih h
      exact ⟨hmeets.completes_spared.trans hs, hm, ht⟩
    · rw [if_neg ht] at h
      cases h
      exact ⟨clearFeedback_spared live, hmeets, ht⟩

/-- The kind of the unit, in the state the frame works on. -/
def Frame.unitKind (f : Frame) (mid : Live) : UnitKind := f.kind (mid.setCtx f.cid f.ctx)

theorem decompressNested_zero {fuel : Nat} {live : Live} {input : Bytes}
    (h : (decompressNested fuel live input).1 = 0) :
    ∃ unit f mid, decodes fuel live input = some (unit, f, mid) ∧
      f.Takes (mid.setCtx f.cid f.ctx) (f.unitKind mid) (decompressNested fuel live input) := by
  induction fuel generalizing live input with
  | zero => cases h
  | succ fuel ih =>
    obtain ⟨unit, f, henter, e⟩ := decompressCall_zero h
    rw [decompressNested] at h ⊢
    rw [e] at h ⊢
    rcases Frame.decode_zero (enter_meets henter).regular h with ⟨ht, htakes⟩ | ⟨ht, ea⟩
    · refine ⟨unit, f, live.clearFeedback, ?_, htakes⟩
      simp only [decodes, henter, Option.bind_eq_bind, Option.bind_some, if_neg ht, Option.pure_def]
    · rw [ea] at h ⊢
      obtain ⟨unit', f', mid, hd, htakes⟩ := ih h
      refine ⟨unit', f', mid, ?_, htakes⟩
      simp only [decodes, henter, Option.bind_eq_bind, Option.bind_some, if_pos ht]
      exact hd

/-- `decodes` with the depth that `rohc_decompress4` has at most. -/
def decodedBy (decomp : Decompressor) (input out : Bytes) (cap : Nat) : Option (Bytes × Frame × Live) :=
  decodes (decomp.reassembly.length + input.length + 1) ⟨decomp, out, cap⟩ input

/-- What a call did that returned 0: the unit it decoded, and the context and the packet this left. -/
structure Decoding (decomp : Decompressor) (input out : Bytes) (cap : Nat) (unit : Bytes) (f : Frame) (mid : Live)
    (ctx : Context) (octets : Bytes) : Prop where
  decoded : decodedBy decomp input out cap = some (unit, f, mid)
  spared : Spared ⟨decomp, out, cap⟩ mid
  meets : Meets mid unit f
  accepts : f.Accepts (f.unitKind mid) ctx octets
  icv : f.IcvHolds octets
  delivered : Delivered mid f.cid ctx octets (rohcDecompress4 decomp input out cap)

/-- **Return code 0 means that one unit was accepted.** -/
theorem rohcDecompress4_zero {decomp : Decompressor} {input out : Bytes} {cap : Nat}
    (h : (rohcDecompress4 decomp input out cap).1 = 0) :
    ∃ unit f mid ctx octets, Decoding decomp input out cap unit f mid ctx octets := by
  obtain ⟨unit, f, mid, hd, ctx, octets, htakes⟩ := decompressNested_zero h
  obtain ⟨hs, hm, -⟩ := decodes_spec hd
  exact ⟨unit, f, mid, ctx, octets, hd, hs, hm, htakes.accepts, htakes.icv, htakes.delivered.of_setCtx⟩

end Rohccxx
