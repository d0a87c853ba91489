import Rohccxx.Calls

/-!
# Calls that cannot be told apart

A call of `rohc_decompress4` does not look at the feedback slot, at octets collected in a reassembly that is over, or at
the labels of a context that was never used: it writes those labels before it decodes. States that differ in nothing
else (`Live.Twin`) go the same course (`rohcDecompress4_twin`). The blocks that look at the context as the call found it
pass over one without a state; in a context in use the two frames differ in the pending feedback only.
-/

set_option autoImplicit false

namespace Rohccxx

open Octets Reader

/-! ## Twin states -/

/-- The same context, or one that was never used, up to its labels. -/
structure Context.Twin (a b : Context) : Prop where
  keeps : KeepsContext a b
  used : a.rohcState ≠ .noContext → b = a

namespace Context.Twin

variable {a b c : Context}

theorem refl (a : Context) : a.Twin a := ⟨.refl a, fun _ => rfl⟩

theorem state (h : a.Twin b) : b.rohcState = a.rohcState := by rw [h.keeps.fields]

theorem profile (h : a.Twin b) : b.profile = a.profile := by rw [h.keeps.fields]

theorem trans (hab : a.Twin b) (hbc : b.Twin c) : a.Twin c :=
  ⟨hab.keeps.trans hbc.keeps, fun hs => (hbc.used (by rw [hab.state]; exact hs)).trans (hab.used hs)⟩

/-- The labels of a call hide the difference. -/
theorem label (h : a.Twin b) (decomp : Decompressor) (cid : Nat) : labelContext decomp cid b = labelContext decomp cid a := by
  by_cases hs : a.rohcState = .noContext
  · obtain ⟨hfields, hmode⟩ := h.keeps
    generalize b.cid = cid' at hfields
    generalize b.largeCid = large at hfields
    generalize hm : b.mode = mode at hfields hmode
    subst hfields
    unfold labelContext
    by_cases hfresh : a.txCount = 0 ∧ a.rohcState = .noContext
    · rw [if_pos hfresh, if_pos hfresh]
    · rw [if_neg hfresh, if_neg hfresh, hmode hfresh]
  · rw [h.used hs]

theorem livePt0 (h : a.Twin b) (space : Bool) (cid : Nat) (addCid : Bool) :
    livePt0ContextSupported b space cid addCid = livePt0ContextSupported a space cid addCid := by
  by_cases hs : a.rohcState = .noContext
  · have hb : b.rohcState = .noContext := h.state.trans hs
    unfold livePt0ContextSupported
    rw [if_pos (.inl (by rw [hb]; decide)), if_pos (.inl (by rw [hs]; decide))]
  · rw [h.used hs]

end Context.Twin

/-- States of a call that differ in the feedback slot, in a reassembly that is over and in labels at most. -/
structure Live.Twin (a b : Live) : Prop where
  out : b.out = a.out
  outLen : b.outLen = a.outLen
  mode : b.handle.mode = a.handle.mode
  settings : SameSettings a.handle b.handle
  maxCid : b.handle.contexts.maxCid = a.handle.contexts.maxCid
  contexts : ∀ {cid x y}, a.handle.contexts.get cid = some x → b.handle.contexts.get cid = some y → x.Twin y
  active : b.handle.reassemblyActive = a.handle.reassemblyActive
  collected : b.handle.collected = a.handle.collected
  expected : b.handle.expectedSequence = a.handle.expectedSequence

namespace Live.Twin

variable {a b : Live}

theorem refl (a : Live) : a.Twin a :=
  ⟨rfl, rfl, rfl, .refl _, rfl, fun {_ x y} hx hy => by cases hx.symm.trans hy; exact .refl x, rfl, rfl, rfl⟩

/-- A context is there on both sides or on neither. -/
theorem get_cases (h : a.Twin b) (cid : Nat) :
    (a.handle.contexts.get cid = none ∧ b.handle.contexts.get cid = none) ∨
      ∃ x y, a.handle.contexts.get cid = some x ∧ b.handle.contexts.get cid = some y ∧ x.Twin y := by
  have hiff : (b.handle.contexts.get cid).isSome ↔ (a.handle.contexts.get cid).isSome := by
    rw [ContextTable.get_isSome, ContextTable.get_isSome, h.maxCid]
  cases hx : a.handle.contexts.get cid with
  | none =>
    refine .inl ⟨rfl, ?_⟩
    rw [hx] at hiff
    exact Option.not_isSome_iff_eq_none.mp fun hy => absurd (hiff.mp hy) (by simp)
  | some x =>
    rw [hx] at hiff
    obtain ⟨y, hy⟩ := Option.isSome_iff_exists.mp (hiff.mpr rfl)
    exact .inr ⟨x, y, rfl, hy, h.contexts hx hy⟩

theorem setCtx (h : a.Twin b) (cid : Nat) {x y : Context} (hxy : x.Twin y) : (a.setCtx cid x).Twin (b.setCtx cid y) where
  out := h.out
  outLen := h.outLen
  mode := h.mode
  settings := ⟨h.settings.1, h.settings.2, h.settings.3, h.settings.4⟩
  maxCid := h.maxCid
  contexts {cid' u v} hu hv := by
    rcases h.get_cases cid' with ⟨ha, hb⟩ | ⟨p, q, hp, hq, hpq⟩
    · by_cases hc : cid = cid'
      · subst hc
        have hle : cid ≤ a.handle.contexts.maxCid := by
          rw [← ContextTable.maxCid_set _ cid x, ← ContextTable.get_isSome]
          exact Option.isSome_of_eq_some hu
        rw [← ContextTable.get_isSome, ha] at hle
        cases hle
      · rw [Live.setCtx, ContextTable.get_set_of_ne hc, ha] at hu
        cases hu
    · by_cases hc : cid = cid'
      · subst hc
        rw [Live.setCtx, ContextTable.get_set_self (by rw [hp]; rfl)] at hu
        rw [Live.setCtx, ContextTable.get_set_self (by rw [hq]; rfl)] at hv
        cases hu
        cases hv
        exact hxy
      · rw [Live.setCtx, ContextTable.get_set_of_ne hc, hp] at hu
        rw [Live.setCtx, ContextTable.get_set_of_ne hc, hq] at hv
        cases hu
        cases hv
        exact hpq
  active := h.active
  collected := h.collected
  expected := h.expected

theorem setMode (h : a.Twin b) (mode : Mode) : (a.setMode mode).Twin (b.setMode mode) :=
  ⟨h.out, h.outLen, rfl, ⟨h.settings.1, h.settings.2, h.settings.3, h.settings.4⟩, h.maxCid, h.contexts, h.active,
    h.collected, h.expected⟩

/-- The feedback slot does not count. -/
theorem feedback (h : a.Twin b) (last last' : Feedback) (has has' : Bool) :
    ({ a with handle := { a.handle with lastFeedback := last, hasFeedback := has } } : Live).Twin
      { b with handle := { b.handle with lastFeedback := last', hasFeedback := has' } } :=
  ⟨h.out, h.outLen, h.mode, ⟨h.settings.1, h.settings.2, h.settings.3, h.settings.4⟩, h.maxCid, h.contexts, h.active,
    h.collected, h.expected⟩

theorem clearFeedback (h : a.Twin b) : a.clearFeedback.Twin b.clearFeedback := h.feedback _ _ _ _

/-- The reassembly set anew; what is kept of one that is over does not count. -/
theorem reassembly (h : a.Twin b) {active : Bool} {octets octets' : Bytes} {expected expected' : UInt16}
    (hsame : active = true → octets' = octets ∧ expected' = expected) :
    ({ a with handle := { a.handle with
        reassemblyActive := active, reassembly := octets, expectedSegmentSequence := expected } } : Live).Twin
      { b with handle := { b.handle with
        reassemblyActive := active, reassembly := octets', expectedSegmentSequence := expected' } } where
  out := h.out
  outLen := h.outLen
  mode := h.mode
  settings := ⟨h.settings.1, h.settings.2, h.settings.3, h.settings.4⟩
  maxCid := h.maxCid
  contexts := h.contexts
  active := rfl
  collected := by
    cases active with
    | false => rfl
    | true => exact (hsame rfl).1
  expected := by
    cases active with
    | false => rfl
    | true => exact (hsame rfl).2

theorem write (h : a.Twin b) (octets : Bytes) :
    ({ a with out := overwrite a.out octets } : Live).Twin { b with out := overwrite b.out octets } :=
  ⟨congrArg (overwrite · octets) h.out, h.outLen, h.mode, h.settings, h.maxCid, h.contexts, h.active, h.collected, h.expected⟩

theorem setLen (h : a.Twin b) (len : Nat) : ({ a with outLen := len } : Live).Twin { b with outLen := len } :=
  ⟨h.out, rfl, h.mode, h.settings, h.maxCid, h.contexts, h.active, h.collected, h.expected⟩

end Live.Twin

/-- Two calls with the same return code that leave twin states. -/
def SameCourse (r s : Return) : Prop := s.1 = r.1 ∧ r.2.Twin s.2

/-- Two blocks that do not apply, or that answer alike. -/
inductive SameAnswers : Option Return → Option Return → Prop where
  | none : SameAnswers none none
  | some {r s : Return} (h : SameCourse r s) : SameAnswers (some r) (some s)

theorem SameAnswers.getD {r s : Option Return} {x y : Return} (h : SameAnswers r s) (hxy : SameCourse x y) :
    SameCourse (r.getD x) (s.getD y) := by
  cases h with
  | none => exact hxy
  | some h => exact h

theorem SameAnswers.ite_iff {p q : Prop} [Decidable p] [Decidable q] {r r' s s' : Option Return} (hpq : p ↔ q)
    (h : p → SameAnswers r s) (h' : ¬p → SameAnswers r' s') :
    SameAnswers (if p then r else r') (if q then s else s') := by
  by_cases hp : p
  · rw [if_pos hp, if_pos (hpq.mp hp)]
    exact h hp
  · rw [if_neg hp, if_neg fun hq => hp (hpq.mpr hq)]
    exact h' hp

theorem SameAnswers.ite {p : Prop} [Decidable p] {r r' s s' : Option Return} (h : p → SameAnswers r s)
    (h' : ¬p → SameAnswers r' s') : SameAnswers (if p then r else r') (if p then s else s') := .ite_iff .rfl h h'

theorem Live.Twin.failWithFeedback {a b : Live} (h : a.Twin b) (cid : Nat) :
    SameCourse (a.failWithFeedback cid) (b.failWithFeedback cid) := ⟨rfl, h.feedback _ _ _ _⟩

theorem SameCourse.guardLength {r s : Return} (h : SameCourse r s) : SameCourse (guardLength r) (guardLength s) := by
  obtain ⟨hcode, htwin⟩ := h
  unfold Rohccxx.guardLength
  rw [hcode]
  split
  · exact ⟨hcode, htwin⟩
  · exact ⟨rfl, htwin.setLen 0⟩

/-! ## What every block ends in -/

namespace Frame

/-- The frame of the same unit in a twin state. -/
abbrev seen (f : Frame) (before : Context) (pending : Option Feedback) : Frame :=
  { f with before := before, pending := pending }

variable {f : Frame} {before : Context} {pending : Option Feedback} {live live' : Live}

theorem packet_seen (f : Frame) (before : Context) (pending : Option Feedback) :
    (f.seen before pending).packet = f.packet := rfl

theorem staged_seen (f : Frame) (before : Context) (pending : Option Feedback) :
    (f.seen before pending).staged = f.staged := rfl

/-- Acknowledging a refresh writes the feedback slot at most. -/
theorem acknowledgeRefresh_feedback (f : Frame) (live : Live) : ∃ last has, f.acknowledgeRefresh live =
    { live with handle := { live.handle with lastFeedback := last, hasFeedback := has } } := by
  unfold acknowledgeRefresh
  split
  · exact ⟨_, _, rfl⟩
  · split
    · split
      · exact ⟨_, _, rfl⟩
      · exact ⟨_, _, rfl⟩
    · exact ⟨_, _, rfl⟩

theorem acknowledgeRefresh_twin (h : live.Twin live') (g : Frame) :
    (f.acknowledgeRefresh live).Twin (g.acknowledgeRefresh live') := by
  obtain ⟨_, _, e⟩ := f.acknowledgeRefresh_feedback live
  obtain ⟨_, _, e'⟩ := g.acknowledgeRefresh_feedback live'
  rw [e, e']
  exact h.feedback _ _ _ _

variable (hbefore : f.before.Twin before)

include hbefore

theorem finishDecoding_twin (staged : Bool) (octets : Bytes) {r s : Return} (h : SameCourse r s) :
    SameCourse (f.finishDecoding staged octets r) ((f.seen before pending).finishDecoding staged octets s) := by
  obtain ⟨hcode, htwin⟩ := h
  unfold finishDecoding
  rw [hcode]
  split
  · exact ⟨rfl, (htwin.setCtx f.cid hbefore).setMode f.modeBefore⟩
  · refine ⟨rfl, acknowledgeRefresh_twin ?_ _⟩
    cases staged with
    | true => exact (htwin.write octets).setLen octets.length
    | false => exact htwin.setLen octets.length

theorem fail_twin (h : live.Twin live') : SameCourse (f.fail live) ((f.seen before pending).fail live') :=
  finishDecoding_twin hbefore _ _ (h.failWithFeedback _)

omit hbefore in
theorem verifyIcv_twin (h : live.Twin live') (octets : Bytes) :
    SameCourse (f.verifyIcv live octets) ((f.seen before pending).verifyIcv live' octets) := by
  unfold verifyIcv
  cases f.integrity with
  | none => exact ⟨rfl, h⟩
  | some integrity =>
    dsimp only
    split
    · exact ⟨rfl, h⟩
    · split
      · exact h.failWithFeedback _
      · split
        · exact ⟨rfl, h⟩
        · exact h.failWithFeedback _

omit hbefore in
theorem writeReconstruction_twin (h : live.Twin live') (staged : Bool) (octets : Bytes) :
    (writeReconstruction staged live octets).Twin (writeReconstruction staged live' octets) := by
  cases staged with
  | true => exact h
  | false => exact h.write octets

theorem deliver_twin (h : live.Twin live') (octets : Bytes) :
    SameCourse (f.deliver live octets) ((f.seen before pending).deliver live' octets) :=
  finishDecoding_twin hbefore _ _ (verifyIcv_twin (writeReconstruction_twin h _ octets) octets)

theorem commit_twin (h : live.Twin live') (ctx : Context) (octets : Bytes) :
    SameCourse (f.commit live ctx octets) ((f.seen before pending).commit live' ctx octets) := by
  unfold commit
  split
  · exact fail_twin hbefore h
  · exact deliver_twin hbefore ((h.setCtx f.cid (.refl ctx)).setMode ctx.mode) octets

theorem commitOnly_twin (h : live.Twin live') (r : Option Reading) :
    SameCourse (f.commitOnly live r) ((f.seen before pending).commitOnly live' r) := by
  cases r with
  | none => exact fail_twin hbefore h
  | some r => exact commit_twin hbefore h _ _

theorem failDecode_twin (h : live.Twin live') :
    SameCourse (f.failDecode live) ((f.seen before pending).failDecode live') :=
  (h.setCtx f.cid hbefore).failWithFeedback _

theorem finishUnit_twin (h : live.Twin live') (d : Decoded) :
    SameCourse (f.finishUnit live d) ((f.seen before pending).finishUnit live' d) := by
  have hset := h.setCtx f.cid (.refl d.ctx)
  unfold finishUnit
  dsimp only
  rw [f.staged_seen before pending]
  split
  · exact failDecode_twin hbefore hset
  · split
    · exact failDecode_twin hbefore hset
    · rename_i octets _
      have hwritten := writeReconstruction_twin hset (f.staged || d.crc.isSome) octets
      split
      · exact failDecode_twin hbefore hwritten
      · exact finishDecoding_twin hbefore _ _ (verifyIcv_twin (hwritten.setMode _) octets)

/-! ## The blocks that do not ask for a context in use -/

theorem uncompressedIr_twin (h : live.Twin live') :
    SameAnswers (f.uncompressedIr live) ((f.seen before pending).uncompressedIr live') := by
  unfold uncompressedIr
  refine .ite (fun _ => .ite (fun _ => .some (fail_twin hbefore h)) fun _ => ?_) fun _ => .none
  exact .ite (fun _ => .some (fail_twin hbefore h)) fun _ => .some (commit_twin hbefore h _ _)

omit hbefore in
theorem feedbackUnit_twin (h : live.Twin live') (type : RohcPacketType) :
    SameAnswers (f.feedbackUnit type live) ((f.seen before pending).feedbackUnit type live') := by
  unfold feedbackUnit
  rw [f.packet_seen before pending]
  refine .ite (fun _ => .some ?_) fun _ => .none
  split
  · exact ⟨rfl, h⟩
  · exact h.failWithFeedback _

omit hbefore in
theorem segmentUnit_twin (h : live.Twin live') (type : RohcPacketType) {again again' : Live → Bytes → Return}
    (hagain : ∀ {a b : Live} (input : Bytes), a.Twin b → SameCourse (again a input) (again' b input)) :
    SameAnswers (f.segmentUnit type again live) ((f.seen before pending).segmentUnit type again' live') := by
  have hdrop : ∀ expected expected' : UInt16, SameCourse
      (f.failSegment { live with handle := { live.handle with expectedSegmentSequence := expected } })
      ((f.seen before pending).failSegment
        { live' with handle := { live'.handle with expectedSegmentSequence := expected' } }) := fun _ _ =>
    (h.reassembly (fun hactive => by cases hactive)).failWithFeedback _
  have hfail : SameCourse (f.failSegment live) ((f.seen before pending).failSegment live') := hdrop _ _
  unfold segmentUnit
  rw [f.packet_seen before pending]
  refine .ite (fun _ => .none) fun _ => ?_
  cases readSegmentHeader f.packet with
  | none => exact .some hfail
  | some header =>
    obtain ⟨final, sequence⟩ := header
    dsimp only
    refine .ite_iff (by rw [h.settings.mrru]) (fun _ => .some hfail) fun _ => ?_
    refine .ite_iff (by rw [h.active]) (fun _ => .some (h.failWithFeedback _)) fun _ => ?_
    refine .ite_iff (by rw [h.settings.mrru, h.collected, h.expected]) (fun _ => .some (hdrop _ _)) fun _ => ?_
    refine .ite (fun _ => .some ?_) fun _ => .some ?_
    · exact ⟨rfl, h.reassembly fun _ => ⟨by rw [h.collected], by rw [h.expected]⟩⟩
    · rw [h.collected]
      exact hagain _ (h.reassembly fun _ => ⟨rfl, rfl⟩)

theorem privateFoContextReady_twin (profile : Profile) :
    (f.seen before pending).privateFoContextReady profile = f.privateFoContextReady profile := by
  unfold privateFoContextReady
  rw [hbefore.state, hbefore.profile]

theorem irContext_twin (profile : Profile) : (f.seen before pending).irContext profile = f.irContext profile := by
  by_cases hs : f.before.rohcState = .noContext
  · have hs' : before.rohcState = .noContext := hbefore.state.trans hs
    unfold irContext
    rw [if_neg fun h => h.1 hs', if_neg fun h => h.1 hs', if_neg fun h => h.1 hs, if_neg fun h => h.1 hs]
  · rw [hbefore.used hs]
    rfl

theorem irGates_twin (profile : Profile) (ctx : Context) :
    (f.seen before pending).irGates profile ctx = f.irGates profile ctx := by
  unfold irGates
  rw [hbefore.state, hbefore.profile]

/-- What a unit is decoded to does not depend on labels it will get. -/
theorem decodeUnit_twin (type : RohcPacketType) (preferPrivate : Bool) :
    (f.seen before pending).decodeUnit type preferPrivate = f.decodeUnit type preferPrivate := by
  have hready : ∀ profile, (f.seen before pending).privateFoContextReady profile = f.privateFoContextReady profile :=
    privateFoContextReady_twin hbefore
  have hprivate : ∀ profile decode after, (f.seen before pending).decodePrivateUnit profile decode after =
      f.decodePrivateUnit profile decode after := fun profile decode after => by
    unfold decodePrivateUnit
    rw [hready]
    rfl
  cases type with
  | ir =>
    unfold decodeUnit decodeIrUnit
    simp only [irContext_twin hbefore, irGates_twin hbefore]
  | irDyn =>
    unfold decodeUnit decodeIrDynUnit
    rw [hbefore.profile]
  | foUdp => exact hprivate _ _ _
  | foIp => exact hprivate _ _ _
  | foEsp => exact hprivate _ _ _
  | foUdpLite => exact hprivate _ _ _
  | foRtp =>
    unfold decodeUnit decodePrivateRtpUnit
    rw [hready, hready]
    rfl
  | _ => rfl

theorem decodeInPlace_twin (h : live.Twin live') (type : RohcPacketType) (preferPrivate : Bool) :
    SameCourse (f.decodeInPlace type preferPrivate live)
      ((f.seen before pending).decodeInPlace type preferPrivate live') := by
  unfold decodeInPlace
  rw [decodeUnit_twin hbefore]
  cases f.decodeUnit type preferPrivate with
  | none => exact failDecode_twin hbefore h
  | some d => exact finishUnit_twin hbefore h d

omit hbefore

/-! ## A context that was never used -/

/-- No block but the last ones and the profile-0 IR takes a unit for it. -/
theorem decode_of_noContext (hs : f.before.rohcState = .noContext) (again : Live → Bytes → Return) (live : Live) :
    f.decode again live = (f.uncompressedIr live).getD ((f.feedbackUnit f.correctedType live).getD
      ((f.segmentUnit f.correctedType again live).getD (f.decodeInPlace f.correctedType false live))) := by
  have hlive : f.livePt0 = false := by
    unfold livePt0 livePt0ContextSupported
    rw [if_pos (.inl (by rw [hs]; decide))]
  have halias : f.espPt0AliasContext = false := by simp [espPt0AliasContext, hs]
  have hover : f.privateFoOverlap = false := by simp [privateFoOverlap, hlive]
  have hlast : f.resolveOverlap f.correctedType = f.correctedType := by simp [resolveOverlap, hover]
  have hcand : f.rtpPt0Crc3Candidate f.correctedType = false := by simp [rtpPt0Crc3Candidate, hlive]
  have h₁ : f.normalPacket live = none := by simp [normalPacket, hs]
  have h₃ : f.rtpPt0Crc7 live = none := by simp [rtpPt0Crc7, hlive]
  have h₄ : f.espPt0Crc7 live = none := by simp [espPt0Crc7, hlive]
  have h₅ : f.pt1SeqId live = none := by simp [pt1SeqId, hlive]
  have h₆ : f.udpPt0Crc3 live = none := by simp [udpPt0Crc3, hlive]
  have h₇ : f.espPt0Crc3 live = none := by simp [espPt0Crc3, halias]
  have h₈ : f.ipPt0Crc3 live = none := by simp [ipPt0Crc3, hlive]
  have h₉ : f.rtpPt0Crc3 f.correctedType live = none := by simp [rtpPt0Crc3, hcand]
  have h₁₀ : f.conflictingMeanings live = none := by simp [conflictingMeanings, hover]
  unfold decode
  simp only [hlast, hcand, h₁, h₃, h₄, h₅, h₆, h₇, h₈, h₉, h₁₀, Option.getD_none, Bool.false_and]

/-! ## A context in use -/

section Used

variable (f) (pending) (h : live.Twin live')

include h

theorem normalPacket_used : SameAnswers (f.normalPacket live) ((f.seen f.before pending).normalPacket live') := by
  unfold normalPacket
  refine .ite (fun _ => ?_) fun _ => .none
  exact .ite (fun _ => .some (fail_twin (.refl _) h)) fun _ =>
    .some (deliver_twin (.refl _) (h.setCtx f.cid (.refl _)) f.packet)

theorem rtpPt0Crc7_used : SameAnswers (f.rtpPt0Crc7 live) ((f.seen f.before pending).rtpPt0Crc7 live') := by
  unfold rtpPt0Crc7
  exact .ite (fun _ => .some (commitOnly_twin (.refl _) h _)) fun _ => .none

theorem espPt0Crc7_used : SameAnswers (f.espPt0Crc7 live) ((f.seen f.before pending).espPt0Crc7 live') := by
  unfold espPt0Crc7
  exact .ite (fun _ => .some (commitOnly_twin (.refl _) h _)) fun _ => .none

theorem pt1SeqId_used : SameAnswers (f.pt1SeqId live) ((f.seen f.before pending).pt1SeqId live') := by
  unfold pt1SeqId
  exact .ite (fun _ => .some (commitOnly_twin (.refl _) h _)) fun _ => .none

theorem udpPt0Crc3_used : SameAnswers (f.udpPt0Crc3 live) ((f.seen f.before pending).udpPt0Crc3 live') := by
  have hfail : SameAnswers (some (f.fail live)) (some ((f.seen f.before pending).fail live')) :=
    .some (fail_twin (.refl _) h)
  have hcommit : ∀ r : Reading, SameAnswers (some (f.commitReading live r))
      (some ((f.seen f.before pending).commitReading live' r)) := fun r => .some (commit_twin (.refl _) h _ _)
  have hreading : (f.seen f.before pending).udpPt0Reading = f.udpPt0Reading := rfl
  have hprivate : (f.seen f.before pending).udpPrivateReading = f.udpPrivateReading := rfl
  unfold udpPt0Crc3
  refine .ite (fun _ => ?_) fun _ => .none
  rw [hreading, hprivate]
  cases f.udpPt0Reading with
  | none =>
    cases f.udpPrivateReading with
    | none => exact hfail
    | some p => exact .none
  | some r =>
    cases f.udpPrivateReading with
    | none => exact .ite (fun _ => hfail) fun _ => hcommit r
    | some p =>
      have hchecked : (f.seen f.before pending).checkedPrivateUdp p.1 p.2 = f.checkedPrivateUdp p.1 p.2 := rfl
      refine .ite (fun _ => hfail) fun _ => ?_
      rw [hchecked]
      cases f.checkedPrivateUdp p.1 p.2 with
      | none =>
        cases udpChecksumValid r.header [] r.payload with
        | false => exact hfail
        | true => exact hcommit r
      | some q =>
        cases udpChecksumValid r.header [] r.payload with
        | false => exact hcommit q
        | true => exact hfail

theorem espPt0Crc3_used : SameAnswers (f.espPt0Crc3 live) ((f.seen f.before pending).espPt0Crc3 live') := by
  have hfail : SameAnswers (some (f.fail live)) (some ((f.seen f.before pending).fail live')) :=
    .some (fail_twin (.refl _) h)
  have hreading : ∀ first, (f.seen f.before pending).espPt0Reading first = f.espPt0Reading first := fun _ => rfl
  unfold espPt0Crc3
  refine .ite (fun _ => ?_) fun _ => .none
  dsimp only
  refine .ite (fun _ => hfail) fun _ => .ite (fun _ => hfail) fun _ => ?_
  rw [f.packet_seen f.before pending, hreading]
  cases f.espPt0Reading (u8At f.packet 0) with
  | none => exact .ite (fun _ => .none) fun _ => hfail
  | some r => exact .some (commit_twin (.refl _) h _ _)

theorem ipPt0Crc3_used : SameAnswers (f.ipPt0Crc3 live) ((f.seen f.before pending).ipPt0Crc3 live') := by
  have hfail : SameAnswers (some (f.fail live)) (some ((f.seen f.before pending).fail live')) :=
    .some (fail_twin (.refl _) h)
  have hreading : (f.seen f.before pending).ipPt0Reading = f.ipPt0Reading := rfl
  unfold ipPt0Crc3
  refine .ite (fun _ => ?_) fun _ => .none
  dsimp only
  rw [hreading]
  cases f.ipPt0Reading with
  | none => exact .ite (fun _ => .none) fun _ => hfail
  | some r => exact .ite (fun _ => hfail) fun _ => .some (commit_twin (.refl _) h _ _)

theorem rtpPt0Crc3_used (type : RohcPacketType) :
    SameAnswers (f.rtpPt0Crc3 type live) ((f.seen f.before pending).rtpPt0Crc3 type live') := by
  have hfail : SameAnswers (some (f.fail live)) (some ((f.seen f.before pending).fail live')) :=
    .some (fail_twin (.refl _) h)
  have hreading : (f.seen f.before pending).rtpPt0Reading = f.rtpPt0Reading := rfl
  have hprivate : (f.seen f.before pending).rtpPrivateValid = f.rtpPrivateValid := rfl
  unfold rtpPt0Crc3
  refine .ite (fun _ => ?_) fun _ => .none
  rw [hreading, hprivate]
  cases f.rtpPt0Reading with
  | none =>
    cases f.rtpPrivateValid with
    | true => exact .none
    | false => exact hfail
  | some r =>
    cases f.rtpPrivateValid with
    | true => exact hfail
    | false => exact .some (commit_twin (.refl _) h _ _)

theorem conflictingMeanings_used :
    SameAnswers (f.conflictingMeanings live) ((f.seen f.before pending).conflictingMeanings live') := by
  have hformal : (f.seen f.before pending).tryFormalPt0 = f.tryFormalPt0 := rfl
  have hprivate : (f.seen f.before pending).tryPrivateFo = f.tryPrivateFo := rfl
  unfold conflictingMeanings
  refine .ite (fun _ => ?_) fun _ => .none
  rw [hformal, hprivate]
  cases f.tryFormalPt0 with
  | none => exact .none
  | some formal =>
    cases f.tryPrivateFo with
    | none => exact .none
    | some privateFo =>
      refine .ite (fun _ => .none) fun _ => .some ?_
      exact ((h.setCtx f.cid (.refl f.before)).setMode f.modeBefore).failWithFeedback f.cid

end Used

/-- **All blocks**, on twin states. -/
theorem decode_twin (hbefore : f.before.Twin before) (h : live.Twin live') {again again' : Live → Bytes → Return}
    (hagain : ∀ {a b : Live} (input : Bytes), a.Twin b → SameCourse (again a input) (again' b input)) :
    SameCourse (f.decode again live) ((f.seen before pending).decode again' live') := by
  by_cases hs : f.before.rohcState = .noContext
  · have hs' : (f.seen before pending).before.rohcState = .noContext := hbefore.state.trans hs
    rw [decode_of_noContext hs, decode_of_noContext hs']
    refine (uncompressedIr_twin hbefore h).getD ?_
    refine (feedbackUnit_twin h _).getD ?_
    refine (segmentUnit_twin h _ hagain).getD ?_
    exact decodeInPlace_twin hbefore h _ _
  · rw [hbefore.used hs]
    unfold decode
    refine (f.normalPacket_used pending h).getD ?_
    refine (uncompressedIr_twin (.refl _) h).getD ?_
    refine (f.rtpPt0Crc7_used pending h).getD ?_
    refine (f.espPt0Crc7_used pending h).getD ?_
    refine (f.pt1SeqId_used pending h).getD ?_
    refine (f.udpPt0Crc3_used pending h).getD ?_
    refine (f.espPt0Crc3_used pending h).getD ?_
    refine (f.ipPt0Crc3_used pending h).getD ?_
    refine (f.rtpPt0Crc3_used pending h _).getD ?_
    refine (f.conflictingMeanings_used pending h).getD ?_
    refine (feedbackUnit_twin h _).getD ?_
    refine (segmentUnit_twin h _ hagain).getD ?_
    exact decodeInPlace_twin (.refl _) h _ _

end Frame

/-! ## The call -/

section Call

variable {a b : Live} {again again' : Live → Bytes → Return}
  (hagain : ∀ {a b : Live} (input : Bytes), a.Twin b → SameCourse (again a input) (again' b input))

theorem selectCid_twin (h : a.Twin b) (parsed : ParsedRohcPacket) :
    selectCid b.handle parsed = selectCid a.handle parsed := by
  have hlive : ((b.handle.contexts.get 0).any fun ctx => livePt0ContextSupported ctx false 0 false) =
      (a.handle.contexts.get 0).any fun ctx => livePt0ContextSupported ctx false 0 false := by
    rcases h.get_cases 0 with ⟨ha, hb⟩ | ⟨x, y, hx, hy, hxy⟩
    · rw [ha, hb]
    · rw [hx, hy]
      exact hxy.livePt0 _ _ _
  have hestablished : ((b.handle.contexts.get 0).any fun ctx => ctx.rohcState = .dynamicEstablished) =
      (a.handle.contexts.get 0).any fun ctx => ctx.rohcState = .dynamicEstablished := by
    rcases h.get_cases 0 with ⟨ha, hb⟩ | ⟨x, y, hx, hy, hxy⟩
    · rw [ha, hb]
    · rw [hx, hy, Option.any_some, Option.any_some, hxy.state]
  have hunusable : ∀ cid, ((b.handle.contexts.get cid).all fun ctx => ctx.rohcState = .noContext) =
      (a.handle.contexts.get cid).all fun ctx => ctx.rohcState = .noContext := fun cid => by
    rcases h.get_cases cid with ⟨ha, hb⟩ | ⟨x, y, hx, hy, hxy⟩
    · rw [ha, hb]
    · rw [hx, hy, Option.all_some, Option.all_some, hxy.state]
  unfold selectCid
  simp only [h.settings.largeCidSpace, hlive, hestablished, hunusable]

include hagain

theorem decompressParsed_twin (h : a.Twin b) (pending pending' : Option Feedback) (parsed : ParsedRohcPacket) (icv : Bytes) :
    SameCourse (decompressParsed again a pending parsed icv) (decompressParsed again' b pending' parsed icv) := by
  have hselect := selectCid_twin h parsed
  rcases hsel : selectCid a.handle parsed with ⟨parsedCid, cid⟩
  rw [hsel] at hselect
  rcases h.get_cases cid with ⟨ha, hb⟩ | ⟨x, y, hx, hy, hxy⟩
  · rw [decompressParsed_of_none _ _ (by rw [hsel]; exact ha), decompressParsed_of_none _ _ (by rw [hselect]; exact hb),
      hsel, hselect]
    exact h.failWithFeedback _
  · rw [decompressParsed_eq _ _ hsel hx, decompressParsed_eq _ _ hselect hy]
    have hlabel : labelContext b.handle cid y = labelContext a.handle cid x := by
      rw [hxy.label]
      unfold labelContext
      rw [h.settings.largeCidSpace, h.mode]
    have hframe : openFrame b pending' { parsed with cid := parsedCid } cid y icv =
        (openFrame a pending { parsed with cid := parsedCid } cid x icv).seen y pending' := by
      unfold openFrame
      rw [hlabel, h.settings.largeCidSpace, h.settings.integrity, h.mode, h.outLen]
    rw [hlabel, hframe]
    exact Frame.decode_twin hxy (h.setCtx _ (.refl _)) hagain

theorem decompressUnit_twin (h : a.Twin b) (pending pending' : Option Feedback) (unit : Bytes) :
    SameCourse (decompressUnit again a pending unit) (decompressUnit again' b pending' unit) := by
  have hparsed := decompressParsed_twin hagain h pending pending'
  unfold decompressUnit
  dsimp only
  rw [h.settings.largeCidSpace, h.settings.integrity]
  split
  · exact h.failWithFeedback 0
  · split
    · exact hparsed _ _
    · split
      · exact hparsed _ _
      · split
        · exact h.failWithFeedback _
        · split
          · exact h.failWithFeedback 0
          · exact hparsed _ _

theorem decompressCall_twin (h : a.Twin b) (input : Bytes) :
    SameCourse (decompressCall again a input) (decompressCall again' b input) := by
  unfold decompressCall
  apply SameCourse.guardLength
  split
  · exact ⟨rfl, h⟩
  · dsimp only
    split
    · exact h.clearFeedback.failWithFeedback 0
    · exact ⟨rfl, h.clearFeedback⟩
    · exact decompressUnit_twin hagain h.clearFeedback _ _ _

end Call

/-- Nested calls, by induction on their depth. -/
theorem decompressNested_twin {a b : Live} (fuel : Nat) (h : a.Twin b) (input : Bytes) :
    SameCourse (decompressNested fuel a input) (decompressNested fuel b input) := by
  induction fuel generalizing a b input with
  | zero => exact ⟨rfl, h⟩
  | succ fuel ih => exact decompressCall_twin (fun input h => ih h input) h input

/-- **Twin states go the same course.** -/
theorem rohcDecompress4_twin {a b : Live} (h : a.Twin b) (input : Bytes) :
    SameCourse (rohcDecompress4 a.handle input a.out a.outLen) (rohcDecompress4 b.handle input b.out b.outLen) := by
  have hdepth : ∀ live : Live, ∀ fuel, live.handle.reassembly.length + input.length < fuel →
      rohcDecompress4 live.handle input live.out live.outLen = decompressNested fuel live input := fun live fuel hfuel =>
    decompressNested_stable _ _ live input (Nat.lt_succ_self _) hfuel
  rw [hdepth a (a.handle.reassembly.length + b.handle.reassembly.length + input.length + 1) (by omega),
    hdepth b (a.handle.reassembly.length + b.handle.reassembly.length + input.length + 1) (by omega)]
  exact decompressNested_twin _ h input

end Rohccxx
