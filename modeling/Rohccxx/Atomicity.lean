import Rohccxx.Compress

/-!
# What a compression leaves behind

`rohc_compress4` works on the live context and rolls nothing back, unlike its counterpart in the decompressor: whatever
the branch of the packet has written when it returns goes into the table (`afterBranch`). Every branch that makes a unit
advances the packet counter of its context (`compressAs_counted`), so a unit that then finds no room always leaves a
trace.
-/

set_option autoImplicit false

namespace Rohccxx

open Octets Proc

/-! ## What a branch does to its context -/

/-- Capturing the headers of a packet touches no counter and no gate. -/
theorem captureIpContext_control (ctx : Context) (packet : Bytes) (view : ParsedIpView) :
    (captureIpContext ctx packet view).2.toControl = ctx.toControl := by
  unfold captureIpContext captureIpv4Options
  dsimp only
  split
  · split_ifs <;> rfl
  · split_ifs <;> rfl

theorem captureRtpContext_control (ctx : Context) (rtpPacket : Bytes) :
    (captureRtpContext ctx rtpPacket).2.toControl = ctx.toControl := by
  unfold captureRtpContext
  split
  · rfl
  · split <;> rfl

/-- The context belongs to profile `p` and has counted `n` packets. -/
structure Counted (p : Profile) (n : UInt32) (ctx : Context) : Prop where
  profile : ctx.profile = p
  txCount : ctx.txCount = n

namespace Job

variable {job : Job} {p : Profile} {n : UInt32} {ctx : Context}

theorem startReplacement_counted (h : Counted p n ctx) : Counted p n (startReplacement ctx) := ⟨h.1, h.2⟩

theorem captureCommon_counted (h : Counted p n ctx) :
    Ensures job.captureCommon (fun _ => Counted p n) ctx := by
  have hc := captureIpContext_control ctx job.packet job.view
  intro a s e
  unfold captureCommon at e
  split at e
  · rename_i s' hs
    rw [hs] at hc
    cases e
    exact ⟨(congrArg Control.profile hc).trans h.1, (congrArg Control.txCount hc).trans h.2⟩
  · cases e

theorem noteBehaviorChange_counted (previous : Context) (had : Bool) (h : Counted p n ctx) :
    Counted p n (noteBehaviorChange previous had ctx) := by
  unfold noteBehaviorChange
  split
  · exact startReplacement_counted h
  · exact h

theorem updateIpv4IdBehavior_counted (had : Bool) (id : UInt16) (h : Counted p n ctx) :
    Counted p n (updateIpv4IdBehavior ctx had id) := by
  unfold updateIpv4IdBehavior
  split
  · exact h
  · exact ⟨h.1, h.2⟩

theorem updateRtpTimestampStride_counted (seq : UInt16) (ts : UInt32) (h : Counted p n ctx) :
    Counted p n (updateRtpTimestampStride ctx seq ts) := by
  unfold updateRtpTimestampStride
  split
  · exact ⟨h.1, h.2⟩
  · split
    · exact h
    · split
      · exact ⟨h.1, h.2⟩
      · exact h

theorem updateRtpIpv4IdBehavior_counted (had : Bool) (id : UInt16) (flags : UInt8) (sequential : Bool)
    (prevSeq seq : UInt16) (h : Counted p n ctx) :
    Counted p n (updateRtpIpv4IdBehavior ctx had id flags sequential prevSeq seq).2 := by
  unfold updateRtpIpv4IdBehavior
  split
  · exact ⟨h.1, h.2⟩
  · exact ⟨h.1, h.2⟩

/-- The opening of the UDP, IP-only and ESP branches. -/
theorem captureWithBehavior_counted (job : Job) (p : Profile) (ctx : Context) :
    Ensures (job.captureWithBehavior p) (fun _ => Counted p ctx.txCount) ctx := by
  unfold captureWithBehavior
  refine .bind (.get ?_)
  refine .bind (.modify ?_)
  refine .bind ((captureCommon_counted ⟨rfl, rfl⟩).mono fun _ s hs => ?_)
  exact .modify (noteBehaviorChange_counted _ _ (updateIpv4IdBehavior_counted _ _ hs))

theorem captureRtpHeader_counted (job : Job) (previous : Context) (h : Counted p n ctx) :
    Counted p n (job.captureRtpHeader previous ctx).2 := by
  unfold captureRtpHeader
  dsimp only
  generalize hu : updateRtpIpv4IdBehavior _ _ _ _ _ _ _ = u
  have hudp : Counted p n (job.captureUdpHeader ctx) := ⟨h.1, h.2⟩
  have hcu : Counted p n u.2 := hu ▸ updateRtpIpv4IdBehavior_counted _ _ _ _ _ _ hudp
  split
  · have hs := updateRtpTimestampStride_counted (u16At job.packet (job.view.headerLen + 8 + 2))
      (u32At job.packet (job.view.headerLen + 8 + 4)) (startReplacement_counted hcu)
    exact ⟨hs.1, hs.2⟩
  · have hs := updateRtpTimestampStride_counted (u16At job.packet (job.view.headerLen + 8 + 2))
      (u32At job.packet (job.view.headerLen + 8 + 4)) hcu
    exact ⟨hs.1, hs.2⟩

/-- The opening of both RTP branches. -/
theorem captureRtp_counted (job : Job) (p : Profile) (ctx : Context) :
    Ensures (job.captureRtp p) (fun _ => Counted p ctx.txCount) ctx := by
  unfold captureRtp
  refine .bind (.get ?_)
  refine .bind (.modify ?_)
  refine .bind ((captureCommon_counted ⟨rfl, rfl⟩).mono fun _ s hs => ?_)
  refine .bind (.get ?_)
  have hh := captureRtpHeader_counted job ctx hs
  have hr := captureRtpContext_control (job.captureRtpHeader ctx s).2 (job.packet.drop (job.view.headerLen + 8))
  dsimp only
  split
  · rename_i view c he
    rw [he] at hr
    exact .bind (.modify (.pure ⟨(congrArg Control.profile hr).trans hh.1, (congrArg Control.txCount hr).trans hh.2⟩))
  · exact .bind (.modify .reject)

theorem emitIn_counted (state : RohcState) (emitter : Nat → Context → Option Bytes) (h : Counted p n ctx) :
    Ensures (job.emitIn state emitter) (fun _ => Counted p n) ctx := by
  unfold emitIn
  refine .bind (.modify ?_)
  refine .bind (.get ?_)
  exact .ofOption fun _ _ => ⟨h.1, h.2⟩

/-- A complete unit is counted. -/
theorem appendPayloadRange_counted (header : Bytes) (offset len : Nat) (h : Counted p n ctx) :
    Ensures (job.appendPayloadRange header offset len) (fun _ => Counted p (n + 1)) ctx := by
  unfold appendPayloadRange
  refine .bind (.require fun _ => ?_)
  refine .bind (.require fun _ => ?_)
  refine .bind (.modify ?_)
  exact .pure ⟨h.1, by simp [finishTransmit, recordTransmittedMsn, h.2]⟩

theorem emitPt0_counted (formal : Bytes) (h : Counted p n ctx) :
    Ensures (job.emitPt0 formal) (fun _ => Counted p n) ctx := by
  unfold emitPt0
  refine .bind (.require fun _ => ?_)
  refine .bind (.modify ?_)
  exact .pure ⟨h.1, h.2⟩

theorem emitRtpUdpLiteUnit_counted (safe : Bool) (h : Counted p n ctx) :
    Ensures (job.emitRtpUdpLiteUnit safe) (fun _ => Counted p n) ctx := by
  unfold emitRtpUdpLiteUnit
  refine .bind (.get ?_)
  refine .ite (fun _ => emitIn_counted _ _ h) fun _ => ?_
  refine .ite (fun _ => emitIn_counted _ _ h) fun _ => ?_
  exact .ite (fun _ => emitIn_counted _ _ h) fun _ => emitIn_counted _ _ h

theorem emitCompactRtp_counted (before : Context) (payload : RtpPayloadView) (h : Counted p n ctx) :
    Ensures (job.emitCompactRtp before payload) (fun _ => Counted p n) ctx := by
  unfold emitCompactRtp
  refine .bind (.get ?_)
  refine .ite (fun _ => ?_) fun _ => .ite (fun _ => .ofOption fun _ _ => h) fun _ => .ofOption fun _ _ => h
  refine .bind (.ofOption fun unit _ => ?_)
  refine .ite (fun _ => .ofOption fun _ _ => h) fun _ => ?_
  exact .bind (.modify (.pure ⟨h.1, h.2⟩))

theorem emitRtpUnit_counted (before : Context) (safe : Bool) (payload : RtpPayloadView) (h : Counted p n ctx) :
    Ensures (job.emitRtpUnit before safe payload) (fun _ => Counted p n) ctx := by
  unfold emitRtpUnit
  refine .bind (.get ?_)
  refine .ite (fun _ => emitIn_counted _ _ h) fun _ => ?_
  refine .ite (fun _ => emitIn_counted _ _ h) fun _ => ?_
  refine .ite (fun _ => emitIn_counted _ _ h) fun _ => ?_
  exact .bind (.modify (emitCompactRtp_counted before _ ⟨h.1, h.2⟩))

theorem emitUnambiguousPrivateUdpFo_counted (previous : Context) (payload : Bytes) (h : Counted p n ctx) :
    Ensures (job.emitUnambiguousPrivateUdpFo previous payload) (fun _ => Counted p n) ctx := by
  unfold emitUnambiguousPrivateUdpFo
  refine .bind (.get ?_)
  refine .bind (.ofOption fun unit _ => ?_)
  refine .ite (fun _ => ?_) fun _ => .ofOption fun _ _ => h
  refine .bind (.ofOption fun _ _ => ?_)
  exact .bind (.modify (.pure ⟨h.1, h.2⟩))

theorem emitUdpUnit_counted (previous : Context) (h : Counted p n ctx) :
    Ensures (job.emitUdpUnit previous) (fun _ => Counted p n) ctx := by
  unfold emitUdpUnit
  refine .bind (.get ?_)
  refine .ite (fun _ => emitIn_counted _ _ h) fun _ => ?_
  refine .ite (fun _ => emitIn_counted _ _ h) fun _ => ?_
  refine .bind (.modify ?_)
  unfold emitCompactUdp
  refine .bind (.get ?_)
  refine .ite (fun _ => ?_) fun _ => emitUnambiguousPrivateUdpFo_counted _ _ ⟨h.1, h.2⟩
  split
  · exact emitPt0_counted _ ⟨h.1, h.2⟩
  · exact emitUnambiguousPrivateUdpFo_counted _ _ ⟨h.1, h.2⟩

theorem emitUnambiguousPrivateIpFo_counted (previous : Context) (payloadLen : Nat) (h : Counted p n ctx) :
    Ensures (job.emitUnambiguousPrivateIpFo previous payloadLen) (fun _ => Counted p n) ctx := by
  unfold emitUnambiguousPrivateIpFo
  refine .bind (.get ?_)
  refine .bind (.ofOption fun unit _ => ?_)
  refine .ite (fun _ => ?_) fun _ => .ofOption fun _ _ => h
  refine .bind (.ofOption fun _ _ => ?_)
  exact .bind (.modify (.pure ⟨h.1, h.2⟩))

theorem emitIpUnit_counted (previous : Context) (h : Counted p n ctx) :
    Ensures (job.emitIpUnit previous) (fun _ => Counted p n) ctx := by
  unfold emitIpUnit
  refine .bind (.get ?_)
  refine .ite (fun _ => emitIn_counted _ _ h) fun _ => ?_
  refine .ite (fun _ => emitIn_counted _ _ h) fun _ => ?_
  refine .bind (.modify ?_)
  unfold emitCompactIp
  refine .bind (.get ?_)
  refine .ite (fun _ => ?_) fun _ => ?_
  · split
    · exact emitPt0_counted _ ⟨h.1, h.2⟩
    · exact emitUnambiguousPrivateIpFo_counted _ _ ⟨h.1, h.2⟩
  · exact .ite (fun _ => emitUnambiguousPrivateIpFo_counted _ _ ⟨h.1, h.2⟩) fun _ => emitIn_counted _ _ ⟨h.1, h.2⟩

theorem emitEspUnit_counted (previous : Context) (h : Counted p n ctx) :
    Ensures (job.emitEspUnit previous) (fun _ => Counted p n) ctx := by
  unfold emitEspUnit
  refine .bind (.get ?_)
  refine .ite (fun _ => emitIn_counted _ _ h) fun _ => ?_
  refine .ite (fun _ => emitIn_counted _ _ h) fun _ => ?_
  refine .bind (.modify ?_)
  unfold emitCompactEsp
  refine .bind (.get ?_)
  refine .ite (fun _ => ?_) fun _ => emitIn_counted _ _ ⟨h.1, h.2⟩
  split
  · exact emitPt0_counted _ ⟨h.1, h.2⟩
  · exact emitIn_counted _ _ ⟨h.1, h.2⟩

theorem emitUdpLiteUnit_counted (h : Counted p n ctx) :
    Ensures job.emitUdpLiteUnit (fun _ => Counted p n) ctx := by
  unfold emitUdpLiteUnit
  refine .bind (.get ?_)
  refine .ite (fun _ => emitIn_counted _ _ h) fun _ => ?_
  exact .ite (fun _ => emitIn_counted _ _ h) fun _ => emitIn_counted _ _ h

/-- **A branch that makes a unit counts it**, and its context is of the branch's profile. -/
theorem compressAs_counted (job : Job) (before ctx : Context) {profile : Profile} (hp : profile ≠ .llaRtp) :
    Ensures (job.compressAs before profile) (fun _ => Counted profile (ctx.txCount + 1)) ctx := by
  cases profile with
  | llaRtp => exact absurd rfl hp
  | uncompressed =>
    refine .bind (.require fun _ => ?_)
    refine .bind (.modify ?_)
    refine .bind (.get ?_)
    exact .ofOption fun _ _ => ⟨rfl, rfl⟩
  | rtp =>
    refine .bind ((captureRtp_counted job _ ctx).mono fun r s hs => ?_)
    refine .bind ((emitRtpUnit_counted before _ _ hs).mono fun header s' hs' => ?_)
    exact appendPayloadRange_counted header _ _ hs'
  | rtpUdpLite =>
    refine .bind ((captureRtp_counted job _ ctx).mono fun r s hs => ?_)
    refine .bind ((emitRtpUdpLiteUnit_counted _ hs).mono fun header s' hs' => ?_)
    exact appendPayloadRange_counted header _ _ hs'
  | udp =>
    refine .bind (.get ?_)
    refine .bind ((captureWithBehavior_counted job _ ctx).mono fun _ s hs => ?_)
    refine .bind (.modify ?_)
    have hc : Counted .udp ctx.txCount (captureUdp job s) := ⟨hs.1, hs.2⟩
    refine .bind ((emitUdpUnit_counted ctx hc).mono fun header s' hs' => ?_)
    exact appendPayloadRange_counted header _ _ hs'
  | ip =>
    refine .bind (.get ?_)
    refine .bind ((captureWithBehavior_counted job _ ctx).mono fun _ s hs => ?_)
    refine .bind (.modify ?_)
    have hc : Counted .ip ctx.txCount (countMsn s) := ⟨hs.1, hs.2⟩
    refine .bind ((emitIpUnit_counted ctx hc).mono fun header s' hs' => ?_)
    exact appendPayloadRange_counted header _ _ hs'
  | esp =>
    refine .bind (.get ?_)
    refine .bind ((captureWithBehavior_counted job _ ctx).mono fun _ s hs => ?_)
    refine .bind (.require fun _ => ?_)
    refine .bind (.modify ?_)
    have hc : Counted .esp ctx.txCount (captureEsp job s) := ⟨hs.1, hs.2⟩
    refine .bind ((emitEspUnit_counted ctx hc).mono fun header s' hs' => ?_)
    exact appendPayloadRange_counted header _ _ hs'
  | udpLite =>
    refine .bind (.modify ?_)
    refine .bind ((captureCommon_counted ⟨rfl, rfl⟩).mono fun _ s hs => ?_)
    refine .bind (.modify ?_)
    have hc : Counted .udpLite ctx.txCount (captureUdpHeader job s) := ⟨hs.1, hs.2⟩
    refine .bind ((emitUdpLiteUnit_counted hc).mono fun header s' hs' => ?_)
    exact appendPayloadRange_counted header _ _ hs'

end Job

/-! ## A whole call -/

theorem classifyTransport_ne_llaRtp (pkt : Bytes) (transport : Nat) (protocol : UInt8) :
    classifyTransport pkt transport protocol ≠ .llaRtp := by
  unfold classifyTransport
  split_ifs <;> simp

/-- No packet is classified as link-layer assisted. -/
theorem chooseProfile_ne_llaRtp (packet : Bytes) (view : ParsedIpView) : chooseProfile packet view ≠ .llaRtp := by
  have hc : classifyPacket packet ≠ .llaRtp := by
    unfold classifyPacket
    split
    · split
      · simp
      · exact classifyTransport_ne_llaRtp _ _ _
    · split
      · exact classifyTransport_ne_llaRtp _ _ _
      · simp
  unfold chooseProfile
  dsimp only
  split_ifs <;> first | exact hc | simp

/-- The branch a call takes on a packet with an IP header, and the context it leaves. -/
def runBranch (comp : Compressor) (packet : Bytes) (view : ParsedIpView) (before : Context) : Outcome Bytes × Context :=
  let profile := chooseProfile packet view
  let job : Job := ⟨comp.mode, comp.currentCid, packet, view, segmentBufferMax⟩
  job.compressAs before profile (prepareContext comp before profile)

/-- The context a branch starts from has the old counter, or the CID is changing its profile. -/
theorem prepareContext_txCount (comp : Compressor) (before : Context) (profile : Profile) :
    (prepareContext comp before profile).txCount = before.txCount ∨ before.profile ≠ profile := by
  have hreq : ∀ ctx, (requireConfirmationBeforePt0Alias ctx).txCount = ctx.txCount := by
    intro ctx
    unfold requireConfirmationBeforePt0Alias
    dsimp only
    split <;> rfl
  have hrep : ∀ ctx : Context, ctx.txCount = before.txCount → ctx.profile = before.profile →
      (replaceProfile ctx before comp.mode comp.currentCid comp.largeCidSpace profile).txCount = before.txCount ∨
        before.profile ≠ profile := by
    intro ctx htx hp
    unfold replaceProfile
    split
    · rename_i h
      exact Or.inr (hp ▸ h.2.1)
    · exact Or.inl htx
  unfold prepareContext
  dsimp only
  split
  · rw [hreq]
    exact hrep _ rfl rfl
  · exact hrep _ rfl rfl

/-- A branch that makes a unit changes its context. -/
theorem runBranch_ne {comp : Compressor} {packet unit : Bytes} {view : ParsedIpView} {before ctx : Context}
    (h : runBranch comp packet view before = (.ok unit, ctx)) : ctx ≠ before := by
  obtain ⟨hp, htx⟩ := Job.compressAs_counted _ before _ (chooseProfile_ne_llaRtp packet view) unit ctx h
  rintro rfl
  rcases prepareContext_txCount comp ctx (chooseProfile packet view) with e | e
  · rw [e] at htx
    have : ctx.txCount ≠ ctx.txCount + 1 := by
      intro he
      have := congrArg UInt32.toBitVec he
      simp at this
    exact this htx
  · exact e hp

/-- Contexts and the queue of segments are those of `comp`. -/
def Unchanged (comp after : Compressor) : Prop :=
  after.contexts = comp.contexts ∧ after.pendingSegment = comp.pendingSegment ∧
    after.pendingSegmentPos = comp.pendingSegmentPos ∧ after.nextSegmentSequence = comp.nextSegmentSequence

/-- The unit with its ICV goes out: whole, or in segments. -/
def HasRoom (comp : Compressor) (packet unit : Bytes) (cap : Nat) : Prop :=
  ∃ full, withIcv comp packet unit = some full ∧
    (full.length ≤ cap ∨ comp.mrru ≠ 0 ∧ full.length ≤ comp.mrru ∧ full.length ≤ segmentBufferMax)

/-- The table is the old one exactly if the context written is. -/
theorem ContextTable.set_eq_self_iff {tbl : ContextTable} {cid : Nat} {before ctx : Context}
    (h : tbl.get cid = some before) : tbl.set cid ctx = tbl ↔ ctx = before := by
  constructor
  · intro e
    have hs : (tbl.set cid ctx).get cid = some ctx := get_set_self (by rw [h]; rfl)
    rw [e, h] at hs
    exact (Option.some.inj hs).symm
  · rintro rfl
    exact set_get h

/-- `write_next_segment` at the start of a unit too long for the buffer always writes. -/
theorem writeNextSegment_isSome {comp : Compressor} {cap : Nat} (hcap : ¬cap ≤ segmentHeaderLen)
    (hpos : comp.pendingSegmentPos < comp.pendingSegment.length) : (writeNextSegment comp cap).1.isSome := by
  have hlen : 2 + ((comp.pendingSegment.drop comp.pendingSegmentPos).take
      (min (comp.pendingSegment.length - comp.pendingSegmentPos) (cap - segmentHeaderLen))).length ≤ cap := by
    simp only [List.length_take, List.length_drop, segmentHeaderLen] at hcap ⊢
    omega
  unfold writeNextSegment
  rw [if_neg (by omega)]
  simp only [writeSegmentPacket]
  rw [if_neg (by omega)]
  dsimp only
  split <;> rfl

section Call

variable {comp : Compressor} {packet : Bytes} {cap : Nat} {view : ParsedIpView} {before ctx : Context}

/-- The handle after a branch. -/
def afterBranch (comp : Compressor) (ctx : Context) : Compressor :=
  { comp with contexts := comp.contexts.set comp.currentCid ctx }

theorem compressInner_of_ok (hv : parseIpView packet = some view) (hb : comp.contexts.get comp.currentCid = some before)
    {unit : Bytes} (hr : runBranch comp packet view before = (.ok unit, ctx)) :
    compressInner comp packet = (some unit, afterBranch comp ctx) := by
  unfold runBranch at hr
  unfold compressInner
  simp only [hv, hb]
  rw [hr]
  rfl

theorem compressInner_of_fail (hv : parseIpView packet = some view)
    (hb : comp.contexts.get comp.currentCid = some before) {out : Outcome Bytes}
    (hr : runBranch comp packet view before = (out, ctx)) (ho : out.isOk = false) :
    compressInner comp packet = (none, afterBranch comp ctx) := by
  unfold runBranch at hr
  unfold compressInner
  simp only [hv, hb]
  rw [hr]
  cases out with
  | ok a => cases ho
  | reject => rfl
  | fault => rfl

/-- A unit that has room makes the call succeed. -/
theorem rohcCompress4_isSome (hcap : ¬cap ≤ segmentHeaderLen) (hv : parseIpView packet = some view)
    (hb : comp.contexts.get comp.currentCid = some before) {unit : Bytes}
    (hr : runBranch comp packet view before = (.ok unit, ctx)) (hroom : HasRoom comp packet unit cap) :
    (rohcCompress4 comp packet cap).1.isSome := by
  obtain ⟨full, hicv, hroom⟩ := hroom
  have hicv' : withIcv (afterBranch comp ctx) packet unit = some full := hicv
  unfold rohcCompress4
  rw [if_neg hcap, compressInner_of_ok hv hb hr]
  simp only [hicv']
  by_cases hfit : full.length ≤ cap
  · rw [if_pos hfit]
    rfl
  · rw [if_neg hfit]
    obtain ⟨h0, hm, hmax⟩ := hroom.resolve_left hfit
    rw [if_neg (by simp only [afterBranch]; omega)]
    refine writeNextSegment_isSome hcap ?_
    simp only [segmentHeaderLen] at hcap ⊢
    omega

/-- A unit without room makes the call fail, with the context of the branch in place. -/
theorem rohcCompress4_of_no_room (hcap : ¬cap ≤ segmentHeaderLen) (hv : parseIpView packet = some view)
    (hb : comp.contexts.get comp.currentCid = some before) {unit : Bytes}
    (hr : runBranch comp packet view before = (.ok unit, ctx)) (hroom : ¬HasRoom comp packet unit cap) :
    rohcCompress4 comp packet cap = (none, afterBranch comp ctx) := by
  unfold rohcCompress4
  rw [if_neg hcap, compressInner_of_ok hv hb hr]
  dsimp only
  have hicv : withIcv (afterBranch comp ctx) packet unit = withIcv comp packet unit := rfl
  rw [hicv]
  cases hfull : withIcv comp packet unit with
  | none => rfl
  | some full =>
    have hno : ¬(full.length ≤ cap ∨ comp.mrru ≠ 0 ∧ full.length ≤ comp.mrru ∧ full.length ≤ segmentBufferMax) :=
      fun h => hroom ⟨full, hfull, h⟩
    dsimp only
    rw [if_neg (fun h => hno (Or.inl h)), if_pos (by simp only [afterBranch]; omega)]

theorem rohcCompress4_of_fail (hcap : ¬cap ≤ segmentHeaderLen) (hv : parseIpView packet = some view)
    (hb : comp.contexts.get comp.currentCid = some before) {out : Outcome Bytes}
    (hr : runBranch comp packet view before = (out, ctx)) (ho : out.isOk = false) :
    rohcCompress4 comp packet cap = (none, afterBranch comp ctx) := by
  unfold rohcCompress4
  rw [if_neg hcap, compressInner_of_fail hv hb hr ho]

end Call

/-- A fresh handle with CIDs 0 to 15. -/
def freshCompressor : Compressor := { contexts := .init 15, largeCidSpace := false }

/-- An IPv4/UDP packet of 29 octets, without UDP checksum. -/
def shortUdpPacket : Bytes :=
  [69, 0, 0, 29, 0, 1, 64, 0, 64, 17, 38, 205, 10, 0, 0, 1, 10, 0, 0, 2, 3, 232, 7, 208, 0, 9, 0, 0, 7]

end Rohccxx
