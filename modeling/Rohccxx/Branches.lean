import Rohccxx.Sender

/-!
# What a branch does to the control data of its context

A branch works on the context of its CID in place. Up to the end it leaves the packet counter, the acknowledgements and
the CID alone, and it never lifts the hold of a pending replacement (`Worked`); this holds wherever it stops. A branch that
succeeds sent one of four kinds of unit (`Emitted`) and closed with `finishTransmit`.
-/

set_option autoImplicit false

namespace Rohccxx

open Octets Proc

/-! ## Control data -/

/-- What a branch leaves alone until its unit is complete. -/
def Control.settled (c : Control) : UInt32 × UInt8 × Bool × Bool × Bool × Nat × Bool × UInt8 :=
  (c.txCount, c.nackCount, c.staticAcked, c.dynamicAcked, c.profileHasBeenUsed, c.cid, c.largeCid, c.reorderRatio)

/-- `b` is `a` at some point of a branch. -/
structure Worked (profile : Profile) (mode : Mode) (a b : Control) : Prop where
  profile : b.profile = profile
  mode : b.mode = mode
  settled : b.settled = a.settled
  pending : a.profileReplacementPending = true → b.profileReplacementPending = true
  /-- The first unit is an IR: it establishes the static part only. -/
  first : a.txCount = 0 → a.rohcState ≠ .dynamicEstablished → b.rohcState ≠ .dynamicEstablished

/-- `b` is `a` before the branch has chosen its unit. -/
structure Captured (profile : Profile) (mode : Mode) (a b : Control) : Prop extends Worked profile mode a b where
  state : b.rohcState = a.rohcState
  count : b.formalPt0SinceConfirmation = a.formalPt0SinceConfirmation

namespace Worked

variable {profile : Profile} {mode : Mode} {a b : Control}

theorem txCount (h : Worked profile mode a b) : b.txCount = a.txCount := congrArg Prod.fst h.settled

theorem staticAcked (h : Worked profile mode a b) : b.staticAcked = a.staticAcked := congrArg (·.2.2.1) h.settled

theorem dynamicAcked (h : Worked profile mode a b) : b.dynamicAcked = a.dynamicAcked := congrArg (·.2.2.2.1) h.settled

theorem used (h : Worked profile mode a b) : b.profileHasBeenUsed = a.profileHasBeenUsed :=
  congrArg (·.2.2.2.2.1) h.settled

theorem cid (h : Worked profile mode a b) : b.cid = a.cid := congrArg (·.2.2.2.2.2.1) h.settled

theorem largeCid (h : Worked profile mode a b) : b.largeCid = a.largeCid := congrArg (·.2.2.2.2.2.2.1) h.settled

theorem reorderRatio (h : Worked profile mode a b) : b.reorderRatio = a.reorderRatio :=
  congrArg (·.2.2.2.2.2.2.2) h.settled

end Worked

/-! ## Capturing -/

namespace Job

variable {job : Job} {p : Profile} {m : Mode} {a : Control} {ctx : Context}

theorem startReplacement_captured (h : Captured p m a ctx.toControl) :
    Captured p m a (startReplacement ctx).toControl :=
  ⟨⟨h.profile, h.mode, h.settled, fun _ => rfl, h.first⟩, h.state, h.count⟩

/-- Capturing the IP header touches no control data. -/
theorem captureCommon_control (job : Job) (ctx : Context) : (job.captureCommon ctx).2.toControl = ctx.toControl := by
  have hc := captureIpContext_control ctx job.packet job.view
  unfold captureCommon
  split
  · rename_i ctx' he
    rw [he] at hc
    exact hc
  · rename_i ctx' he
    rw [he] at hc
    exact hc

theorem captureCommon_captured : Always (fun ctx => Captured p m a ctx.toControl) job.captureCommon := by
  intro ctx h
  rw [captureCommon_control]
  exact h

theorem updateIpv4IdBehavior_captured (had : Bool) (id : UInt16) (h : Captured p m a ctx.toControl) :
    Captured p m a (updateIpv4IdBehavior ctx had id).toControl := by
  unfold updateIpv4IdBehavior
  split
  · exact h
  · exact h

theorem noteBehaviorChange_captured (previous : Context) (had : Bool) (h : Captured p m a ctx.toControl) :
    Captured p m a (noteBehaviorChange previous had ctx).toControl := by
  unfold noteBehaviorChange
  split
  · exact startReplacement_captured h
  · exact h

/-- The context with the branch's profile and mode. -/
theorem enter_captured (p : Profile) (m : Mode) (ctx : Context) :
    Captured p m ctx.toControl ({ ctx with profile := p, mode := m } : Context).toControl :=
  ⟨⟨rfl, rfl, rfl, id, fun _ => id⟩, rfl, rfl⟩

theorem captureWithBehavior_captured (job : Job) (p : Profile) (ctx : Context) :
    Captured p job.mode ctx.toControl (job.captureWithBehavior p ctx).2.toControl := by
  have hcommon : Always (fun s : Context => Captured p job.mode ctx.toControl s.toControl) job.captureCommon :=
    captureCommon_captured
  have h := hcommon.bind fun _ => .modify fun s hs =>
    noteBehaviorChange_captured ctx (ctx.ipVersion = 4 ∧ ctx.txCount > 0)
      (updateIpv4IdBehavior_captured (ctx.ipVersion = 4 ∧ ctx.txCount > 0) ctx.ipv4Id hs)
  exact h _ (enter_captured p job.mode ctx)

theorem updateRtpIpv4IdBehavior_captured (had : Bool) (id : UInt16) (flags : UInt8) (sequential : Bool)
    (prevSeq seq : UInt16) (h : Captured p m a ctx.toControl) :
    Captured p m a (updateRtpIpv4IdBehavior ctx had id flags sequential prevSeq seq).2.toControl := by
  unfold updateRtpIpv4IdBehavior
  split
  · exact h
  · exact h

theorem updateRtpTimestampStride_captured (seq : UInt16) (ts : UInt32) (h : Captured p m a ctx.toControl) :
    Captured p m a (updateRtpTimestampStride ctx seq ts).toControl := by
  unfold updateRtpTimestampStride
  split
  · exact h
  · split
    · exact h
    · split
      · exact h
      · exact h

/-- The MSN is the branch's own. -/
theorem withMsn_captured (msn : UInt16) (h : Captured p m a ctx.toControl) :
    Captured p m a ({ ctx with msn := msn } : Context).toControl :=
  ⟨⟨h.profile, h.mode, h.settled, h.pending, h.first⟩, h.state, h.count⟩

theorem captureRtpHeader_captured (previous : Context) (h : Captured p m a ctx.toControl) :
    Captured p m a (job.captureRtpHeader previous ctx).2.toControl := by
  unfold captureRtpHeader
  dsimp only
  generalize hu : updateRtpIpv4IdBehavior _ _ _ _ _ _ _ = u
  have hudp : Captured p m a (job.captureUdpHeader ctx).toControl := h
  have hcu : Captured p m a u.2.toControl := hu ▸ updateRtpIpv4IdBehavior_captured _ _ _ _ _ _ hudp
  split
  · exact withMsn_captured _ (updateRtpTimestampStride_captured (u16At job.packet (job.view.headerLen + 8 + 2))
      (u32At job.packet (job.view.headerLen + 8 + 4)) (startReplacement_captured hcu))
  · exact withMsn_captured _ (updateRtpTimestampStride_captured (u16At job.packet (job.view.headerLen + 8 + 2))
      (u32At job.packet (job.view.headerLen + 8 + 4)) hcu)

theorem captureRtp_captured (job : Job) (p : Profile) (ctx : Context) :
    Captured p job.mode ctx.toControl (job.captureRtp p ctx).2.toControl := by
  have hcommon : Always (fun s : Context => Captured p job.mode ctx.toControl s.toControl) job.captureCommon :=
    captureCommon_captured
  refine hcommon.bind (fun _ => ?_) _ (enter_captured p job.mode ctx)
  intro s hs
  rw [bind_of_ok (get_apply s)]
  dsimp only
  have hr : Captured p job.mode ctx.toControl
      (captureRtpContext (job.captureRtpHeader ctx s).2 (job.packet.drop (job.view.headerLen + 8))).2.toControl := by
    rw [captureRtpContext_control]
    exact captureRtpHeader_captured ctx hs
  rcases he : captureRtpContext (job.captureRtpHeader ctx s).2 (job.packet.drop (job.view.headerLen + 8)) with
    ⟨_ | view, c⟩
  · rw [he] at hr
    exact hr
  · rw [he] at hr
    exact hr

/-! ## Emitting -/

end Job

/-- What emitting a unit cannot spoil: it moves the state of the context and counts PT-0 units. The dynamic state is
entered only behind the test for an IR. -/
structure EmissionKeeps (P : Context → Prop) : Prop where
  static : ∀ s, P s → P (s.inState .staticEstablished)
  dynamic : ∀ s t, P s → shouldEmitIr s = false → P t → P (t.inState .dynamicEstablished)
  count : ∀ s, P s → P s.countPt0

namespace Job

variable {job : Job} {p : Profile} {m : Mode} {a : Control} {ctx : Context} {P : Context → Prop}

theorem emitIn_always {state : RohcState} (h : ∀ s, P s → P (s.inState state)) (emitter : Nat → Context → Option Bytes) :
    Always P (job.emitIn state emitter) := by
  unfold emitIn
  exact .bind (.modify h) fun _ => .bind .get fun _ => .ofOption

/-- Every choice of a unit asks for an IR first. -/
theorem choice_always (h : EmissionKeeps P) {ir : Nat → Context → Option Bytes} {other : Context → Proc Context Bytes}
    (hother : (∀ t, P t → P (t.inState .dynamicEstablished)) → ∀ s, Always P (other s)) :
    Always P (Proc.get >>= fun ctx => if shouldEmitIr ctx then job.emitIn .staticEstablished ir else other ctx) := by
  refine .get_bind fun s hs => ?_
  by_cases hir : shouldEmitIr s = true
  · rw [if_pos hir]
    exact emitIn_always h.static ir s hs
  · rw [if_neg hir]
    exact hother (fun t ht => h.dynamic s t hs (by simpa using hir) ht) s s hs

theorem emitPt0_always (h : EmissionKeeps P) (formal : Bytes) : Always P (job.emitPt0 formal) := by
  unfold emitPt0
  exact .bind .require fun _ => .bind (.modify h.count) fun _ => .pure

theorem emitCompactRtp_always (h : EmissionKeeps P) (before : Context) (view : RtpPayloadView) :
    Always P (job.emitCompactRtp before view) := by
  unfold emitCompactRtp
  refine .bind .get fun _ => .ite ?_ (.ite .ofOption .ofOption)
  exact .bind .ofOption fun _ => .ite .ofOption (.bind (.modify h.count) fun _ => .pure)

theorem emitRtpUnit_always (h : EmissionKeeps P) (before : Context) (safe : Bool) (view : RtpPayloadView) :
    Always P (job.emitRtpUnit before safe view) := by
  refine choice_always h fun hd s => .ite (emitIn_always hd _) (.ite (emitIn_always hd _) ?_)
  exact .bind (.modify hd) fun _ => emitCompactRtp_always h _ _

theorem emitRtpUdpLiteUnit_always (h : EmissionKeeps P) (safe : Bool) : Always P (job.emitRtpUdpLiteUnit safe) :=
  choice_always h fun hd _ => .ite (emitIn_always hd _) (.ite (emitIn_always hd _) (emitIn_always hd _))

theorem emitUnambiguousPrivateUdpFo_always (h : EmissionKeeps P) (previous : Context) (payload : Bytes) :
    Always P (job.emitUnambiguousPrivateUdpFo previous payload) := by
  unfold emitUnambiguousPrivateUdpFo
  refine .bind .get fun _ => .bind .ofOption fun _ => .ite ?_ .ofOption
  exact .bind .ofOption fun _ => .bind (.modify h.static) fun _ => .pure

theorem emitUdpUnit_always (h : EmissionKeeps P) (previous : Context) : Always P (job.emitUdpUnit previous) := by
  refine choice_always h fun hd s => .ite (emitIn_always hd _) ?_
  refine .bind (.modify hd) fun _ => ?_
  unfold emitCompactUdp
  refine .bind .get fun _ => .ite ?_ (emitUnambiguousPrivateUdpFo_always h _ _)
  split
  · exact emitPt0_always h _
  · exact emitUnambiguousPrivateUdpFo_always h _ _

theorem emitUnambiguousPrivateIpFo_always (h : EmissionKeeps P) (previous : Context) (payloadLen : Nat) :
    Always P (job.emitUnambiguousPrivateIpFo previous payloadLen) := by
  unfold emitUnambiguousPrivateIpFo
  refine .bind .get fun _ => .bind .ofOption fun _ => .ite ?_ .ofOption
  exact .bind .ofOption fun _ => .bind (.modify h.static) fun _ => .pure

theorem emitIpUnit_always (h : EmissionKeeps P) (previous : Context) : Always P (job.emitIpUnit previous) := by
  refine choice_always h fun hd s => .ite (emitIn_always hd _) ?_
  refine .bind (.modify hd) fun _ => ?_
  unfold emitCompactIp
  refine .bind .get fun _ => .ite ?_ (.ite (emitUnambiguousPrivateIpFo_always h _ _) (emitIn_always hd _))
  split
  · exact emitPt0_always h _
  · exact emitUnambiguousPrivateIpFo_always h _ _

theorem emitEspUnit_always (h : EmissionKeeps P) (previous : Context) : Always P (job.emitEspUnit previous) := by
  refine choice_always h fun hd s => .ite (emitIn_always hd _) ?_
  refine .bind (.modify hd) fun _ => ?_
  unfold emitCompactEsp
  refine .bind .get fun _ => .ite ?_ (emitIn_always hd _)
  split
  · exact emitPt0_always h _
  · exact emitIn_always hd _

theorem emitUdpLiteUnit_always (h : EmissionKeeps P) : Always P job.emitUdpLiteUnit :=
  choice_always h fun hd _ => .ite (emitIn_always hd _) (emitIn_always hd _)

/-! ## Failures -/

theorem appendPayloadRange_fails {Q : Context → Prop} (h : ∀ s, P s → Q s) (header : Bytes) (offset len : Nat) :
    Fails P Q (job.appendPayloadRange header offset len) := by
  unfold appendPayloadRange
  exact .after .require h fun _ => .after .require h fun _ => .modify_pure

/-- Behind the test for an IR, something has been sent. -/
theorem worked_emission (p : Profile) (m : Mode) (a : Control) :
    EmissionKeeps fun ctx => Worked p m a ctx.toControl where
  static s h := ⟨h.profile, h.mode, h.settled, h.pending, fun _ _ => nofun⟩
  dynamic s t h hir ht := by
    refine ⟨ht.profile, ht.mode, ht.settled, ht.pending, fun h0 => ?_⟩
    have htx : s.txCount = 0 := h.txCount.trans h0
    simp [shouldEmitIr, htx] at hir
  count s h := ⟨h.profile, h.mode, h.settled, h.pending, h.first⟩

/-- A branch that fails is somewhere on its way. -/
theorem compressAs_fail (before ctx : Context) {profile : Profile} (hl : profile ≠ .llaRtp) (hu : profile ≠ .uncompressed)
    (h : (job.compressAs before profile ctx).1.isOk = false) :
    Worked profile job.mode ctx.toControl (job.compressAs before profile ctx).2.toControl := by
  have hkeeps := worked_emission profile job.mode ctx.toControl
  have hcap : ∀ s : Context, Captured profile job.mode ctx.toControl s.toControl →
      Worked profile job.mode ctx.toControl s.toControl := fun s hs => hs.toWorked
  have happend : ∀ header offset len, Fails (fun s : Context => Worked profile job.mode ctx.toControl s.toControl)
      (fun s => Worked profile job.mode ctx.toControl s.toControl) (job.appendPayloadRange header offset len) :=
    appendPayloadRange_fails fun _ hs => hs
  have hbehavior : ∀ s, s = ctx → Captured profile job.mode ctx.toControl
      (job.captureWithBehavior profile s).2.toControl := by
    rintro s rfl
    exact captureWithBehavior_captured job profile s
  have hrtp : ∀ s, s = ctx → Captured profile job.mode ctx.toControl (job.captureRtp profile s).2.toControl := by
    rintro s rfl
    exact captureRtp_captured job profile s
  refine (?_ : Fails (· = ctx) (fun s => Worked profile job.mode ctx.toControl s.toControl) _) ctx rfl h
  cases profile with
  | llaRtp => exact absurd rfl hl
  | uncompressed => exact absurd rfl hu
  | udp =>
    refine .get_bind fun _ => .bind hbehavior hcap fun _ => ?_
    refine .modify_bind (R := fun s => Worked .udp job.mode ctx.toControl s.toControl) ?_ ?_
    · intro s hs
      exact (withMsn_captured (s.txCount.toUInt16 + 1) hs).toWorked
    · exact .after (emitUdpUnit_always hkeeps _) (fun _ => id) fun _ => happend _ _ _
  | ip =>
    refine .get_bind fun _ => .bind hbehavior hcap fun _ => ?_
    refine .modify_bind (R := fun s => Worked .ip job.mode ctx.toControl s.toControl) ?_ ?_
    · intro s hs
      exact (withMsn_captured (s.txCount.toUInt16 + 1) hs).toWorked
    · exact .after (emitIpUnit_always hkeeps _) (fun _ => id) fun _ => happend _ _ _
  | esp =>
    refine .get_bind fun _ => .bind hbehavior hcap fun _ => .after .require hcap fun _ => ?_
    refine .modify_bind (R := fun s => Worked .esp job.mode ctx.toControl s.toControl) ?_ ?_
    · intro s hs
      exact (withMsn_captured (u32At job.packet (job.view.headerLen + 4)).toUInt16 hs).toWorked
    · exact .after (emitEspUnit_always hkeeps _) (fun _ => id) fun _ => happend _ _ _
  | rtp =>
    refine .bind (R := fun s => Worked .rtp job.mode ctx.toControl s.toControl) ?_ (fun _ => id) fun _ => ?_
    · intro s hs
      exact (hrtp s hs).toWorked
    · exact .after (emitRtpUnit_always hkeeps _ _ _) (fun _ => id) fun _ => happend _ _ _
  | rtpUdpLite =>
    refine .bind (R := fun s => Worked .rtpUdpLite job.mode ctx.toControl s.toControl) ?_ (fun _ => id) fun _ => ?_
    · intro s hs
      exact (hrtp s hs).toWorked
    · exact .after (emitRtpUdpLiteUnit_always hkeeps _) (fun _ => id) fun _ => happend _ _ _
  | udpLite =>
    refine .modify_bind (R := fun s => Captured .udpLite job.mode ctx.toControl s.toControl) ?_ ?_
    · rintro s rfl
      exact enter_captured .udpLite job.mode s
    · refine .after captureCommon_captured hcap fun _ => ?_
      refine .modify_bind (R := fun s => Worked .udpLite job.mode ctx.toControl s.toControl) (fun s hs => hcap s hs) ?_
      exact .after (emitUdpLiteUnit_always hkeeps) (fun _ => id) fun _ => happend _ _ _

/-! ## Successes -/

theorem capturedIp_captured (job : Job) (p : Profile) (previous : Context) :
    Captured p job.mode previous.toControl (job.capturedIp p previous).toControl := by
  unfold capturedIp
  rw [captureIpContext_control]
  exact enter_captured p job.mode previous

theorem capturedBehavior_captured (job : Job) (p : Profile) (previous : Context) :
    Captured p job.mode previous.toControl (job.capturedBehavior p previous).toControl :=
  noteBehaviorChange_captured previous _ (updateIpv4IdBehavior_captured _ _ (capturedIp_captured job p previous))

theorem capturedRtp_captured (job : Job) (p : Profile) (previous : Context) :
    Captured p job.mode previous.toControl (job.capturedRtp p previous).2.toControl := by
  unfold capturedRtp
  rw [captureRtpContext_control]
  exact captureRtpHeader_captured previous (capturedIp_captured job p previous)

theorem captured_captured (job : Job) (previous : Context) {profile : Profile} (hl : profile ≠ .llaRtp)
    (hu : profile ≠ .uncompressed) :
    Captured profile job.mode previous.toControl (job.captured previous profile).toControl := by
  cases profile with
  | llaRtp => exact absurd rfl hl
  | uncompressed => exact absurd rfl hu
  | udp => exact withMsn_captured _ (capturedBehavior_captured job .udp previous)
  | ip => exact withMsn_captured _ (capturedBehavior_captured job .ip previous)
  | esp => exact withMsn_captured _ (capturedBehavior_captured job .esp previous)
  | rtp => exact capturedRtp_captured job .rtp previous
  | rtpUdpLite => exact capturedRtp_captured job .rtpUdpLite previous
  | udpLite => exact capturedIp_captured job .udpLite previous

end Job

/-- The unit of a branch, with the captured context and the one it leaves to `finishTransmit`. -/
inductive Emitted (ctx : Context) : Bytes → Context → Prop where
  | ir {header : Bytes} (state : RohcState) (front : irFront ctx 0xFD ctx.profile.octet <+: header) :
    Emitted ctx header (ctx.inState state)
  | irDyn {header : Bytes} (later : shouldEmitIr ctx = false) (lite : profileUsesFormalPt0 ctx.profile = false)
    (front : irFront ctx 0xF8 ctx.profile.octet <+: header) : Emitted ctx header (ctx.inState .dynamicEstablished)
  | pt0 {header : Bytes} (compact : Compact ctx) : Emitted ctx header (ctx.inState .dynamicEstablished).countPt0
  | fo {header : Bytes} (compact : Compact ctx) : Emitted ctx header (ctx.inState .dynamicEstablished)

theorem Emitted.profile {c mid : Context} {header : Bytes} (h : Emitted c header mid) : mid.profile = c.profile := by
  cases h with
  | ir => rfl
  | irDyn => rfl
  | pt0 => rfl
  | fo => rfl

theorem irSealed_front (front body : Bytes) : front <+: irSealed front body := by
  unfold irSealed
  rw [List.append_assoc]
  exact List.prefix_append _ _

theorem Refreshed.front {profile : Profile} {ctx after : Context} {header : Bytes} (hp : ctx.profile = profile)
    (h : Refreshed profile ctx header after) : irFront ctx 0xFD ctx.profile.octet <+: header := by
  subst hp
  rw [h.header]
  exact irSealed_front _ _

theorem Refreshed.emitted {profile : Profile} {ctx after : Context} {header : Bytes} (hp : ctx.profile = profile)
    (h : Refreshed profile ctx header after) : Emitted ctx header after := by
  obtain ⟨state, rfl⟩ := h.after
  exact .ir state (h.front hp)

namespace Job

variable {job : Job}

/-- **A branch that succeeds** captured the packet, sent one unit and closed. -/
theorem compressAs_ok (before previous : Context) {profile : Profile} (hl : profile ≠ .llaRtp)
    (hu : profile ≠ .uncompressed) {unit : Bytes} {ctx : Context}
    (h : job.compressAs before profile previous = (.ok unit, ctx)) :
    ∃ header mid, Emitted (job.captured previous profile) header mid ∧ header <+: unit ∧ ctx = finishTransmit mid := by
  have hp := (captured_captured job previous hl hu).profile
  cases profile with
  | llaRtp => exact absurd rfl hl
  | uncompressed => exact absurd rfl hu
  | udp =>
    obtain ⟨header, state, -, hsend, -, rfl, -, rfl⟩ := compressUdp_ensures previous unit ctx h
    refine ⟨header, state, ?_, List.prefix_append _ _, rfl⟩
    cases hsend with
    | refresh hr => exact hr.emitted hp
    | pt0 compact => exact .pt0 compact
    | privateFo compact => exact .fo compact
  | ip =>
    obtain ⟨header, state, -, hsend, -, rfl, -, rfl⟩ := compressIp_ensures previous unit ctx h
    refine ⟨header, state, ?_, List.prefix_append _ _, rfl⟩
    cases hsend with
    | refresh hr => exact hr.emitted hp
    | pt0 compact => exact .pt0 compact
    | privateFo compact => exact .fo compact
  | esp =>
    obtain ⟨header, state, -, hsend, -, rfl, -, rfl⟩ := compressEsp_ensures previous unit ctx h
    refine ⟨header, state, ?_, List.prefix_append _ _, rfl⟩
    cases hsend with
    | refresh hr => exact hr.emitted hp
    | pt0 compact => exact .pt0 compact
  | rtp =>
    obtain ⟨header, state, view, -, -, hsend, rfl, -, rfl⟩ := compressRtp_ensures before previous unit ctx h
    refine ⟨header, state, ?_, List.prefix_append _ _, rfl⟩
    cases hsend with
    | refresh hr => exact hr.emitted hp
    | pt0 compact => exact .pt0 compact
    | privateFo compact => exact .fo compact
  | rtpUdpLite =>
    obtain ⟨header, state, view, -, -, hsend, rfl, -, rfl⟩ := compressRtpUdpLite_ensures previous unit ctx h
    refine ⟨header, state, ?_, List.prefix_append _ _, rfl⟩
    cases hsend with
    | ir state sends =>
      refine .ir state ?_
      rw [hp]
      exact (irSealed_front _ _).trans (List.prefix_append _ _)
    | irDyn sends later =>
      refine .irDyn later (by rw [hp]; rfl) ?_
      rw [hp]
      exact irSealed_front _ _
    | privateFo compact => exact .fo compact
  | udpLite =>
    obtain ⟨header, state, -, hsend, -, rfl, -, rfl⟩ := compressUdpLite_ensures previous unit ctx h
    refine ⟨header, state, ?_, List.prefix_append _ _, rfl⟩
    cases hsend with
    | ir first sends =>
      refine .ir _ ?_
      rw [hp]
      exact (irSealed_front _ _).trans (List.prefix_append _ _)
    | irDyn sends later =>
      refine .irDyn later (by rw [hp]; rfl) ?_
      rw [hp]
      exact irSealed_front _ _
    | privateFo compact => exact .fo compact

end Job

/-! ## Closing a unit -/

section Finish

variable (ctx : Context)

@[simp] theorem finishTransmit_profile : (finishTransmit ctx).profile = ctx.profile := rfl
@[simp] theorem finishTransmit_mode : (finishTransmit ctx).mode = ctx.mode := rfl
@[simp] theorem finishTransmit_state : (finishTransmit ctx).rohcState = ctx.rohcState := rfl
@[simp] theorem finishTransmit_txCount : (finishTransmit ctx).txCount = ctx.txCount + 1 := rfl
@[simp] theorem finishTransmit_used : (finishTransmit ctx).profileHasBeenUsed = true := rfl
@[simp] theorem finishTransmit_pending :
    (finishTransmit ctx).profileReplacementPending = ctx.profileReplacementPending := rfl
@[simp] theorem finishTransmit_cid : (finishTransmit ctx).cid = ctx.cid := rfl
@[simp] theorem finishTransmit_largeCid : (finishTransmit ctx).largeCid = ctx.largeCid := rfl
@[simp] theorem finishTransmit_msn : (finishTransmit ctx).msn = ctx.msn := rfl
@[simp] theorem finishTransmit_reorderRatio : (finishTransmit ctx).reorderRatio = ctx.reorderRatio := rfl
@[simp] theorem finishTransmit_count :
    (finishTransmit ctx).formalPt0SinceConfirmation = ctx.formalPt0SinceConfirmation := rfl

/-- Only a unit sent outside the reliable mode counts as acknowledged by itself. -/
theorem finishTransmit_dynamicAcked (hmode : ctx.mode = .reliable) :
    (finishTransmit ctx).dynamicAcked = ctx.dynamicAcked :=
  if_neg fun h => h.1.1 hmode

end Finish

/-! ## The context a branch starts from -/

/-- The packet changes the profile of a CID that has been in use; a fall back to Uncompressed does not count. -/
def replaces (before : Context) (profile : Profile) : Prop :=
  before.profileHasBeenUsed = true ∧ before.profile ≠ profile ∧ profile ≠ .uncompressed

instance (before : Context) (profile : Profile) : Decidable (replaces before profile) :=
  inferInstanceAs (Decidable (_ ∧ _ ∧ _))

/-- The branch goes on with the context it found. -/
structure Continues (before : Context) (profile : Profile) (a : Control) : Prop where
  same : ¬replaces before profile
  txCount : a.txCount = before.txCount
  state : a.rohcState = before.rohcState
  staticAcked : a.staticAcked = before.staticAcked
  dynamicAcked : a.dynamicAcked = before.dynamicAcked
  used : a.profileHasBeenUsed = before.profileHasBeenUsed
  count : a.formalPt0SinceConfirmation = before.formalPt0SinceConfirmation
  reorderRatio : a.reorderRatio = before.reorderRatio
  msn : a.msn = before.msn
  pending : before.profileReplacementPending = true → a.profileReplacementPending = true
  /-- A used-up PT-0 interval holds the context back. -/
  window : profileUsesFormalPt0 profile = true → 0 < formalPt0ForwardLimit before →
    formalPt0ForwardLimit before ≤ before.formalPt0SinceConfirmation → a.profileReplacementPending = true

/-- The branch starts a new generation. -/
structure Restarts (before : Context) (profile : Profile) (a : Control) : Prop where
  changes : replaces before profile
  txCount : a.txCount = 0
  state : a.rohcState = .noContext
  dynamicAcked : a.dynamicAcked = false
  used : a.profileHasBeenUsed = true
  reorderRatio : a.reorderRatio = 0
  pending : a.profileReplacementPending = true

theorem requireConfirmationBeforePt0Alias_of_pending {ctx : Context} (h : ctx.profileReplacementPending = true) :
    requireConfirmationBeforePt0Alias ctx = ctx := by
  unfold requireConfirmationBeforePt0Alias
  simp [h]

theorem prepareContext_cid (comp : Compressor) (before : Context) (profile : Profile) :
    (prepareContext comp before profile).cid = comp.currentCid ∧
      (prepareContext comp before profile).largeCid = comp.largeCidSpace := by
  have hreq : ∀ ctx : Context, (requireConfirmationBeforePt0Alias ctx).cid = ctx.cid ∧
      (requireConfirmationBeforePt0Alias ctx).largeCid = ctx.largeCid := by
    intro ctx
    unfold requireConfirmationBeforePt0Alias
    dsimp only
    split
    · exact ⟨rfl, rfl⟩
    · exact ⟨rfl, rfl⟩
  have hrep : ∀ ctx : Context, ctx.cid = comp.currentCid → ctx.largeCid = comp.largeCidSpace →
      (replaceProfile ctx before comp.mode comp.currentCid comp.largeCidSpace profile).cid = comp.currentCid ∧
      (replaceProfile ctx before comp.mode comp.currentCid comp.largeCidSpace profile).largeCid = comp.largeCidSpace := by
    intro ctx hc hl
    unfold replaceProfile
    split
    · exact ⟨rfl, rfl⟩
    · exact ⟨hc, hl⟩
  unfold prepareContext
  dsimp only
  split
  · exact ⟨(hreq _).1.trans (hrep _ rfl rfl).1, (hreq _).2.trans (hrep _ rfl rfl).2⟩
  · exact hrep _ rfl rfl

theorem prepareContext_cases (comp : Compressor) (before : Context) (profile : Profile) :
    Continues before profile (prepareContext comp before profile).toControl ∨
      Restarts before profile (prepareContext comp before profile).toControl := by
  by_cases hr : replaces before profile
  · right
    have hc : before.profileHasBeenUsed = true ∧ before.profile ≠ profile ∧ profile ≠ .uncompressed := hr
    unfold prepareContext replaceProfile
    dsimp only
    rw [if_pos hc, requireConfirmationBeforePt0Alias_of_pending rfl, ite_self]
    exact ⟨hr, rfl, rfl, rfl, rfl, rfl, rfl⟩
  · left
    have hc : ¬(before.profileHasBeenUsed = true ∧ before.profile ≠ profile ∧ profile ≠ .uncompressed) := hr
    unfold prepareContext replaceProfile
    dsimp only
    rw [if_neg hc]
    split
    · unfold requireConfirmationBeforePt0Alias
      dsimp only
      split
      · exact ⟨hr, rfl, rfl, rfl, rfl, rfl, rfl, rfl, rfl, fun _ => rfl, fun _ _ _ => rfl⟩
      · rename_i hno
        refine ⟨hr, rfl, rfl, rfl, rfl, rfl, rfl, rfl, rfl, id, fun _ hpos hcount => ?_⟩
        by_contra hp
        exact hno ⟨hpos, hcount, by simpa using hp⟩
    · rename_i hf
      exact ⟨hr, rfl, rfl, rfl, rfl, rfl, rfl, rfl, rfl, id, fun h => absurd h hf⟩

/-! ## The branch of a call -/

section Branch

variable (comp : Compressor) (packet : Bytes) (view : ParsedIpView) (before : Context)

/-- The context the branch of a packet starts from. -/
def prepared : Context := prepareContext comp before (chooseProfile packet view)

/-- What the branch of a packet is called with. -/
def Compressor.job : Job := ⟨comp.mode, comp.currentCid, packet, view, segmentBufferMax⟩

/-- What the branch of a packet captures. -/
def capturedBy : Context :=
  (comp.job packet view).captured (prepared comp packet view before) (chooseProfile packet view)

/-- The outcomes of a branch: it failed on the way, it sent a unit of its profile, or the packet goes out whole. -/
inductive BranchStep : Outcome Bytes → Context → Prop where
  | fails {out : Outcome Bytes} {ctx : Context} (failed : out.isOk = false)
    (compressed : chooseProfile packet view ≠ .uncompressed)
    (worked : Worked (chooseProfile packet view) comp.mode (prepared comp packet view before).toControl ctx.toControl) :
    BranchStep out ctx
  | sends {unit header : Bytes} {mid : Context} (compressed : chooseProfile packet view ≠ .uncompressed)
    (captured : Captured (chooseProfile packet view) comp.mode (prepared comp packet view before).toControl
      (capturedBy comp packet view before).toControl)
    (emitted : Emitted (capturedBy comp packet view before) header mid) (front : header <+: unit) :
    BranchStep (.ok unit) (finishTransmit mid)
  | wholeFails {out : Outcome Bytes} {ctx : Context} (failed : out.isOk = false)
    (whole : chooseProfile packet view = .uncompressed)
    (left : ctx = prepared comp packet view before ∨ ctx = Job.capturedWhole (prepared comp packet view before)) :
    BranchStep out ctx
  | whole {unit : Bytes} (whole : chooseProfile packet view = .uncompressed)
    (front : irFront (prepared comp packet view before) 0xFD 0x00 <+: unit) :
    BranchStep (.ok unit) (Job.capturedWhole (prepared comp packet view before))

end Branch

theorem compressUncompressed_state (job : Job) (ctx : Context) :
    (job.compressUncompressed ctx).2 = ctx ∨ (job.compressUncompressed ctx).2 = Job.capturedWhole ctx := by
  unfold Job.compressUncompressed
  cases isUncompressedIpPayload job.packet with
  | false => exact .inl rfl
  | true =>
    right
    rw [bind_of_ok (require_true ctx), bind_of_ok (modify_apply _ ctx), bind_of_ok (get_apply _)]
    cases emitUncompressedIr job.cap _ job.packet with
    | none => rfl
    | some unit => rfl

theorem runBranch_cases {comp : Compressor} {packet : Bytes} {view : ParsedIpView} {before ctx : Context}
    {out : Outcome Bytes} (h : runBranch comp packet view before = (out, ctx)) :
    BranchStep comp packet view before out ctx := by
  have hl := chooseProfile_ne_llaRtp packet view
  unfold runBranch at h
  dsimp only at h
  change (comp.job packet view).compressAs before _ (prepared comp packet view before) = _ at h
  by_cases hu : chooseProfile packet view = .uncompressed
  · rw [hu] at h
    cases out with
    | ok unit =>
      obtain ⟨-, -, rfl, -, rfl⟩ := Job.compressUncompressed_ensures _ unit ctx h
      exact .whole hu ((irSealed_front _ _).trans (List.prefix_append _ _))
    | reject =>
      refine .wholeFails rfl hu ?_
      have hs := compressUncompressed_state (comp.job packet view) (prepared comp packet view before)
      rwa [show (comp.job packet view).compressUncompressed (prepared comp packet view before) = _ from h] at hs
    | fault =>
      refine .wholeFails rfl hu ?_
      have hs := compressUncompressed_state (comp.job packet view) (prepared comp packet view before)
      rwa [show (comp.job packet view).compressUncompressed (prepared comp packet view before) = _ from h] at hs
  · cases out with
    | ok unit =>
      obtain ⟨header, mid, hem, hpre, rfl⟩ := Job.compressAs_ok before _ hl hu h
      exact .sends hu (Job.captured_captured (comp.job packet view) _ hl hu) hem hpre
    | reject =>
      refine .fails rfl hu ?_
      have hw := Job.compressAs_fail before _ hl hu (congrArg (Outcome.isOk ∘ Prod.fst) h)
      rwa [h] at hw
    | fault =>
      refine .fails rfl hu ?_
      have hw := Job.compressAs_fail before _ hl hu (congrArg (Outcome.isOk ∘ Prod.fst) h)
      rwa [h] at hw

/-- A unit leaves its context in the profile of the packet. -/
theorem BranchStep.profile_eq {comp : Compressor} {packet : Bytes} {view : ParsedIpView} {before ctx : Context}
    {unit : Bytes} (h : BranchStep comp packet view before (.ok unit) ctx) : ctx.profile = chooseProfile packet view := by
  cases h with
  | fails failed => cases failed
  | wholeFails failed => cases failed
  | whole isWhole => exact isWhole.symm
  | sends compressed captured emitted => exact emitted.profile.trans captured.profile

end Rohccxx
