import Rohccxx.CompStart

/-!
# Reliable mode

In reliable mode a compact unit needs a context marked acknowledged. ACKs set the marks, but outside the reliable mode so
does every transmission, and a switch of mode keeps them. So the law holds in runs where the mode turns reliable only while
the marked contexts have been acknowledged, and where a packet without header meets a context in the handle's own mode.
-/

set_option autoImplicit false

namespace Rohccxx

open Octets Runs CompHandle

/-! ## The history -/

/-- Where a CID stands: never used, (re)established, or acknowledged since. -/
inductive AckPhase where
  | unused
  | waiting
  | acked
deriving DecidableEq, Repr

/-- The context has to be established again, if it ever was. -/
def AckPhase.reset : AckPhase → AckPhase
  | .unused => .unused
  | _ => .waiting

/-- Feedback for the CID of a context. -/
def AckPhase.feedback (phase : AckPhase) (ctx : Context) (feedback : Feedback) : AckPhase :=
  match feedback.type with
  | .ack => if phase = .unused then .unused else .acked
  | .staticNack => phase.reset
  | .nack => if ctx.nackCount + 1 > 1 then phase.reset else phase

/-- A packet on a CID: its first one, and one that replaces the profile, establish the context. -/
def AckPhase.packet (phase : AckPhase) (before : Context) (profile : Profile) : AckPhase :=
  if phase = .unused ∨ replaces before profile then .waiting else phase

def notePhase (phase : Nat → AckPhase) (handle : CompHandle) (act : CompAct) (cid : Nat) : AckPhase :=
  match handle.feeds act, handle.branches act with
  | some feedback, _ =>
    if feedback.cid = cid then (handle.context cid).elim (phase cid) fun ctx => (phase cid).feedback ctx feedback
    else phase cid
  | none, some (packet, view, before) =>
    if handle.core.currentCid = cid then (phase cid).packet before (chooseProfile packet view) else phase cid
  | none, none => phase cid

/-- The compressor with the phases of its CIDs. -/
def phaseMachine : Machine (CompHandle × (Nat → AckPhase)) CompAct (Option Sent) := compMachine.tracked notePhase

/-! ## The condition -/

/-- Contexts marked acknowledged are so by an ACK; the marks of an Uncompressed context mean nothing. -/
def MarksAcked (handle : CompHandle) (phase : Nat → AckPhase) : Prop :=
  ∀ cid ≤ handle.core.contexts.maxCid, ∀ ctx ∈ handle.context cid,
    ctx.dynamicAcked = true → ctx.profile ≠ .uncompressed → phase cid = .acked

instance (handle : CompHandle) (phase : Nat → AckPhase) : Decidable (MarksAcked handle phase) :=
  inferInstanceAs (Decidable (∀ cid ≤ handle.core.contexts.maxCid, ∀ ctx ∈ handle.context cid, _))

/-- The mode turns reliable only while the marks are backed by ACKs. -/
def SwitchFits (handle : CompHandle) (phase : Nat → AckPhase) (act : CompAct) : Prop :=
  handle.core.mode ≠ .reliable → (handle.act act).core.mode = .reliable → MarksAcked handle phase

/-- A packet without header meets a context in the mode of the handle. -/
def NoHeaderFits (handle : CompHandle) (act : CompAct) : Prop :=
  handle.core.mode = .reliable → handle.sendsNoHeader act = true →
    ∀ ctx ∈ handle.context handle.core.currentCid, ctx.mode = .reliable

def ReliableFits (state : CompHandle × (Nat → AckPhase)) (act : CompAct) : Prop :=
  SwitchFits state.1 state.2 act ∧ NoHeaderFits state.1 act

instance (state : CompHandle × (Nat → AckPhase)) (act : CompAct) : Decidable (ReliableFits state act) :=
  inferInstanceAs (Decidable ((_ → _ → _) ∧ (_ → _ → ∀ ctx ∈ state.1.context state.1.core.currentCid, _)))

/-! ## The invariant -/

/-- Nothing has been compressed here. -/
def Raw (ctx : Context) : Prop := ctx.profileHasBeenUsed = false ∧ ctx.profile = .uncompressed

structure PhaseHolds (handle : CompHandle) (phase : Nat → AckPhase) : Prop where
  unused : ∀ cid ctx, handle.context cid = some ctx → phase cid = .unused → Raw ctx
  raw : ∀ cid ctx, handle.context cid = some ctx → Raw ctx →
    ctx.rohcState ≠ .dynamicEstablished ∧ ctx.dynamicAcked = false
  acked : handle.core.mode = .reliable → ∀ cid ctx, handle.context cid = some ctx → ctx.dynamicAcked = true →
    ctx.profile ≠ .uncompressed → phase cid = .acked

section Branch

variable {comp : Compressor} {packet : Bytes} {view : ParsedIpView} {a b : Context} {out : Outcome Bytes}

/-- A branch starts from a marked context only if it goes on with the one it found. -/
theorem marked_of_prepared (hc : chooseProfile packet view ≠ .uncompressed)
    (hraw : Raw a → a.dynamicAcked = false) (h : (prepared comp packet view a).dynamicAcked = true) :
    a.dynamicAcked = true ∧ a.profile ≠ .uncompressed ∧ ¬replaces a (chooseProfile packet view) := by
  rcases prepareContext_cases comp a (chooseProfile packet view) with hcont | hr
  · have hd : a.dynamicAcked = true := hcont.dynamicAcked.symm.trans h
    refine ⟨hd, fun hp => ?_, hcont.same⟩
    cases hu : a.profileHasBeenUsed with
    | true =>
      refine hcont.same ⟨hu, ?_, hc⟩
      rw [hp]
      exact hc.symm
    | false => exact nomatch (hraw ⟨hu, hp⟩).symm.trans hd
  · exact nomatch hr.dynamicAcked.symm.trans h

/-- A context that is raw after a branch was so before. -/
theorem BranchStep.raw (h : BranchStep comp packet view a out b) (hb : Raw b) :
    Raw a ∧ b.rohcState = a.rohcState ∧ b.dynamicAcked = a.dynamicAcked := by
  cases h with
  | fails failed compressed worked => exact absurd (worked.profile.symm.trans hb.2) compressed
  | sends => exact nomatch hb.1
  | wholeFails failed whole left =>
    rcases left with rfl | rfl
    · rw [prepared_whole whole] at hb ⊢
      exact ⟨hb, rfl, rfl⟩
    · exact nomatch hb.1
  | whole => exact nomatch hb.1

theorem Emitted.dynamicAcked {c mid : Context} {header : Bytes} (h : Emitted c header mid) :
    mid.dynamicAcked = c.dynamicAcked ∧ mid.mode = c.mode := by
  cases h with
  | ir => exact ⟨rfl, rfl⟩
  | irDyn => exact ⟨rfl, rfl⟩
  | pt0 => exact ⟨rfl, rfl⟩
  | fo => exact ⟨rfl, rfl⟩

/-- In reliable mode no branch marks a context. -/
theorem BranchStep.marked (h : BranchStep comp packet view a out b) (hmode : comp.mode = .reliable)
    (hraw : Raw a → a.dynamicAcked = false) (hd : b.dynamicAcked = true) (hp : b.profile ≠ .uncompressed) :
    a.dynamicAcked = true ∧ a.profile ≠ .uncompressed ∧ ¬replaces a (chooseProfile packet view) := by
  cases h with
  | fails failed compressed worked => exact marked_of_prepared compressed hraw (worked.dynamicAcked.symm.trans hd)
  | @sends unit header mid compressed captured emitted front =>
    obtain ⟨hacked, hm⟩ := emitted.dynamicAcked
    rw [finishTransmit_dynamicAcked mid (hm.trans (captured.mode.trans hmode)), hacked, captured.dynamicAcked] at hd
    exact marked_of_prepared compressed hraw hd
  | wholeFails failed whole left =>
    rcases left with rfl | rfl
    · rw [prepared_whole whole] at hd hp
      exact ⟨hd, hp, fun hr => hr.2.2 whole⟩
    · exact absurd rfl hp
  | whole => exact absurd rfl hp

/-- In reliable mode only a marked context is used for a compact unit. -/
theorem marked_of_compact {c : Context} (h : Compact c) (hmode : c.mode = .reliable) : c.dynamicAcked = true := by
  have hs : c.staticAcked = true := by
    have hir := h.ir
    unfold shouldEmitIr at hir
    simp only [hmode, Bool.or_eq_false_iff, decide_true, Bool.true_and, Bool.not_eq_false'] at hir
    exact hir.2
  have hd := h.irDyn
  unfold shouldEmitIrDyn at hd
  simp only [hmode, hs, Bool.or_eq_false_iff, decide_true, Bool.true_and, Bool.not_eq_false'] at hd
  exact hd.2

theorem BranchStep.compact {sent : Sent} (h : BranchStep comp packet view sent.before (.ok sent.unit) sent.after)
    (hmode : comp.mode = .reliable) (hraw : Raw sent.before → sent.before.dynamicAcked = false) (hir : ¬sent.IsIr)
    (hdyn : ¬sent.IsIrDyn) :
    sent.before.dynamicAcked = true ∧ sent.before.profile ≠ .uncompressed ∧
      ¬replaces sent.before (chooseProfile packet view) := by
  obtain ⟨cid, unit, a, b⟩ := sent
  unfold Sent.IsIr at hir
  unfold Sent.IsIrDyn at hdyn
  dsimp only at h hraw hir hdyn ⊢
  cases h with
  | sends compressed captured emitted front =>
    have hmarked : Compact (capturedBy comp packet view a) → (prepared comp packet view a).dynamicAcked = true :=
      fun hc => captured.dynamicAcked.symm.trans (marked_of_compact hc (captured.mode.trans hmode))
    cases emitted with
    | ir state hfront => exact absurd (hfront.trans front) hir
    | irDyn later lite hfront => exact absurd (hfront.trans front) hdyn
    | pt0 compact => exact marked_of_prepared compressed hraw (hmarked compact)
    | fo compact => exact marked_of_prepared compressed hraw (hmarked compact)
  | fails failed => cases failed
  | wholeFails failed => cases failed
  | whole whole front => exact absurd front hir

end Branch

section Step

variable {handle : CompHandle} {phase : Nat → AckPhase} {act : CompAct} {cid : Nat} {a b : Context}

theorem notePhase_same (unfed : ∀ element, handle.feeds act = some element → element.cid ≠ cid)
    (rests : handle.core.currentCid = cid → handle.branches act = none) : notePhase phase handle act cid = phase cid := by
  unfold notePhase
  split
  · rename_i element hf
    rw [if_neg (unfed _ hf)]
  · rename_i packet view before hf hb
    rw [if_neg]
    intro hc
    exact nomatch (rests hc).symm.trans hb
  · rfl

theorem notePhase_feedback {element : Feedback} (feeds : handle.feeds act = some element) (here : element.cid = cid)
    (ha : handle.context cid = some a) : notePhase phase handle act cid = (phase cid).feedback a element := by
  unfold notePhase
  simp [feeds, here, ha]

theorem notePhase_branch {packet : Bytes} {view : ParsedIpView} (here : handle.core.currentCid = cid)
    (runs : handle.branches act = some (packet, view, a)) :
    notePhase phase handle act cid = (phase cid).packet a (chooseProfile packet view) := by
  unfold notePhase
  simp [feeds_of_branches runs, runs, here]

theorem AckPhase.reset_unused {p : AckPhase} (h : p.reset = .unused) : p = .unused := by
  cases p with
  | unused => rfl
  | waiting => cases h
  | acked => cases h

theorem AckPhase.feedback_unused {p : AckPhase} {ctx : Context} {element : Feedback}
    (h : p.feedback ctx element = .unused) : p = .unused := by
  unfold AckPhase.feedback at h
  split at h
  · split at h
    · assumption
    · cases h
  · exact AckPhase.reset_unused h
  · split at h
    · exact AckPhase.reset_unused h
    · exact h

theorem AckPhase.packet_ne_unused (p : AckPhase) (ctx : Context) (profile : Profile) : p.packet ctx profile ≠ .unused := by
  unfold AckPhase.packet
  split
  · nofun
  · rename_i h
    exact fun e => h (.inl e)

/-- An ACK on a CID in use. -/
theorem AckPhase.feedback_ack {p : AckPhase} {ctx : Context} {element : Feedback} (ht : element.type = .ack)
    (hp : p ≠ .unused) : p.feedback ctx element = .acked := by
  unfold AckPhase.feedback
  simp [ht, hp]

/-- A packet that goes on with its context keeps the phase. -/
theorem AckPhase.packet_acked {p : AckPhase} {ctx : Context} {profile : Profile} (hp : p = .acked)
    (hr : ¬replaces ctx profile) : p.packet ctx profile = .acked := by
  unfold AckPhase.packet
  simp [hp, hr]

theorem raw_turned (h : PhaseHolds handle phase) (ha : handle.context cid = some a) (ht : Turned handle act cid a b)
    (hb : Raw b) : b.rohcState ≠ .dynamicEstablished ∧ b.dynamicAcked = false := by
  cases ht with
  | same => exact h.raw cid a ha hb
  | mode => exact h.raw cid a ha hb
  | branch here runs run =>
    obtain ⟨hr, hs, hd⟩ := (runBranch_cases run).raw hb
    rw [hs, hd]
    exact h.raw cid a ha hr
  | @feedback element feeds here =>
    have hk := applyFeedbackToContext_keeps a element
    have hr := h.raw cid a ha ⟨hk.used.symm.trans hb.1, hk.profile.symm.trans hb.2⟩
    refine ⟨fun e => hr.1 (applyFeedbackToContext_state e), Bool.eq_false_iff.mpr fun e => ?_⟩
    rcases (applyFeedbackToContext_dynamicAcked e).2 with hd | hs
    · exact nomatch hr.2.symm.trans hd
    · exact hr.1 hs

theorem unused_turned (h : PhaseHolds handle phase) (ha : handle.context cid = some a) (ht : Turned handle act cid a b)
    (hp : notePhase phase handle act cid = .unused) : Raw b := by
  cases ht with
  | same unfed rests =>
    rw [notePhase_same unfed rests] at hp
    exact h.unused cid a ha hp
  | mode mode set =>
    subst set
    exact h.unused cid a ha hp
  | branch here runs run =>
    rw [notePhase_branch here runs] at hp
    exact absurd hp (AckPhase.packet_ne_unused _ _ _)
  | @feedback element feeds here =>
    rw [notePhase_feedback feeds here ha] at hp
    have hr := h.unused cid a ha (AckPhase.feedback_unused hp)
    have hk := applyFeedbackToContext_keeps a element
    exact ⟨hk.used.trans hr.1, hk.profile.trans hr.2⟩

/-- Marks backed by ACKs stay so in reliable mode. -/
theorem acked_turned (h : PhaseHolds handle phase)
    (hmarks : a.dynamicAcked = true → a.profile ≠ .uncompressed → phase cid = .acked)
    (ha : handle.context cid = some a) (ht : Turned handle act cid a b)
    (hmode : (handle.act act).core.mode = .reliable) (hd : b.dynamicAcked = true) (hp : b.profile ≠ .uncompressed) :
    notePhase phase handle act cid = .acked := by
  cases ht with
  | same unfed rests =>
    rw [notePhase_same unfed rests]
    exact hmarks hd hp
  | mode mode set =>
    subst set
    exact hmarks hd hp
  | branch here runs run =>
    have hm : handle.core.mode = .reliable := (mode_of_branches runs).symm.trans hmode
    obtain ⟨hd', hp', hr⟩ := (runBranch_cases run).marked hm (fun hraw => (h.raw cid a ha hraw).2) hd hp
    rw [notePhase_branch here runs]
    exact AckPhase.packet_acked (hmarks hd' hp') hr
  | @feedback element feeds here =>
    rw [notePhase_feedback feeds here ha]
    obtain ⟨htype, hbefore⟩ := applyFeedbackToContext_dynamicAcked hd
    refine AckPhase.feedback_ack htype fun hu => ?_
    obtain ⟨hs, hf⟩ := h.raw cid a ha (h.unused cid a ha hu)
    rcases hbefore with hd' | hs'
    · exact nomatch hf.symm.trans hd'
    · exact hs hs'

end Step

theorem phaseHolds_act {handle : CompHandle} {phase : Nat → AckPhase} {act : CompAct} (h : PhaseHolds handle phase)
    (hok : SwitchFits handle phase act) : PhaseHolds (handle.act act) (notePhase phase handle act) where
  unused cid b hb hp := by
    obtain ⟨a, ha, ht⟩ := context_act hb
    exact unused_turned h ha ht hp
  raw cid b hb hr := by
    obtain ⟨a, ha, ht⟩ := context_act hb
    exact raw_turned h ha ht hr
  acked hmode cid b hb hd hp := by
    obtain ⟨a, ha, ht⟩ := context_act hb
    refine acked_turned h (fun hd' hp' => ?_) ha ht hmode hd hp
    by_cases hm : handle.core.mode = .reliable
    · exact h.acked hm cid a ha hd' hp'
    · have hle : cid ≤ handle.core.contexts.maxCid := ContextTable.get_isSome.mp (Option.isSome_of_eq_some ha)
      exact hok hm hmode cid hle a ha hd' hp'

theorem phaseHolds_fresh (maxCid : Nat) (direction : Direction) :
    PhaseHolds (.fresh maxCid direction) fun _ => .unused := by
  refine ⟨fun cid ctx hctx _ => ?_, fun cid ctx hctx _ => ?_, fun _ cid ctx hctx hd => ?_⟩
  · rw [context_fresh hctx]
    exact ⟨rfl, rfl⟩
  · rw [context_fresh hctx]
    exact ⟨nofun, rfl⟩
  · rw [context_fresh hctx] at hd
    cases hd

theorem phaseHolds_of_reaches {maxCid : Nat} {direction : Direction} {labels : List (CompAct × Option Sent)}
    {handle : CompHandle} {phase : Nat → AckPhase}
    (run : Reaches (phaseMachine.Step ReliableFits) (.fresh maxCid direction, fun _ => .unused) labels (handle, phase)) :
    PhaseHolds handle phase := by
  refine run.invariant (P := fun _ s => PhaseHolds s.1 s.2) (phaseHolds_fresh maxCid direction) fun {_ _ _ _} hh h => ?_
  obtain ⟨-, rfl, hok⟩ := h
  exact phaseHolds_act hh hok.1

/-- A packet goes out without header on a marked context, or on one that is not in reliable mode. -/
theorem marked_of_sendsNoHeader {handle : CompHandle} {act : CompAct} (h : handle.sendsNoHeader act = true) :
    ∃ ctx, handle.context handle.core.currentCid = some ctx ∧ ctx.profile ≠ .uncompressed ∧
      (ctx.mode = .reliable → ctx.dynamicAcked = true) := by
  cases act with
  | emitNhp packet =>
    have hready : nhpReady handle.lla handle.core packet = true := by
      by_contra hno
      simp [sendsNoHeader, emitNhp_eq, hno] at h
    unfold nhpReady at hready
    split at hready
    · rename_i settings ctx hl hctx
      simp only [Bool.and_eq_true, Bool.or_eq_true, decide_eq_true_eq] at hready
      obtain ⟨⟨⟨⟨-, hlla⟩, hmode⟩, -⟩, -⟩ := hready
      refine ⟨ctx, hctx, fun hp => ?_, fun hm => hmode.resolve_left fun hne => hne hm⟩
      simp [llaContextReady, llaContextEstablished, hp] at hlla
    · cases hready
  | _ => cases h

/-- **Reliable-mode gating.** In a run in which the mode turns reliable only while the marks are backed by ACKs, every
compact unit sent in reliable mode, and every packet sent without header to a context in that mode, comes after an ACK that
followed the last (re)establishment of its context. -/
theorem acked_before_compact {maxCid : Nat} {direction : Direction} {labels : List (CompAct × Option Sent)}
    {handle : CompHandle} {phase : Nat → AckPhase} {act : CompAct}
    (run : Reaches (phaseMachine.Step ReliableFits) (.fresh maxCid direction, fun _ => .unused) labels (handle, phase))
    (hok : ReliableFits (handle, phase) act) (hmode : handle.core.mode = .reliable) :
    (∀ sent, handle.sends act = some sent → ¬sent.IsIr → ¬sent.IsIrDyn →
      notePhase phase handle act sent.cid = .acked) ∧
      (handle.sendsNoHeader act = true → phase handle.core.currentCid = .acked) := by
  have hholds := phaseHolds_of_reaches run
  constructor
  · intro sent hs hir hdyn
    obtain ⟨hcid, packet, view, hb, hr⟩ := branches_of_sends hs
    have ha := (context_of_branches hb hr).1
    obtain ⟨hd, hp, hno⟩ := (runBranch_cases hr).compact hmode (fun hraw => (hholds.raw _ _ ha hraw).2) hir hdyn
    rw [hcid, notePhase_branch rfl hb]
    exact AckPhase.packet_acked (hholds.acked hmode _ _ ha hd hp) hno
  · intro hbare
    obtain ⟨ctx, hctx, hp, hmarked⟩ := marked_of_sendsNoHeader hbare
    exact hholds.acked hmode _ _ hctx (hmarked (hok.2 hmode hbare ctx hctx)) hp

/-- A flow in reliable mode from the start, with an ACK for each of its two refreshes. -/
def ackedFlow : List CompAct :=
  [.setMode .reliable, .compress shortUdpPacket 100, .element 0 .ack none, .compress shortUdpPacket 100,
    .element 0 .ack none]

/-- What the flow `acts` sends for another packet: the CID, and whether it is an IR or an IR-DYN. -/
def nextUnit (acts : List CompAct) : Option (Nat × Bool × Bool) :=
  ((compMachine.after (.fresh 0 .uplink) acts).sends (.compress shortUdpPacket 100)).map fun sent =>
    (sent.cid, decide sent.IsIr, decide sent.IsIrDyn)

theorem acked_before_compact_udp :
    nextUnit ackedFlow = some (0, false, false) ∧
      notePhase (phaseMachine.after (.fresh 0 .uplink, fun _ => .unused) ackedFlow).2
        (compMachine.after (.fresh 0 .uplink) ackedFlow) (.compress shortUdpPacket 100) 0 = .acked := by
  have hs : nextUnit ackedFlow = some (0, false, false) := by decide +kernel
  refine ⟨hs, ?_⟩
  obtain ⟨sent, hsent, he⟩ := Option.map_eq_some_iff.mp hs
  simp only [Prod.mk.injEq, decide_eq_false_iff_not] at he
  have run : Reaches (phaseMachine.Step ReliableFits) (.fresh 0 .uplink, fun _ => .unused)
      (phaseMachine.trace (.fresh 0 .uplink, fun _ => .unused) ackedFlow)
      (phaseMachine.after (.fresh 0 .uplink, fun _ => .unused) ackedFlow) :=
    Machine.reaches_trace (by decide +kernel)
  have hfits : ReliableFits (phaseMachine.after (.fresh 0 .uplink, fun _ => .unused) ackedFlow)
      (.compress shortUdpPacket 100) := by decide +kernel
  have hmain := acked_before_compact run hfits (by decide +kernel)
  have hacked := hmain.1 sent hsent he.2.1 he.2.2
  rw [he.1] at hacked
  exact hacked

/-- A flow that turns reliable after its two refreshes, without any ACK. -/
def switchedFlow : List CompAct :=
  [.compress shortUdpPacket 100, .compress shortUdpPacket 100, .setMode .reliable]

/-- Without the condition: the marks of the optimistic mode survive the switch, and a compact unit goes out. -/
theorem compact_without_ack :
    ¬∀ (maxCid : Nat) (direction : Direction) (labels : List (CompAct × Option Sent)) (handle : CompHandle)
      (phase : Nat → AckPhase) (act : CompAct),
      Reaches (phaseMachine.Step fun _ _ => True) (.fresh maxCid direction, fun _ => .unused) labels (handle, phase) →
        handle.core.mode = .reliable →
        (∀ sent, handle.sends act = some sent → ¬sent.IsIr → ¬sent.IsIrDyn →
          notePhase phase handle act sent.cid = .acked) ∧
          (handle.sendsNoHeader act = true → phase handle.core.currentCid = .acked) := by
  intro h
  have hs : nextUnit switchedFlow = some (0, false, false) := by decide +kernel
  obtain ⟨sent, hsent, he⟩ := Option.map_eq_some_iff.mp hs
  simp only [Prod.mk.injEq, decide_eq_false_iff_not] at he
  have run : Reaches (phaseMachine.Step fun _ _ => True) (.fresh 0 .uplink, fun _ => .unused)
      (phaseMachine.trace (.fresh 0 .uplink, fun _ => .unused) switchedFlow)
      (phaseMachine.after (.fresh 0 .uplink, fun _ => .unused) switchedFlow) :=
    Machine.reaches_trace ⟨trivial, trivial, trivial, trivial⟩
  have hacked := (h _ _ _ _ _ (.compress shortUdpPacket 100) run (by decide +kernel)).1 sent hsent he.2.1 he.2.2
  rw [he.1] at hacked
  revert hacked
  decide +kernel

end Rohccxx
