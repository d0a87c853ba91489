import Rohccxx.CompRuns

/-!
# The replacement gate of the compressor

A packet that changes the profile of a CID in use starts a new generation of its context, held behind IRs until the peer
has acknowledged an MSN of that generation. A fall back to Uncompressed sets no hold, and needs none: its units are IRs of
their own, and the way back to any other profile is a change again.
-/

set_option autoImplicit false

namespace Rohccxx

open Octets Runs CompHandle

/-! ## Holds -/

theorem prepared_pending {comp : Compressor} {packet : Bytes} {view : ParsedIpView} {a : Context}
    (h : a.profileReplacementPending = true) : (prepared comp packet view a).profileReplacementPending = true := by
  rcases prepareContext_cases comp a (chooseProfile packet view) with hc | hr
  · exact hc.pending h
  · exact hr.pending

/-- The context goes out whole with its hold as it was. -/
theorem prepared_whole {comp : Compressor} {packet : Bytes} {view : ParsedIpView} {a : Context}
    (h : chooseProfile packet view = .uncompressed) :
    prepared comp packet view a = { a with cid := comp.currentCid, largeCid := comp.largeCidSpace } := by
  unfold prepared prepareContext replaceProfile
  rw [h]
  have hsame : ¬(a.profileHasBeenUsed = true ∧ a.profile ≠ .uncompressed ∧ Profile.uncompressed ≠ .uncompressed) :=
    fun hc => hc.2.2 rfl
  exact if_neg hsame

theorem Emitted.pending {c mid : Context} {header : Bytes} (h : Emitted c header mid) :
    mid.profileReplacementPending = c.profileReplacementPending := by
  cases h with
  | ir => rfl
  | irDyn => rfl
  | pt0 => rfl
  | fo => rfl

/-- No branch lifts the hold. -/
theorem BranchStep.pending {comp : Compressor} {packet : Bytes} {view : ParsedIpView} {a b : Context}
    {out : Outcome Bytes} (h : BranchStep comp packet view a out b) (hp : a.profileReplacementPending = true) :
    b.profileReplacementPending = true := by
  cases h with
  | fails failed compressed worked => exact worked.pending (prepared_pending hp)
  | sends compressed captured emitted front =>
    rw [finishTransmit_pending, emitted.pending]
    exact captured.pending (prepared_pending hp)
  | wholeFails failed whole left =>
    rcases left with rfl | rfl
    · exact prepared_pending hp
    · exact prepared_pending hp
  | whole => exact prepared_pending hp

/-- A used context held behind IRs: by a pending replacement, or because it is Uncompressed. -/
structure Held (ctx : Context) : Prop where
  used : ctx.profileHasBeenUsed = true
  hold : ctx.profileReplacementPending = true ∨ ctx.profile = .uncompressed

/-- A branch on a held context, or one that changes the profile, works behind the hold. -/
theorem prepared_held {comp : Compressor} {packet : Bytes} {view : ParsedIpView} {a : Context}
    (hc : chooseProfile packet view ≠ .uncompressed)
    (h : Held a ∨ a.profileHasBeenUsed = true ∧ a.profile ≠ chooseProfile packet view) :
    (prepared comp packet view a).profileReplacementPending = true ∧
      (prepared comp packet view a).profileHasBeenUsed = true := by
  rcases prepareContext_cases comp a (chooseProfile packet view) with hcont | hr
  · have hno : ¬(a.profileHasBeenUsed = true ∧ a.profile ≠ chooseProfile packet view) := fun hch =>
      hcont.same ⟨hch.1, hch.2, hc⟩
    rcases h with hh | hch
    · refine ⟨hcont.pending ?_, hcont.used.trans hh.used⟩
      rcases hh.hold with hp | hp
      · exact hp
      · refine absurd ⟨hh.used, ?_⟩ hno
        rw [hp]
        exact hc.symm
    · exact absurd hch hno
  · exact ⟨hr.pending, hr.used⟩

theorem BranchStep.held {comp : Compressor} {packet : Bytes} {view : ParsedIpView} {a b : Context} {out : Outcome Bytes}
    (h : BranchStep comp packet view a out b) (hh : Held a ∨ a.profileHasBeenUsed = true ∧ a.profile ≠ b.profile) :
    Held b := by
  cases h with
  | fails failed compressed worked =>
    rw [worked.profile] at hh
    obtain ⟨hp, hu⟩ := prepared_held compressed hh
    exact ⟨worked.used.trans hu, .inl (worked.pending hp)⟩
  | sends compressed captured emitted front =>
    rw [finishTransmit_profile, emitted.profile, captured.profile] at hh
    obtain ⟨hp, hu⟩ := prepared_held compressed hh
    refine ⟨rfl, .inl ?_⟩
    rw [finishTransmit_pending, emitted.pending]
    exact captured.pending hp
  | wholeFails failed whole left =>
    rcases left with rfl | rfl
    · rw [prepared_whole whole] at hh ⊢
      rcases hh with hh | hh
      · exact ⟨hh.used, hh.hold⟩
      · exact absurd rfl hh.2
    · exact ⟨rfl, .inr rfl⟩
  | whole => exact ⟨rfl, .inr rfl⟩

/-- The unit of a branch on a held context, or of one that changes the profile, is an IR. -/
theorem BranchStep.isIr {comp : Compressor} {packet : Bytes} {view : ParsedIpView} {sent : Sent}
    (h : BranchStep comp packet view sent.before (.ok sent.unit) sent.after)
    (hh : Held sent.before ∨ sent.before.profileHasBeenUsed = true ∧ sent.before.profile ≠ sent.after.profile) :
    sent.IsIr := by
  obtain ⟨cid, unit, a, b⟩ := sent
  unfold Sent.IsIr
  dsimp only at h hh ⊢
  cases h with
  | sends compressed captured emitted front =>
    rw [finishTransmit_profile, emitted.profile, captured.profile] at hh
    have hir : shouldEmitIr (capturedBy comp packet view a) = true := by
      have hp := captured.pending (prepared_held compressed hh).1
      simp [shouldEmitIr, hp]
    cases emitted with
    | ir state hfront => exact hfront.trans front
    | irDyn later => cases later.symm.trans hir
    | pt0 compact => cases compact.ir.symm.trans hir
    | fo compact => cases compact.ir.symm.trans hir
  | fails failed => cases failed
  | wholeFails failed => cases failed
  | whole whole front => exact front

/-! ## The gate over runs -/

/-- A v1 ACK is delivered for the CID, and the newest transmitted MSN it can mean was sent under the current revision. -/
def confirms (handle : CompHandle) (cid : Nat) : CompAct → Bool
  | .deliverFeedbackV1 record =>
    match handle.correlated record, handle.context cid with
    | some feedback, some ctx =>
      feedback.cid = cid && feedback.type = .ack &&
        (transmittedMsnRevision ctx feedback.acknowledgmentNumber feedback.acknowledgmentBits).any
          (·.1 = ctx.contextRevision)
    | _, _ => false
  | _ => false

/-- The act changes the profile of a CID in use. -/
def changesProfile (handle : CompHandle) (cid : Nat) (act : CompAct) : Bool :=
  match handle.context cid, (handle.act act).context cid with
  | some a, some b => a.profileHasBeenUsed && a.profile ≠ b.profile
  | _, _ => false

/-- Which CIDs have changed their profile without a confirmation since. -/
def noteGate (gated : Nat → Bool) (handle : CompHandle) (act : CompAct) (cid : Nat) : Bool :=
  if confirms handle cid act then false else changesProfile handle cid act || gated cid

/-- The compressor with its gated CIDs. -/
def gateMachine : Machine (CompHandle × (Nat → Bool)) CompAct (Option Sent) := compMachine.tracked noteGate

section Step

variable {handle : CompHandle} {act : CompAct} {cid : Nat} {a b : Context}

/-- The hold of a pending replacement is lifted by a confirmation only. -/
theorem confirms_of_lifted (ha : handle.context cid = some a) (h : Turned handle act cid a b)
    (hp : a.profileReplacementPending = true) (hl : b.profileReplacementPending = false) :
    confirms handle cid act = true := by
  cases h with
  | same => exact nomatch hp.symm.trans hl
  | mode => exact nomatch hp.symm.trans hl
  | branch here runs run => exact nomatch ((runBranch_cases run).pending hp).symm.trans hl
  | @feedback element feeds here =>
    obtain ⟨htype, hrev⟩ := applyFeedbackToContext_pending hp hl
    cases act with
    | element cid type mode =>
      cases feeds
      cases hrev
    | deliverFeedbackV1 record =>
      have hcor : handle.correlated record = some element := feeds
      have hok : correlateFeedbackV1 handle.direction handle.core record = .ok element := by
        unfold correlated at hcor
        cases h : correlateFeedbackV1 handle.direction handle.core record with
        | error e =>
          rw [h] at hcor
          cases hcor
        | ok f =>
          rw [h] at hcor
          cases hcor
          rfl
      obtain ⟨ctx, msn, hctx, hc⟩ := correlateFeedbackV1_ok hok
      subst here
      have e : some ctx = some a := hctx.symm.trans ha
      cases e
      simp [confirms, hcor, ha, htype, hc.newest]
    | _ => cases feeds

theorem Held.turned (h : Turned handle act cid a b) (hh : Held a ∨ a.profileHasBeenUsed = true ∧ a.profile ≠ b.profile)
    (hp : a.profileReplacementPending = true → b.profileReplacementPending = true) : Held b := by
  cases h with
  | same => exact hh.elim id fun hc => absurd rfl hc.2
  | mode m =>
    rcases hh with hh | hc
    · exact ⟨hh.used, hh.hold⟩
    · exact absurd rfl hc.2
  | branch here runs run => exact (runBranch_cases run).held hh
  | @feedback element feeds here =>
    have hk := applyFeedbackToContext_keeps a element
    rcases hh with hh | hc
    · refine ⟨hk.used.trans hh.used, ?_⟩
      rw [hk.profile]
      exact hh.hold.imp hp id
    · exact absurd hk.profile.symm hc.2

end Step

/-- Every gated CID has a held context. -/
def GateHolds (handle : CompHandle) (gated : Nat → Bool) : Prop :=
  ∀ cid ctx, handle.context cid = some ctx → gated cid = true → Held ctx

/-- A CID gated after an act was held before it, or the act changed its profile. -/
theorem held_or_changed {handle : CompHandle} {gated : Nat → Bool} {act : CompAct} {cid : Nat} {a b : Context}
    (h : GateHolds handle gated) (ha : handle.context cid = some a) (hb : (handle.act act).context cid = some b)
    (hg : noteGate gated handle act cid = true) : Held a ∨ a.profileHasBeenUsed = true ∧ a.profile ≠ b.profile := by
  unfold noteGate at hg
  split at hg
  · cases hg
  · rw [Bool.or_eq_true] at hg
    rcases hg with hc | hg
    · right
      simpa [changesProfile, ha, hb] using hc
    · exact .inl (h cid a ha hg)

theorem gateHolds_act {handle : CompHandle} {gated : Nat → Bool} (h : GateHolds handle gated) (act : CompAct) :
    GateHolds (handle.act act) (noteGate gated handle act) := by
  intro cid b hb hg
  obtain ⟨a, ha, ht⟩ := context_act hb
  refine Held.turned ht (held_or_changed h ha hb hg) fun hp => ?_
  by_contra hl
  have hc := confirms_of_lifted ha ht hp (by simpa using hl)
  simp [noteGate, hc] at hg

/-- The gated CIDs along a run. -/
theorem gateHolds_of_reaches {maxCid : Nat} {direction : Direction} {labels : List (CompAct × Option Sent)}
    {handle : CompHandle} {gated : Nat → Bool}
    (run : Reaches (gateMachine.Step fun _ _ => True) (.fresh maxCid direction, fun _ => false) labels (handle, gated)) :
    GateHolds handle gated :=
  run.invariant (P := fun _ s => GateHolds s.1 s.2) (fun _ _ _ hg => nomatch hg) fun {_ _ _ _} hh h => by
    obtain ⟨-, rfl, -⟩ := h
    exact gateHolds_act hh _

/-- **The replacement gate of the compressor.** After an act that changed the profile of a CID in use, that act included,
every unit for the CID is an IR of the packet's profile, until a v1 ACK of the current revision; and nothing else lifts the
hold of a pending replacement. -/
theorem irs_until_confirmed {maxCid : Nat} {direction : Direction} {labels : List (CompAct × Option Sent)}
    {handle : CompHandle} {gated : Nat → Bool}
    (run : Reaches (gateMachine.Step fun _ _ => True) (.fresh maxCid direction, fun _ => false) labels (handle, gated))
    (act : CompAct) :
    (∀ sent, handle.sends act = some sent → noteGate gated handle act sent.cid = true → sent.IsIr) ∧
      ∀ cid a b, handle.context cid = some a → (handle.act act).context cid = some b →
        a.profileReplacementPending = true → b.profileReplacementPending = false → confirms handle cid act = true := by
  have hgate := gateHolds_of_reaches run
  constructor
  · intro sent hs hg
    obtain ⟨hcid, packet, view, hb, hr⟩ := branches_of_sends hs
    obtain ⟨ha, hafter⟩ := context_of_branches hb hr
    rw [← hcid] at ha hafter
    exact (runBranch_cases hr).isIr (held_or_changed hgate ha hafter hg)
  · intro cid a b ha hb hp hl
    obtain ⟨a', ha', ht⟩ := context_act hb
    cases ha.symm.trans ha'
    exact confirms_of_lifted ha ht hp hl

/-- An ICMP message of one octet, between the same hosts as `shortUdpPacket`. -/
def echoPacket : Bytes := [69, 0, 0, 21, 0, 2, 64, 0, 64, 1, 38, 228, 10, 0, 0, 1, 10, 0, 0, 2, 9]

/-- A UDP packet and two of the IP-only profile on one CID: the last one still goes out as an IR. -/
def changedProfile : List CompAct := [.compress shortUdpPacket 100, .compress echoPacket 100]

theorem irs_until_confirmed_echo :
    ∃ sent, (compMachine.after (.fresh 3 .uplink) changedProfile).sends (.compress echoPacket 100) = some sent ∧
      sent.cid = 0 ∧ sent.IsIr := by
  have hs : ((compMachine.after (.fresh 3 .uplink) changedProfile).sends (.compress echoPacket 100)).map (·.cid) =
      some 0 := by decide +kernel
  obtain ⟨sent, hsent, hcid⟩ := Option.map_eq_some_iff.mp hs
  have run : Reaches (gateMachine.Step fun _ _ => True) (.fresh 3 .uplink, fun _ => false)
      (gateMachine.trace (.fresh 3 .uplink, fun _ => false) changedProfile)
      (gateMachine.after (.fresh 3 .uplink, fun _ => false) changedProfile) :=
    Machine.reaches_trace ⟨trivial, trivial, trivial⟩
  refine ⟨sent, hsent, hcid, (irs_until_confirmed run (.compress echoPacket 100)).1 sent hsent ?_⟩
  rw [hcid]
  decide +kernel

end Rohccxx
