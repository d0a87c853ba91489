import Rohccxx.CompGates

/-!
# Self-contained starts

The first unit on a CID, and the first after a STATIC-NACK, should be an IR. It is one as long as the packet counter of the
context says that nothing has been sent. Two things move the counter without a unit: a first NACK, which leaves every
context at one packet sent, and a call that fails after its unit was made. Where they meet no CID that still has to send
its first unit, the law holds over whole runs.
-/

set_option autoImplicit false

namespace Rohccxx

open Octets Runs CompHandle

/-! ## The history -/

/-- The act delivers feedback of a type for the CID. -/
def delivers (handle : CompHandle) (cid : Nat) (type : FeedbackType) (act : CompAct) : Bool :=
  (handle.feeds act).any fun feedback => feedback.cid = cid && feedback.type = type

/-- Which CIDs have sent nothing since the start, or since the last STATIC-NACK. -/
def noteUnsent (unsent : Nat → Bool) (handle : CompHandle) (act : CompAct) (cid : Nat) : Bool :=
  if (handle.sends act).any (·.cid = cid) then false else delivers handle cid .staticNack act || unsent cid

/-- The compressor with the CIDs that have sent nothing. -/
def startMachine : Machine (CompHandle × (Nat → Bool)) CompAct (Option Sent) := compMachine.tracked noteUnsent

/-! ## The condition -/

/-- A first NACK does not meet a context that has counted no packet, on a CID that has sent nothing. -/
def nackFits (handle : CompHandle) (unsent : Nat → Bool) (act : CompAct) : Bool :=
  (handle.feeds act).all fun feedback => feedback.type ≠ .nack || !unsent feedback.cid ||
    (handle.context feedback.cid).all fun ctx => ctx.txCount ≠ 0 || ctx.nackCount + 1 > 1

/-- A unit that was made for a CID that has sent nothing goes out. -/
def handsOut (handle : CompHandle) (unsent : Nat → Bool) (act : CompAct) : Bool :=
  !unsent handle.core.currentCid || (handle.branches act).all fun triple =>
    !(runBranch handle.core triple.1 triple.2.1 triple.2.2).1.isOk || (handle.sends act).isSome ||
      handle.sendsNoHeader act

/-- The packet counters of the CIDs that have sent nothing move with their first units. -/
def CountsUnits (s : CompHandle × (Nat → Bool)) (act : CompAct) : Prop :=
  nackFits s.1 s.2 act = true ∧ handsOut s.1 s.2 act = true

instance (s : CompHandle × (Nat → Bool)) (act : CompAct) : Decidable (CountsUnits s act) :=
  inferInstanceAs (Decidable (_ ∧ _))

/-! ## The invariant -/

/-- A context whose next unit is an IR: no packet counted, or Uncompressed so far. -/
inductive Unstarted (ctx : Context) : Prop where
  | uncounted (txCount : ctx.txCount = 0) (state : ctx.rohcState ≠ .dynamicEstablished)
  | whole (used : ctx.profileHasBeenUsed = true) (profile : ctx.profile = .uncompressed)

/-- A branch on an unstarted context starts from no packet. -/
theorem Unstarted.prepared {comp : Compressor} {packet : Bytes} {view : ParsedIpView} {a : Context} (h : Unstarted a)
    (hc : chooseProfile packet view ≠ .uncompressed) :
    (prepared comp packet view a).txCount = 0 ∧ (prepared comp packet view a).rohcState ≠ .dynamicEstablished := by
  rcases prepareContext_cases comp a (chooseProfile packet view) with hcont | hr
  · cases h with
    | uncounted txCount state => exact ⟨hcont.txCount.trans txCount, fun e => state (hcont.state.symm.trans e)⟩
    | whole used profile =>
      refine absurd ⟨used, ?_, hc⟩ hcont.same
      rw [profile]
      exact hc.symm
  · exact ⟨hr.txCount, fun e => nomatch hr.state.symm.trans e⟩

/-- A branch that fails leaves its context unstarted. -/
theorem BranchStep.unstarted {comp : Compressor} {packet : Bytes} {view : ParsedIpView} {a b : Context}
    {out : Outcome Bytes} (h : BranchStep comp packet view a out b) (hfail : out.isOk = false) (ha : Unstarted a) :
    Unstarted b := by
  cases h with
  | fails failed compressed worked =>
    obtain ⟨htx, hst⟩ := ha.prepared compressed
    exact .uncounted (worked.txCount.trans htx) (worked.first htx hst)
  | wholeFails failed whole left =>
    rcases left with rfl | rfl
    · rw [prepared_whole whole]
      cases ha with
      | uncounted txCount state => exact .uncounted txCount state
      | whole used profile => exact .whole used profile
    · exact .whole rfl rfl
  | sends => cases hfail
  | whole => cases hfail

/-- The unit of a branch on an unstarted context is an IR. -/
theorem BranchStep.isIr_of_unstarted {comp : Compressor} {packet : Bytes} {view : ParsedIpView} {sent : Sent}
    (h : BranchStep comp packet view sent.before (.ok sent.unit) sent.after) (ha : Unstarted sent.before) : sent.IsIr := by
  obtain ⟨cid, unit, a, b⟩ := sent
  unfold Sent.IsIr
  dsimp only at h ha ⊢
  cases h with
  | sends compressed captured emitted front =>
    have hir : shouldEmitIr (capturedBy comp packet view a) = true := by
      have htx : (capturedBy comp packet view a).txCount = 0 := captured.txCount.trans (ha.prepared compressed).1
      simp [shouldEmitIr, htx]
    cases emitted with
    | ir state hfront => exact hfront.trans front
    | irDyn later => cases later.symm.trans hir
    | pt0 compact => cases compact.ir.symm.trans hir
    | fo compact => cases compact.ir.symm.trans hir
  | fails failed => cases failed
  | wholeFails failed => cases failed
  | whole whole front => exact front

/-- No packet goes out without its header on an unstarted context. -/
theorem not_nhpReady_of_unstarted {handle : CompHandle} (packet : Bytes) {a : Context}
    (ha : handle.context handle.core.currentCid = some a) (h : Unstarted a) :
    nhpReady handle.lla handle.core packet = false := by
  have hready : llaContextReady a = false := by
    cases h with
    | uncounted txCount state => simp [llaContextReady, state]
    | whole used profile => simp [llaContextReady, llaContextEstablished, profile]
  have ha' : handle.core.contexts.get handle.core.currentCid = some a := ha
  unfold nhpReady
  rw [ha']
  cases handle.lla with
  | none => rfl
  | some settings => simp [hready]

/-- A STATIC-NACK leaves its context unstarted. -/
theorem unstarted_of_staticNack (ctx : Context) {feedback : Feedback} (h : feedback.type = .staticNack) :
    Unstarted (applyFeedbackToContext ctx feedback) := by
  unfold applyFeedbackToContext
  dsimp only
  rw [h]
  exact .uncounted rfl nofun

/-- Feedback that fits leaves an unstarted context unstarted. -/
theorem Unstarted.feedback {ctx : Context} (h : Unstarted ctx) {feedback : Feedback}
    (hfit : feedback.type = .nack → ctx.txCount ≠ 0 ∨ ctx.nackCount + 1 > 1) :
    Unstarted (applyFeedbackToContext ctx feedback) := by
  have hk := applyFeedbackToContext_keeps ctx feedback
  cases h with
  | whole used profile => exact .whole (hk.used.trans used) (hk.profile.trans profile)
  | uncounted txCount state =>
    cases htype : feedback.type with
    | staticNack => exact unstarted_of_staticNack ctx htype
    | ack =>
      unfold applyFeedbackToContext acknowledge
      simp only [htype]
      split
      · exact .uncounted txCount state
      · exact .uncounted txCount state
    | nack =>
      have hmany : ctx.nackCount + 1 > 1 := (hfit htype).resolve_left fun hne => hne txCount
      unfold applyFeedbackToContext
      simp only [htype]
      rw [if_pos hmany]
      exact .uncounted rfl nofun

/-- Every CID that has sent nothing has an unstarted context. -/
def UnsentHolds (handle : CompHandle) (unsent : Nat → Bool) : Prop :=
  ∀ cid ctx, handle.context cid = some ctx → unsent cid = true → Unstarted ctx

theorem delivers_eq_true {handle : CompHandle} {cid : Nat} {type : FeedbackType} {act : CompAct}
    (h : delivers handle cid type act = true) :
    ∃ feedback, handle.feeds act = some feedback ∧ feedback.cid = cid ∧ feedback.type = type := by
  simpa [delivers, Option.any_eq_true] using h

/-- A unit made on an unstarted context is handed out, so it counts as sent. -/
theorem isOk_eq_false {handle : CompHandle} {unsent : Nat → Bool} {act : CompAct} {packet : Bytes}
    {view : ParsedIpView} {a b : Context} {out : Outcome Bytes} (ha : Unstarted a)
    (hunsent : unsent handle.core.currentCid = true) (hhands : handsOut handle unsent act = true)
    (hsent : (handle.sends act).any (·.cid = handle.core.currentCid) = false)
    (runs : handle.branches act = some (packet, view, a)) (run : runBranch handle.core packet view a = (out, b)) :
    out.isOk = false := by
  by_contra hok
  have hnone : handle.sends act = none := by
    cases hs : handle.sends act with
    | none => rfl
    | some sent =>
      have hcid := (branches_of_sends hs).1
      simp [hs, hcid] at hsent
  have hbare : handle.sendsNoHeader act = true := by
    unfold handsOut at hhands
    simpa [hunsent, runs, run, hok, hnone] using hhands
  cases act with
  | emitNhp packet =>
    have hready := not_nhpReady_of_unstarted packet (branches_eq_some runs).2.2 ha
    simp [sendsNoHeader, emitNhp_eq, hready] at hbare
  | _ => cases hbare

theorem unsentHolds_act {handle : CompHandle} {unsent : Nat → Bool} {act : CompAct} (h : UnsentHolds handle unsent)
    (hok : CountsUnits (handle, unsent) act) : UnsentHolds (handle.act act) (noteUnsent unsent handle act) := by
  intro cid b hb hu
  obtain ⟨a, ha, ht⟩ := context_act hb
  obtain ⟨hsent, hu⟩ : (handle.sends act).any (·.cid = cid) = false ∧
      (delivers handle cid .staticNack act = true ∨ unsent cid = true) := by
    unfold noteUnsent at hu
    split at hu
    · cases hu
    · rename_i hno
      rw [Bool.not_eq_true] at hno
      rw [Bool.or_eq_true] at hu
      exact ⟨hno, hu⟩
  -- Outside a STATIC-NACK the CID had sent nothing before, and its context was unstarted.
  have hunsent : delivers handle cid .staticNack act = false → unsent cid = true := fun hd =>
    hu.resolve_left fun hd' => nomatch hd.symm.trans hd'
  have hbefore : delivers handle cid .staticNack act = false → Unstarted a := fun hd => h cid a ha (hunsent hd)
  cases ht with
  | same unfed rests =>
    refine hbefore (Bool.eq_false_iff.mpr fun hd => ?_)
    obtain ⟨element, hf, hc, -⟩ := delivers_eq_true hd
    exact unfed element hf hc
  | mode mode set =>
    subst set
    cases hbefore rfl with
    | uncounted txCount state => exact .uncounted txCount state
    | whole used profile => exact .whole used profile
  | @feedback element feeds here =>
    by_cases hs : element.type = .staticNack
    · exact unstarted_of_staticNack a hs
    · have hd : delivers handle cid .staticNack act = false := by simp [delivers, feeds, hs]
      refine (hbefore hd).feedback fun hn => ?_
      have hfit := hok.1
      subst here
      simpa [nackFits, feeds, hn, ha, hunsent hd] using hfit
  | branch here runs run =>
    subst here
    have hd : delivers handle handle.core.currentCid .staticNack act = false := by
      simp [delivers, feeds_of_branches runs]
    have ha' := hbefore hd
    exact (runBranch_cases run).unstarted (isOk_eq_false ha' (hunsent hd) hok.2 hsent runs run) ha'

/-- The CIDs that have sent nothing, along a run. -/
theorem unsentHolds_of_reaches {maxCid : Nat} {direction : Direction} {labels : List (CompAct × Option Sent)}
    {handle : CompHandle} {unsent : Nat → Bool}
    (run : Reaches (startMachine.Step CountsUnits) (.fresh maxCid direction, fun _ => true) labels
      (handle, unsent)) : UnsentHolds handle unsent := by
  refine run.invariant (P := fun _ s => UnsentHolds s.1 s.2) ?_ fun {_ _ _ _} hh h => ?_
  · intro cid ctx hctx _
    rw [context_fresh hctx]
    exact .uncounted rfl nofun
  · obtain ⟨-, rfl, hok⟩ := h
    exact unsentHolds_act hh hok

/-- **Self-contained start.** In a run in which, on CIDs that have sent nothing, no first NACK meets a context without
packets and every unit that was made goes out, the first unit on a CID, and the first after a STATIC-NACK for it, is an
IR. -/
theorem first_unit_isIr {maxCid : Nat} {direction : Direction} {labels : List (CompAct × Option Sent)}
    {handle : CompHandle} {unsent : Nat → Bool} {act : CompAct} {sent : Sent}
    (run : Reaches (startMachine.Step CountsUnits) (.fresh maxCid direction, fun _ => true) labels
      (handle, unsent))
    (hs : handle.sends act = some sent) (hu : unsent sent.cid = true) : sent.IsIr := by
  obtain ⟨hcid, packet, view, hb, hr⟩ := branches_of_sends hs
  have ha := (context_of_branches hb hr).1
  rw [← hcid] at ha
  exact (runBranch_cases hr).isIr_of_unstarted (unsentHolds_of_reaches run _ _ ha hu)

/-- A UDP-Lite datagram of one octet. -/
def shortLitePacket : Bytes :=
  [69, 0, 0, 29, 0, 1, 64, 0, 64, 136, 38, 86, 10, 0, 0, 1, 10, 0, 0, 2, 3, 232, 7, 208, 0, 8, 0, 1, 7]

/-- Two packets and a STATIC-NACK: the third packet is an IR again. -/
def droppedContext : List CompAct :=
  [.compress shortLitePacket 100, .compress shortLitePacket 100, .element 0 .staticNack none]

theorem first_unit_isIr_lite :
    ∃ sent, (compMachine.after (.fresh 3 .uplink) droppedContext).sends (.compress shortLitePacket 100) = some sent ∧
      sent.cid = 0 ∧ sent.IsIr := by
  have hs : ((compMachine.after (.fresh 3 .uplink) droppedContext).sends (.compress shortLitePacket 100)).map (·.cid) =
      some 0 := by decide +kernel
  obtain ⟨sent, hsent, hcid⟩ := Option.map_eq_some_iff.mp hs
  have run : Reaches (startMachine.Step CountsUnits) (.fresh 3 .uplink, fun _ => true)
      (startMachine.trace (.fresh 3 .uplink, fun _ => true) droppedContext)
      (startMachine.after (.fresh 3 .uplink, fun _ => true) droppedContext) :=
    Machine.reaches_trace (by decide +kernel)
  refine ⟨sent, hsent, hcid, first_unit_isIr run hsent ?_⟩
  rw [hcid]
  decide +kernel

/-- Without the condition: one NACK before the first packet, and UDP-Lite opens its CID with an IR-DYN. -/
theorem irDyn_opens_cid :
    ¬∀ (maxCid : Nat) (direction : Direction) (labels : List (CompAct × Option Sent)) (handle : CompHandle)
      (unsent : Nat → Bool) (act : CompAct) (sent : Sent),
      Reaches (startMachine.Step fun _ _ => True) (.fresh maxCid direction, fun _ => true) labels (handle, unsent) →
        handle.sends act = some sent → unsent sent.cid = true → sent.IsIr := by
  intro h
  have hs : ((compMachine.after (.fresh 3 .uplink) (CompCall.handleFeedback 0 0).acts).sends
      (.compress shortLitePacket 100)).map (fun sent => (sent.cid, decide sent.IsIr)) = some (0, false) := by
    decide +kernel
  obtain ⟨sent, hsent, he⟩ := Option.map_eq_some_iff.mp hs
  rw [Prod.mk.injEq, decide_eq_false_iff_not] at he
  have run : Reaches (startMachine.Step fun _ _ => True) (.fresh 3 .uplink, fun _ => true)
      (startMachine.trace (.fresh 3 .uplink, fun _ => true) (CompCall.handleFeedback 0 0).acts)
      (startMachine.after (.fresh 3 .uplink, fun _ => true) (CompCall.handleFeedback 0 0).acts) :=
    Machine.reaches_trace ⟨trivial, trivial⟩
  refine he.2 (h _ _ _ _ _ _ sent run hsent ?_)
  rw [he.1]
  decide +kernel

end Rohccxx
