import Rohccxx.CompStart

/-!
# NACK escalation

A first NACK asks for the dynamic part again, a second one for an IR. The count of NACKs is an octet that is incremented
without saturation, so the escalation is taken back at every 256th NACK and at the one after it.

* `nackStep` — what one NACK does, `Nacked` the state it leaves for its count.
* `nacked_run` — the state after any number of NACKs, by induction on the list.
* `escalated_iff` — the escalation stands exactly where the count modulo 256 is 2 or more.
-/

set_option autoImplicit false

namespace Rohccxx

open Octets CompHandle

/-- A context after some feedback. -/
def fed (ctx : Context) (elements : List Feedback) : Context := elements.foldl applyFeedbackToContext ctx

/-- The state a context has after `n` NACKs, at least one. -/
structure Nacked (n : Nat) (ctx : Context) : Prop where
  count : ctx.nackCount.toNat = n % 256
  dynamic : ctx.dynamicAcked = false
  static : 2 ≤ n → ctx.staticAcked = false
  many : 2 ≤ n % 256 → ctx.rohcState = .noContext ∧ ctx.txCount = 0
  few : n % 256 < 2 → ctx.rohcState = .staticEstablished ∧ ctx.txCount = 1

/-- One NACK: `ctx` has counted `n` of them so far, and confirms no static part from the second on. -/
theorem nackStep {ctx : Context} {n : Nat} {feedback : Feedback} (hnack : feedback.type = .nack)
    (hcount : ctx.nackCount.toNat = n % 256) (hstatic : 2 ≤ n → ctx.staticAcked = false) :
    Nacked (n + 1) (applyFeedbackToContext ctx feedback) := by
  have hnext : (ctx.nackCount + 1).toNat = (n + 1) % 256 := by
    rw [UInt8.toNat_add, hcount, UInt8.toNat_one]
    omega
  have hmany : ctx.nackCount + 1 > 1 ↔ 2 ≤ (n + 1) % 256 := by
    rw [gt_iff_lt, UInt8.lt_iff_toNat_lt, hnext, UInt8.toNat_one]
    omega
  unfold applyFeedbackToContext
  simp only [hnack]
  split
  · rename_i h
    exact ⟨hnext, rfl, fun _ => rfl, fun _ => ⟨rfl, rfl⟩, fun hfew => absurd (hmany.mp h) (by omega)⟩
  · rename_i h
    have hfew : ¬ 2 ≤ (n + 1) % 256 := fun hm => h (hmany.mpr hm)
    -- The second NACK escalates, so this one is the first or comes after a second one.
    refine ⟨hnext, rfl, fun htwo => hstatic ?_, fun hm => absurd hm hfew, fun _ => ⟨rfl, rfl⟩⟩
    by_contra hone
    have : n = 1 := by omega
    subst this
    exact hfew (by decide)

/-- A run of NACKs from a context in which `n` of them are counted. -/
theorem nacked_run {ctx : Context} {n : Nat} {nacks : List Feedback} (hall : ∀ feedback ∈ nacks, feedback.type = .nack)
    (hcount : ctx.nackCount.toNat = n % 256) (hstatic : 2 ≤ n → ctx.staticAcked = false) (hsome : nacks ≠ []) :
    Nacked (n + nacks.length) (fed ctx nacks) := by
  induction nacks generalizing ctx n with
  | nil => exact absurd rfl hsome
  | cons feedback nacks ih =>
    have hstep := nackStep (hall _ List.mem_cons_self) hcount hstatic
    by_cases hmore : nacks = []
    · subst hmore
      exact hstep
    · have hrun := ih (fun f hf => hall f (List.mem_cons_of_mem _ hf)) hstep.count hstep.static hmore
      have hlen : n + (feedback :: nacks).length = n + 1 + nacks.length := by rw [List.length_cons]; omega
      rw [hlen]
      exact hrun

/-- The context starts over: nothing is confirmed or counted, and the next unit on its CID is an IR. -/
structure Escalated (ctx : Context) : Prop where
  state : ctx.rohcState = .noContext
  txCount : ctx.txCount = 0
  static : ctx.staticAcked = false
  dynamic : ctx.dynamicAcked = false
  next : ∀ (handle : CompHandle) (act : CompAct) (sent : Sent), handle.context handle.core.currentCid = some ctx →
    handle.sends act = some sent → sent.IsIr

/-- A context without state and packets has an IR as its next unit. -/
theorem isIr_of_unstarted {ctx : Context} (h : Unstarted ctx) {handle : CompHandle} {act : CompAct} {sent : Sent}
    (hctx : handle.context handle.core.currentCid = some ctx) (hsent : handle.sends act = some sent) : sent.IsIr := by
  obtain ⟨-, packet, view, hbranches, hrun⟩ := branches_of_sends hsent
  have hbefore := (context_of_branches hbranches hrun).1
  rw [hctx] at hbefore
  exact (runBranch_cases hrun).isIr_of_unstarted (Option.some.inj hbefore ▸ h)

/-- **NACK escalation.** After two or more NACKs the context starts over if and only if their number is 2 or more
modulo 256. -/
theorem escalated_iff {ctx : Context} {nacks : List Feedback} (hall : ∀ feedback ∈ nacks, feedback.type = .nack)
    (hzero : ctx.nackCount = 0) (htwo : 2 ≤ nacks.length) : Escalated (fed ctx nacks) ↔ 2 ≤ nacks.length % 256 := by
  have hcount : ctx.nackCount.toNat = 0 % 256 := by rw [hzero]; rfl
  have hsome : nacks ≠ [] := fun h => by rw [h] at htwo; exact absurd htwo (by decide)
  have hrun := nacked_run hall hcount (fun h => absurd h (by decide)) hsome
  rw [Nat.zero_add] at hrun
  constructor
  · intro h
    by_contra hfew
    have hstate := (hrun.few (by omega)).1
    rw [h.state] at hstate
    cases hstate
  · intro hmany
    obtain ⟨hstate, htx⟩ := hrun.many hmany
    refine ⟨hstate, htx, hrun.static htwo, hrun.dynamic, fun handle act sent hctx hsent => ?_⟩
    exact isIr_of_unstarted (.uncounted htx (by rw [hstate]; decide)) hctx hsent

/-- Two NACKs. -/
theorem escalated_iff_two : Escalated (fed {} [{ type := .nack }, { type := .nack }]) :=
  (escalated_iff (by decide) rfl (by decide)).mpr (by decide)

/-- 256 NACKs leave the context as one does: the count is 0 again, and one packet counts as sent. -/
theorem not_escalated_256 :
    (fed {} (List.replicate 256 { type := .nack })).rohcState = .staticEstablished ∧
      (fed {} (List.replicate 256 { type := .nack })).txCount = 1 ∧
      ¬ Escalated (fed {} (List.replicate 256 { type := .nack })) := by
  have hrun := @nacked_run {} 0 (List.replicate 256 { type := .nack })
    (fun feedback h => by rw [List.eq_of_mem_replicate h]) rfl (fun h => absurd h (by decide)) (by decide)
  have hlen : 0 + (List.replicate 256 ({ type := .nack } : Feedback)).length = 256 := by
    rw [List.length_replicate]
  rw [hlen] at hrun
  obtain ⟨hstate, htx⟩ := hrun.few (by decide)
  refine ⟨hstate, htx, fun h => ?_⟩
  rw [h.state] at hstate
  cases hstate

end Rohccxx
