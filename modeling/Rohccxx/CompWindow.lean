import Rohccxx.Compact
import Rohccxx.CompStart

/-!
# The PT-0 window

A PT-0 carries four bits of the MSN. The compressor counts the PT-0 units since the last confirmation and refreshes the
context before a decoder that lost them all would take one for another. The UDP and the IP-only branch number every unit,
the private ones too, but count the PT-0 units alone. Together with the private units sent since, the count covers the
distance from the last IR, or from the last confirmed MSN behind it; a PT-0 is safe while both leave room in the window.
-/

set_option autoImplicit false

namespace Rohccxx

open Octets Runs CompHandle

namespace Job

open Proc

variable {job : Job}

/-! ## The units of the two branches -/

/-- The PT-0 of the UDP branch, when it can send one. -/
def udpPt0 (job : Job) (previous ctx : Context) : Option Bytes :=
  if !ctx.largeCid && decide (job.cid ≤ 0x0F) && udpPt0Reconstructable previous ctx then
    job.unambiguousPt0Crc3 ctx (job.view.headerLen + 8)
  else none

/-- The PT-0 of the IP-only branch, when it can send one. -/
def ipPt0 (job : Job) (previous ctx : Context) : Option Bytes :=
  if !ctx.largeCid && decide (job.cid ≤ 0x0F) && ipPt0Reconstructable previous ctx then
    job.unambiguousPt0Crc3 ctx job.view.headerLen
  else none

/-- No refresh is due in a context, and a PT-0 can be sent. -/
def pt0Fits (ctx : Context) (pt0 : Option Bytes) : Bool := !shouldEmitIr ctx && !shouldEmitIrDyn ctx && pt0.isSome

/-- The UDP branch goes to the private unit. -/
def udpFoDue (job : Job) (previous ctx : Context) : Bool :=
  !shouldEmitIr ctx && !shouldEmitIrDyn ctx && (job.udpPt0 previous ctx).isNone &&
    (emitUdpFo job.cap ctx).any fun unit =>
      !privateUdpFoIsFormalPt0Ambiguous previous unit (job.packet.drop (job.view.headerLen + 8))

/-- The IP-only branch goes to the private unit. -/
def ipFoDue (job : Job) (previous ctx : Context) : Bool :=
  !shouldEmitIr ctx && !shouldEmitIrDyn ctx && (job.ipPt0 previous ctx).isNone &&
    (ctx.ipVersion ≠ 4 || ipPrivateFoReconstructable previous ctx) &&
    (emitIpFo job.cap ctx).any fun unit =>
      ctx.largeCid || !privateIpFoIsFormalPt0Ambiguous previous unit (job.packet.length - job.view.headerLen)

/-- The compact choice sends a PT-0 that can be sent, -/
theorem compact_of_pt0 {can : Context → Bool} {pt0 : Context → Option Bytes} {other other' : Context → Proc Context Bytes}
    {ctx : Context} {formal : Bytes} (h : (if can ctx then pt0 ctx else none) = some formal) :
    (Proc.get >>= fun ctx => if can ctx then
        match pt0 ctx with
        | some formal => job.emitPt0 formal
        | none => other ctx
      else other' ctx) ctx = job.emitPt0 formal ctx := by
  rw [Option.ite_none_right_eq_some] at h
  rw [bind_of_ok (get_apply ctx), if_pos h.1, h.2]

/-- and counts it. -/
theorem choice_counts {ctx : Context} {ir irDyn : Nat → Context → Option Bytes} {compact : Proc Context Bytes}
    {pt0 : Option Bytes} (hcompact : ∀ formal, pt0 = some formal →
      compact (ctx.inState .dynamicEstablished) = job.emitPt0 formal (ctx.inState .dynamicEstablished)) :
    Ensures (Proc.get >>= fun ctx => if shouldEmitIr ctx then job.emitIn .staticEstablished ir
      else if shouldEmitIrDyn ctx then job.emitIn .dynamicEstablished irDyn
      else Proc.modify (fun ctx : Context => { ctx with rohcState := .dynamicEstablished }) >>= fun _ => compact)
      (fun _ s => Compact ctx → pt0.isSome → s = (ctx.inState .dynamicEstablished).countPt0) ctx := by
  refine .bind (.get (.ite (fun hir => ?_) fun _ => .ite (fun hdyn => ?_) fun _ => .bind (.modify ?_)))
  · intro _ _ _ hc
    exact nomatch hc.ir.symm.trans hir
  · intro _ _ _ hc
    exact nomatch hc.irDyn.symm.trans hdyn
  · intro unit s hrun _ hsome
    obtain ⟨formal, hf⟩ := Option.isSome_iff_exists.mp hsome
    exact (emitPt0_ensures formal _ unit s ((hcompact formal hf).symm.trans hrun)).2

theorem emitUdpUnit_counts (previous ctx : Context) :
    Ensures (job.emitUdpUnit previous) (fun _ s => Compact ctx → (job.udpPt0 previous ctx).isSome →
      s = (ctx.inState .dynamicEstablished).countPt0) ctx :=
  choice_counts fun _ h => compact_of_pt0 h

theorem emitIpUnit_counts (previous ctx : Context) :
    Ensures (job.emitIpUnit previous) (fun _ s => Compact ctx → (job.ipPt0 previous ctx).isSome →
      s = (ctx.inState .dynamicEstablished).countPt0) ctx :=
  choice_counts fun _ h => compact_of_pt0 h

/-- The units of the UDP branch and of the IP-only branch, by what they do to the MSN and to the count of PT-0 units. -/
inductive SendsCounted (job : Job) (previous ctx : Context) (pt0Due foDue : Bool) : Bytes → Context → Prop where
  | ir {header : Bytes} (state : RohcState) (front : irFront ctx 0xFD ctx.profile.octet <+: header) :
    SendsCounted job previous ctx pt0Due foDue header (ctx.inState state)
  | pt0 (crc : UInt8) (compact : Compact ctx) (due : pt0Due = true) (next : ctx.msn = previous.msn + 1)
    (valid : formalCoVariantValidForProfile ctx.profile .pt0Crc3 = true) :
    SendsCounted job previous ctx pt0Due foDue (smallCidOctets job.cid ++ [pt0Octet ctx.msn crc])
      (ctx.inState .dynamicEstablished).countPt0
  | fo {header : Bytes} (compact : Compact ctx) (due : foDue = true) :
    SendsCounted job previous ctx pt0Due foDue header (ctx.inState .dynamicEstablished)

theorem unambiguousPt0Crc3_eq {ctx : Context} {headerLen : Nat} {formal : Bytes}
    (h : job.unambiguousPt0Crc3 ctx headerLen = some formal) :
    formal = smallCidOctets job.cid ++ [pt0Octet ctx.msn (crc3 (job.packet.take headerLen))] ∧
      formalCoVariantValidForProfile ctx.profile .pt0Crc3 = true ∧ job.cid ≤ 0x0F := by
  unfold unambiguousPt0Crc3 at h
  simp only [Option.bind_eq_bind, Option.bind_eq_some_iff, Option.ite_none_left_eq_some, Option.pure_def,
    Option.some.injEq] at h
  obtain ⟨made, hmade, -, rfl⟩ := h
  obtain ⟨hmade', hvalid⟩ := emitFormalCo_pt0Crc3 hmade
  refine ⟨hmade', hvalid, ?_⟩
  unfold emitFormalCo at hmade
  by_contra hcid
  simp [Cid.isValidForSpace, Cid.isSmall, Cid.smallCidMax, hcid] at hmade

theorem countPt0_ne (ctx : Context) (state : RohcState) : ctx.inState state ≠ (ctx.inState state).countPt0 := by
  intro h
  have hc : ctx.formalPt0SinceConfirmation = ctx.formalPt0SinceConfirmation + 1 :=
    congrArg (fun s : Context => s.formalPt0SinceConfirmation) h
  exact absurd hc (by simp)

theorem emitUdpUnit_sends {previous ctx : Context} (hp : ctx.profile = .udp) :
    Ensures (job.emitUdpUnit previous)
      (SendsCounted job previous ctx (pt0Fits ctx (job.udpPt0 previous ctx)) (job.udpFoDue previous ctx)) ctx := by
  intro header mid hrun
  have hcounts := emitUdpUnit_counts previous ctx header mid hrun
  have hsend := emitUdpUnit_ensures previous ctx header mid hrun
  cases hsend with
  | refresh hr =>
    obtain ⟨state, rfl⟩ := hr.after
    exact .ir state (hr.front hp)
  | pt0 compact small reconstructable formed =>
    obtain ⟨rfl, hv, hcid⟩ := unambiguousPt0Crc3_eq formed
    have hdue : pt0Fits ctx (job.udpPt0 previous ctx) = true := by
      have hformed : job.unambiguousPt0Crc3 ctx (job.view.headerLen + 8) = some _ := formed
      simp [pt0Fits, udpPt0, compact.ir, compact.irDyn, small, reconstructable, hcid, hformed]
    refine .pt0 _ compact hdue ?_ hv
    unfold udpPt0Reconstructable at reconstructable
    simp only [Bool.and_eq_true, decide_eq_true_eq] at reconstructable
    exact reconstructable.1.1.1.1.1.1.1.2
  | privateFo compact formed unambiguous framed =>
    refine .fo compact ?_
    have hnone : (job.udpPt0 previous ctx).isNone := by
      rw [← Option.not_isSome]
      simpa using fun hsome => countPt0_ne ctx _ (hcounts compact hsome)
    have hformed : emitUdpFo job.cap ctx = some _ := formed
    simp [udpFoDue, compact.ir, compact.irDyn, hnone, hformed, unambiguous]

theorem emitIpUnit_sends {previous ctx : Context} (hp : ctx.profile = .ip) :
    Ensures (job.emitIpUnit previous)
      (SendsCounted job previous ctx (pt0Fits ctx (job.ipPt0 previous ctx)) (job.ipFoDue previous ctx)) ctx := by
  intro header mid hrun
  have hcounts := emitIpUnit_counts previous ctx header mid hrun
  have hsend := emitIpUnit_ensures previous ctx header mid hrun
  cases hsend with
  | refresh hr =>
    obtain ⟨state, rfl⟩ := hr.after
    exact .ir state (hr.front hp)
  | pt0 compact small reconstructable formed =>
    obtain ⟨rfl, hv, hcid⟩ := unambiguousPt0Crc3_eq formed
    have hdue : pt0Fits ctx (job.ipPt0 previous ctx) = true := by
      have hformed : job.unambiguousPt0Crc3 ctx job.view.headerLen = some _ := formed
      simp [pt0Fits, ipPt0, compact.ir, compact.irDyn, small, reconstructable, hcid, hformed]
    refine .pt0 _ compact hdue ?_ hv
    unfold ipPt0Reconstructable at reconstructable
    simp only [Bool.and_eq_true, decide_eq_true_eq] at reconstructable
    exact reconstructable.1.1.2
  | privateFo compact reconstructable formed unambiguous framed =>
    refine .fo compact ?_
    have hnone : (job.ipPt0 previous ctx).isNone := by
      rw [← Option.not_isSome]
      simpa using fun hsome => countPt0_ne ctx _ (hcounts compact hsome)
    have hformed : emitIpFo job.cap ctx = some _ := formed
    have hclear : ctx.largeCid = true ∨ privateIpFoIsFormalPt0Ambiguous previous _
        (job.packet.length - job.view.headerLen) = false :=
      (Bool.eq_false_or_eq_true ctx.largeCid).imp_right unambiguous
    simp [ipFoDue, compact.ir, compact.irDyn, hnone, reconstructable, hformed, hclear]

/-- A PT-0 is due. -/
def pt0Due (job : Job) (previous : Context) (profile : Profile) : Bool :=
  match profile with
  | .udp => pt0Fits (job.capturedUdp previous) (job.udpPt0 previous (job.capturedUdp previous))
  | .ip => pt0Fits (job.capturedIpOnly previous) (job.ipPt0 previous (job.capturedIpOnly previous))
  | _ => false

/-- A private unit is due. -/
def foDue (job : Job) (previous : Context) (profile : Profile) : Bool :=
  match profile with
  | .udp => job.udpFoDue previous (job.capturedUdp previous)
  | .ip => job.ipFoDue previous (job.capturedIpOnly previous)
  | _ => false

theorem compressAs_sends (before previous : Context) {profile : Profile} (hp : profile = .udp ∨ profile = .ip)
    {unit : Bytes} {ctx : Context} (h : job.compressAs before profile previous = (.ok unit, ctx)) :
    ∃ header mid, SendsCounted job previous (job.captured previous profile) (job.pt0Due previous profile)
      (job.foDue previous profile) header mid ∧ header <+: unit ∧ ctx = finishTransmit mid := by
  rcases hp with rfl | rfl
  · have hens : Ensures job.compressUdp (fun unit after => ∃ header mid,
        SendsCounted job previous (job.capturedUdp previous) (job.pt0Due previous .udp) (job.foDue previous .udp)
          header mid ∧ header <+: unit ∧ after = finishTransmit mid) previous := by
      unfold compressUdp
      refine .bind (.get (.bind ((captureWithBehavior_ensures .udp previous).mono ?_)))
      rintro - s ⟨-, rfl⟩
      refine .bind (.modify (.bind ?_))
      have hudp : (job.capturedUdp previous).profile = .udp := (capturedBehavior_captured job .udp previous).profile
      refine (emitUdpUnit_sends hudp).mono fun header mid hsend => ?_
      refine (appendPayload_ensures header _ mid).mono ?_
      rintro unit after ⟨-, rfl, -, rfl⟩
      exact ⟨header, mid, hsend, List.prefix_append _ _, rfl⟩
    exact hens unit ctx h
  · have hens : Ensures job.compressIp (fun unit after => ∃ header mid,
        SendsCounted job previous (job.capturedIpOnly previous) (job.pt0Due previous .ip) (job.foDue previous .ip)
          header mid ∧ header <+: unit ∧ after = finishTransmit mid) previous := by
      unfold compressIp
      refine .bind (.get (.bind ((captureWithBehavior_ensures .ip previous).mono ?_)))
      rintro - s ⟨-, rfl⟩
      refine .bind (.modify (.bind ?_))
      have hip : (job.capturedIpOnly previous).profile = .ip := (capturedBehavior_captured job .ip previous).profile
      refine (emitIpUnit_sends hip).mono fun header mid hsend => ?_
      refine (appendPayload_ensures header _ mid).mono ?_
      rintro unit after ⟨-, rfl, -, rfl⟩
      exact ⟨header, mid, hsend, List.prefix_append _ _, rfl⟩
    exact hens unit ctx h

/-- The MSN of both branches counts the packets. -/
theorem captured_msn (job : Job) (previous : Context) {profile : Profile} (hp : profile = .udp ∨ profile = .ip) :
    (job.captured previous profile).msn = previous.txCount.toUInt16 + 1 := by
  rcases hp with rfl | rfl
  · have htx := (capturedBehavior_captured job .udp previous).txCount
    exact congrArg (fun n : UInt32 => n.toUInt16 + 1) htx
  · have htx := (capturedBehavior_captured job .ip previous).txCount
    exact congrArg (fun n : UInt32 => n.toUInt16 + 1) htx

/-! ## Failures -/

theorem msn_emission (n : UInt16) : EmissionKeeps fun ctx => ctx.msn = n where
  static _ h := h
  dynamic _ _ _ _ h := h
  count _ h := h

theorem captureWithBehavior_msn (job : Job) (p : Profile) (ctx : Context) :
    (job.captureWithBehavior p ctx).2.msn = ctx.msn := by
  have hcommon : Always (fun s : Context => s.msn = ctx.msn) job.captureCommon := by
    intro s hs
    rw [captureCommon_control]
    exact hs
  have h := hcommon.bind fun _ => .modify (f := fun s => noteBehaviorChange ctx (ctx.ipVersion = 4 ∧ ctx.txCount > 0)
    (updateIpv4IdBehavior s (ctx.ipVersion = 4 ∧ ctx.txCount > 0) ctx.ipv4Id)) fun s hs => by
      unfold noteBehaviorChange updateIpv4IdBehavior startReplacement
      split_ifs <;> exact hs
  exact h { ctx with profile := p, mode := job.mode } rfl

/-- A branch that fails has taken the next MSN, or it stopped while it captured the packet. -/
theorem compressAs_fail_msn (job : Job) (before ctx : Context) {profile : Profile} (hp : profile = .udp ∨ profile = .ip)
    (h : (job.compressAs before profile ctx).1.isOk = false) :
    (job.compressAs before profile ctx).2.msn = ctx.txCount.toUInt16 + 1 ∨
      Captured profile job.mode ctx.toControl (job.compressAs before profile ctx).2.toControl ∧
        (job.compressAs before profile ctx).2.msn = ctx.msn := by
  have hcapture : ∀ s, s = ctx → Captured profile job.mode ctx.toControl (job.captureWithBehavior profile s).2.toControl ∧
      (job.captureWithBehavior profile s).2.msn = ctx.msn := by
    rintro s rfl
    exact ⟨captureWithBehavior_captured job profile s, captureWithBehavior_msn job profile s⟩
  have hkeeps := msn_emission (ctx.txCount.toUInt16 + 1)
  refine (?_ : Fails (· = ctx) (fun s => s.msn = ctx.txCount.toUInt16 + 1 ∨
    Captured profile job.mode ctx.toControl s.toControl ∧ s.msn = ctx.msn) _) ctx rfl h
  rcases hp with rfl | rfl
  · refine .get_bind fun _ => .bind hcapture (fun _ => .inr) fun _ => ?_
    refine .modify_bind (R := fun s => s.msn = ctx.txCount.toUInt16 + 1) ?_ ?_
    · intro s hs
      exact congrArg (fun n : UInt32 => n.toUInt16 + 1) hs.1.txCount
    · exact .after (emitUdpUnit_always hkeeps _) (fun _ => .inl) fun _ => appendPayloadRange_fails (fun _ => .inl) _ _ _
  · refine .get_bind fun _ => .bind hcapture (fun _ => .inr) fun _ => ?_
    refine .modify_bind (R := fun s => s.msn = ctx.txCount.toUInt16 + 1) ?_ ?_
    · intro s hs
      exact congrArg (fun n : UInt32 => n.toUInt16 + 1) hs.1.txCount
    · exact .after (emitIpUnit_always hkeeps _) (fun _ => .inl) fun _ => appendPayloadRange_fails (fun _ => .inl) _ _ _

end Job

/-! ## The history -/

/-- The MSN of the last IR of a CID, and the MSN a decoder is known to hold: that one, or a later confirmed one; and how
many units have gone out since that are no PT-0. -/
structure Anchor where
  ir : Option UInt16 := none
  reference : Option UInt16 := none
  uncounted : Nat := 0
deriving DecidableEq, Repr

/-- An ACK of `acked` while the context is at `msn`. Of two MSNs the one less far behind `msn` is the later one. -/
def Anchor.confirm (anchor : Anchor) (msn acked : UInt16) : Anchor :=
  { anchor with
    reference := if anchor.ir.all fun ir => msn - acked < msn - ir then some acked else anchor.ir
    uncounted := 0 }

/-- The unit is a PT-0: the context counts it. -/
def Sent.IsPt0 (sent : Sent) : Prop :=
  ¬sent.IsIr ∧ sent.after.formalPt0SinceConfirmation = sent.before.formalPt0SinceConfirmation + 1

instance (sent : Sent) : Decidable sent.IsPt0 := inferInstanceAs (Decidable (_ ∧ _))

/-- A unit has gone out. -/
def Anchor.sent (anchor : Anchor) (sent : Sent) : Anchor :=
  if sent.IsIr then { ir := some sent.after.msn, reference := some sent.after.msn }
  else if sent.IsPt0 then anchor
  else { anchor with uncounted := anchor.uncounted + 1 }

/-- The MSN an act confirms for a CID, with the context it finds. -/
def CompHandle.confirms (handle : CompHandle) (act : CompAct) (cid : Nat) : Option (Context × UInt16) := do
  let feedback ← handle.feeds act
  let ctx ← handle.context cid
  if feedback.cid = cid ∧ feedback.type = .ack ∧ feedback.acknowledgmentValid then
    let (_, acked) ← transmittedMsnRevision ctx feedback.acknowledgmentNumber feedback.acknowledgmentBits
    return (ctx, acked)
  else none

def noteAnchor (anchor : Nat → Anchor) (handle : CompHandle) (act : CompAct) (cid : Nat) : Anchor :=
  match handle.sends act, handle.confirms act cid with
  | some sent, _ => if sent.cid = cid then (anchor cid).sent sent else anchor cid
  | none, some (ctx, acked) => (anchor cid).confirm ctx.msn acked
  | none, none => anchor cid

/-- The compressor with the anchors of its CIDs. -/
def anchorMachine : Machine (CompHandle × (Nat → Anchor)) CompAct (Option Sent) := compMachine.tracked noteAnchor

/-- The profiles whose MSN counts the units. -/
def countsMsn (profile : Profile) : Bool := profile = .udp || profile = .ip

/-! ## The condition -/

/-- What a UDP or IP-only packet must meet: a PT-0 that is due behind private units finds room in the window for those
since the reference as well as for the PT-0 units counted, a private unit that is due takes the MSN behind the last one,
and a unit that is made goes out. -/
def packetFits (handle : CompHandle) (anchor : Anchor) (act : CompAct) (packet : Bytes) (view : ParsedIpView)
    (before : Context) : Bool :=
  let profile := chooseProfile packet view
  let ctx := prepared handle.core packet view before
  !countsMsn profile ||
    (!(handle.core.job packet view).pt0Due ctx profile || anchor.uncounted = 0 ||
      before.formalPt0SinceConfirmation.toNat + anchor.uncounted < (formalPt0ForwardLimit before).toNat) &&
    (!(handle.core.job packet view).foDue ctx profile || before.msn = before.txCount.toUInt16) &&
    (!(runBranch handle.core packet view before).1.isOk || (handle.sends act).isSome)

def WindowFits (s : CompHandle × (Nat → Anchor)) (act : CompAct) : Prop :=
  ((s.1.branches act).all fun triple =>
    packetFits s.1 (s.2 s.1.core.currentCid) act triple.1 triple.2.1 triple.2.2) = true

instance (s : CompHandle × (Nat → Anchor)) (act : CompAct) : Decidable (WindowFits s act) :=
  inferInstanceAs (Decidable (_ = true))

/-! ## The invariant -/

/-- The context could send a PT-0 next. -/
structure InWindow (ctx : Context) : Prop where
  profile : countsMsn ctx.profile = true
  used : ctx.profileHasBeenUsed = true
  free : ctx.profileReplacementPending = false
  state : ctx.rohcState = .dynamicEstablished
  msn : ctx.msn = ctx.txCount.toUInt16

/-- The count covers the distance from the reference, with the units it leaves out. -/
def Covered (anchor : Anchor) (ctx : Context) : Prop :=
  ∃ r, anchor.reference = some r ∧ (ctx.msn - r).toNat ≤ ctx.formalPt0SinceConfirmation.toNat + anchor.uncounted

structure AnchorHolds (anchor : Anchor) (ctx : Context) : Prop where
  ratio : ctx.reorderRatio = 0
  unused : ctx.profileHasBeenUsed = false → ctx.txCount = 0 ∨ ctx.txCount = 1
  window : InWindow ctx → Covered anchor ctx

/-- One MSN further. -/
theorem distance_succ {m r : UInt16} {n : Nat} (h : (m - r).toNat ≤ n) :
    (m + 1 - r).toNat ≤ n + 1 ∧ (n < 65535 → 0 < (m + 1 - r).toNat) := by
  have hm := m.toNat_lt
  have hr := r.toNat_lt
  simp only [UInt16.toNat_sub, UInt16.toNat_add, UInt16.reduceToNat] at h ⊢
  omega

/-- Inside the window the counter does not wrap around. -/
theorem count_succ {n : UInt8} (h : n < 14) : (n + 1).toNat = n.toNat + 1 := by
  have hn : n.toNat < 14 := UInt8.lt_iff_toNat_lt.mp h
  rw [UInt8.toNat_add]
  change (n.toNat + 1) % 256 = _
  omega

/-- What a compact unit is sent from. -/
structure Settled (ctx : Context) : Prop where
  state : ctx.rohcState = .dynamicEstablished
  free : ctx.profileReplacementPending = false
  counted : ctx.txCount ≠ 0 ∧ ctx.txCount ≠ 1

theorem Compact.settled {ctx : Context} (h : Compact ctx) : Settled ctx := by
  have hir := h.ir
  have hdyn := h.irDyn
  simp only [shouldEmitIr, Bool.or_eq_false_iff, decide_eq_false_iff_not] at hir
  simp only [shouldEmitIrDyn, Bool.or_eq_false_iff, decide_eq_false_iff_not] at hdyn
  refine ⟨?_, hir.1.2, hir.1.1.1, hdyn.1.1⟩
  cases hs : ctx.rohcState with
  | noContext => exact absurd hs hir.1.1.2
  | staticEstablished => exact absurd hs hdyn.1.2
  | dynamicEstablished => rfl

section Branch

variable {comp : Compressor} {packet : Bytes} {view : ParsedIpView} {a b : Context} {anchor : Anchor}

theorem countsMsn_eq {profile : Profile} (h : countsMsn profile = true) : profile = .udp ∨ profile = .ip := by
  simpa [countsMsn] using h

theorem countsMsn_ne {profile : Profile} (h : countsMsn profile = true) :
    profile ≠ .llaRtp ∧ profile ≠ .uncompressed ∧ profileUsesFormalPt0 profile = true := by
  rcases countsMsn_eq h with rfl | rfl
  · exact ⟨nofun, nofun, rfl⟩
  · exact ⟨nofun, nofun, rfl⟩

/-- A branch that goes on with a used context goes on in its profile. -/
theorem Continues.profile_eq {profile : Profile} {c : Control} (h : Continues a profile c)
    (hu : a.profileHasBeenUsed = true) (hp : profile ≠ .uncompressed) : a.profile = profile := by
  by_contra hne
  exact h.same ⟨hu, hne, hp⟩

/-- A branch goes on with a context whose next unit could be a PT-0. -/
theorem Continues.inWindow {profile : Profile} {c : Control} (h : Continues a profile c) (hp : countsMsn profile = true)
    (hu : a.profileHasBeenUsed = true) (hfree : c.profileReplacementPending = false)
    (hstate : c.rohcState = .dynamicEstablished) (hmsn : c.msn = c.txCount.toUInt16) : InWindow a where
  profile := by rwa [h.profile_eq hu (countsMsn_ne hp).2.1]
  used := hu
  free := by
    cases hf : a.profileReplacementPending with
    | false => rfl
    | true => exact nomatch hfree.symm.trans (h.pending hf)
  state := h.state.symm.trans hstate
  msn := by rw [← h.msn, hmsn, h.txCount]

/-- **A compact unit** is sent from a context that could send a PT-0, if its MSN is the next one, and before the count has
used up the window. -/
theorem inWindow_of_compact (ha : AnchorHolds anchor a) (hp : countsMsn (chooseProfile packet view) = true)
    (hc : Compact (capturedBy comp packet view a))
    (hmsn : a.msn = a.txCount.toUInt16 ∨
      (capturedBy comp packet view a).msn = (prepared comp packet view a).msn + 1) :
    InWindow a ∧ a.formalPt0SinceConfirmation < 14 ∧ (capturedBy comp packet view a).msn = a.msn + 1 ∧
      (capturedBy comp packet view a).formalPt0SinceConfirmation = a.formalPt0SinceConfirmation := by
  obtain ⟨hl, hu, hf⟩ := countsMsn_ne hp
  have hcap : Captured (chooseProfile packet view) comp.mode (prepared comp packet view a).toControl
    (capturedBy comp packet view a).toControl := Job.captured_captured (comp.job packet view) _ hl hu
  have hset := hc.settled
  have htx : (prepared comp packet view a).txCount ≠ 0 ∧ (prepared comp packet view a).txCount ≠ 1 := by
    rw [← hcap.txCount]
    exact hset.counted
  have hfree : (prepared comp packet view a).profileReplacementPending = false := by
    cases hpend : (prepared comp packet view a).profileReplacementPending with
    | false => rfl
    | true => exact nomatch hset.free.symm.trans (hcap.pending hpend)
  rcases prepareContext_cases comp a (chooseProfile packet view) with hcont | hr
  · have hused : a.profileHasBeenUsed = true := by
      by_contra hno
      rcases ha.unused (by simpa using hno) with h0 | h1
      · exact htx.1 (hcont.txCount.trans h0)
      · exact htx.2 (hcont.txCount.trans h1)
    have hnext : (capturedBy comp packet view a).msn = (prepared comp packet view a).txCount.toUInt16 + 1 :=
      Job.captured_msn (comp.job packet view) (prepared comp packet view a) (countsMsn_eq hp)
    have hstep : (prepared comp packet view a).msn = (prepared comp packet view a).txCount.toUInt16 := by
      rcases hmsn with hmsn | hmsn
      · exact hcont.msn.trans (hmsn.trans (congrArg UInt32.toUInt16 hcont.txCount).symm)
      · exact (UInt16.add_left_inj 1).mp (hmsn.symm.trans hnext)
    refine ⟨hcont.inWindow hp hused hfree (hcap.state.symm.trans hset.state) hstep, ?_, ?_, ?_⟩
    · have hlimit : formalPt0ForwardLimit a = 14 := by simp [formalPt0ForwardLimit, ha.ratio]
      by_contra hge
      have hpend := hcont.window hf (by rw [hlimit]; decide) (by rw [hlimit]; exact UInt8.not_lt.mp hge)
      exact nomatch hfree.symm.trans hpend
    · rw [hnext, ← hstep]
      exact congrArg (· + 1) hcont.msn
    · exact hcap.count.trans hcont.count
  · exact absurd hr.txCount htx.1

end Branch

/-! ### Feedback -/

section Feedback

variable {anchor : Anchor} {ctx : Context} {feedback : Feedback}

/-- Every NACK asks for a refresh. -/
theorem type_of_dynamicEstablished (h : (applyFeedbackToContext ctx feedback).rohcState = .dynamicEstablished) :
    feedback.type = .ack := by
  unfold applyFeedbackToContext at h
  dsimp only at h
  split at h
  · assumption
  · cases h
  · split at h
    · cases h
    · cases h

theorem applyFeedbackToContext_txCount (ctx : Context) (feedback : Feedback) :
    (applyFeedbackToContext ctx feedback).txCount = ctx.txCount ∨
      (applyFeedbackToContext ctx feedback).txCount = 0 ∨ (applyFeedbackToContext ctx feedback).txCount = 1 := by
  unfold applyFeedbackToContext
  dsimp only
  split
  · left
    unfold acknowledge
    dsimp only
    split
    · rfl
    · rfl
  · exact .inr (.inl rfl)
  · split
    · exact .inr (.inl rfl)
    · exact .inr (.inr rfl)

/-- An ACK without the current revision leaves the window alone. -/
theorem applyFeedbackToContext_plain (ctx : Context) (htype : feedback.type = .ack) (hv : feedback.acknowledgmentValid = false) :
    (applyFeedbackToContext ctx feedback).profileReplacementPending = ctx.profileReplacementPending ∧
      (applyFeedbackToContext ctx feedback).txCount = ctx.txCount ∧
      (applyFeedbackToContext ctx feedback).formalPt0SinceConfirmation = ctx.formalPt0SinceConfirmation := by
  unfold applyFeedbackToContext acknowledge
  simp [htype, hv]

/-- An ACK of the current revision starts the count at its distance. -/
theorem applyFeedbackToContext_confirmed {acked : UInt16} (htype : feedback.type = .ack)
    (h : Correlated ctx feedback acked) :
    (applyFeedbackToContext ctx feedback).formalPt0SinceConfirmation = (ctx.msn - acked).toUInt8 := by
  unfold applyFeedbackToContext acknowledge
  simp [htype, h.valid, h.revision, h.distance]

theorem AnchorHolds.fed (h : AnchorHolds anchor ctx) {anchor' : Anchor}
    (hw : InWindow (applyFeedbackToContext ctx feedback) → Covered anchor' (applyFeedbackToContext ctx feedback)) :
    AnchorHolds anchor' (applyFeedbackToContext ctx feedback) := by
  have hk := applyFeedbackToContext_keeps ctx feedback
  refine ⟨hk.reorderRatio.trans h.ratio, fun hu => ?_, hw⟩
  rcases applyFeedbackToContext_txCount ctx feedback with htx | htx
  · rw [htx]
    exact h.unused (hk.used.symm.trans hu)
  · exact htx

/-- Feedback without an MSN. -/
theorem AnchorHolds.plain (h : AnchorHolds anchor ctx) (hv : feedback.acknowledgmentValid = false) :
    AnchorHolds anchor (applyFeedbackToContext ctx feedback) := by
  refine h.fed fun hw => ?_
  have hk := applyFeedbackToContext_keeps ctx feedback
  have htype := type_of_dynamicEstablished hw.state
  obtain ⟨hpend, htx, hcount⟩ := applyFeedbackToContext_plain ctx htype hv
  have hin : InWindow ctx := by
    refine ⟨?_, hk.used.symm.trans hw.used, hpend.symm.trans hw.free, applyFeedbackToContext_state hw.state, ?_⟩
    · rw [← hk.profile]
      exact hw.profile
    · rw [← hk.msn, hw.msn, htx]
  obtain ⟨r, hr, hle⟩ := h.window hin
  refine ⟨r, hr, ?_⟩
  rw [hk.msn, hcount]
  exact hle

/-- The distance of an accepted ACK fits the counter. -/
theorem toUInt8_distance {d : UInt16} (h : d ≤ 14) : d.toUInt8.toNat = d.toNat := by
  have hd : d.toNat ≤ 14 := UInt16.le_iff_toNat_le.mp h
  rw [UInt16.toNat_toUInt8]
  omega

/-- Feedback that acknowledges an MSN. -/
theorem AnchorHolds.confirmed (h : AnchorHolds anchor ctx) {acked : UInt16} (hc : Correlated ctx feedback acked) :
    AnchorHolds (if feedback.type = .ack then anchor.confirm ctx.msn acked else anchor)
      (applyFeedbackToContext ctx feedback) := by
  refine h.fed fun hw => ?_
  have hk := applyFeedbackToContext_keeps ctx feedback
  have htype := type_of_dynamicEstablished hw.state
  rw [if_pos htype]
  have hformal : profileUsesFormalPt0 ctx.profile = true := by
    rw [← hk.profile]
    exact (countsMsn_ne hw.profile).2.2
  have hle : ctx.msn - acked ≤ 14 := by
    have hwin := hc.window hformal
    simpa [formalPt0ForwardLimit, h.ratio] using hwin
  have hcount : (applyFeedbackToContext ctx feedback).formalPt0SinceConfirmation.toNat = (ctx.msn - acked).toNat := by
    rw [applyFeedbackToContext_confirmed htype hc, toUInt8_distance hle]
  unfold Covered
  rw [hk.msn, hcount]
  unfold Anchor.confirm
  dsimp only
  cases hir : anchor.ir with
  | none => exact ⟨acked, by simp, Nat.le_refl _⟩
  | some ir =>
    by_cases hlt : ctx.msn - acked < ctx.msn - ir
    · exact ⟨acked, by simp [hlt], Nat.le_refl _⟩
    · refine ⟨ir, by simp [hlt], ?_⟩
      exact UInt16.le_iff_toNat_le.mp (UInt16.not_lt.mp hlt)

end Feedback

/-! ### Branches -/

section Branch

variable {comp : Compressor} {packet : Bytes} {view : ParsedIpView} {a b : Context} {anchor anchor' : Anchor}

theorem runBranch_eq (comp : Compressor) (packet : Bytes) (view : ParsedIpView) (a : Context) :
    runBranch comp packet view a =
      (comp.job packet view).compressAs a (chooseProfile packet view) (prepared comp packet view a) := rfl

theorem AnchorHolds.start (h : AnchorHolds anchor a) (comp : Compressor) (packet : Bytes) (view : ParsedIpView) :
    (prepared comp packet view a).reorderRatio = 0 ∧
      ((prepared comp packet view a).profileHasBeenUsed = false →
        (prepared comp packet view a).txCount = 0 ∨ (prepared comp packet view a).txCount = 1) := by
  rcases prepareContext_cases comp a (chooseProfile packet view) with hcont | hr
  · refine ⟨hcont.reorderRatio.trans h.ratio, fun hu => ?_⟩
    have htx : (prepared comp packet view a).txCount = a.txCount := hcont.txCount
    rw [htx]
    exact h.unused (hcont.used.symm.trans hu)
  · exact ⟨hr.reorderRatio, fun hu => nomatch hu.symm.trans hr.used⟩

/-- A context in another profile needs no reference. -/
theorem AnchorHolds.of_profile (hratio : b.reorderRatio = 0)
    (hunused : b.profileHasBeenUsed = false → b.txCount = 0 ∨ b.txCount = 1) (hp : countsMsn b.profile = false) :
    AnchorHolds anchor b :=
  ⟨hratio, hunused, fun hw => nomatch hp.symm.trans hw.profile⟩

theorem AnchorHolds.whole (h : AnchorHolds anchor a) (hw : chooseProfile packet view = .uncompressed)
    (hb : b = prepared comp packet view a ∨ b = Job.capturedWhole (prepared comp packet view a)) :
    AnchorHolds anchor b := by
  obtain ⟨hratio, hunused⟩ := h.start comp packet view
  rcases hb with rfl | rfl
  · refine ⟨hratio, hunused, fun hin => ?_⟩
    rw [prepared_whole hw] at hin ⊢
    exact h.window ⟨hin.profile, hin.used, hin.free, hin.state, hin.msn⟩
  · exact .of_profile hratio nofun rfl

/-- A branch that fails leaves the window as it is, or with an MSN that no PT-0 can follow. -/
theorem AnchorHolds.branchFails (h : AnchorHolds anchor a) {out : Outcome Bytes} (hfail : out.isOk = false)
    (run : runBranch comp packet view a = (out, b)) : AnchorHolds anchor b := by
  obtain ⟨hratio, hunused⟩ := h.start comp packet view
  cases runBranch_cases run with
  | sends => cases hfail
  | whole => cases hfail
  | wholeFails failed whole left => exact h.whole whole left
  | fails failed compressed worked =>
    refine ⟨worked.reorderRatio.trans hratio, fun hu => ?_, fun hin => ?_⟩
    · rw [worked.txCount]
      exact hunused (worked.used.symm.trans hu)
    · have hp : countsMsn (chooseProfile packet view) = true := by
        rw [← worked.profile]
        exact hin.profile
      have hmsn := Job.compressAs_fail_msn (comp.job packet view) a (prepared comp packet view a)
        (countsMsn_eq hp) (by rw [← runBranch_eq, run]; exact hfail)
      rw [← runBranch_eq, run] at hmsn
      rcases hmsn with hmsn | ⟨hcap, hmsn⟩
      · have hne : b.msn = b.txCount.toUInt16 + 1 := by
          rw [worked.txCount]
          exact hmsn
        exact absurd (hin.msn.symm.trans hne) (by simp)
      · rcases prepareContext_cases comp a (chooseProfile packet view) with hcont | hr
        · have hfree : (prepared comp packet view a).profileReplacementPending = false := by
            cases hpend : (prepared comp packet view a).profileReplacementPending with
            | false => rfl
            | true => exact nomatch hin.free.symm.trans (hcap.pending hpend)
          have hwin : InWindow a := by
            refine hcont.inWindow hp (hcont.used.symm.trans (worked.used.symm.trans hin.used)) hfree
              (hcap.state.symm.trans hin.state) ?_
            have hm : (prepared comp packet view a).msn = b.txCount.toUInt16 := hmsn.symm.trans hin.msn
            rw [worked.txCount] at hm
            exact hm
          obtain ⟨r, hr, hle⟩ := h.window hwin
          refine ⟨r, hr, ?_⟩
          have hm : b.msn = a.msn := hmsn.trans hcont.msn
          have hn : b.formalPt0SinceConfirmation = a.formalPt0SinceConfirmation := hcap.count.trans hcont.count
          rw [hm, hn]
          exact hle
        · exact nomatch hin.free.symm.trans (hcap.pending hr.pending)

/-- A branch of another profile needs no reference. -/
theorem AnchorHolds.branchOther (h : AnchorHolds anchor a) {unit : Bytes}
    (run : runBranch comp packet view a = (.ok unit, b)) (hp : countsMsn (chooseProfile packet view) = false) :
    AnchorHolds anchor' b := by
  obtain ⟨hratio, hunused⟩ := h.start comp packet view
  cases runBranch_cases run with
  | fails failed => cases failed
  | wholeFails failed => cases failed
  | whole => exact .of_profile hratio nofun rfl
  | @sends _ header mid compressed captured emitted front =>
    have hmid : mid.reorderRatio = (capturedBy comp packet view a).reorderRatio := by
      cases emitted with
      | _ => rfl
    refine .of_profile (hmid.trans (captured.reorderRatio.trans hratio)) nofun ?_
    rw [(runBranch_cases run).profile_eq]
    exact hp

/-- A unit that goes out: an IR is the new reference, a PT-0 moves on by one, and so does a private unit, uncounted. -/
theorem AnchorHolds.branchSends {sent : Sent} (h : AnchorHolds anchor sent.before)
    (run : runBranch comp packet view sent.before = (.ok sent.unit, sent.after))
    (hp : countsMsn (chooseProfile packet view) = true)
    (hfo : (comp.job packet view).foDue (prepared comp packet view sent.before) (chooseProfile packet view) = true →
      sent.before.msn = sent.before.txCount.toUInt16) : AnchorHolds (anchor.sent sent) sent.after := by
  obtain ⟨hratio, -⟩ := h.start comp packet view
  obtain ⟨hl, hu, -⟩ := countsMsn_ne hp
  have hcap := Job.captured_captured (comp.job packet view) (prepared comp packet view sent.before) hl hu
  obtain ⟨header, mid, hsend, hpre, hafter⟩ :=
    Job.compressAs_sends sent.before (prepared comp packet view sent.before) (countsMsn_eq hp) run
  have hfirst : sent.IsIr → AnchorHolds (anchor.sent sent) sent.after := by
    intro hir
    have hmid : mid.reorderRatio = (capturedBy comp packet view sent.before).reorderRatio := by
      cases hsend with
      | _ => rfl
    have hanchor : anchor.sent sent = { ir := some sent.after.msn, reference := some sent.after.msn } := if_pos hir
    rw [hanchor, hafter]
    refine ⟨hmid.trans (hcap.reorderRatio.trans hratio), nofun, fun _ => ⟨_, rfl, ?_⟩⟩
    simp
  by_cases hir : sent.IsIr
  · exact hfirst hir
  unfold Anchor.sent
  rw [if_neg hir, hafter]
  cases hsend with
  | ir state front =>
    refine absurd ?_ hir
    unfold Sent.IsIr
    rw [hafter]
    exact front.trans hpre
  | pt0 crc compact due next valid =>
    obtain ⟨hin, hlt, hmsn, hcount⟩ := inWindow_of_compact h hp compact (.inr next)
    have hpt0 : sent.IsPt0 := by
      refine ⟨hir, ?_⟩
      rw [hafter]
      exact congrArg (· + 1) hcount
    rw [if_pos hpt0]
    refine ⟨hcap.reorderRatio.trans hratio, nofun, fun _ => ?_⟩
    obtain ⟨r, hr, hle⟩ := h.window hin
    refine ⟨r, hr, ?_⟩
    change ((capturedBy comp packet view sent.before).msn - r).toNat ≤
      ((capturedBy comp packet view sent.before).formalPt0SinceConfirmation + 1).toNat + anchor.uncounted
    rw [hmsn, hcount, count_succ hlt, Nat.add_right_comm]
    exact (distance_succ hle).1
  | fo compact due =>
    obtain ⟨hin, -, hmsn, hcount⟩ := inWindow_of_compact h hp compact (.inl (hfo due))
    have hpt0 : ¬sent.IsPt0 := by
      rintro ⟨-, hcounted⟩
      rw [hafter] at hcounted
      have hsame : sent.before.formalPt0SinceConfirmation = sent.before.formalPt0SinceConfirmation + 1 :=
        hcount.symm.trans hcounted
      exact absurd hsame (by simp)
    rw [if_neg hpt0]
    refine ⟨hcap.reorderRatio.trans hratio, nofun, fun _ => ?_⟩
    obtain ⟨r, hr, hle⟩ := h.window hin
    refine ⟨r, hr, ?_⟩
    change ((capturedBy comp packet view sent.before).msn - r).toNat ≤
      (capturedBy comp packet view sent.before).formalPt0SinceConfirmation.toNat + (anchor.uncounted + 1)
    rw [hmsn, hcount]
    exact (distance_succ hle).1

end Branch

/-! ### Acts -/

section Acts

variable {handle : CompHandle} {anchor : Nat → Anchor} {act : CompAct} {cid : Nat}

/-- What an act that sends nothing on a CID and brings no feedback for it leaves alone. -/
theorem noteAnchor_of_silent (hs : ∀ sent, handle.sends act = some sent → sent.cid ≠ cid)
    (hf : ∀ element, handle.feeds act = some element → element.cid ≠ cid) :
    noteAnchor anchor handle act cid = anchor cid := by
  unfold noteAnchor
  cases hsend : handle.sends act with
  | some sent =>
    dsimp only
    rw [if_neg (hs sent hsend)]
  | none =>
    have hnone : handle.confirms act cid = none := by
      unfold CompHandle.confirms
      cases hfeed : handle.feeds act with
      | none => rfl
      | some element =>
        cases handle.context cid with
        | none => rfl
        | some ctx => simp [hf element hfeed]
    rw [hnone]

theorem noteAnchor_of_sends {sent : Sent} (hs : handle.sends act = some sent) :
    noteAnchor anchor handle act sent.cid = (anchor sent.cid).sent sent := by
  unfold noteAnchor
  simp [hs]

theorem sends_of_feeds {element : Feedback} (h : handle.feeds act = some element) : handle.sends act = none := by
  cases hs : handle.sends act with
  | none => rfl
  | some sent =>
    obtain ⟨-, packet, view, hb, -⟩ := branches_of_sends hs
    exact nomatch (branches_of_feeds h).symm.trans hb

/-- Feedback for a CID: legacy elements carry no MSN, the others were checked against the context. -/
theorem feeds_cases {element : Feedback} (h : handle.feeds act = some element) :
    element.acknowledgmentValid = false ∨
      ∃ ctx acked, handle.context element.cid = some ctx ∧ Correlated ctx element acked := by
  cases act with
  | element cid type mode =>
    cases h
    exact .inl rfl
  | deliverFeedbackV1 record =>
    have hc : (correlateFeedbackV1 handle.direction handle.core record).toOption = some element := h
    right
    cases he : correlateFeedbackV1 handle.direction handle.core record with
    | error status =>
      rw [he] at hc
      cases hc
    | ok parsed =>
      rw [he] at hc
      cases hc
      exact correlateFeedbackV1_ok he
  | _ => cases h

theorem noteAnchor_of_plain {element : Feedback} (h : handle.feeds act = some element)
    (hv : element.acknowledgmentValid = false) : noteAnchor anchor handle act cid = anchor cid := by
  have hnone : handle.confirms act cid = none := by
    unfold CompHandle.confirms
    rw [h]
    cases handle.context cid with
    | none => rfl
    | some ctx => simp [hv]
  unfold noteAnchor
  rw [sends_of_feeds h, hnone]

theorem noteAnchor_of_correlated {element : Feedback} {ctx : Context} {acked : UInt16}
    (h : handle.feeds act = some element) (hctx : handle.context element.cid = some ctx)
    (hc : Correlated ctx element acked) :
    noteAnchor anchor handle act element.cid =
      if element.type = .ack then (anchor element.cid).confirm ctx.msn acked else anchor element.cid := by
  unfold noteAnchor
  rw [sends_of_feeds h]
  by_cases htype : element.type = .ack
  · have hsome : handle.confirms act element.cid = some (ctx, acked) := by
      simp [CompHandle.confirms, h, hctx, htype, hc.valid, hc.newest]
    rw [hsome, if_pos htype]
  · have hnone : handle.confirms act element.cid = none := by
      simp [CompHandle.confirms, h, hctx, htype]
    rw [hnone, if_neg htype]

/-- Every context has its anchor. -/
def AnchorsHold (handle : CompHandle) (anchor : Nat → Anchor) : Prop :=
  ∀ cid ctx, handle.context cid = some ctx → AnchorHolds (anchor cid) ctx

theorem anchorsHold_act (h : AnchorsHold handle anchor) (hok : WindowFits (handle, anchor) act) :
    AnchorsHold (handle.act act) (noteAnchor anchor handle act) := by
  intro cid b hb
  obtain ⟨a, ha, ht⟩ := context_act hb
  have hold := h cid a ha
  cases ht with
  | same unfed rests =>
    rw [noteAnchor_of_silent (fun sent hs hc => ?_) unfed]
    · exact hold
    · obtain ⟨hcid, packet, view, hbr, -⟩ := branches_of_sends hs
      exact nomatch (rests (hcid.symm.trans hc)).symm.trans hbr
  | mode mode set =>
    subst set
    exact ⟨hold.ratio, hold.unused, fun hw => hold.window ⟨hw.profile, hw.used, hw.free, hw.state, hw.msn⟩⟩
  | @feedback element feeds here =>
    subst here
    rcases feeds_cases feeds with hv | ⟨ctx, acked, hctx, hc⟩
    · rw [noteAnchor_of_plain feeds hv]
      exact hold.plain hv
    · cases hctx.symm.trans ha
      rw [noteAnchor_of_correlated feeds hctx hc]
      exact hold.confirmed hc
  | @branch packet view out b here runs run =>
    subst here
    have hquiet : ∀ element, handle.feeds act = some element → element.cid ≠ handle.core.currentCid :=
      fun element hf => nomatch (feeds_of_branches runs).symm.trans hf
    have hfits : packetFits handle (anchor handle.core.currentCid) act packet view a = true := by
      simpa [WindowFits, runs] using hok
    have hfo : countsMsn (chooseProfile packet view) = true →
        ((handle.core.job packet view).foDue (prepared handle.core packet view a) (chooseProfile packet view) = true →
          a.msn = a.txCount.toUInt16) ∧ (out.isOk = true → (handle.sends act).isSome) := by
      intro hp
      simp only [packetFits, hp, run, Bool.not_true, Bool.false_or, Bool.and_eq_true, Bool.or_eq_true,
        decide_eq_true_eq] at hfits
      refine ⟨fun hdue => hfits.1.2.resolve_left fun hn => ?_, fun ho => hfits.2.resolve_left fun hn => ?_⟩
      · rw [hdue] at hn
        cases hn
      · rw [ho] at hn
        cases hn
    cases hsend : handle.sends act with
    | none =>
      rw [noteAnchor_of_silent (fun sent hs => nomatch hsend.symm.trans hs) hquiet]
      cases out with
      | ok unit =>
        cases hp : countsMsn (chooseProfile packet view) with
        | false => exact hold.branchOther run hp
        | true =>
          have hsome := (hfo hp).2 rfl
          rw [hsend] at hsome
          cases hsome
      | reject => exact hold.branchFails rfl run
      | fault => exact hold.branchFails rfl run
    | some sent =>
      obtain ⟨hcid, packet', view', runs', run'⟩ := branches_of_sends hsend
      cases runs.symm.trans runs'
      cases run.symm.trans run'
      rw [← hcid, noteAnchor_of_sends hsend]
      rw [← hcid] at hold
      cases hp : countsMsn (chooseProfile packet view) with
      | false => exact hold.branchOther run hp
      | true => exact hold.branchSends run hp (hfo hp).1

end Acts

theorem anchorsHold_of_reaches {maxCid : Nat} {direction : Direction} {labels : List (CompAct × Option Sent)}
    {handle : CompHandle} {anchor : Nat → Anchor}
    (run : Reaches (anchorMachine.Step WindowFits) (.fresh maxCid direction, fun _ => {}) labels
      (handle, anchor)) : AnchorsHold handle anchor := by
  refine run.invariant (P := fun _ s => AnchorsHold s.1 s.2) ?_ fun {_ _ _ _} hh h => ?_
  · intro cid ctx hctx
    rw [context_fresh hctx]
    exact ⟨rfl, fun _ => .inl rfl, fun hw => nomatch hw.used⟩
  · obtain ⟨-, rfl, hok⟩ := h
    exact anchorsHold_act hh hok

/-! ## The law -/

/-- The PT-0 is at most `formal_pt0_forward_limit` ahead of the reference, and a decoder that holds nothing newer takes its
four bits for the MSN they stand for. -/
def Sent.Unaliased (sent : Sent) (reference : Option UInt16) : Prop :=
  ∃ r, reference = some r ∧ (sent.after.msn - r).toNat ≤ (formalPt0ForwardLimit sent.after).toNat ∧
    ∃ rest base, sent.unit = smallCidOctets sent.cid ++ rest ∧
      readFormalCoBase rest 1 sent.after.profile .pt0Crc3 = some base ∧
      ∀ d : Context, d.msn = r → d.reorderRatio = sent.after.reorderRatio →
        decodeForwardFormalPt0Msn d base.msn = some sent.after.msn

/-- A branch sends PT-0 units within the window. -/
theorem AnchorHolds.unaliased {comp : Compressor} {packet : Bytes} {view : ParsedIpView} {anchor : Anchor} {sent : Sent}
    (h : AnchorHolds anchor sent.before) (hcid : sent.cid = comp.currentCid)
    (run : runBranch comp packet view sent.before = (.ok sent.unit, sent.after)) (hpt0 : sent.IsPt0)
    (hp : countsMsn (chooseProfile packet view) = true)
    (hroom : (comp.job packet view).pt0Due (prepared comp packet view sent.before) (chooseProfile packet view) = true →
      anchor.uncounted = 0 ∨
        sent.before.formalPt0SinceConfirmation.toNat + anchor.uncounted < (formalPt0ForwardLimit sent.before).toNat) :
    sent.Unaliased anchor.reference := by
  obtain ⟨cid, unit, a, b⟩ := sent
  obtain ⟨hir, hcounted⟩ := hpt0
  obtain ⟨hl, hu, -⟩ := countsMsn_ne hp
  have hcap := Job.captured_captured (comp.job packet view) (prepared comp packet view a) hl hu
  obtain ⟨header, mid, hsend, ⟨rest, hpre⟩, rfl⟩ :=
    Job.compressAs_sends a (prepared comp packet view a) (countsMsn_eq hp) run
  dsimp only at h hcid hpre hcounted hroom
  subst hpre
  cases hsend with
  | ir state front => exact absurd (front.trans (List.prefix_append _ _)) hir
  | fo compact due =>
    -- A private unit is not counted.
    rcases prepareContext_cases comp a (chooseProfile packet view) with hcont | hr
    · have hsame : a.formalPt0SinceConfirmation = a.formalPt0SinceConfirmation + 1 :=
        (hcap.count.trans hcont.count).symm.trans hcounted
      exact absurd hsame (by simp)
    · exact absurd (hcap.txCount.trans hr.txCount) compact.settled.counted.1
  | pt0 crc compact due next valid =>
    obtain ⟨hin, hlt, hmsn, -⟩ := inWindow_of_compact h hp compact (.inr next)
    obtain ⟨r, hr, hle⟩ := h.window hin
    have hlimit : ∀ d : Context, d.reorderRatio = 0 → (formalPt0ForwardLimit d).toNat = 14 := by
      intro d hd
      simp [formalPt0ForwardLimit, hd]
    have hratio : (capturedBy comp packet view a).reorderRatio = 0 := hcap.reorderRatio.trans (h.start comp packet view).1
    have hcount : a.formalPt0SinceConfirmation.toNat + anchor.uncounted < 14 := by
      rcases hroom due with hnone | hcount
      · rw [hnone]
        exact UInt8.lt_iff_toNat_lt.mp hlt
      · rwa [hlimit a h.ratio] at hcount
    obtain ⟨hdist, hpos⟩ := distance_succ hle
    rw [← hmsn] at hdist hpos
    have hwithin : ((capturedBy comp packet view a).msn - r).toNat ≤ 14 := by omega
    refine ⟨r, hr, ?_, _, _, ?_, readFormalCoBase_pt0Crc3 valid (capturedBy comp packet view a).msn crc rest, ?_⟩
    · exact Nat.le_trans hwithin (Nat.le_of_eq (hlimit _ hratio).symm)
    · dsimp only
      rw [hcid, List.append_assoc]
      rfl
    · rintro d rfl hd
      refine decodeForwardFormalPt0Msn_eq (hpos (by omega)) ?_
      exact Nat.le_trans hwithin (Nat.le_of_eq (hlimit d (hd.trans hratio)).symm)

/-- **The PT-0 window.** In a run whose UDP and IP-only packets meet `WindowFits`, the last one included, every PT-0 of
these profiles lies within `formal_pt0_forward_limit` of the last IR of its CID, or of the last confirmed MSN if that is
later, and a decoder that holds this reference and lost every unit since reads its MSN right. -/
theorem pt0_unaliased {maxCid : Nat} {direction : Direction} {labels : List (CompAct × Option Sent)}
    {handle : CompHandle} {anchor : Nat → Anchor} {act : CompAct} {sent : Sent}
    (run : Reaches (anchorMachine.Step WindowFits) (.fresh maxCid direction, fun _ => {}) labels
      (handle, anchor))
    (fits : WindowFits (handle, anchor) act) (hs : handle.sends act = some sent) (hpt0 : sent.IsPt0)
    (hp : countsMsn sent.after.profile = true) : sent.Unaliased (anchor sent.cid).reference := by
  obtain ⟨hcid, packet, view, hb, hr⟩ := branches_of_sends hs
  have ha := (context_of_branches hb hr).1
  rw [← hcid] at ha
  have hp' : countsMsn (chooseProfile packet view) = true := by
    rw [← (runBranch_cases hr).profile_eq]
    exact hp
  refine (anchorsHold_of_reaches run _ _ ha).unaliased hcid hr hpt0 hp' fun hdue => ?_
  have hfits : packetFits handle (anchor sent.cid) act packet view sent.before = true := by
    rw [hcid]
    simpa [WindowFits, hb] using fits
  simp only [packetFits, hp', Bool.not_true, Bool.false_or, Bool.and_eq_true, Bool.or_eq_true,
    decide_eq_true_eq] at hfits
  refine (or_assoc.mp hfits.1.1).resolve_left fun hn => ?_
  rw [hdue] at hn
  cases hn

/-- `shortUdpPacket` with another IP-ID. -/
def numberedUdpPacket (id : UInt8) : Bytes := (shortUdpPacket.set 5 id).set 11 (206 - id)

/-- What a fresh compressor and its anchors become. -/
def anchorsAfter (acts : List CompAct) : CompHandle × (Nat → Anchor) :=
  anchorMachine.after (.fresh 0 .uplink, fun _ => {}) acts

/-- The kind of the next unit, its MSN and the reference it follows. -/
def unitAfter (acts : List CompAct) (packet : Bytes) : Option (Bool × Bool × UInt16 × Option UInt16) :=
  ((anchorsAfter acts).1.sends (.compress packet 100)).map fun sent =>
    (decide sent.IsPt0, countsMsn sent.after.profile, sent.after.msn, ((anchorsAfter acts).2 sent.cid).reference)

/-- Two refreshes, and a private unit for a packet out of sequence. -/
def refreshedFlow : List CompAct :=
  [.compress (numberedUdpPacket 1) 100, .compress (numberedUdpPacket 2) 100, .compress (numberedUdpPacket 4) 100]

theorem pt0_unaliased_udp :
    ∃ sent, (anchorsAfter refreshedFlow).1.sends (.compress (numberedUdpPacket 5) 100) = some sent ∧
      sent.IsPt0 ∧ sent.Unaliased (some 2) := by
  obtain ⟨hallowed, fits, hs⟩ : anchorMachine.Allowed WindowFits (.fresh 0 .uplink, fun _ => {}) refreshedFlow ∧
      WindowFits (anchorsAfter refreshedFlow) (.compress (numberedUdpPacket 5) 100) ∧
      unitAfter refreshedFlow (numberedUdpPacket 5) = some (true, true, 4, some 2) := by decide +kernel
  obtain ⟨sent, hsent, he⟩ := Option.map_eq_some_iff.mp hs
  simp only [Prod.mk.injEq, decide_eq_true_eq] at he
  have run : Reaches (anchorMachine.Step WindowFits) (.fresh 0 .uplink, fun _ => {})
      (anchorMachine.trace (.fresh 0 .uplink, fun _ => {}) refreshedFlow) (anchorsAfter refreshedFlow) :=
    Machine.reaches_trace hallowed
  generalize anchorsAfter refreshedFlow = last at run fits hsent he
  refine ⟨sent, hsent, he.1, ?_⟩
  rw [← he.2.2.2]
  exact pt0_unaliased run fits hsent he.1 he.2.1

/-- `shortUdpPacket` with its UDP checksum. -/
def checkedUdpPacket : Bytes := (shortUdpPacket.set 26 217).set 27 33

/-- Two refreshes, fourteen private units and no confirmation. -/
def privateFlow : List CompAct :=
  List.replicate 15 (.compress checkedUdpPacket 100) ++ [.compress (numberedUdpPacket 2) 100]

/-- Without the condition: the private units of a flow with checksums use up the window uncounted, and when the checksum is
left out the PT-0 is fifteen ahead of the last IR. -/
theorem pt0_beyond_window :
    ¬∀ (maxCid : Nat) (direction : Direction) (labels : List (CompAct × Option Sent)) (handle : CompHandle)
      (anchor : Nat → Anchor) (act : CompAct) (sent : Sent),
      Reaches (anchorMachine.Step fun _ _ => True) (.fresh maxCid direction, fun _ => {}) labels (handle, anchor) →
        handle.sends act = some sent → sent.IsPt0 → countsMsn sent.after.profile = true →
        sent.Unaliased (anchor sent.cid).reference := by
  intro h
  have hs : unitAfter privateFlow (numberedUdpPacket 3) = some (true, true, 17, some 2) := by decide +kernel
  obtain ⟨sent, hsent, he⟩ := Option.map_eq_some_iff.mp hs
  simp only [Prod.mk.injEq, decide_eq_true_eq] at he
  have run : Reaches (anchorMachine.Step fun _ _ => True) (.fresh 0 .uplink, fun _ => {})
      (anchorMachine.trace (.fresh 0 .uplink, fun _ => {}) privateFlow) (anchorsAfter privateFlow) := by
    refine Machine.reaches_trace ?_
    repeat' constructor
  generalize anchorsAfter privateFlow = last at run hsent he
  obtain ⟨r, hr, hle, -⟩ := h _ _ _ last.1 last.2 _ sent run hsent he.1 he.2.1
  rw [he.2.2.2] at hr
  cases hr
  rw [he.2.2.1] at hle
  have hlimit : (formalPt0ForwardLimit sent.after).toNat ≤ 14 := by
    unfold formalPt0ForwardLimit
    split_ifs <;> decide
  exact absurd (Nat.le_trans hle hlimit) (by decide)

end Rohccxx
