import Rohccxx.Capture
import Rohccxx.IrRoundTrip

/-!
# What a branch of the compressor sends

A branch that succeeds captured the packet, chose one unit and appended the payload. `Captured` contexts are given as
functions of the context the branch found; the choice is an inductive relation for each profile, with the test that led
to each unit.
-/

set_option autoImplicit false

namespace Rohccxx

open Octets

namespace Job

open Proc

variable {job : Job}

/-! ## Captured contexts -/

/-- Behind the IP header. -/
def capturedIp (job : Job) (profile : Profile) (previous : Context) : Context :=
  (captureIpContext { previous with profile := profile, mode := job.mode } job.packet job.view).2

/-- The IP header could be captured. -/
def capturesIp (job : Job) (profile : Profile) (previous : Context) : Bool :=
  (captureIpContext { previous with profile := profile, mode := job.mode } job.packet job.view).1

/-- With the IP-ID behaviour of the profiles that keep one. -/
def capturedBehavior (job : Job) (profile : Profile) (previous : Context) : Context :=
  let had := decide (previous.ipVersion = 4 ∧ previous.txCount > 0)
  noteBehaviorChange previous had (updateIpv4IdBehavior (job.capturedIp profile previous) had previous.ipv4Id)

def capturedUdp (job : Job) (previous : Context) : Context := job.captureUdp (job.capturedBehavior .udp previous)

def capturedEsp (job : Job) (previous : Context) : Context := job.captureEsp (job.capturedBehavior .esp previous)

def capturedIpOnly (job : Job) (previous : Context) : Context := countMsn (job.capturedBehavior .ip previous)

def capturedUdpLite (job : Job) (previous : Context) : Context :=
  job.captureUdpHeader (job.capturedIp .udpLite previous)

/-- The octets behind the UDP header. -/
def rtpPacket (job : Job) : Bytes := job.packet.drop (job.view.headerLen + 8)

/-- What both RTP branches capture: whether a private unit is safe, and the context. -/
def capturedRtp (job : Job) (profile : Profile) (previous : Context) : Bool × Context :=
  let header := job.captureRtpHeader previous (job.capturedIp profile previous)
  (header.1, (captureRtpContext header.2 job.rtpPacket).2)

/-- Where the RTP payload lies, when the RTP header could be captured. -/
def rtpView (job : Job) (profile : Profile) (previous : Context) : Option RtpPayloadView :=
  (captureRtpContext (job.captureRtpHeader previous (job.capturedIp profile previous)).2 job.rtpPacket).1

theorem captureCommon_ensures (ctx : Context) :
    Ensures job.captureCommon (fun _ s => (captureIpContext ctx job.packet job.view).1 = true ∧
      s = (captureIpContext ctx job.packet job.view).2) ctx := by
  intro u s h
  unfold captureCommon at h
  split at h
  · rename_i ctx' he
    cases h
    rw [he]
    exact ⟨rfl, rfl⟩
  · cases h

theorem captureWithBehavior_ensures (profile : Profile) (previous : Context) :
    Ensures (job.captureWithBehavior profile) (fun _ s => job.capturesIp profile previous = true ∧
      s = job.capturedBehavior profile previous) previous := by
  unfold captureWithBehavior
  refine .bind (.get (.bind (.modify (.bind ?_))))
  refine (captureCommon_ensures _).mono ?_
  rintro - s ⟨hok, rfl⟩
  exact .modify ⟨hok, rfl⟩

theorem captureRtp_ensures (profile : Profile) (previous : Context) :
    Ensures (job.captureRtp profile) (fun a s => job.capturesIp profile previous = true ∧
      a.1 = (job.capturedRtp profile previous).1 ∧ job.rtpView profile previous = some a.2 ∧
      s = (job.capturedRtp profile previous).2) previous := by
  unfold captureRtp
  refine .bind (.get (.bind (.modify (.bind ?_))))
  refine (captureCommon_ensures _).mono ?_
  rintro - s ⟨hok, rfl⟩
  refine .bind (.get ?_)
  dsimp only
  split
  · rename_i view ctx he
    refine .bind (.modify (.pure ⟨hok, rfl, ?_, ?_⟩))
    · exact congrArg Prod.fst he
    · exact (congrArg Prod.snd he).symm
  · exact .bind (.modify .reject)

/-! ## Payloads -/

theorem appendPayloadRange_ensures (header : Bytes) (offset len : Nat) (ctx : Context) :
    Ensures (job.appendPayloadRange header offset len) (fun unit s =>
      offset + len ≤ job.packet.length ∧ unit = header ++ slice job.packet offset len ∧
        unit.length ≤ job.cap ∧ s = finishTransmit ctx) ctx := by
  unfold appendPayloadRange
  refine .bind (.require fun h₁ => .bind (.require fun h₂ => .bind (.modify (.pure ?_))))
  simp only [decide_eq_true_eq] at h₁ h₂
  have hlen : (slice job.packet offset len).length = len := length_slice (by omega)
  refine ⟨by omega, rfl, ?_, rfl⟩
  change (header ++ slice job.packet offset len).length ≤ job.cap
  rw [List.length_append, hlen]
  exact h₂

theorem appendPayload_ensures (header : Bytes) (offset : Nat) (ctx : Context) :
    Ensures (job.appendPayload header offset) (fun unit s =>
      offset ≤ job.packet.length ∧ unit = header ++ job.packet.drop offset ∧ unit.length ≤ job.cap ∧
        s = finishTransmit ctx) ctx := by
  refine (appendPayloadRange_ensures header offset _ ctx).mono ?_
  rintro unit s ⟨h₁, rfl, h₂, rfl⟩
  refine ⟨by omega, ?_, h₂, rfl⟩
  rw [slice, List.take_of_length_le (by simp)]

/-! ## The choice of a unit -/

end Job

/-- The context with its state replaced. -/
def Context.inState (ctx : Context) (state : RohcState) : Context := { ctx with rohcState := state }

/-- The context after one more PT-0 without confirmation. -/
def Context.countPt0 (ctx : Context) : Context :=
  { ctx with formalPt0SinceConfirmation := ctx.formalPt0SinceConfirmation + 1 }

/-- What an IR emitter of a standard profile needs. -/
structure SendsIr (profile : Profile) (ctx : Context) : Prop where
  fits : CidFits ctx
  ip : StandardIp ctx
  rtp : profile = .rtp → PlainRtp ctx.rtp

/-- A compact unit is considered: no refresh is due. -/
structure Compact (ctx : Context) : Prop where
  ir : shouldEmitIr ctx = false
  irDyn : shouldEmitIrDyn ctx = false

/-- A refresh of a standard profile: the unit is a whole IR, whatever state the context is in afterwards. -/
structure Refreshed (profile : Profile) (ctx : Context) (header : Bytes) (after : Context) : Prop where
  sends : SendsIr profile ctx
  header : header = irUnit profile ctx
  after : ∃ state, after = ctx.inState state

namespace Job

open Proc

variable {job : Job}

theorem emitIn_refreshed {profile : Profile} {emitter : Nat → Context → Option Bytes}
    (he : ∀ cap ctx unit, emitter cap ctx = some unit → SendsIr profile ctx ∧ unit = irUnit profile ctx)
    (state : RohcState) (ctx : Context) :
    Ensures (job.emitIn state emitter) (fun header s => Refreshed profile ctx header s ∧ s = ctx.inState state) ctx := by
  unfold emitIn
  refine .bind (.modify (.bind (.get (.ofOption fun unit hu => ?_))))
  obtain ⟨hs, rfl⟩ := he _ _ _ hu
  exact ⟨⟨⟨hs.fits, hs.ip, hs.rtp⟩, rfl, state, rfl⟩, rfl⟩

theorem emitIrUdp_sends {cap : Nat} {ctx : Context} {unit : Bytes} (h : emitIrUdp cap ctx = some unit) :
    SendsIr .udp ctx ∧ unit = irUnit .udp ctx := by
  obtain ⟨h₁, h₂, h₃⟩ := emitIrUdp_eq h
  exact ⟨⟨h₁, h₂, nofun⟩, h₃⟩

theorem emitIrEsp_sends {cap : Nat} {ctx : Context} {unit : Bytes} (h : emitIrEsp cap ctx = some unit) :
    SendsIr .esp ctx ∧ unit = irUnit .esp ctx := by
  obtain ⟨h₁, h₂, h₃⟩ := emitIrEsp_eq h
  exact ⟨⟨h₁, h₂, nofun⟩, h₃⟩

theorem emitIrIp_sends {cap : Nat} {ctx : Context} {unit : Bytes} (h : emitIrIp cap ctx = some unit) :
    SendsIr .ip ctx ∧ unit = irUnit .ip ctx := by
  obtain ⟨h₁, h₂, h₃⟩ := emitIrIp_eq h
  exact ⟨⟨h₁, h₂, nofun⟩, h₃⟩

theorem emitIrRtp_sends {cap : Nat} {ctx : Context} {unit : Bytes} (h : emitIrRtp cap ctx = some unit) :
    SendsIr .rtp ctx ∧ unit = irUnit .rtp ctx := by
  obtain ⟨h₁, h₂, h₃, h₄⟩ := emitIrRtp_eq h
  exact ⟨⟨h₁, h₂, fun _ => h₃⟩, h₄⟩

theorem emitPt0_ensures (formal : Bytes) (ctx : Context) :
    Ensures (job.emitPt0 formal) (fun header s => header = formal ∧ s = ctx.countPt0) ctx := by
  unfold emitPt0
  exact .bind (.require fun _ => .bind (.modify (.pure ⟨rfl, rfl⟩)))

/-! ### UDP -/

/-- The units of the UDP branch; `previous` is the context it found, `ctx` the captured one. -/
inductive SendsUdp (job : Job) (previous ctx : Context) : Bytes → Context → Prop where
  | refresh {header : Bytes} {after : Context} (h : Refreshed .udp ctx header after) :
    SendsUdp job previous ctx header after
  | pt0 {formal : Bytes} (compact : Compact ctx) (small : ctx.largeCid = false)
    (reconstructable : udpPt0Reconstructable previous ctx = true)
    (formed : job.unambiguousPt0Crc3 (ctx.inState .dynamicEstablished) (job.view.headerLen + 8) = some formal) :
    SendsUdp job previous ctx formal (ctx.inState .dynamicEstablished).countPt0
  | privateFo {unit header : Bytes} (compact : Compact ctx)
    (formed : emitUdpFo job.cap (ctx.inState .dynamicEstablished) = some unit)
    (unambiguous : privateUdpFoIsFormalPt0Ambiguous previous unit (job.packet.drop (job.view.headerLen + 8)) = false)
    (framed : (if ctx.largeCid then some unit else job.prependSmallCid unit) = some header) :
    SendsUdp job previous ctx header (ctx.inState .dynamicEstablished)

theorem emitUnambiguousPrivateUdpFo_ensures {previous ctx : Context} (compact : Compact ctx) :
    Ensures (job.emitUnambiguousPrivateUdpFo previous (job.packet.drop (job.view.headerLen + 8)))
      (SendsUdp job previous ctx) (ctx.inState .dynamicEstablished) := by
  unfold emitUnambiguousPrivateUdpFo
  refine .bind (.get (.bind (.ofOption fun unit hu => .ite (fun hamb => ?_) fun hamb => ?_)))
  · refine .bind (.ofOption fun ir hir => .bind (.modify (.pure ?_)))
    obtain ⟨hs, rfl⟩ := emitIrUdp_sends hir
    exact .refresh ⟨⟨hs.fits, hs.ip, hs.rtp⟩, rfl, _, rfl⟩
  · refine .ofOption fun header hh => ?_
    exact .privateFo compact hu (by simpa using hamb) hh

theorem emitUdpUnit_ensures (previous ctx : Context) :
    Ensures (job.emitUdpUnit previous) (SendsUdp job previous ctx) ctx := by
  unfold emitUdpUnit
  refine .bind (.get (.ite (fun _ => ?_) fun hir => .ite (fun _ => ?_) fun hdyn => .bind (.modify ?_)))
  · exact (emitIn_refreshed (fun _ _ _ => emitIrUdp_sends) _ _).mono fun _ _ h => .refresh h.1
  · exact (emitIn_refreshed (fun _ _ _ => emitIrUdp_sends) _ _).mono fun _ _ h => .refresh h.1
  · have compact : Compact ctx := ⟨by simpa using hir, by simpa using hdyn⟩
    unfold emitCompactUdp
    refine .bind (.get (.ite (fun hrec => ?_) fun _ => emitUnambiguousPrivateUdpFo_ensures compact))
    simp only [Bool.and_eq_true, Bool.not_eq_true', decide_eq_true_eq] at hrec
    split
    · rename_i formal hformal
      refine (emitPt0_ensures formal _).mono ?_
      rintro _ _ ⟨rfl, rfl⟩
      exact .pt0 compact hrec.1.1 hrec.2 hformal
    · exact emitUnambiguousPrivateUdpFo_ensures compact

/-- **The UDP branch**: capture, one unit, the payload. -/
theorem compressUdp_ensures (previous : Context) :
    Ensures job.compressUdp (fun unit after => ∃ header state, job.capturesIp .udp previous = true ∧
      SendsUdp job previous (job.capturedUdp previous) header state ∧
      job.view.headerLen + 8 ≤ job.packet.length ∧ unit = header ++ job.packet.drop (job.view.headerLen + 8) ∧
      unit.length ≤ job.cap ∧ after = finishTransmit state) previous := by
  unfold compressUdp
  refine .bind (.get (.bind ((captureWithBehavior_ensures .udp previous).mono ?_)))
  rintro - s ⟨hok, rfl⟩
  refine .bind (.modify (.bind ((emitUdpUnit_ensures previous _).mono fun header state hsend => ?_)))
  refine (appendPayload_ensures header _ state).mono ?_
  rintro unit after ⟨h₁, rfl, h₂, rfl⟩
  exact ⟨header, state, hok, hsend, h₁, rfl, h₂, rfl⟩

/-! ### IP-only -/

/-- The units of the IP-only branch. -/
inductive SendsIp (job : Job) (previous ctx : Context) : Bytes → Context → Prop where
  | refresh {header : Bytes} {after : Context} (h : Refreshed .ip ctx header after) :
    SendsIp job previous ctx header after
  | pt0 {formal : Bytes} (compact : Compact ctx) (small : ctx.largeCid = false)
    (reconstructable : ipPt0Reconstructable previous ctx = true)
    (formed : job.unambiguousPt0Crc3 (ctx.inState .dynamicEstablished) job.view.headerLen = some formal) :
    SendsIp job previous ctx formal (ctx.inState .dynamicEstablished).countPt0
  | privateFo {unit header : Bytes} (compact : Compact ctx)
    (reconstructable : ctx.ipVersion ≠ 4 ∨ ipPrivateFoReconstructable previous ctx = true)
    (formed : emitIpFo job.cap (ctx.inState .dynamicEstablished) = some unit)
    (unambiguous : ctx.largeCid = false →
      privateIpFoIsFormalPt0Ambiguous previous unit (job.packet.length - job.view.headerLen) = false)
    (framed : (if ctx.largeCid then some unit else job.prependSmallCid unit) = some header) :
    SendsIp job previous ctx header (ctx.inState .dynamicEstablished)

theorem emitUnambiguousPrivateIpFo_ensures {previous ctx : Context} (compact : Compact ctx)
    (hrec : ctx.ipVersion ≠ 4 ∨ ipPrivateFoReconstructable previous ctx = true) :
    Ensures (job.emitUnambiguousPrivateIpFo previous (job.packet.length - job.view.headerLen))
      (SendsIp job previous ctx) (ctx.inState .dynamicEstablished) := by
  unfold emitUnambiguousPrivateIpFo
  refine .bind (.get (.bind (.ofOption fun unit hu => .ite (fun hamb => ?_) fun hamb => ?_)))
  · refine .bind (.ofOption fun ir hir => .bind (.modify (.pure ?_)))
    obtain ⟨hs, rfl⟩ := emitIrIp_sends hir
    exact .refresh ⟨⟨hs.fits, hs.ip, hs.rtp⟩, rfl, _, rfl⟩
  · refine .ofOption fun header hh => ?_
    refine .privateFo compact hrec hu (fun hl => ?_) hh
    have hl' : (ctx.inState .dynamicEstablished).largeCid = false := hl
    simpa [hl'] using hamb

theorem emitIpUnit_ensures (previous ctx : Context) :
    Ensures (job.emitIpUnit previous) (SendsIp job previous ctx) ctx := by
  unfold emitIpUnit
  refine .bind (.get (.ite (fun _ => ?_) fun hir => .ite (fun _ => ?_) fun hdyn => .bind (.modify ?_)))
  · exact (emitIn_refreshed (fun _ _ _ => emitIrIp_sends) _ _).mono fun _ _ h => .refresh h.1
  · exact (emitIn_refreshed (fun _ _ _ => emitIrIp_sends) _ _).mono fun _ _ h => .refresh h.1
  · have compact : Compact ctx := ⟨by simpa using hir, by simpa using hdyn⟩
    unfold emitCompactIp
    refine .bind (.get (.ite (fun hrec => ?_) fun _ => .ite (fun hrec => ?_) fun _ => ?_))
    · simp only [Bool.and_eq_true, Bool.not_eq_true', decide_eq_true_eq] at hrec
      split
      · rename_i formal hformal
        refine (emitPt0_ensures formal _).mono ?_
        rintro _ _ ⟨rfl, rfl⟩
        exact .pt0 compact hrec.1.1 hrec.2 hformal
      · have hfo : ipPrivateFoReconstructable previous ctx = true := by
          have := hrec.2
          unfold ipPt0Reconstructable at this
          simp only [Bool.and_eq_true] at this
          exact this.1.1.1
        exact emitUnambiguousPrivateIpFo_ensures compact (Or.inr hfo)
    · exact emitUnambiguousPrivateIpFo_ensures compact hrec
    · refine (emitIn_refreshed (fun _ _ _ => emitIrIp_sends) _ _).mono fun _ _ h => .refresh ?_
      obtain ⟨⟨hs, hh, -⟩, hst⟩ := h
      exact ⟨⟨hs.fits, hs.ip, hs.rtp⟩, hh, _, hst⟩

/-- **The IP-only branch**. -/
theorem compressIp_ensures (previous : Context) :
    Ensures job.compressIp (fun unit after => ∃ header state, job.capturesIp .ip previous = true ∧
      SendsIp job previous (job.capturedIpOnly previous) header state ∧
      job.view.headerLen ≤ job.packet.length ∧ unit = header ++ job.packet.drop job.view.headerLen ∧
      unit.length ≤ job.cap ∧ after = finishTransmit state) previous := by
  unfold compressIp
  refine .bind (.get (.bind ((captureWithBehavior_ensures .ip previous).mono ?_)))
  rintro - s ⟨hok, rfl⟩
  refine .bind (.modify (.bind ((emitIpUnit_ensures previous _).mono fun header state hsend => ?_)))
  refine (appendPayload_ensures header _ state).mono ?_
  rintro unit after ⟨h₁, rfl, h₂, rfl⟩
  exact ⟨header, state, hok, hsend, h₁, rfl, h₂, rfl⟩

/-! ### ESP -/

/-- The units of the ESP branch: it has no private one. -/
inductive SendsEsp (job : Job) (previous ctx : Context) : Bytes → Context → Prop where
  | refresh {header : Bytes} {after : Context} (h : Refreshed .esp ctx header after) :
    SendsEsp job previous ctx header after
  | pt0 {formal : Bytes} (compact : Compact ctx) (small : ctx.largeCid = false)
    (reconstructable : espPt0Reconstructable previous ctx = true)
    (formed : job.unambiguousEspPt0 previous (ctx.inState .dynamicEstablished) (job.view.headerLen + 8) = some formal) :
    SendsEsp job previous ctx formal (ctx.inState .dynamicEstablished).countPt0

theorem emitEspUnit_ensures (previous ctx : Context) :
    Ensures (job.emitEspUnit previous) (SendsEsp job previous ctx) ctx := by
  have hrefresh : Ensures (job.emitIn .dynamicEstablished emitIrEsp) (SendsEsp job previous ctx)
      (ctx.inState .dynamicEstablished) := by
    refine (emitIn_refreshed (fun _ _ _ => emitIrEsp_sends) _ _).mono fun _ _ h => .refresh ?_
    obtain ⟨⟨hs, hh, -⟩, hst⟩ := h
    exact ⟨⟨hs.fits, hs.ip, hs.rtp⟩, hh, _, hst⟩
  unfold emitEspUnit
  refine .bind (.get (.ite (fun _ => ?_) fun hir => .ite (fun _ => ?_) fun hdyn => .bind (.modify ?_)))
  · exact (emitIn_refreshed (fun _ _ _ => emitIrEsp_sends) _ _).mono fun _ _ h => .refresh h.1
  · exact (emitIn_refreshed (fun _ _ _ => emitIrEsp_sends) _ _).mono fun _ _ h => .refresh h.1
  · unfold emitCompactEsp
    refine .bind (.get (.ite (fun hrec => ?_) fun _ => hrefresh))
    simp only [Bool.and_eq_true, Bool.not_eq_true', decide_eq_true_eq] at hrec
    split
    · rename_i formal hformal
      refine (emitPt0_ensures formal _).mono ?_
      rintro _ _ ⟨rfl, rfl⟩
      exact .pt0 ⟨by simpa using hir, by simpa using hdyn⟩ hrec.1.1 hrec.2 hformal
    · exact hrefresh

/-- **The ESP branch**. -/
theorem compressEsp_ensures (previous : Context) :
    Ensures job.compressEsp (fun unit after => ∃ header state, job.capturesIp .esp previous = true ∧
      SendsEsp job previous (job.capturedEsp previous) header state ∧
      job.view.headerLen + 8 ≤ job.packet.length ∧ unit = header ++ job.packet.drop (job.view.headerLen + 8) ∧
      unit.length ≤ job.cap ∧ after = finishTransmit state) previous := by
  unfold compressEsp
  refine .bind (.get (.bind ((captureWithBehavior_ensures .esp previous).mono ?_)))
  rintro - s ⟨hok, rfl⟩
  refine .bind (.require fun _ => .bind (.modify (.bind ((emitEspUnit_ensures previous _).mono ?_))))
  intro header state hsend
  refine (appendPayload_ensures header _ state).mono ?_
  rintro unit after ⟨h₁, rfl, h₂, rfl⟩
  exact ⟨header, state, hok, hsend, h₁, rfl, h₂, rfl⟩

/-! ### RTP -/

/-- The octets of the RTP payload. -/
def rtpPayload (job : Job) (view : RtpPayloadView) : Bytes :=
  slice job.packet (job.view.headerLen + 8 + view.payloadOffset) view.payloadLen

/-- The units of the RTP branch; `before` is the context the call found, before it was prepared. -/
inductive SendsRtp (job : Job) (before : Context) (safe : Bool) (view : RtpPayloadView) (ctx : Context) :
    Bytes → Context → Prop where
  | refresh {header : Bytes} {after : Context} (h : Refreshed .rtp ctx header after) :
    SendsRtp job before safe view ctx header after
  | pt0 {formal : Bytes} (compact : Compact ctx) (small : ctx.largeCid = false) (isSafe : safe = true)
    (reconstructable : rtpPt0Reconstructable before ctx = true)
    (formed : job.emitRtpPt0SmallCid ctx.msn = some formal)
    (unambiguous : job.rtpPt0Ambiguous before (u8At formal (if job.cid = 0 then 0 else 1)) (job.rtpPayload view) = false) :
    SendsRtp job before safe view ctx formal (ctx.inState .dynamicEstablished).countPt0
  | privateFo {header : Bytes} (compact : Compact ctx) (small : ctx.largeCid = false) (isSafe : safe = true)
    (check : ctx.udpCheck = before.udpCheck)
    (formed : job.emitPrivateRtp (ctx.inState .dynamicEstablished) = some header) :
    SendsRtp job before safe view ctx header (ctx.inState .dynamicEstablished)

theorem emitCompactRtp_ensures {before ctx : Context} {safe : Bool} {view : RtpPayloadView} (compact : Compact ctx)
    (small : ctx.largeCid = false) (hsafe : safe = true) :
    Ensures (job.emitCompactRtp before view) (SendsRtp job before safe view ctx)
      (ctx.inState .dynamicEstablished) := by
  have hrefresh : Ensures (Proc.ofOption (emitIrDynRtp job.cap (ctx.inState .dynamicEstablished)))
      (SendsRtp job before safe view ctx) (ctx.inState .dynamicEstablished) := by
    refine .ofOption fun ir hir => .refresh ?_
    obtain ⟨hs, rfl⟩ := emitIrRtp_sends hir
    exact ⟨⟨hs.fits, hs.ip, hs.rtp⟩, rfl, _, rfl⟩
  unfold emitCompactRtp
  refine .bind (.get (.ite (fun hrec => ?_) fun _ => .ite (fun _ => hrefresh) fun hcheck => ?_))
  · refine .bind (.ofOption fun unit hunit => .ite (fun _ => hrefresh) fun hamb => ?_)
    refine .bind (.modify (.pure ?_))
    exact .pt0 compact small hsafe hrec hunit (Bool.not_eq_true _ ▸ hamb)
  · refine .ofOption fun header hh => ?_
    exact .privateFo compact small hsafe (Decidable.not_not.mp hcheck) hh

theorem emitRtpUnit_ensures (before ctx : Context) (safe : Bool) (view : RtpPayloadView) :
    Ensures (job.emitRtpUnit before safe view) (SendsRtp job before safe view ctx) ctx := by
  have hrefresh : ∀ state, Ensures (job.emitIn state emitIrRtp) (SendsRtp job before safe view ctx) ctx := fun state =>
    (emitIn_refreshed (fun _ _ _ => emitIrRtp_sends) _ _).mono fun _ _ h => .refresh h.1
  unfold emitRtpUnit
  refine .bind (.get (.ite (fun _ => hrefresh _) fun hir => .ite (fun _ => hrefresh _) fun hdyn =>
    .ite (fun _ => hrefresh _) fun hlarge => .bind (.modify ?_)))
  simp only [Bool.or_eq_true, Bool.not_eq_true', not_or, Bool.not_eq_true, Bool.not_eq_false] at hdyn
  exact emitCompactRtp_ensures ⟨by simpa using hir, hdyn.1⟩ (by simpa using hlarge) hdyn.2

/-- **The RTP branch**. -/
theorem compressRtp_ensures (before previous : Context) :
    Ensures (job.compressRtp before) (fun unit after => ∃ header state view, job.capturesIp .rtp previous = true ∧
      job.rtpView .rtp previous = some view ∧
      SendsRtp job before (job.capturedRtp .rtp previous).1 view (job.capturedRtp .rtp previous).2 header state ∧
      unit = header ++ job.rtpPayload view ∧ unit.length ≤ job.cap ∧ after = finishTransmit state) previous := by
  unfold compressRtp
  refine .bind ((captureRtp_ensures .rtp previous).mono ?_)
  rintro ⟨safe, view⟩ s ⟨hok, rfl, hview, rfl⟩
  refine .bind ((emitRtpUnit_ensures before _ _ view).mono fun header state hsend => ?_)
  refine (appendPayloadRange_ensures header _ _ state).mono ?_
  rintro unit after ⟨h₁, rfl, h₂, rfl⟩
  exact ⟨header, state, view, hok, hview, hsend, rfl, h₂, rfl⟩

/-! ### UDP-Lite -/

/-- The units of the UDP-Lite branch. -/
inductive SendsUdpLite (job : Job) (ctx : Context) : Bytes → Context → Prop where
  | ir (first : shouldEmitIr ctx = true) (sends : SendsLite .udpLite ctx 0) :
    SendsUdpLite job ctx (liteIrUnit .udpLite ctx 0) (ctx.inState .staticEstablished)
  | irDyn (sends : SendsLite .udpLite ctx 0) (later : shouldEmitIr ctx = false) :
    SendsUdpLite job ctx (liteIrDynUnit .udpLite ctx 0) (ctx.inState .dynamicEstablished)
  | privateFo {header : Bytes} (compact : Compact ctx)
    (formed : job.emitPrivateUdpLite (ctx.inState .dynamicEstablished) = some header) :
    SendsUdpLite job ctx header (ctx.inState .dynamicEstablished)

theorem emitUdpLiteUnit_ensures (ctx : Context) : Ensures job.emitUdpLiteUnit (SendsUdpLite job ctx) ctx := by
  unfold emitUdpLiteUnit
  refine .bind (.get (.ite (fun hir => ?_) fun hir => .ite (fun hdyn => ?_) fun hdyn => ?_))
  · unfold emitIn
    refine .bind (.modify (.bind (.get (.ofOption fun unit hu => ?_))))
    obtain ⟨hs, rfl⟩ := emitIrUdpLite_eq hu
    exact .ir hir ⟨hs.fits, hs.ip, hs.extras⟩
  · unfold emitIn
    refine .bind (.modify (.bind (.get (.ofOption fun unit hu => ?_))))
    obtain ⟨hs, rfl⟩ := emitIrDynUdpLite_eq hu
    exact .irDyn ⟨hs.fits, hs.ip, hs.extras⟩ (by simpa using hir)
  · unfold emitIn
    refine .bind (.modify (.bind (.get (.ofOption fun unit hu => ?_))))
    exact .privateFo ⟨by simpa using hir, by simpa using hdyn⟩ hu

/-- **The UDP-Lite branch**. -/
theorem compressUdpLite_ensures (previous : Context) :
    Ensures job.compressUdpLite (fun unit after => ∃ header state, job.capturesIp .udpLite previous = true ∧
      SendsUdpLite job (job.capturedUdpLite previous) header state ∧
      job.view.headerLen + 8 ≤ job.packet.length ∧ unit = header ++ job.packet.drop (job.view.headerLen + 8) ∧
      unit.length ≤ job.cap ∧ after = finishTransmit state) previous := by
  unfold compressUdpLite
  refine .bind (.modify (.bind ((captureCommon_ensures _).mono ?_)))
  rintro - s ⟨hok, rfl⟩
  refine .bind (.modify (.bind ((emitUdpLiteUnit_ensures _).mono fun header state hsend => ?_)))
  refine (appendPayload_ensures header _ state).mono ?_
  rintro unit after ⟨h₁, rfl, h₂, rfl⟩
  exact ⟨header, state, hok, hsend, h₁, rfl, h₂, rfl⟩

/-! ### RTP over UDP-Lite -/

/-- The units of the RTP/UDP-Lite branch. -/
inductive SendsRtpUdpLite (job : Job) (safe : Bool) (ctx : Context) : Bytes → Context → Prop where
  | ir {bodyLen : Nat} (state : RohcState) (sends : SendsLite .rtpUdpLite ctx bodyLen) :
    SendsRtpUdpLite job safe ctx (liteIrUnit .rtpUdpLite ctx bodyLen) (ctx.inState state)
  | irDyn {bodyLen : Nat} (sends : SendsLite .rtpUdpLite ctx bodyLen) (later : shouldEmitIr ctx = false) :
    SendsRtpUdpLite job safe ctx (liteIrDynUnit .rtpUdpLite ctx bodyLen) (ctx.inState .dynamicEstablished)
  | privateFo {header : Bytes} (compact : Compact ctx) (small : ctx.largeCid = false) (isSafe : safe = true)
    (formed : job.emitPrivateRtp (ctx.inState .dynamicEstablished) = some header) :
    SendsRtpUdpLite job safe ctx header (ctx.inState .dynamicEstablished)

theorem emitRtpUdpLiteUnit_ensures (safe : Bool) (ctx : Context) :
    Ensures (job.emitRtpUdpLiteUnit safe) (SendsRtpUdpLite job safe ctx) ctx := by
  have hir : ∀ state, Ensures (job.emitIn state emitIrRtpUdpLite) (SendsRtpUdpLite job safe ctx) ctx := by
    intro state
    unfold emitIn
    refine .bind (.modify (.bind (.get (.ofOption fun unit hu => ?_))))
    obtain ⟨bodyLen, hs, rfl⟩ := emitIrRtpUdpLite_eq hu
    exact .ir state ⟨hs.fits, hs.ip, hs.extras⟩
  unfold emitRtpUdpLiteUnit
  refine .bind (.get (.ite (fun _ => hir _) fun hfirst => .ite (fun _ => ?_) fun hdyn =>
    .ite (fun _ => hir _) fun hlarge => ?_))
  · unfold emitIn
    refine .bind (.modify (.bind (.get (.ofOption fun unit hu => ?_))))
    obtain ⟨bodyLen, hs, rfl⟩ := emitIrDynRtpUdpLite_eq hu
    exact .irDyn ⟨hs.fits, hs.ip, hs.extras⟩ (by simpa using hfirst)
  · simp only [Bool.or_eq_true, Bool.not_eq_true', not_or, Bool.not_eq_true, Bool.not_eq_false] at hdyn
    unfold emitIn
    refine .bind (.modify (.bind (.get (.ofOption fun unit hu => ?_))))
    exact .privateFo ⟨by simpa using hfirst, hdyn.1⟩ (by simpa using hlarge) hdyn.2 hu

/-- **The RTP/UDP-Lite branch**. -/
theorem compressRtpUdpLite_ensures (previous : Context) :
    Ensures job.compressRtpUdpLite (fun unit after => ∃ header state view, job.capturesIp .rtpUdpLite previous = true ∧
      job.rtpView .rtpUdpLite previous = some view ∧
      SendsRtpUdpLite job (job.capturedRtp .rtpUdpLite previous).1 (job.capturedRtp .rtpUdpLite previous).2 header state ∧
      unit = header ++ job.rtpPayload view ∧ unit.length ≤ job.cap ∧ after = finishTransmit state) previous := by
  unfold compressRtpUdpLite
  refine .bind ((captureRtp_ensures .rtpUdpLite previous).mono ?_)
  rintro ⟨safe, view⟩ s ⟨hok, rfl, hview, rfl⟩
  refine .bind ((emitRtpUdpLiteUnit_ensures _ _).mono fun header state hsend => ?_)
  refine (appendPayloadRange_ensures header _ _ state).mono ?_
  rintro unit after ⟨h₁, rfl, h₂, rfl⟩
  exact ⟨header, state, view, hok, hview, hsend, rfl, h₂, rfl⟩

/-! ### Uncompressed -/

/-- The context of a flow that is sent whole. -/
def capturedWhole (previous : Context) : Context :=
  { previous with
    profile := .uncompressed, mode := .uncompressed, rohcState := .dynamicEstablished
    txCount := previous.txCount + 1, profileHasBeenUsed := true, nackCount := 0
    staticAcked := true, dynamicAcked := true }

/-- **The Uncompressed branch**. -/
theorem compressUncompressed_ensures (previous : Context) :
    Ensures job.compressUncompressed (fun unit after => isUncompressedIpPayload job.packet = true ∧
      CidFits previous ∧ unit = irSealed (irFront previous 0xFD 0x00) [] ++ job.packet ∧ unit.length ≤ job.cap ∧
      after = capturedWhole previous) previous := by
  unfold compressUncompressed
  refine .bind (.require fun hip => .bind (.modify (.bind (.get (.ofOption fun unit hu => ?_)))))
  obtain ⟨h₁, h₂, h₃⟩ := emitUncompressedIr_eq hu
  exact ⟨hip, h₁, h₂, h₃, rfl⟩

end Job

end Rohccxx
