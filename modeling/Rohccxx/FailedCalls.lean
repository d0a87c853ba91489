import Rohccxx.Repeats

/-!
# Failed compressions

`rohc_compress4` works on the live context and rolls nothing back. What a failing call leaves behind is what the branch of
its packet has written up to the point where it stopped, so the call leaves no trace exactly if all of that was there
already: the labels, profile and mode, every header field of the packet (`Repeats`), and the state the unit moves the
context to. `Retraces` says this branch by branch, and which units fail: in such a context no number has moved, so no
PT-0 comes into question.

* `emission_eq_iff` — a branch behind its capture.
* `runBranch_eq_iff` — a whole branch.
* `rohcCompress4_atomic_iff` — a whole call.
-/

set_option autoImplicit false

namespace Rohccxx

open Octets Proc

/-! ## Behind the capture -/

/-- A context that is not due for a refresh is dynamic. -/
theorem Compact.state {ctx : Context} (h : Compact ctx) : ctx.rohcState = .dynamicEstablished := by
  obtain ⟨h₁, h₂⟩ := h
  unfold shouldEmitIr at h₁
  unfold shouldEmitIrDyn at h₂
  cases hs : ctx.rohcState with
  | noContext => simp [hs] at h₁
  | staticEstablished => simp [hs] at h₂
  | dynamicEstablished => rfl

theorem Context.inState_eq_iff {ctx : Context} {state : RohcState} : ctx.inState state = ctx ↔ ctx.rohcState = state := by
  constructor
  · intro h
    exact (congrArg (·.rohcState) h).symm
  · rintro rfl
    rfl

/-- `b` is `a` at some point of the choice of a unit. -/
def Moved (a b : Context) : Prop :=
  ∃ state count, b = { a with rohcState := state, formalPt0SinceConfirmation := count }

theorem emissionKeeps_moved (a : Context) : EmissionKeeps (Moved a) where
  static := by
    rintro _ ⟨state, count, rfl⟩
    exact ⟨_, _, rfl⟩
  dynamic := by
    rintro _ _ - - ⟨state, count, rfl⟩
    exact ⟨_, _, rfl⟩
  count := by
    rintro _ ⟨state, count, rfl⟩
    exact ⟨_, _, rfl⟩

theorem txCount_succ_ne (n : UInt32) : n + 1 ≠ n := by
  intro h
  have := congrArg UInt32.toBitVec h
  simp at this

namespace Job

variable {job : Job} {profile : Profile} {ctx : Context}

/-- The header cannot be made, or does not leave room for `len` octets of payload. -/
def TooLong (job : Job) (header : Option Bytes) (len : Nat) : Prop :=
  ∀ octets, header = some octets → job.cap < octets.length + len

theorem appendPayloadRange_snd {header : Bytes} {offset len : Nat} (hrange : offset + len ≤ job.packet.length)
    (ctx : Context) : (job.appendPayloadRange header offset len ctx).2 =
      if job.cap < header.length + len then ctx else finishTransmit ctx := by
  unfold appendPayloadRange
  have hr : decide (offset ≤ job.packet.length ∧ len ≤ job.packet.length - offset) = true := by
    rw [decide_eq_true_eq]
    omega
  rw [hr, bind_of_ok (require_true ctx)]
  by_cases hfit : job.cap < header.length + len
  · rw [if_pos hfit, decide_eq_false (by omega)]
    rfl
  · rw [if_neg hfit, decide_eq_true (by omega)]
    rfl

/-- **A branch behind its capture** ends as the call found the context exactly if the capture did, the choice of the unit
did, and the unit is too long. -/
theorem emission_eq_iff {x : Proc Context Bytes} (hx : ∀ P, EmissionKeeps P → Always P x) {c before : Context}
    (htx : c.txCount = before.txCount) (hstate : c.rohcState = before.rohcState)
    (hcount : c.formalPt0SinceConfirmation = before.formalPt0SinceConfirmation) {offset len : Nat}
    (hrange : offset + len ≤ job.packet.length) :
    ((x >>= fun header => job.appendPayloadRange header offset len) c).2 = before ↔
      c = before ∧ Rests x (fun header => job.cap < header.length + len) before := by
  obtain ⟨state, count, hmoved⟩ := hx _ (emissionKeeps_moved c) c ⟨c.rohcState, c.formalPt0SinceConfirmation, rfl⟩
  have hback : (x c).2 = before → c = before := by
    intro h
    rw [hmoved] at h
    have h₁ : c.rohcState = state := hstate.trans (congrArg (·.rohcState) h).symm
    have h₂ : c.formalPt0SinceConfirmation = count := hcount.trans (congrArg (·.formalPt0SinceConfirmation) h).symm
    rw [← h₁, ← h₂] at h
    exact h
  have hfinish : finishTransmit (x c).2 ≠ before := by
    intro h
    have h₁ : (x c).2.txCount + 1 = before.txCount := congrArg (·.txCount) h
    rw [hmoved] at h₁
    exact txCount_succ_ne c.txCount (h₁.trans htx.symm)
  rw [bind_apply]
  constructor
  · intro h
    have hstays : (x c).2 = before ∧ ∀ a, (x c).1 = .ok a → job.cap < a.length + len := by
      rcases e : x c with ⟨a | _ | _, s⟩
      · rw [e] at h hfinish
        dsimp only at h
        rw [appendPayloadRange_snd hrange] at h
        by_cases hlong : job.cap < a.length + len
        · rw [if_pos hlong] at h
          refine ⟨h, ?_⟩
          rintro _ ⟨⟩
          exact hlong
        · rw [if_neg hlong] at h
          exact absurd h hfinish
      · rw [e] at h
        exact ⟨h, nofun⟩
      · rw [e] at h
        exact ⟨h, nofun⟩
    obtain rfl := hback hstays.1
    exact ⟨rfl, hstays⟩
  · rintro ⟨rfl, hsnd, hlong⟩
    rcases e : x c with ⟨a | _ | _, s⟩
    · rw [e] at hsnd hlong
      dsimp only
      rw [appendPayloadRange_snd hrange, if_pos (hlong a rfl)]
      exact hsnd
    · rw [e] at hsnd
      exact hsnd
    · rw [e] at hsnd
      exact hsnd

/-! ### Units of a packet that repeats what the context has -/

/-- The unit that is due does not come about: an IR moves the context to the static state, all others to the dynamic
one. -/
structure NoUnit (job : Job) (ctx : Context) (ir irDyn : Option Bytes) (len : Nat) (compact : Prop) : Prop where
  ir : shouldEmitIr ctx = true → ctx.rohcState = .staticEstablished ∧ job.TooLong ir len
  irDyn : shouldEmitIr ctx = false → shouldEmitIrDyn ctx = true →
    ctx.rohcState = .dynamicEstablished ∧ job.TooLong irDyn len
  compact : Compact ctx → compact

/-- Neither the private unit comes about nor, where it is ambiguous, the refresh in its place, which would move the
context back to the static state. -/
def NoPrivate (job : Job) (ctx : Context) (unit : Option Bytes) (ambiguous : Bytes → Bool) (ir : Option Bytes)
    (len : Nat) : Prop :=
  ∀ octets, unit = some octets →
    if ambiguous octets then ir = none
    else job.TooLong (if ctx.largeCid then some octets else job.prependSmallCid octets) len

theorem emitIn_rests_iff {state : RohcState} {emitter : Nat → Context → Option Bytes} {P : Bytes → Prop} :
    Rests (job.emitIn state emitter) P ctx ↔ ctx.rohcState = state ∧ ∀ a, emitter job.cap ctx = some a → P a := by
  unfold emitIn
  by_cases hs : ctx.rohcState = state
  · rw [Rests.modify_bind_iff (Context.inState_eq_iff.mpr hs), Rests.get_bind_iff, Rests.ofOption_iff]
    exact (and_iff_right hs).symm
  · refine iff_of_false (fun h => hs ?_) fun h => hs h.1
    have hsnd : (Proc.ofOption (emitter job.cap (ctx.inState state)) (ctx.inState state)).2 = ctx := h.1
    have hstate : ∀ o : Option Bytes, (Proc.ofOption o (ctx.inState state)).2 = ctx.inState state := fun o => by
      cases o <;> rfl
    rw [hstate] at hsnd
    exact Context.inState_eq_iff.mp hsnd

/-- The choice between a refresh and a compact unit. -/
theorem choice_rests_iff {ir irDyn : Nat → Context → Option Bytes} {other : Context → Proc Context Bytes}
    {compact : Prop} {len : Nat} {due : Context → Bool} (hdue : due ctx = shouldEmitIrDyn ctx)
    (hcompact : Compact ctx → (Rests (other ctx) (fun header => job.cap < header.length + len) ctx ↔ compact)) :
    Rests (Proc.get >>= fun ctx => if shouldEmitIr ctx then job.emitIn .staticEstablished ir
      else if due ctx then job.emitIn .dynamicEstablished irDyn else other ctx)
      (fun header => job.cap < header.length + len) ctx ↔
      job.NoUnit ctx (ir job.cap ctx) (irDyn job.cap ctx) len compact := by
  rw [Rests.get_bind_iff, hdue]
  by_cases hir : shouldEmitIr ctx = true
  · rw [if_pos hir, emitIn_rests_iff]
    refine ⟨fun h => ⟨fun _ => h, fun hn => ?_, fun hc => ?_⟩, fun h => h.ir hir⟩
    · rw [hir] at hn
      cases hn
    · have hn := hc.ir
      rw [hir] at hn
      cases hn
  · have hir' : shouldEmitIr ctx = false := by simpa using hir
    rw [if_neg hir]
    by_cases hdyn : shouldEmitIrDyn ctx = true
    · rw [if_pos hdyn, emitIn_rests_iff]
      refine ⟨fun h => ⟨fun hn => absurd hn hir, fun _ _ => h, fun hc => ?_⟩, fun h => h.irDyn hir' hdyn⟩
      have hn := hc.irDyn
      rw [hdyn] at hn
      cases hn
    · have hc : Compact ctx := ⟨hir', by simpa using hdyn⟩
      rw [if_neg hdyn, hcompact hc]
      exact ⟨fun h => ⟨fun hn => absurd hn hir, fun _ hn => absurd hn hdyn, fun _ => h⟩, fun h => h.compact hc⟩

/-- The refresh in place of an ambiguous private unit. -/
theorem refreshInstead_rests_iff {o : Option Bytes} {P : Bytes → Prop} (hs : ctx.rohcState = .dynamicEstablished) :
    Rests (do
      let unit ← Proc.ofOption o
      Proc.modify fun ctx : Context => { ctx with rohcState := .staticEstablished }
      return unit) P ctx ↔ o = none := by
  rw [Rests.ofOption_bind_iff]
  constructor
  · intro h
    cases o with
    | none => rfl
    | some unit =>
      have hsnd : ctx.inState .staticEstablished = ctx := (h unit rfl).1
      rw [Context.inState_eq_iff, hs] at hsnd
      cases hsnd
  · rintro rfl
    exact nofun

/-! ### No PT-0 goes out where no number has moved -/

theorem udpPt0Reconstructable_self (ctx : Context) : udpPt0Reconstructable ctx ctx = false := by
  unfold udpPt0Reconstructable
  simp

theorem ipPt0Reconstructable_self (ctx : Context) : ipPt0Reconstructable ctx ctx = false := by
  unfold ipPt0Reconstructable
  simp

theorem espPt0Reconstructable_self (ctx : Context) : espPt0Reconstructable ctx ctx = false := by
  unfold espPt0Reconstructable
  simp

theorem rtpPt0Reconstructable_self (ctx : Context) : rtpPt0Reconstructable ctx ctx = false := by
  unfold rtpPt0Reconstructable
  simp

theorem modify_dynamic {ctx : Context} (h : Compact ctx) : ({ ctx with rohcState := .dynamicEstablished } : Context) = ctx :=
  Context.inState_eq_iff.mpr h.state

theorem emitUdpUnit_rests_iff (ctx : Context) (len : Nat) :
    Rests (job.emitUdpUnit ctx) (fun header => job.cap < header.length + len) ctx ↔
      job.NoUnit ctx (emitIrUdp job.cap ctx) (emitIrUdp job.cap ctx) len
        (job.NoPrivate ctx (emitUdpFo job.cap ctx) (fun unit =>
          privateUdpFoIsFormalPt0Ambiguous ctx unit (job.packet.drop (job.view.headerLen + 8)))
          (emitIrUdp job.cap ctx) len) := by
  unfold emitUdpUnit
  refine choice_rests_iff rfl fun hc => ?_
  rw [Rests.modify_bind_iff (modify_dynamic hc)]
  unfold emitCompactUdp emitUnambiguousPrivateUdpFo
  rw [Rests.get_bind_iff]
  dsimp only
  rw [udpPt0Reconstructable_self, Bool.and_false, if_neg (by decide), Rests.get_bind_iff, Rests.ofOption_bind_iff]
  unfold NoPrivate
  refine forall_congr' fun unit => imp_congr_right fun _ => ?_
  by_cases hamb : privateUdpFoIsFormalPt0Ambiguous ctx unit (job.packet.drop (job.view.headerLen + 8)) = true
  · rw [if_pos hamb, if_pos hamb]
    exact refreshInstead_rests_iff hc.state
  · rw [if_neg hamb, if_neg hamb]
    exact Rests.ofOption_iff

theorem emitIpUnit_rests_iff (ctx : Context) (hprofile : ctx.profile = .ip) (len : Nat) :
    Rests (job.emitIpUnit ctx) (fun header => job.cap < header.length + len) ctx ↔
      job.NoUnit ctx (emitIrIp job.cap ctx) (emitIrIp job.cap ctx) len
        (job.NoPrivate ctx (emitIpFo job.cap ctx) (fun unit => !ctx.largeCid &&
          privateIpFoIsFormalPt0Ambiguous ctx unit (job.packet.length - job.view.headerLen))
          (emitIrIp job.cap ctx) len) := by
  unfold emitIpUnit
  refine choice_rests_iff rfl fun hc => ?_
  have hfo : ctx.ipVersion ≠ 4 ∨ ipPrivateFoReconstructable ctx ctx = true := by
    by_cases h4 : ctx.ipVersion = 4
    · right
      unfold ipPrivateFoReconstructable establishedIpv4 sameIpv4Header
      by_cases hb : ctx.ipv4IdBehavior = 0
      · simp [h4, hprofile, hc.state, hb]
      · simp [h4, hprofile, hc.state, hb]
    · exact Or.inl h4
  rw [Rests.modify_bind_iff (modify_dynamic hc)]
  unfold emitCompactIp emitUnambiguousPrivateIpFo
  rw [Rests.get_bind_iff]
  dsimp only
  rw [ipPt0Reconstructable_self, Bool.and_false, if_neg (by decide), if_pos hfo, Rests.get_bind_iff,
    Rests.ofOption_bind_iff]
  unfold NoPrivate
  refine forall_congr' fun unit => imp_congr_right fun _ => ?_
  by_cases hamb : (!ctx.largeCid &&
      privateIpFoIsFormalPt0Ambiguous ctx unit (job.packet.length - job.view.headerLen)) = true
  · rw [if_pos hamb, if_pos hamb]
    exact refreshInstead_rests_iff hc.state
  · rw [if_neg hamb, if_neg hamb]
    exact Rests.ofOption_iff

theorem emitEspUnit_rests_iff (ctx : Context) (len : Nat) :
    Rests (job.emitEspUnit ctx) (fun header => job.cap < header.length + len) ctx ↔
      job.NoUnit ctx (emitIrEsp job.cap ctx) (emitIrEsp job.cap ctx) len (job.TooLong (emitIrEsp job.cap ctx) len) := by
  unfold emitEspUnit
  refine choice_rests_iff rfl fun hc => ?_
  rw [Rests.modify_bind_iff (modify_dynamic hc)]
  unfold emitCompactEsp
  rw [Rests.get_bind_iff, espPt0Reconstructable_self, Bool.and_false, if_neg (by decide), emitIn_rests_iff]
  exact and_iff_right hc.state

theorem emitUdpLiteUnit_rests_iff (ctx : Context) (len : Nat) :
    Rests job.emitUdpLiteUnit (fun header => job.cap < header.length + len) ctx ↔
      job.NoUnit ctx (emitIrUdpLite job.cap ctx) (emitIrDynUdpLite job.cap ctx) len
        (job.TooLong (job.emitPrivateUdpLite ctx) len) := by
  unfold emitUdpLiteUnit
  refine choice_rests_iff rfl fun hc => ?_
  rw [emitIn_rests_iff]
  exact and_iff_right hc.state

theorem emitRtpUnit_rests_iff (ctx : Context) (view : RtpPayloadView) (len : Nat) :
    Rests (job.emitRtpUnit ctx true view) (fun header => job.cap < header.length + len) ctx ↔
      job.NoUnit ctx (emitIrRtp job.cap ctx) (emitIrRtp job.cap ctx) len
        (job.TooLong (if ctx.largeCid then emitIrRtp job.cap ctx else job.emitPrivateRtp ctx) len) := by
  unfold emitRtpUnit
  refine @choice_rests_iff job ctx _ _ _ _ _ (fun ctx => shouldEmitIrDyn ctx || !true) (Bool.or_false _) fun hc => ?_
  by_cases hlarge : ctx.largeCid = true
  · rw [if_pos hlarge, if_pos hlarge, emitIn_rests_iff]
    exact and_iff_right hc.state
  · rw [if_neg hlarge, if_neg hlarge, Rests.modify_bind_iff (modify_dynamic hc)]
    unfold emitCompactRtp
    rw [Rests.get_bind_iff, rtpPt0Reconstructable_self, if_neg (by decide), if_neg fun h => h rfl]
    exact Rests.ofOption_iff

theorem emitRtpUdpLiteUnit_rests_iff (ctx : Context) (len : Nat) :
    Rests (job.emitRtpUdpLiteUnit true) (fun header => job.cap < header.length + len) ctx ↔
      job.NoUnit ctx (emitIrRtpUdpLite job.cap ctx) (emitIrDynRtpUdpLite job.cap ctx) len
        (job.TooLong (if ctx.largeCid then emitIrRtpUdpLite job.cap ctx else job.emitPrivateRtp ctx) len) := by
  unfold emitRtpUdpLiteUnit
  refine @choice_rests_iff job ctx _ _ _ _ _ (fun ctx => shouldEmitIrDyn ctx || !true) (Bool.or_false _) fun hc => ?_
  by_cases hlarge : ctx.largeCid = true
  · rw [if_pos hlarge, if_pos hlarge, emitIn_rests_iff]
    exact and_iff_right hc.state
  · rw [if_neg hlarge, if_neg hlarge, emitIn_rests_iff]
    exact and_iff_right hc.state

/-! ### Captures that may stop -/

/-- More extension headers than a context has room for. -/
def TooManyExtensions (job : Job) : Prop := job.view.isIpv6 = true ∧ 128 < job.view.extensionLen

theorem capturesIp_iff (hv : parseIpView job.packet = some job.view) (profile : Profile) (ctx : Context) :
    job.capturesIp profile ctx = true ↔ ¬job.TooManyExtensions := by
  unfold TooManyExtensions
  cases h6 : job.view.isIpv6 with
  | false => exact ⟨fun _ h => (by cases h.1), fun _ => (capturedIp_v4 profile ctx hv h6).1⟩
  | true =>
    rw [(capturedIp_v6 profile ctx h6).1, decide_eq_true_eq, eq_self_iff_true, true_and, Nat.not_lt]

/-- The standard chains have no extension headers. -/
theorem captures_standard (hv : parseIpView job.packet = some job.view) (chosen : Chosen job.packet job.view profile)
    (hstd : profileUsesFormalPt0 profile = true) (ctx : Context) : job.capturesIp profile ctx = true := by
  refine (capturesIp_iff hv profile ctx).mpr fun h => ?_
  have hext := ((chosen.chains hstd).2 h.1).1
  have hlong := h.2
  omega

theorem captureCommon_apply (ctx : Context) : job.captureCommon ctx =
    (if (captureIpContext ctx job.packet job.view).1 then .ok () else .reject,
      (captureIpContext ctx job.packet job.view).2) := by
  unfold captureCommon
  rcases captureIpContext ctx job.packet job.view with ⟨_ | _, c⟩
  · rfl
  · rfl

theorem captureWithBehavior_apply (profile : Profile) (ctx : Context) : job.captureWithBehavior profile ctx =
    if job.capturesIp profile ctx then (.ok (), job.capturedBehavior profile ctx)
    else (.reject, job.capturedIp profile ctx) := by
  unfold captureWithBehavior
  rw [bind_of_ok (get_apply ctx), bind_of_ok (modify_apply _ ctx), bind_apply, captureCommon_apply]
  by_cases hok : job.capturesIp profile ctx = true
  · have hok' : (captureIpContext { ctx with profile := profile, mode := job.mode } job.packet job.view).1 = true := hok
    rw [if_pos hok, if_pos hok']
    rfl
  · have hok' : ¬(captureIpContext { ctx with profile := profile, mode := job.mode } job.packet job.view).1 = true := hok
    rw [if_neg hok, if_neg hok']
    rfl

theorem captureRtp_stops {profile : Profile} (hok : job.capturesIp profile ctx = false) :
    job.captureRtp profile ctx = (.reject, job.capturedIp profile ctx) := by
  have hok' : (captureIpContext { ctx with profile := profile, mode := job.mode } job.packet job.view).1 = false := hok
  unfold captureRtp
  rw [bind_of_ok (get_apply ctx), bind_of_ok (modify_apply _ ctx), bind_apply, captureCommon_apply, hok']
  rfl

theorem captureRtp_lists {profile : Profile} (hok : job.capturesIp profile ctx = true) :
    (job.rtpView profile ctx = none → job.captureRtp profile ctx = (.reject, (job.capturedRtp profile ctx).2)) ∧
      ∀ view, job.rtpView profile ctx = some view →
        job.captureRtp profile ctx = (.ok ((job.capturedRtp profile ctx).1, view), (job.capturedRtp profile ctx).2) := by
  have hok' : (captureIpContext { ctx with profile := profile, mode := job.mode } job.packet job.view).1 = true := hok
  unfold captureRtp rtpView capturedRtp rtpPacket
  rw [bind_of_ok (get_apply ctx), bind_of_ok (modify_apply _ ctx), bind_apply, captureCommon_apply, hok', if_pos rfl]
  change (_ → (Proc.get >>= _) (job.capturedIp profile ctx) = _) ∧
    ∀ view, _ → (Proc.get >>= _) (job.capturedIp profile ctx) = _
  rw [bind_of_ok (get_apply _)]
  dsimp only
  rcases captureRtpContext (job.captureRtpHeader ctx (job.capturedIp profile ctx)).2
    (job.packet.drop (job.view.headerLen + 8)) with ⟨_ | view, c⟩
  · exact ⟨fun _ => rfl, nofun⟩
  · refine ⟨nofun, ?_⟩
    rintro _ ⟨⟩
    rfl

/-! ## Whole branches -/

/-- The IP header repeats; an IPv4 packet has an IP-ID that stands still. -/
def RepeatsConstant (job : Job) (ctx : Context) : Prop :=
  job.RepeatsIp ctx ∧ (job.view.isIpv6 = false → ctx.ConstantId)

/-- The UDP branch: every header repeats, the MSN is the next one already, and no unit comes about. -/
def RetracesUdp (job : Job) (ctx : Context) : Prop :=
  job.RepeatsConstant ctx ∧ job.RepeatsUdp ctx ∧ ctx.udpChecksumUsed = decide (ctx.udpCheck ≠ 0) ∧
    ctx.msn = ctx.txCount.toUInt16 + 1 ∧
    job.NoUnit ctx (emitIrUdp job.cap ctx) (emitIrUdp job.cap ctx) (job.packet.length - (job.view.headerLen + 8))
      (job.NoPrivate ctx (emitUdpFo job.cap ctx)
        (fun unit => privateUdpFoIsFormalPt0Ambiguous ctx unit (job.packet.drop (job.view.headerLen + 8)))
        (emitIrUdp job.cap ctx) (job.packet.length - (job.view.headerLen + 8)))

def RetracesIp (job : Job) (ctx : Context) : Prop :=
  job.RepeatsConstant ctx ∧ ctx.msn = ctx.txCount.toUInt16 + 1 ∧
    job.NoUnit ctx (emitIrIp job.cap ctx) (emitIrIp job.cap ctx) (job.packet.length - job.view.headerLen)
      (job.NoPrivate ctx (emitIpFo job.cap ctx)
        (fun unit => !ctx.largeCid &&
          privateIpFoIsFormalPt0Ambiguous ctx unit (job.packet.length - job.view.headerLen))
        (emitIrIp job.cap ctx) (job.packet.length - job.view.headerLen))

/-- The ESP branch; a packet without room for an ESP header is refused behind the IP header. -/
def RetracesEsp (job : Job) (ctx : Context) : Prop :=
  job.RepeatsConstant ctx ∧ (job.packet.length < job.view.headerLen + 8 ∨ job.RepeatsEsp ctx ∧
    job.NoUnit ctx (emitIrEsp job.cap ctx) (emitIrEsp job.cap ctx) (job.packet.length - (job.view.headerLen + 8))
      (job.TooLong (emitIrEsp job.cap ctx) (job.packet.length - (job.view.headerLen + 8))))

/-- The UDP-Lite branch; a packet with too many extension headers is refused behind the IP header. -/
def RetracesUdpLite (job : Job) (ctx : Context) : Prop :=
  job.RepeatsConstant ctx ∧ (job.TooManyExtensions ∨ job.RepeatsUdp ctx ∧
    job.NoUnit ctx (emitIrUdpLite job.cap ctx) (emitIrDynUdpLite job.cap ctx)
      (job.packet.length - (job.view.headerLen + 8))
      (job.TooLong (job.emitPrivateUdpLite ctx) (job.packet.length - (job.view.headerLen + 8))))

/-- The RTP header and its lists repeat, and no unit comes about; lists that cannot be captured stop the branch
before. -/
def RetracesRtpHeader (job : Job) (ctx : Context) (ir irDyn : Option Bytes) : Prop :=
  job.RepeatsRtpHeader ctx ∧ ctx.rtp = (captureRtpExtras ctx.rtp.clearExtras job.rtpPacket).2 ∧
    ∀ view, (captureRtpContext ctx job.rtpPacket).1 = some view →
      job.NoUnit ctx ir irDyn view.payloadLen
        (job.TooLong (if ctx.largeCid then ir else job.emitPrivateRtp ctx) view.payloadLen)

def RetracesRtp (job : Job) (ctx : Context) : Prop :=
  job.RepeatsIp ctx ∧ job.RetracesRtpHeader ctx (emitIrRtp job.cap ctx) (emitIrRtp job.cap ctx)

def RetracesRtpUdpLite (job : Job) (ctx : Context) : Prop :=
  job.RepeatsIp ctx ∧ (job.TooManyExtensions ∨
    job.RetracesRtpHeader ctx (emitIrRtpUdpLite job.cap ctx) (emitIrDynRtpUdpLite job.cap ctx))

/-- The branch of the profile ends as the call found the context: every header it captures repeats, and it stops either
in capturing or because no unit comes about. -/
def Retraces (job : Job) (ctx : Context) : Profile → Prop
  | .rtpUdpLite => job.RetracesRtpUdpLite ctx
  | .rtp => job.RetracesRtp ctx
  | .udp => job.RetracesUdp ctx
  | .ip => job.RetracesIp ctx
  | .esp => job.RetracesEsp ctx
  | .udpLite => job.RetracesUdpLite ctx
  | _ => isUncompressedIpPayload job.packet = false

/-- A capture moves no counter and no state. -/
theorem captured_settled (job : Job) (ctx : Context) (profile : Profile) (hl : profile ≠ .llaRtp)
    (hu : profile ≠ .uncompressed) : (job.captured ctx profile).txCount = ctx.txCount ∧
      (job.captured ctx profile).rohcState = ctx.rohcState ∧
      (job.captured ctx profile).formalPt0SinceConfirmation = ctx.formalPt0SinceConfirmation := by
  have h := captured_captured job ctx hl hu
  exact ⟨h.txCount, h.state, h.count⟩

/-- An RTP packet has its fixed header. -/
theorem rtpPacket_length (chosen : Chosen job.packet job.view profile) (hr : profile = .rtp ∨ profile = .rtpUdpLite) :
    12 ≤ job.rtpPacket.length := by
  have ht := chosen.transport
  unfold rtpPacket
  rw [List.length_drop]
  unfold classifyTransport rtpFits at ht
  rcases hr with rfl | rfl
  · split_ifs at ht
    rename_i hfits
    simp only [Bool.and_eq_true, decide_eq_true_eq] at hfits
    omega
  · split_ifs at ht
    rename_i hfits
    simp only [Bool.and_eq_true, decide_eq_true_eq] at hfits
    omega

section Branches

variable (hv : parseIpView job.packet = some job.view)

include hv

theorem compressUdp_eq_iff (chosen : Chosen job.packet job.view .udp) (hp : ctx.profile = .udp)
    (hm : ctx.mode = job.mode) : (job.compressUdp ctx).2 = ctx ↔ job.RetracesUdp ctx := by
  obtain ⟨htx, hstate, hcount⟩ : (job.capturedUdp ctx).txCount = ctx.txCount ∧
      (job.capturedUdp ctx).rohcState = ctx.rohcState ∧
      (job.capturedUdp ctx).formalPt0SinceConfirmation = ctx.formalPt0SinceConfirmation :=
    captured_settled job ctx .udp nofun nofun
  have hfits := (chosen.fields.1 (Or.inl rfl)).2
  have hcapture : job.captureWithBehavior .udp ctx = (.ok (), job.capturedBehavior .udp ctx) := by
    rw [captureWithBehavior_apply, if_pos (captures_standard hv chosen rfl ctx)]
  unfold compressUdp
  rw [bind_of_ok (get_apply ctx), bind_of_ok hcapture, bind_of_ok (modify_apply _ _)]
  change ((job.emitUdpUnit ctx >>= fun header => job.appendPayloadRange header _ _) (job.capturedUdp ctx)).2 = ctx ↔ _
  rw [emission_eq_iff (fun P h => emitUdpUnit_always h ctx) htx hstate hcount (by omega), capturedUdp_eq_self_iff,
    capturedBehavior_eq_iff hv hp hm, emitUdpUnit_rests_iff]
  unfold RetracesUdp RepeatsConstant
  simp only [and_assoc]

theorem compressIp_eq_iff (chosen : Chosen job.packet job.view .ip) (hp : ctx.profile = .ip)
    (hm : ctx.mode = job.mode) : (job.compressIp ctx).2 = ctx ↔ job.RetracesIp ctx := by
  obtain ⟨htx, hstate, hcount⟩ : (job.capturedIpOnly ctx).txCount = ctx.txCount ∧
      (job.capturedIpOnly ctx).rohcState = ctx.rohcState ∧
      (job.capturedIpOnly ctx).formalPt0SinceConfirmation = ctx.formalPt0SinceConfirmation :=
    captured_settled job ctx .ip nofun nofun
  have hfits := (hasIp_capturedIp hv (captures_standard hv chosen rfl ctx)).1.fits
  have hcapture : job.captureWithBehavior .ip ctx = (.ok (), job.capturedBehavior .ip ctx) := by
    rw [captureWithBehavior_apply, if_pos (captures_standard hv chosen rfl ctx)]
  unfold compressIp
  rw [bind_of_ok (get_apply ctx), bind_of_ok hcapture, bind_of_ok (modify_apply _ _)]
  change ((job.emitIpUnit ctx >>= fun header => job.appendPayloadRange header _ _) (job.capturedIpOnly ctx)).2 = ctx ↔ _
  rw [emission_eq_iff (fun P h => emitIpUnit_always h ctx) htx hstate hcount (by omega), capturedIpOnly_eq_self_iff,
    capturedBehavior_eq_iff hv hp hm, emitIpUnit_rests_iff ctx hp]
  unfold RetracesIp RepeatsConstant
  simp only [and_assoc]

theorem compressEsp_eq_iff (chosen : Chosen job.packet job.view .esp) (hp : ctx.profile = .esp)
    (hm : ctx.mode = job.mode) : (job.compressEsp ctx).2 = ctx ↔ job.RetracesEsp ctx := by
  obtain ⟨htx, hstate, hcount⟩ : (job.capturedEsp ctx).txCount = ctx.txCount ∧
      (job.capturedEsp ctx).rohcState = ctx.rohcState ∧
      (job.capturedEsp ctx).formalPt0SinceConfirmation = ctx.formalPt0SinceConfirmation :=
    captured_settled job ctx .esp nofun nofun
  have hcapture : job.captureWithBehavior .esp ctx = (.ok (), job.capturedBehavior .esp ctx) := by
    rw [captureWithBehavior_apply, if_pos (captures_standard hv chosen rfl ctx)]
  have hbehavior := capturedBehavior_eq_iff hv hp hm
  unfold compressEsp
  rw [bind_of_ok (get_apply ctx), bind_of_ok hcapture]
  unfold RetracesEsp RepeatsConstant
  by_cases hfits : job.view.headerLen + 8 ≤ job.packet.length
  · rw [decide_eq_true hfits, bind_of_ok (require_true _), bind_of_ok (modify_apply _ _)]
    change ((job.emitEspUnit ctx >>= fun header => job.appendPayloadRange header _ _) (job.capturedEsp ctx)).2 = ctx ↔ _
    rw [emission_eq_iff (fun P h => emitEspUnit_always h ctx) htx hstate hcount (by omega), capturedEsp_eq_self_iff,
      hbehavior, emitEspUnit_rests_iff, and_assoc, or_iff_right (by omega)]
  · rw [decide_eq_false hfits, and_iff_left (Or.inl (by omega))]
    exact hbehavior

theorem compressUdpLite_eq_iff (chosen : Chosen job.packet job.view .udpLite) (hp : ctx.profile = .udpLite)
    (hm : ctx.mode = job.mode) : (job.compressUdpLite ctx).2 = ctx ↔ job.RetracesUdpLite ctx := by
  obtain ⟨htx, hstate, hcount⟩ : (job.capturedUdpLite ctx).txCount = ctx.txCount ∧
      (job.capturedUdpLite ctx).rohcState = ctx.rohcState ∧
      (job.capturedUdpLite ctx).formalPt0SinceConfirmation = ctx.formalPt0SinceConfirmation :=
    captured_settled job ctx .udpLite nofun nofun
  have hfits := (chosen.fields.2.1 (Or.inl rfl)).2
  have hip := capturedIp_eq_iff hv hp hm
  have hok := capturesIp_iff hv .udpLite ctx
  unfold compressUdpLite
  rw [bind_of_ok (modify_apply _ ctx), bind_apply, captureCommon_apply]
  unfold RetracesUdpLite RepeatsConstant
  by_cases hext : job.TooManyExtensions
  · have hno : (captureIpContext { ctx with profile := .udpLite, mode := job.mode } job.packet job.view).1 = false := by
      exact Bool.eq_false_iff.mpr fun h => hok.mp h hext
    rw [hno, and_iff_left (Or.inl hext)]
    exact hip
  · have hyes : (captureIpContext { ctx with profile := .udpLite, mode := job.mode } job.packet job.view).1 = true :=
      hok.mpr hext
    rw [hyes, if_pos rfl]
    dsimp only
    rw [bind_of_ok (modify_apply _ _)]
    change ((job.emitUdpLiteUnit >>= fun header => job.appendPayloadRange header _ _) (job.capturedUdpLite ctx)).2 =
      ctx ↔ _
    rw [emission_eq_iff (fun P h => emitUdpLiteUnit_always h) htx hstate hcount (by omega),
      capturedUdpLite_eq_self_iff, hip, emitUdpLiteUnit_rests_iff, and_assoc, or_iff_right hext]

omit hv in
/-- The payload of an RTP packet lies within it. -/
theorem rtpView_fits {view : RtpPayloadView} (hview : job.rtpView profile ctx = some view) (hlong : 12 ≤ job.rtpPacket.length) :
    job.view.headerLen + 8 + view.payloadOffset + view.payloadLen ≤ job.packet.length := by
  obtain ⟨-, -, -, -, -, -, -, -, -, hheader, -⟩ := captureRtpHeader_frame job ctx (job.capturedIp profile ctx)
  obtain ⟨hrtp, -⟩ := captureRtpContext_eq hheader (Prod.ext hview rfl)
  have hlen := hrtp.len
  unfold rtpPacket at hlen hlong
  rw [List.length_drop] at hlen hlong
  omega

/-- In place, the private unit of an RTP branch is safe, and the lists are those of the context. -/
theorem captured_inPlace (hp : ctx.profile = profile) (hm : ctx.mode = job.mode) (hip : job.RepeatsIp ctx)
    (hrtp : job.RepeatsRtpHeader ctx) : (job.capturedRtp profile ctx).1 = true ∧
      job.rtpView profile ctx = (captureRtpContext ctx job.rtpPacket).1 := by
  have hself := (captureRtpHeader_eq_self_iff hv hp hm).mpr ⟨hip, hrtp⟩
  have hseq := seq_of_hasRtpHeader hrtp.header
  constructor
  · change (job.captureRtpHeader ctx (job.capturedIp profile ctx)).1 = true
    rw [(captureRtpHeader_update job ctx (job.capturedIp profile ctx)).1, hip.rtpUpdate hv hp hm hseq]
    by_cases had : ctx.ipVersion = 4 ∧ ctx.txCount > 0
    · rw [if_pos had, hrtp.sequential, decide_eq_true had]
    · rw [if_neg had]
  · unfold rtpView
    rw [hself]

/-- Both RTP branches behind a header that could be captured. -/
theorem captureRtp_eq_iff (chosen : Chosen job.packet job.view profile) (hr : profile = .rtp ∨ profile = .rtpUdpLite)
    (hp : ctx.profile = profile) (hm : ctx.mode = job.mode) (hok : job.capturesIp profile ctx = true)
    {unit : Bool → RtpPayloadView → Proc Context Bytes}
    (hunit : ∀ P, EmissionKeeps P → ∀ safe view, Always P (unit safe view)) {ir irDyn : Option Bytes}
    (hrests : ∀ view len, Rests (unit true view) (fun header => job.cap < header.length + len) ctx ↔
      job.NoUnit ctx ir irDyn len (job.TooLong (if ctx.largeCid then ir else job.emitPrivateRtp ctx) len)) :
    ((job.captureRtp profile >>= fun (safe, payload) => unit safe payload >>= fun header =>
      job.appendPayloadRange header (job.view.headerLen + 8 + payload.payloadOffset) payload.payloadLen) ctx).2 = ctx ↔
      job.RepeatsIp ctx ∧ job.RetracesRtpHeader ctx ir irDyn := by
  have hlong := rtpPacket_length chosen hr
  obtain ⟨hstop, hgo⟩ := captureRtp_lists hok
  have hself : (job.capturedRtp profile ctx).2 = ctx ↔ job.RepeatsIp ctx ∧ job.RepeatsRtpHeader ctx ∧
      ctx.rtp = (captureRtpExtras ctx.rtp.clearExtras job.rtpPacket).2 := by
    rw [capturedRtp_eq_self_iff hlong, captureRtpHeader_eq_self_iff hv hp hm, and_assoc]
  have hplace := fun hip hrtp => captured_inPlace hv hp hm hip hrtp
  unfold RetracesRtpHeader
  rw [bind_apply]
  cases hview : job.rtpView profile ctx with
  | none =>
    rw [hstop hview]
    refine hself.trans ⟨fun ⟨hip, hrtp, hlists⟩ => ⟨hip, hrtp, hlists, fun view h => ?_⟩,
      fun ⟨hip, hrtp, hlists, _⟩ => ⟨hip, hrtp, hlists⟩⟩
    rw [← (hplace hip hrtp).2, hview] at h
    cases h
  | some view =>
    have hfits := rtpView_fits hview hlong
    have hcaptured := capturedRtp_captured job profile ctx
    rw [hgo view hview]
    dsimp only
    rw [emission_eq_iff (fun P h => hunit P h _ view) hcaptured.txCount hcaptured.state hcaptured.count hfits, hself]
    constructor
    · rintro ⟨⟨hip, hrtp, hlists⟩, hrest⟩
      obtain ⟨hsafe, hsame⟩ := hplace hip hrtp
      rw [hsafe, hrests] at hrest
      refine ⟨hip, hrtp, hlists, fun view' h => ?_⟩
      rw [← hsame, hview] at h
      cases h
      exact hrest
    · rintro ⟨hip, hrtp, hlists, hno⟩
      obtain ⟨hsafe, hsame⟩ := hplace hip hrtp
      refine ⟨⟨hip, hrtp, hlists⟩, ?_⟩
      rw [hsafe, hrests]
      exact hno view (hsame.symm.trans hview)

theorem compressRtp_eq_iff (chosen : Chosen job.packet job.view .rtp) (hp : ctx.profile = .rtp)
    (hm : ctx.mode = job.mode) : (job.compressRtp ctx ctx).2 = ctx ↔ job.RetracesRtp ctx :=
  captureRtp_eq_iff hv chosen (Or.inl rfl) hp hm (captures_standard hv chosen rfl ctx)
    (fun _ h safe view => emitRtpUnit_always h ctx safe view) (emitRtpUnit_rests_iff ctx)

theorem compressRtpUdpLite_eq_iff (chosen : Chosen job.packet job.view .rtpUdpLite) (hp : ctx.profile = .rtpUdpLite)
    (hm : ctx.mode = job.mode) : (job.compressRtpUdpLite ctx).2 = ctx ↔ job.RetracesRtpUdpLite ctx := by
  have hok := capturesIp_iff hv .rtpUdpLite ctx
  unfold RetracesRtpUdpLite
  by_cases hext : job.TooManyExtensions
  · have hstop := captureRtp_stops (Bool.eq_false_iff.mpr fun h => hok.mp h hext)
    unfold compressRtpUdpLite
    rw [bind_apply, hstop, and_iff_left (Or.inl hext)]
    refine (capturedIp_eq_iff hv hp hm).trans (and_iff_left fun h4 => ?_)
    rw [hext.1] at h4
    cases h4
  · rw [or_iff_right hext]
    exact captureRtp_eq_iff hv chosen (Or.inr rfl) hp hm (hok.mpr hext)
      (fun _ h safe _ => emitRtpUdpLiteUnit_always h safe) fun _ => emitRtpUdpLiteUnit_rests_iff ctx

omit hv in
/-- A packet that goes out whole is counted before its unit is made. -/
theorem compressUncompressed_eq_iff : (job.compressUncompressed ctx).2 = ctx ↔
    isUncompressedIpPayload job.packet = false := by
  unfold compressUncompressed
  cases isUncompressedIpPayload job.packet with
  | false => exact ⟨fun _ => rfl, fun _ => rfl⟩
  | true =>
    refine ⟨fun h => absurd ?_ (txCount_succ_ne ctx.txCount), nofun⟩
    rw [bind_of_ok (require_true ctx), bind_of_ok (modify_apply _ ctx), bind_of_ok (get_apply _)] at h
    cases hu : emitUncompressedIr job.cap (capturedWhole ctx) job.packet with
    | none =>
      have hu' : (Proc.ofOption (emitUncompressedIr job.cap (capturedWhole ctx) job.packet) (capturedWhole ctx)).2 = ctx := h
      rw [hu] at hu'
      exact congrArg (·.txCount) hu'
    | some unit =>
      have hu' : (Proc.ofOption (emitUncompressedIr job.cap (capturedWhole ctx) job.packet) (capturedWhole ctx)).2 = ctx := h
      rw [hu] at hu'
      exact congrArg (·.txCount) hu'

theorem compressAs_eq_iff (hchoose : chooseProfile job.packet job.view = profile)
    (hin : profile ≠ .uncompressed → ctx.profile = profile ∧ ctx.mode = job.mode) :
    (job.compressAs ctx profile ctx).2 = ctx ↔ job.Retraces ctx profile := by
  have hchosen := fun hu => chosen_of_chooseProfile hv hchoose hu
  cases profile with
  | llaRtp => exact absurd hchoose (chooseProfile_ne_llaRtp _ _)
  | uncompressed => exact compressUncompressed_eq_iff
  | udp => exact compressUdp_eq_iff hv (hchosen nofun) (hin nofun).1 (hin nofun).2
  | ip => exact compressIp_eq_iff hv (hchosen nofun) (hin nofun).1 (hin nofun).2
  | esp => exact compressEsp_eq_iff hv (hchosen nofun) (hin nofun).1 (hin nofun).2
  | udpLite => exact compressUdpLite_eq_iff hv (hchosen nofun) (hin nofun).1 (hin nofun).2
  | rtp => exact compressRtp_eq_iff hv (hchosen nofun) (hin nofun).1 (hin nofun).2
  | rtpUdpLite => exact compressRtpUdpLite_eq_iff hv (hchosen nofun) (hin nofun).1 (hin nofun).2

end Branches

end Job

/-! ## Whole calls -/

/-- The call finds its labels, its profile and its mode in the context, and no PT-0 interval to close. -/
structure InPlace (comp : Compressor) (before : Context) (profile : Profile) : Prop where
  cid : before.cid = comp.currentCid
  largeCid : before.largeCid = comp.largeCidSpace
  own : profile ≠ .uncompressed → before.profile = profile ∧ before.mode = comp.mode
  window : profileUsesFormalPt0 profile = true → 0 < formalPt0ForwardLimit before →
    formalPt0ForwardLimit before ≤ before.formalPt0SinceConfirmation → before.profileReplacementPending = true

theorem InPlace.prepareContext {comp : Compressor} {before : Context} {profile : Profile}
    (h : InPlace comp before profile) : prepareContext comp before profile = before := by
  have hlabels : ({ before with cid := comp.currentCid, largeCid := comp.largeCidSpace } : Context) = before := by
    rw [← h.cid, ← h.largeCid]
  unfold Rohccxx.prepareContext
  dsimp only
  have hsame : replaceProfile before before comp.mode comp.currentCid comp.largeCidSpace profile = before := by
    unfold replaceProfile
    exact if_neg fun hr => hr.2.1 (h.own hr.2.2).1
  rw [hlabels, hsame]
  split
  · rename_i hformal
    unfold requireConfirmationBeforePt0Alias
    dsimp only
    refine if_neg fun hw => ?_
    have hpending := h.window hformal hw.1 hw.2.1
    rw [hpending] at hw
    exact absurd hw.2.2 (by decide)
  · rfl

/-- A failing branch that ends in the context it was called with had its labels, profile and mode there. -/
theorem inPlace_of_step {comp : Compressor} {packet : Bytes} {view : ParsedIpView} {before ctx : Context}
    {out : Outcome Bytes} (ho : out.isOk = false) (h : BranchStep comp packet view before out ctx)
    (hctx : ctx = before) : InPlace comp before (chooseProfile packet view) := by
  obtain ⟨hcid, hlarge⟩ := prepareContext_cid comp before (chooseProfile packet view)
  cases h with
  | fails _ compressed worked =>
    rw [hctx] at worked
    refine ⟨worked.cid.trans hcid, worked.largeCid.trans hlarge, fun _ => ⟨worked.profile, worked.mode⟩,
      fun hformal hpos hcount => worked.pending ?_⟩
    rcases prepareContext_cases comp before (chooseProfile packet view) with hgo | hstart
    · exact hgo.window hformal hpos hcount
    · exact hstart.pending
  | sends => cases ho
  | wholeFails _ whole left =>
    have hlabels : before.cid = comp.currentCid ∧ before.largeCid = comp.largeCidSpace := by
      rcases left with e | e
      · rw [← hctx, e]
        exact ⟨hcid, hlarge⟩
      · rw [← hctx, e]
        exact ⟨hcid, hlarge⟩
    refine ⟨hlabels.1, hlabels.2, fun hu => absurd whole hu, fun hformal => ?_⟩
    rw [whole] at hformal
    cases hformal
  | whole => cases ho

/-- **A whole branch** ends as the call found the context exactly if all it writes was in place and retraces the packet
that the context has. -/
theorem runBranch_eq_iff {comp : Compressor} {packet : Bytes} {view : ParsedIpView} {before : Context}
    (hv : parseIpView packet = some view) : (runBranch comp packet view before).2 = before ↔
      InPlace comp before (chooseProfile packet view) ∧
        (comp.job packet view).Retraces before (chooseProfile packet view) := by
  have hrun : InPlace comp before (chooseProfile packet view) → runBranch comp packet view before =
      (comp.job packet view).compressAs before (chooseProfile packet view) before := by
    intro h
    unfold runBranch
    dsimp only
    rw [h.prepareContext]
    rfl
  have hbranch : InPlace comp before (chooseProfile packet view) →
      ((runBranch comp packet view before).2 = before ↔
        (comp.job packet view).Retraces before (chooseProfile packet view)) := by
    intro h
    rw [hrun h]
    exact @Job.compressAs_eq_iff (comp.job packet view) _ before hv rfl h.own
  refine ⟨fun h => ?_, fun h => (hbranch h.1).mpr h.2⟩
  suffices hin : InPlace comp before (chooseProfile packet view) from ⟨hin, (hbranch hin).mp h⟩
  rcases hr : runBranch comp packet view before with ⟨unit | _ | _, ctx⟩
  · rw [hr] at h
    exact absurd h (runBranch_ne hr)
  · rw [hr] at h
    exact inPlace_of_step rfl (runBranch_cases hr) h
  · rw [hr] at h
    exact inPlace_of_step rfl (runBranch_cases hr) h

/-- The calls that fail and leave no trace: no room for any unit, no IP header, no context; or a branch that retraces what
the context holds. -/
def LeavesNoTrace (comp : Compressor) (packet : Bytes) (cap : Nat) : Prop :=
  cap ≤ segmentHeaderLen ∨ ∀ view before, parseIpView packet = some view →
    comp.contexts.get comp.currentCid = some before →
      InPlace comp before (chooseProfile packet view) ∧
        (comp.job packet view).Retraces before (chooseProfile packet view)

/-- **When compression is atomic on failure**: a call that returns -1 leaves contexts and pending segments as they were
exactly when it is one of the calls of `LeavesNoTrace`. -/
theorem rohcCompress4_atomic_iff {comp : Compressor} {packet : Bytes} {cap : Nat}
    (failed : (rohcCompress4 comp packet cap).1 = none) :
    Unchanged comp (rohcCompress4 comp packet cap).2 ↔ LeavesNoTrace comp packet cap := by
  unfold LeavesNoTrace
  by_cases hcap : cap ≤ segmentHeaderLen
  · have he : rohcCompress4 comp packet cap = (none, comp) := by
      unfold rohcCompress4
      rw [if_pos hcap]
    rw [he]
    exact ⟨fun _ => Or.inl hcap, fun _ => ⟨rfl, rfl, rfl, rfl⟩⟩
  rw [or_iff_right hcap]
  -- Without a header or a context the inner call returns before it writes.
  have hquiet : compressInner comp packet = (none, comp) → Unchanged comp (rohcCompress4 comp packet cap).2 := by
    intro h
    unfold rohcCompress4
    rw [if_neg hcap, h]
    exact ⟨rfl, rfl, rfl, rfl⟩
  cases hv : parseIpView packet with
  | none =>
    refine iff_of_true (hquiet (by unfold compressInner; simp only [hv])) ?_
    rintro _ _ ⟨⟩
  | some view =>
    cases hb : comp.contexts.get comp.currentCid with
    | none =>
      refine iff_of_true (hquiet (by unfold compressInner; simp only [hv, hb])) ?_
      rintro _ _ - ⟨⟩
    | some before =>
      have hafter : rohcCompress4 comp packet cap = (none, afterBranch comp (runBranch comp packet view before).2) := by
        rcases hr : runBranch comp packet view before with ⟨unit | _ | _, ctx⟩
        · by_cases hroom : HasRoom comp packet unit cap
          · have hs := rohcCompress4_isSome hcap hv hb hr hroom
            rw [failed] at hs
            cases hs
          · exact rohcCompress4_of_no_room hcap hv hb hr hroom
        · exact rohcCompress4_of_fail hcap hv hb hr rfl
        · exact rohcCompress4_of_fail hcap hv hb hr rfl
      have hset : Unchanged comp (afterBranch comp (runBranch comp packet view before).2) ↔
          (runBranch comp packet view before).2 = before := by
        rw [← ContextTable.set_eq_self_iff hb]
        exact ⟨fun h => h.1, fun h => ⟨h, rfl, rfl, rfl⟩⟩
      rw [hafter, hset, runBranch_eq_iff hv]
      constructor
      · rintro h _ _ ⟨⟩ ⟨⟩
        exact h
      · exact fun h => h view before rfl rfl

/-- With room for ten octets the first packet of a flow is refused, and counted: the next call starts from a context
that has sent one packet. -/
theorem rohcCompress4_not_atomic :
    ¬∀ (comp : Compressor) (packet : Bytes) (cap : Nat), (rohcCompress4 comp packet cap).1 = none →
      Unchanged comp (rohcCompress4 comp packet cap).2 := by
  intro h
  have hsame := (h freshCompressor shortUdpPacket 10 (by decide +kernel)).1
  have hcount := congrArg (fun tbl : ContextTable => (tbl.get 0).map fun ctx => ctx.txCount) hsame
  revert hcount
  decide +kernel

/-- An IPv4 packet of 24 octets that ends within its ESP header. -/
def cutEspPacket : Bytes :=
  [69, 0, 0, 24, 0, 1, 64, 0, 64, 50, 38, 177, 10, 0, 0, 1, 10, 0, 0, 2, 0, 0, 0, 1]

/-- The handle behind a first call with it. -/
def afterCutEsp : Compressor := (rohcCompress4 freshCompressor cutEspPacket 100).2

/-- The branch stops behind the IP header: the first call leaves what it captured there, the second finds it. -/
theorem rohcCompress4_atomic_cutEsp :
    ¬Unchanged freshCompressor (rohcCompress4 freshCompressor cutEspPacket 100).2 ∧
      Unchanged afterCutEsp (rohcCompress4 afterCutEsp cutEspPacket 100).2 := by
  have hview : parseIpView cutEspPacket = some ⟨false, 20, 0, 50⟩ := by decide +kernel
  have hprofile : chooseProfile cutEspPacket ⟨false, 20, 0, 50⟩ = .esp := by decide +kernel
  constructor
  · rw [rohcCompress4_atomic_iff (by decide +kernel)]
    rintro (hcap | htrace)
    · exact absurd hcap (by decide)
    · have h := (htrace _ {} hview (ContextTable.get_init (Nat.zero_le 15))).1.own
      rw [hprofile] at h
      exact absurd (h nofun).1 (by decide +kernel)
  · refine (rohcCompress4_atomic_iff (by decide +kernel)).mpr (Or.inr fun view before hv hb => ?_)
    have hget : before = (afterCutEsp.contexts.get afterCutEsp.currentCid).getD {} := by rw [hb, Option.getD_some]
    cases hview.symm.trans hv
    rw [hget, hprofile]
    constructor
    · exact ⟨by decide +kernel, by decide +kernel, fun _ => by decide +kernel, fun _ => by decide +kernel⟩
    · exact ⟨⟨⟨fun _ => by decide +kernel, nofun⟩, fun _ => ⟨by decide +kernel, by decide +kernel⟩⟩,
        Or.inl (by decide +kernel)⟩

end Rohccxx
