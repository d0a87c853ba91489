import Rohccxx.Emission
import Rohccxx.Rebuild

/-!
# The headers in a captured context

A captured context holds the headers of its packet (`HasIp`, `HasUpper`), whatever the context was before. The profile
was chosen so that the standard chains can carry what they have to.
-/

set_option autoImplicit false

namespace Rohccxx

open Octets

/-! ## The choice of a profile -/

/-- What the choice of a compressing profile says about the packet. -/
structure Chosen (packet : Bytes) (view : ParsedIpView) (profile : Profile) : Prop where
  transport : classifyTransport packet view.headerLen view.terminalProtocol = profile
  whole : view.isIpv6 = false → Ipv4.isFragmented (u16At packet 6) = false
  standard : profileUsesFormalPt0 profile = true → unsupportedStandardChain packet view = false

theorem classifyPacket_eq {packet : Bytes} {view : ParsedIpView} (hv : parseIpView packet = some view)
    (hw : view.isIpv6 = false → Ipv4.isFragmented (u16At packet 6) = false) :
    classifyPacket packet = classifyTransport packet view.headerLen view.terminalProtocol := by
  unfold classifyPacket
  cases h6 : view.isIpv6 with
  | false =>
    obtain ⟨-, hp, -, ht⟩ := parseIpView_ipv4 hv h6
    simp [hp, hw h6, ht]
  | true =>
    obtain ⟨-, hn, hp, -⟩ := parseIpView_ipv6 hv h6
    simp [hn, hp]

theorem chosen_of_chooseProfile {packet : Bytes} {view : ParsedIpView} {profile : Profile}
    (hv : parseIpView packet = some view) (h : chooseProfile packet view = profile) (hne : profile ≠ .uncompressed) :
    Chosen packet view profile := by
  unfold chooseProfile at h
  by_cases hfrag : (!view.isIpv6) = true ∧ Ipv4.isFragmented (u16At packet 6) = true
  · simp only [if_pos hfrag] at h
    simp only [profileUsesFormalPt0, Bool.false_eq_true, and_false, if_false] at h
    exact absurd h.symm hne
  · have hw : view.isIpv6 = false → Ipv4.isFragmented (u16At packet 6) = false := by
      intro h6
      simpa [h6] using hfrag
    simp only [if_neg hfrag, classifyPacket_eq hv hw] at h
    split at h
    · exact absurd h.symm hne
    · rename_i hn
      refine ⟨h, hw, fun hp => ?_⟩
      rw [h] at hn
      simpa [hp] using hn

namespace Chosen

variable {packet : Bytes} {view : ParsedIpView} {profile : Profile}

/-- The protocol and the room of the transport header. -/
theorem fields (h : Chosen packet view profile) :
    (profile = .udp ∨ profile = .rtp → view.terminalProtocol = 17 ∧ view.headerLen + 8 ≤ packet.length) ∧
    (profile = .udpLite ∨ profile = .rtpUdpLite →
      view.terminalProtocol = 136 ∧ view.headerLen + 8 ≤ packet.length) ∧
    (profile = .esp → view.terminalProtocol = 50) := by
  have ht := h.transport
  unfold classifyTransport udpFits at ht
  split_ifs at ht with h17 hu hr h50 h136 hu' hr' <;> subst ht <;> simp_all

/-- Standard chains: no options, no extension headers, no flow label, plain RTP. -/
theorem chains (h : Chosen packet view profile) (hp : profileUsesFormalPt0 profile = true) :
    (view.isIpv6 = false → view.headerLen = 20) ∧
    (view.isIpv6 = true → view.extensionLen = 0 ∧ u32At packet 0 &&& 0x000FFFFF = 0) := by
  have hs := h.standard hp
  simp only [unsupportedStandardChain, Bool.or_eq_false_iff, Bool.and_eq_false_iff] at hs
  obtain ⟨⟨h₄, h₆⟩, -⟩ := hs
  constructor
  · intro hv
    simpa [hv] using h₄
  · intro hv
    simpa [hv] using h₆

end Chosen

/-! ## Captured IP headers -/

/-- The behaviour that leaves the IP-ID out is used for IP-ID 0 only. -/
def IdHonest (ctx : Context) : Prop := ctx.ipVersion ≠ 6 → ctx.ipv4IdBehavior &&& 0x03 = 3 → ctx.ipv4Id = 0

theorem updateIpv4IdBehavior_eq (ctx : Context) (had : Bool) (id : UInt16) :
    ∃ behavior sequential, updateIpv4IdBehavior ctx had id =
      { ctx with ipv4IdBehavior := behavior, ipv4IdSequential := sequential } ∧
      (ctx.ipVersion = 4 → behavior &&& 0x03 = 3 → ctx.ipv4Id = 0) := by
  unfold updateIpv4IdBehavior
  by_cases h4 : ctx.ipVersion ≠ 4
  · rw [if_pos h4]
    exact ⟨ctx.ipv4IdBehavior, ctx.ipv4IdSequential, rfl, fun h => absurd h h4⟩
  · rw [if_neg h4]
    refine ⟨_, _, rfl, fun _ => ?_⟩
    split_ifs
    all_goals first | exact fun h => absurd h (by decide) | exact fun _ => by assumption

theorem noteBehaviorChange_eq (previous : Context) (had : Bool) (ctx : Context) :
    ∃ revision pending, Job.noteBehaviorChange previous had ctx =
      { ctx with contextRevision := revision, profileReplacementPending := pending } ∧
      (ctx.profileReplacementActive = false → pending = ctx.profileReplacementPending) := by
  unfold Job.noteBehaviorChange startReplacement
  split
  · rename_i h
    exact ⟨_, _, rfl, fun hn => by simp [hn] at h⟩
  · exact ⟨ctx.contextRevision, ctx.profileReplacementPending, rfl, fun _ => rfl⟩

namespace Job

variable {job : Job} {previous : Context} {profile : Profile}

theorem captureIpContext_captured (hok : job.capturesIp profile previous = true) :
    captureIpContext { previous with profile := profile, mode := job.mode } job.packet job.view =
      (true, job.capturedIp profile previous) := by
  unfold capturesIp at hok
  unfold capturedIp
  rw [← hok]

/-- The captured flags. -/
def wireFlags (packet : Bytes) : UInt8 := ((u16At packet 6 >>> 13) &&& 0x07).toUInt8

theorem hasIp_capturedIp (hv : parseIpView job.packet = some job.view) (hok : job.capturesIp profile previous = true) :
    HasIp (job.capturedIp profile previous) job.packet job.view ∧
      (job.capturedIp profile previous).ipv4Protocol = job.view.terminalProtocol ∧
      (job.view.isIpv6 = false → (job.capturedIp profile previous).ipv4Flags = wireFlags job.packet) := by
  have hc := captureIpContext_captured hok
  cases h6 : job.view.isIpv6 with
  | false =>
    obtain ⟨h, hf⟩ := captureIpContext_ipv4 hv h6 hc
    obtain ⟨-, -, -, hp⟩ := parseIpView_ipv4 hv h6
    exact ⟨⟨hv, fun _ => h, fun hn => by simp [h6] at hn⟩, h.protocol.trans hp.symm, fun _ => hf⟩
  | true =>
    obtain ⟨h, he, hp⟩ := captureIpContext_ipv6 hv h6 hc
    exact ⟨⟨hv, fun hn => by simp [h6] at hn, fun _ => ⟨h, he⟩⟩, hp, nofun⟩

/-- Capturing IP headers leaves the rest of the context alone. -/
theorem capturedIp_frame (job : Job) (profile : Profile) (previous : Context) :
    (job.capturedIp profile previous).toControl =
        { previous.toControl with profile := profile, mode := job.mode } ∧
      (job.capturedIp profile previous).toMsnHistory = previous.toMsnHistory ∧
      (job.capturedIp profile previous).toTransportContext = previous.toTransportContext ∧
      (job.capturedIp profile previous).rtp = previous.rtp := by
  unfold capturedIp captureIpContext captureIpv4Options
  dsimp only
  split_ifs <;> exact ⟨rfl, rfl, rfl, rfl⟩

theorem capturedBehavior_eq (job : Job) (profile : Profile) (previous : Context) :
    ∃ behavior sequential revision pending, job.capturedBehavior profile previous =
        { job.capturedIp profile previous with
          ipv4IdBehavior := behavior, ipv4IdSequential := sequential, contextRevision := revision
          profileReplacementPending := pending } ∧
      ((job.capturedIp profile previous).ipVersion = 4 → behavior &&& 0x03 = 3 →
        (job.capturedIp profile previous).ipv4Id = 0) ∧
      (previous.profileReplacementActive = false → pending = previous.profileReplacementPending) := by
  unfold capturedBehavior
  dsimp only
  obtain ⟨behavior, sequential, e, hid⟩ := updateIpv4IdBehavior_eq (job.capturedIp profile previous)
    (decide (previous.ipVersion = 4 ∧ previous.txCount > 0)) previous.ipv4Id
  obtain ⟨revision, pending, e', hpend⟩ := noteBehaviorChange_eq previous
    (decide (previous.ipVersion = 4 ∧ previous.txCount > 0))
    { job.capturedIp profile previous with ipv4IdBehavior := behavior, ipv4IdSequential := sequential }
  obtain ⟨hc, -⟩ := capturedIp_frame job profile previous
  refine ⟨behavior, sequential, revision, pending, by rw [e, e'], hid, fun hn => ?_⟩
  have hcopy : (job.capturedIp profile previous).profileReplacementPending = previous.profileReplacementPending := by
    rw [hc]
  have hactive : (job.capturedIp profile previous).profileReplacementActive = previous.profileReplacementActive := by
    rw [hc]
  exact (hpend (hactive.trans hn)).trans hcopy

/-! ## Captured transport headers -/

/-- What a captured context has in every profile: the headers of the packet in the context of the same flow. -/
structure Holds (job : Job) (profile : Profile) (previous : Context) (payload : Bytes) (ctx : Context) : Prop where
  ip : HasIp ctx job.packet job.view
  upper : HasUpper ctx job.packet job.view profile payload
  flags : job.view.isIpv6 = false → ctx.ipv4Flags = wireFlags job.packet
  protocol : ctx.ipv4Protocol = job.view.terminalProtocol
  honest : profileUsesFormalPt0 profile = true → IdHonest ctx
  profile : ctx.profile = profile
  mode : ctx.mode = job.mode
  cid : ctx.cid = previous.cid
  largeCid : ctx.largeCid = previous.largeCid
  txCount : ctx.txCount = previous.txCount
  rohcState : ctx.rohcState = previous.rohcState
  pending : previous.profileReplacementActive = false →
    ctx.profileReplacementPending = previous.profileReplacementPending

theorem honest_of {ctx : Context} (h : ctx.ipVersion = 4 → ctx.ipv4IdBehavior &&& 0x03 = 3 → ctx.ipv4Id = 0)
    (hv : ctx.ipVersion = if job.view.isIpv6 then 6 else 4) : IdHonest ctx := by
  intro h6
  apply h
  rw [hv] at h6 ⊢
  cases h : job.view.isIpv6 with
  | true => simp [h] at h6
  | false => simp

variable (hv : parseIpView job.packet = some job.view) (hok : job.capturesIp profile previous = true)

include hv hok

/-- The UDP, IP-only and ESP branches before their own headers. -/
theorem holds_capturedBehavior {payload : Bytes} {ctx : Context}
    (hip : ctx.toIpv4Context = (job.capturedBehavior profile previous).toIpv4Context)
    (hip6 : ctx.toIpv6Context = (job.capturedBehavior profile previous).toIpv6Context) {msn : UInt16}
    (hcontrol : ctx.toControl = { (job.capturedBehavior profile previous).toControl with msn := msn })
    (hupper : ctx.ipv4Protocol = job.view.terminalProtocol → HasUpper ctx job.packet job.view profile payload) :
    Holds job profile previous payload ctx := by
  obtain ⟨hi, hp, hf⟩ := hasIp_capturedIp hv hok
  obtain ⟨behavior, sequential, revision, pending, e, hid, hpend⟩ := capturedBehavior_eq job profile previous
  obtain ⟨hc, -⟩ := capturedIp_frame job profile previous
  rw [e] at hip hip6 hcontrol
  have hproto : ctx.ipv4Protocol = job.view.terminalProtocol := by rw [hip]; exact hp
  have hi' : HasIp ctx job.packet job.view := hi.of_ip hip hip6
  refine ⟨hi', hupper hproto, fun h6 => ?_, hproto, fun _ => honest_of ?_ hi'.version, ?_, ?_, ?_, ?_, ?_, ?_, ?_⟩
  · rw [hip]; exact hf h6
  · rw [hip]; exact hid
  · simp only [hcontrol, hc]
  · simp only [hcontrol, hc]
  · simp only [hcontrol, hc]
  · simp only [hcontrol, hc]
  · simp only [hcontrol, hc]
  · simp only [hcontrol, hc]
  · intro ha
    rw [hcontrol]
    exact hpend ha

omit hok in
theorem holds_capturedUdp (hok : job.capturesIp .udp previous = true) (hchosen : Chosen job.packet job.view .udp) :
    Holds job .udp previous (job.packet.drop (job.view.headerLen + 8)) (job.capturedUdp previous) := by
  obtain ⟨hproto, hfits⟩ := hchosen.fields.1 (Or.inl rfl)
  exact holds_capturedBehavior hv hok rfl rfl rfl fun _ => .udp ⟨rfl, rfl, rfl⟩ hfits hproto

omit hok in
theorem holds_capturedEsp (hok : job.capturesIp .esp previous = true) (hchosen : Chosen job.packet job.view .esp)
    (hfits : job.view.headerLen + 8 ≤ job.packet.length) :
    Holds job .esp previous (job.packet.drop (job.view.headerLen + 8)) (job.capturedEsp previous) := by
  obtain ⟨h₄, h₆⟩ := hchosen.chains rfl
  exact holds_capturedBehavior hv hok rfl rfl rfl fun hp => .esp ⟨rfl, rfl⟩ hfits hp (fun h => (h₆ h).1) h₄

omit hok in
theorem holds_capturedIpOnly (hok : job.capturesIp .ip previous = true) :
    Holds job .ip previous (job.packet.drop job.view.headerLen) (job.capturedIpOnly previous) :=
  holds_capturedBehavior hv hok rfl rfl rfl fun hp => .ip hp

omit hok in
theorem holds_capturedUdpLite (hok : job.capturesIp .udpLite previous = true)
    (hchosen : Chosen job.packet job.view .udpLite) :
    Holds job .udpLite previous (job.packet.drop (job.view.headerLen + 8)) (job.capturedUdpLite previous) := by
  obtain ⟨hproto, hfits⟩ := hchosen.fields.2.1 (Or.inl rfl)
  obtain ⟨hi, hp, hf⟩ := hasIp_capturedIp hv hok
  obtain ⟨hc, -⟩ := capturedIp_frame job .udpLite previous
  have hc' : (job.capturedUdpLite previous).toControl =
      { previous.toControl with profile := .udpLite, mode := job.mode } := hc
  refine ⟨hi.of_ip rfl rfl, .udpLite ⟨rfl, rfl, rfl⟩ hfits rfl hproto, hf, hp, nofun, ?_, ?_, ?_, ?_, ?_, ?_, ?_⟩
  · rw [hc']
  · rw [hc']
  · rw [hc']
  · rw [hc']
  · rw [hc']
  · rw [hc']
  · intro _
    rw [hc']

/-! ## Captured RTP headers -/

omit hv hok

theorem updateRtpIpv4IdBehavior_eq (ctx : Context) (had : Bool) (id : UInt16) (flags : UInt8) (sequential : Bool)
    (lastSeq seq : UInt16) :
    ∃ behavior sequential', (updateRtpIpv4IdBehavior ctx had id flags sequential lastSeq seq).2 =
      { ctx with ipv4IdBehavior := behavior, ipv4IdSequential := sequential' } ∧
      (behavior &&& 0x03 = 3 → ctx.ipv4Id = 0) := by
  unfold updateRtpIpv4IdBehavior
  split
  · refine ⟨_, _, rfl, ?_⟩
    split_ifs
    all_goals first | exact fun h => absurd h (by decide) | exact fun _ => by assumption
  · refine ⟨_, _, rfl, ?_⟩
    split_ifs
    all_goals first | exact fun h => absurd h (by decide) | exact fun _ => by assumption

/-- The stride is the only thing a timestamp changes. -/
theorem updateRtpTimestampStride_eq (ctx : Context) (seq : UInt16) (ts : UInt32) :
    ∃ stride residue, updateRtpTimestampStride ctx seq ts =
      { ctx with rtp := { ctx.rtp with tsStride := stride, tsResidue := residue } } := by
  unfold updateRtpTimestampStride
  split
  · exact ⟨_, _, rfl⟩
  · split
    · exact ⟨_, _, rfl⟩
    · split
      · exact ⟨_, _, rfl⟩
      · exact ⟨_, _, rfl⟩

/-- What the RTP branches have captured before the lists. -/
theorem captureRtpHeader_frame (job : Job) (previous ctx : Context) :
    ∃ behavior sequential revision pending, let after := (job.captureRtpHeader previous ctx).2
      after.toIpv4Context = { ctx.toIpv4Context with ipv4IdBehavior := behavior, ipv4IdSequential := sequential } ∧
      after.toIpv6Context = ctx.toIpv6Context ∧
      after.toControl = { ctx.toControl with
        msn := u16At job.rtpPacket 2, contextRevision := revision, profileReplacementPending := pending } ∧
      HasUdp after job.packet job.view.headerLen ∧
      after.udpLengthOrCoverage = u16At job.packet (job.view.headerLen + 4) ∧
      HasRtpHeader after.rtp job.rtpPacket ∧
      (behavior &&& 0x03 = 3 → ctx.ipv4Id = 0) ∧
      (ctx.profileReplacementActive = false → pending = ctx.profileReplacementPending) := by
  have hheader : ∀ rtp : RtpContext, HasRtpHeader { rtp with
      vpxcc := u8At job.packet (job.view.headerLen + 8), mpt := u8At job.packet (job.view.headerLen + 8 + 1)
      lastSeq := u16At job.packet (job.view.headerLen + 8 + 2), lastTs := u32At job.packet (job.view.headerLen + 8 + 4)
      ssrc := u32At job.packet (job.view.headerLen + 8 + 8) } job.rtpPacket := fun rtp =>
    ⟨(u8At_drop _ _ 0).symm, (u8At_drop _ _ 1).symm, (u16At_drop _ _ 2).symm, (u32At_drop _ _ 4).symm,
      (u32At_drop _ _ 8).symm⟩
  unfold captureRtpHeader
  dsimp only
  generalize hu : updateRtpIpv4IdBehavior _ _ _ _ _ _ _ = update
  obtain ⟨behavior, sequential, e, hb⟩ := updateRtpIpv4IdBehavior_eq (job.captureUdpHeader ctx)
    (decide (previous.ipVersion = 4 ∧ previous.txCount > 0)) previous.ipv4Id previous.ipv4Flags
    previous.ipv4IdSequential previous.rtp.lastSeq (u16At job.packet (job.view.headerLen + 8 + 2))
  rw [hu] at e
  obtain ⟨revision, pending, e', hp⟩ : ∃ revision pending,
      (if update.2.profileReplacementActive = true ∧ (!update.1) = true ∧ (!update.2.profileReplacementPending) = true then
        startReplacement update.2 else update.2) =
      { update.2 with contextRevision := revision, profileReplacementPending := pending } ∧
      (update.2.profileReplacementActive = false → pending = update.2.profileReplacementPending) := by
    unfold startReplacement
    split
    · rename_i h
      exact ⟨_, _, rfl, fun hn => by simp [hn] at h⟩
    · exact ⟨update.2.contextRevision, update.2.profileReplacementPending, rfl, fun _ => rfl⟩
  rw [e', e]
  obtain ⟨stride, residue, e''⟩ := updateRtpTimestampStride_eq
    { job.captureUdpHeader ctx with
      ipv4IdBehavior := behavior, ipv4IdSequential := sequential, contextRevision := revision
      profileReplacementPending := pending }
    (u16At job.packet (job.view.headerLen + 8 + 2)) (u32At job.packet (job.view.headerLen + 8 + 4))
  rw [e] at hp
  refine ⟨behavior, sequential, revision, pending, ?_⟩
  rw [e'']
  refine ⟨rfl, rfl, ?_, ⟨rfl, rfl, rfl⟩, rfl, hheader _, hb, hp⟩
  rw [rtpPacket, u16At_drop]
  rfl

theorem rtpPayload_eq (job : Job) (payload : RtpPayloadView) : job.rtpPayload payload =
    slice (job.packet.drop (job.view.headerLen + 8)) payload.payloadOffset payload.payloadLen := by
  simp only [rtpPayload, slice, List.drop_drop]

/-- The RTP branches. -/
theorem holds_capturedRtp (hv : parseIpView job.packet = some job.view)
    (hok : job.capturesIp profile previous = true) {payload : RtpPayloadView}
    (hview : job.rtpView profile previous = some payload)
    (hupper : ∀ ctx : Context, HasUdp ctx job.packet job.view.headerLen →
      ctx.udpLengthOrCoverage = u16At job.packet (job.view.headerLen + 4) →
      HasRtp ctx.rtp (job.packet.drop (job.view.headerLen + 8)) payload → (rtpExtrasBodyLen ctx.rtp).isSome = true →
      HasUpper ctx job.packet job.view profile (job.rtpPayload payload)) :
    Holds job profile previous (job.rtpPayload payload) (job.capturedRtp profile previous).2 := by
  obtain ⟨hi, hp, hf⟩ := hasIp_capturedIp hv hok
  obtain ⟨hc, -⟩ := capturedIp_frame job profile previous
  obtain ⟨behavior, sequential, revision, pending, h₄, h₆, hcontrol, hudp, hcov, hrtp, hid, hpend⟩ :=
    captureRtpHeader_frame job previous (job.capturedIp profile previous)
  have hcap : captureRtpContext (job.captureRtpHeader previous (job.capturedIp profile previous)).2 job.rtpPacket =
      (some payload, (job.capturedRtp profile previous).2) := by
    unfold rtpView at hview
    rw [← hview]
    rfl
  generalize (job.captureRtpHeader previous (job.capturedIp profile previous)).2 = before at *
  obtain ⟨hrtp', hextras, e⟩ := captureRtpContext_eq hrtp hcap
  generalize (job.capturedRtp profile previous).2 = ctx at *
  have h₄' := Eq.trans (congrArg Context.toIpv4Context e) h₄
  have h₆' := Eq.trans (congrArg Context.toIpv6Context e) h₆
  have hcontrol' := Eq.trans (congrArg Context.toControl e) hcontrol
  have hudp' : HasUdp ctx job.packet job.view.headerLen := by
    rw [e]
    exact ⟨hudp.sport, hudp.dport, hudp.check⟩
  have hcov' : ctx.udpLengthOrCoverage = u16At job.packet (job.view.headerLen + 4) := by
    rw [e]
    exact hcov
  have hi' : HasIp ctx job.packet job.view := hi.of_ip h₄' h₆'
  refine ⟨hi', hupper ctx hudp' hcov' hrtp' hextras, ?_, ?_, fun _ => honest_of ?_ hi'.version, ?_, ?_, ?_, ?_, ?_,
    ?_, ?_⟩
  · intro h6
    rw [h₄']
    exact hf h6
  · rw [h₄']
    exact hp
  · intro _ hb
    rw [h₄'] at hb ⊢
    exact hid hb
  · simp only [hcontrol', hc]
  · simp only [hcontrol', hc]
  · simp only [hcontrol', hc]
  · simp only [hcontrol', hc]
  · simp only [hcontrol', hc]
  · simp only [hcontrol', hc]
  · intro hn
    have hcopy : (job.capturedIp profile previous).profileReplacementPending = previous.profileReplacementPending := by
      rw [hc]
    have hactive : (job.capturedIp profile previous).profileReplacementActive = previous.profileReplacementActive := by
      rw [hc]
    have := (hpend (hactive.trans hn)).trans hcopy
    simpa only [hcontrol'] using this

theorem holds_capturedRtp_rtp (hv : parseIpView job.packet = some job.view)
    (hok : job.capturesIp .rtp previous = true) (hchosen : Chosen job.packet job.view .rtp) {payload : RtpPayloadView}
    (hview : job.rtpView .rtp previous = some payload) :
    Holds job .rtp previous (job.rtpPayload payload) (job.capturedRtp .rtp previous).2 := by
  obtain ⟨hproto, hfits⟩ := hchosen.fields.1 (Or.inr rfl)
  refine holds_capturedRtp hv hok hview fun ctx hudp _ hrtp hextras => ?_
  rw [rtpPayload_eq]
  exact .rtp hudp hrtp hextras hfits hproto

theorem holds_capturedRtp_lite (hv : parseIpView job.packet = some job.view)
    (hok : job.capturesIp .rtpUdpLite previous = true) (hchosen : Chosen job.packet job.view .rtpUdpLite)
    {payload : RtpPayloadView} (hview : job.rtpView .rtpUdpLite previous = some payload) :
    Holds job .rtpUdpLite previous (job.rtpPayload payload) (job.capturedRtp .rtpUdpLite previous).2 := by
  obtain ⟨hproto, hfits⟩ := hchosen.fields.2.1 (Or.inr rfl)
  refine holds_capturedRtp hv hok hview fun ctx hudp hcov hrtp hextras => ?_
  rw [rtpPayload_eq]
  exact .rtpUdpLite hudp hrtp hextras hfits hcov hproto

end Job

/-! ## Decoded headers -/

/-- No lists in front of the RTP payload. -/
structure NoLists (rtp : RtpContext) : Prop where
  csrc : rtp.csrcListLen = 0
  extension : rtp.extensionLen = 0
  padding : rtp.paddingLen = 0

/-- The transport chains leave the IP headers alone. -/
theorem toIpContext_irDecoded (profile : Profile) (c d : Context) :
    ∃ sequential, (irDecoded profile c d).toIpv4Context =
        { (copyIpDynamic (profile = .ip) c (copyIpStatic c d)).toIpv4Context with ipv4IdSequential := sequential } ∧
      (irDecoded profile c d).toIpv6Context = (copyIpDynamic (profile = .ip) c (copyIpStatic c d)).toIpv6Context := by
  unfold irDecoded copyIpDynamic
  by_cases h6 : c.ipVersion = 6
  · simp only [if_pos h6]
    cases profile <;> exact ⟨_, rfl, rfl⟩
  · simp only [if_neg h6]
    cases profile <;> exact ⟨_, rfl, rfl⟩

theorem hasIp_irDecoded {c : Context} {packet : Bytes} {view : ParsedIpView} (h : HasIp c packet view)
    (hstd : StandardIp c) (honest : IdHonest c) (profile : Profile) (d : Context) :
    HasIp (irDecoded profile c d) packet view ∧
      (view.isIpv6 = false → (irDecoded profile c d).ipv4Flags = dfOnly c.ipv4Flags) := by
  obtain ⟨sequential, h₄, h₆⟩ := toIpContext_irDecoded profile c d
  have hver := h.version_eq_six
  cases h6 : view.isIpv6 with
  | false =>
    have hc := h.v4 h6
    have hn : c.ipVersion ≠ 6 := by rw [hc.version]; decide
    have hopt : c.ipv4OptionsLen = 0 := by
      rcases hstd with ⟨-, h0⟩ | ⟨h, -⟩
      · exact h0
      · exact absurd h hn
    have hid : (if c.ipv4IdBehavior &&& 0x03 ≠ 3 then c.ipv4Id else 0) = c.ipv4Id := by
      split
      · rfl
      · rename_i hb
        exact (honest hn (by simpa using hb)).symm
    simp only [copyIpDynamic, copyIpStatic, if_neg hn, hid] at h₄
    have hh := hc.headerLen
    rw [hopt] at hh
    refine ⟨⟨h.parsed, fun _ => ?_, fun hn => by simp [h6] at hn⟩, fun _ => by rw [h₄]⟩
    constructor <;> rw [h₄]
    · exact hc.tos
    · exact hc.id
    · exact hc.ttl
    · exact hc.protocol
    · exact hc.saddr
    · exact hc.daddr
    · exact hh
    · simp [slice]
  | true =>
    obtain ⟨hc, he⟩ := h.v6 h6
    have hv : c.ipVersion = 6 := hc.version
    obtain ⟨hext, hflow⟩ : c.ipv6ExtensionLen = 0 ∧ c.ipv6FlowLabel = 0 := by
      rcases hstd with ⟨h, -⟩ | ⟨-, h⟩
      · rw [hv] at h
        exact absurd h (by decide)
      · exact h
    simp only [copyIpDynamic, copyIpStatic, if_pos hv] at h₄ h₆
    refine ⟨⟨h.parsed, fun hn => by simp [h6] at hn, fun _ => ⟨?_, ?_⟩⟩, fun hn => by cases hn⟩
    · constructor
      · rw [h₄]
      all_goals rw [h₆]
      · exact hc.trafficClass
      · rw [← hflow]
        exact hc.flowLabel
      · exact hc.nextHeader
      · exact hc.hopLimit
      · exact hc.saddr
      · exact hc.daddr
      · simp [slice]
    · rw [h₆, ← he, hext]

/-- The protocol behind the IP header, on both sides. -/
theorem protocol_irDecoded {c : Context} {packet : Bytes} {view : ParsedIpView} (h : HasIp c packet view)
    (hstd : StandardIp c) (hp : c.ipv4Protocol = view.terminalProtocol) (profile : Profile) (d : Context) :
    (irDecoded profile c d).ipv4Protocol = view.terminalProtocol ∧ terminalProtocol c = view.terminalProtocol := by
  obtain ⟨sequential, h₄, -⟩ := toIpContext_irDecoded profile c d
  by_cases h6 : c.ipVersion = 6
  · have hv := h.version_eq_six.mp h6
    obtain ⟨hc, he⟩ := h.v6 hv
    obtain ⟨-, -, -, -, -, hnext⟩ := parseIpView_ipv6 h.parsed hv
    have hext : c.ipv6ExtensionLen = 0 := by
      rcases hstd with ⟨h4, -⟩ | ⟨-, h, -⟩
      · rw [h4] at h6
        exact absurd h6 (by decide)
      · exact h
    have hterm : c.ipv6NextHeader = view.terminalProtocol := hc.nextHeader.trans (hnext.mp (he.symm.trans hext))
    simp only [copyIpDynamic, copyIpStatic, if_pos h6] at h₄
    exact ⟨by rw [h₄]; exact hterm, by rw [terminalProtocol, if_pos h6]; exact hterm⟩
  · simp only [copyIpDynamic, copyIpStatic, if_neg h6] at h₄
    exact ⟨by rw [h₄]; exact hp, by rw [terminalProtocol, if_neg h6]; exact hp⟩

theorem copyIpStatic_frame (c d : Context) :
    (copyIpStatic c d).toTransportContext = d.toTransportContext ∧ (copyIpStatic c d).rtp = d.rtp ∧
      (copyIpStatic c d).toControl = d.toControl := by
  unfold copyIpStatic
  split <;> exact ⟨rfl, rfl, rfl⟩

theorem copyIpDynamic_frame (endpoint : Bool) (c d : Context) :
    (copyIpDynamic endpoint c d).toTransportContext = d.toTransportContext ∧ (copyIpDynamic endpoint c d).rtp = d.rtp ∧
      (copyIpDynamic endpoint c d).toControl = { d.toControl with
        reorderRatio := if endpoint then c.reorderRatio &&& 0x03 else d.reorderRatio
        msn := if endpoint then c.msn else d.msn } := by
  unfold copyIpDynamic
  split <;> exact ⟨rfl, rfl, rfl⟩

/-- The UDP header after a standard IR of the profiles UDP and RTP. -/
theorem udp_irDecoded {profile : Profile} (hp : profile = .udp ∨ profile = .rtp) (c d : Context) :
    (irDecoded profile c d).toTransportContext = { d.toTransportContext with
      udpSport := c.udpSport, udpDport := c.udpDport, udpCheck := c.udpCheck, udpChecksumUsed := c.udpCheck ≠ 0
      legacyEspPayloadIncludesHeader := false } := by
  obtain ⟨hs, -⟩ := copyIpStatic_frame c d
  rcases hp with rfl | rfl
  · simp only [irDecoded, copyTransportDynamic, copyTransportStatic, (copyIpDynamic_frame _ _ _).1, hs]
  · simp only [irDecoded, copyTransportDynamic, copyTransportStatic, refreshRtp, (copyIpDynamic_frame _ _ _).1, hs]

/-- The ESP header after a standard IR. -/
theorem esp_irDecoded (c d : Context) :
    (irDecoded .esp c d).toTransportContext = { d.toTransportContext with
      espSpi := c.espSpi, espSequence := c.espSequence, legacyEspPayloadIncludesHeader := false } := by
  obtain ⟨hs, -⟩ := copyIpStatic_frame c d
  simp only [irDecoded, copyTransportDynamic, copyTransportStatic, (copyIpDynamic_frame _ _ _).1, hs]

/-- The RTP header after a standard IR; the stride is what the decoder makes of it. -/
theorem rtp_irDecoded (c d : Context) : ∃ stride residue, (irDecoded .rtp c d).rtp =
    { d.rtp with
      ssrc := c.rtp.ssrc, vpxcc := 0x80, mpt := c.rtp.mpt, lastSeq := c.rtp.lastSeq, lastTs := c.rtp.lastTs
      tsStride := stride, tsResidue := residue, initialized := 1, seqWindow := ⟨c.rtp.lastSeq⟩
      tsWindow := ⟨c.rtp.lastTs⟩ } := by
  obtain ⟨-, hs, -⟩ := copyIpStatic_frame c d
  unfold irDecoded
  simp only [copyTransportDynamic, refreshRtp, (copyIpDynamic_frame _ _ _).2.1, copyTransportStatic, hs]
  split
  · split <;> exact ⟨_, _, rfl⟩
  · exact ⟨_, _, rfl⟩

theorem plainRtp_vpxcc {v : UInt8} (h₁ : v &&& 0x0F = 0) (h₂ : v &&& 0x20 = 0) (h₃ : v &&& 0x10 = 0)
    (hv : v >>> 6 = 2) : v = 0x80 :=
  forall_octet (P := fun v => v &&& 0x0F = 0 → v &&& 0x20 = 0 → v &&& 0x10 = 0 → v >>> 6 = 2 → v = 0x80)
    (by decide) v h₁ h₂ h₃ hv

theorem rtpExtrasBodyLen_plain {rtp : RtpContext} (hv : rtp.vpxcc = 0x80) (hn : NoLists rtp) :
    rtpExtrasBodyLen rtp = some 0 := by
  have h₁ : (0x80 : UInt8) &&& 0x0F = 0 := by decide
  have h₂ : (0x80 : UInt8) &&& 0x10 = 0 := by decide
  have h₃ : (0x80 : UInt8) &&& 0x20 = 0 := by decide
  unfold rtpExtrasBodyLen
  simp [hv, hn.csrc, hn.extension, hn.padding, h₁, h₂, h₃]

/-- **What a standard IR leaves in the decoder's context** can rebuild the packet. -/
theorem hasUpper_irDecoded {c d : Context} {packet payload : Bytes} {view : ParsedIpView} {profile : Profile}
    (hs : SendsIr profile c) (hp : profileUsesFormalPt0 profile = true) (hip : HasIp c packet view)
    (hproto : c.ipv4Protocol = view.terminalProtocol) (h : HasUpper c packet view profile payload)
    (hrtp : profile = .rtp → c.rtp.vpxcc >>> 6 = 2 ∧ NoLists d.rtp) :
    HasUpper (irDecoded profile c d) packet view profile payload := by
  obtain ⟨hprot, -⟩ := protocol_irDecoded hip hs.ip hproto profile d
  cases h with
  | udp header fits protocol =>
    have ht := udp_irDecoded (Or.inl rfl) c d
    exact .udp ⟨by rw [ht]; exact header.sport, by rw [ht]; exact header.dport, by rw [ht]; exact header.check⟩ fits
      protocol
  | udpLite => cases hp
  | esp header fits protocol noList noOptions =>
    have ht := esp_irDecoded c d
    exact .esp ⟨by rw [ht]; exact header.spi, by rw [ht]; exact header.sequence⟩ fits hprot noList noOptions
  | ip protocol => exact .ip hprot
  | rtp header rtp extras fits protocol =>
    have ht := udp_irDecoded (Or.inr rfl) c d
    obtain ⟨hver, hn⟩ := hrtp rfl
    obtain ⟨h₁, h₂, h₃, hcsrc, hext, hpad⟩ := hs.rtp rfl
    obtain ⟨stride, residue, hr⟩ := rtp_irDecoded c d
    have hvp := plainRtp_vpxcc h₁ h₂ h₃ hver
    have hoff := rtp.offset
    have hlen := rtp.len
    rw [hcsrc, hext] at hoff
    rw [hpad] at hlen
    have hno : NoLists (irDecoded .rtp c d).rtp := by
      rw [hr]
      exact ⟨hn.csrc, hn.extension, hn.padding⟩
    refine .rtp ⟨by rw [ht]; exact header.sport, by rw [ht]; exact header.dport, by rw [ht]; exact header.check⟩ ?_ ?_
      fits protocol
    · refine ⟨?_, ?_, ?_, ?_, ?_, ?_, ?_, ?_, ?_, ?_⟩
      · rw [hr, ← rtp.vpxcc, hvp]
      · rw [hr]
        exact rtp.mpt
      · rw [hr]
        exact rtp.seq
      · rw [hr]
        exact rtp.ts
      · rw [hr]
        exact rtp.ssrc
      · rw [hno.csrc]
        simp [slice]
      · rw [hno.extension]
        simp [slice]
      · rw [hno.padding, stored_zero, Nat.sub_zero, List.drop_length]
      · rw [hno.csrc, hno.extension]
        exact hoff
      · rw [hno.padding]
        exact hlen
    · rw [rtpExtrasBodyLen_plain (by rw [hr]) hno]
      rfl
  | rtpUdpLite => cases hp

end Rohccxx
