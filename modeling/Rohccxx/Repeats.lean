import Rohccxx.Branches

/-!
# Packets that repeat what a context holds

The capture functions overwrite the fields of a context one by one. Where the packet has the values the context holds
already, they change nothing, and only there. Header by header, the fields in question are listed here (`RepeatsIp`,
`RepeatsUdp`, `RepeatsEsp`, `RepeatsRtpHeader`), and each capture is shown to be the identity exactly on the contexts
that have them.
-/

set_option autoImplicit false

namespace Rohccxx

open Octets Proc

/-! ## IP headers -/

theorem Context.eq_iff {a b : Context} : a = b ↔ a.toControl = b.toControl ∧ a.toMsnHistory = b.toMsnHistory ∧
    a.toIpv4Context = b.toIpv4Context ∧ a.toIpv6Context = b.toIpv6Context ∧
    a.toTransportContext = b.toTransportContext ∧ a.rtp = b.rtp := by
  cases a
  cases b
  simp only [Context.mk.injEq]

/-- The IP-ID behaviour of a flow whose IP-ID stands still. -/
structure Context.ConstantId (ctx : Context) : Prop where
  behavior : ctx.ipv4IdBehavior = if ctx.ipv4Id = 0 then 3 else 2
  sequential : ctx.ipv4IdSequential = false

namespace Job

/-- The IP header is in the context already: each field named here has the value the capture writes, cleared lists
included. -/
structure RepeatsIp (job : Job) (ctx : Context) : Prop where
  v4 : job.view.isIpv6 = false → ctx.toIpv4Context = { ctx.toIpv4Context with
      ipVersion := 4, ipv4Tos := u8At job.packet 1, ipv4Ttl := u8At job.packet 8, ipv4Id := u16At job.packet 4
      ipv4Flags := wireFlags job.packet, ipv4Protocol := job.view.terminalProtocol
      ipv4Saddr := u32At job.packet 12, ipv4Daddr := u32At job.packet 16, ipv4OptionsLen := job.view.headerLen - 20
      ipv4Options := fillCopy 40 (slice job.packet 20 (job.view.headerLen - 20)) } ∧
    ctx.toIpv6Context = { ctx.toIpv6Context with ipv6ExtensionLen := 0, ipv6Extensions := Vector.replicate 128 0 }
  v6 : job.view.isIpv6 = true → ctx.toIpv4Context = { ctx.toIpv4Context with
      ipVersion := 6, ipv4Protocol := job.view.terminalProtocol, ipv4OptionsLen := 0
      ipv4Options := Vector.replicate 40 0 } ∧
    ctx.toIpv6Context =
      { ipv6TrafficClass := (u32At job.packet 0 >>> 20).toUInt8, ipv6FlowLabel := u32At job.packet 0 &&& 0x000FFFFF
        ipv6NextHeader := u8At job.packet 6, ipv6HopLimit := u8At job.packet 7
        ipv6Saddr := fillCopy 16 (slice job.packet 8 16), ipv6Daddr := fillCopy 16 (slice job.packet 24 16)
        ipv6ExtensionLen := if job.view.extensionLen > 128 then 0 else job.view.extensionLen
        ipv6Extensions := if job.view.extensionLen > 128 then Vector.replicate 128 0
          else fillCopy 128 (slice job.packet 40 job.view.extensionLen) }

variable {job : Job} {profile : Profile} {ctx : Context}

/-- No IPv4 option list is too long. -/
theorem capturedIp_v4 (profile : Profile) (ctx : Context) (hv : parseIpView job.packet = some job.view)
    (h6 : job.view.isIpv6 = false) :
    job.capturesIp profile ctx = true ∧ (job.capturedIp profile ctx).toIpv4Context = {
      ipVersion := 4, ipv4Tos := u8At job.packet 1, ipv4Ttl := u8At job.packet 8, ipv4Id := u16At job.packet 4
      ipv4Flags := wireFlags job.packet, ipv4Protocol := job.view.terminalProtocol
      ipv4IdSequential := false, ipv4IdBehavior := if u16At job.packet 4 = 0 then 3 else 2
      ipv4Saddr := u32At job.packet 12, ipv4Daddr := u32At job.packet 16, ipv4OptionsLen := job.view.headerLen - 20
      ipv4Options := fillCopy 40 (slice job.packet 20 (job.view.headerLen - 20)) } ∧
    (job.capturedIp profile ctx).toIpv6Context =
      { ctx.toIpv6Context with ipv6ExtensionLen := 0, ipv6Extensions := Vector.replicate 128 0 } := by
  obtain ⟨hs, -, hl, -⟩ := parseIpView_ipv4 hv h6
  have hmin := hs.minLen
  have hmax : ipv4HeaderLen job.packet ≤ 60 ∧ ipv4HeaderLen job.packet % 4 = 0 := by
    have h15 : (u8At job.packet 0 &&& 0x0F).toNat ≤ 15 := by
      rw [UInt8.toNat_and]
      exact Nat.and_le_right
    unfold ipv4HeaderLen
    omega
  unfold capturesIp capturedIp captureIpContext captureIpv4Options
  simp only [h6, Bool.not_false, if_true]
  rw [if_neg (by omega), if_neg (by omega)]
  exact ⟨rfl, rfl, rfl⟩

theorem capturedIp_v6 (profile : Profile) (ctx : Context) (h6 : job.view.isIpv6 = true) :
    job.capturesIp profile ctx = decide (job.view.extensionLen ≤ 128) ∧
    (job.capturedIp profile ctx).toIpv4Context = { ctx.toIpv4Context with
      ipVersion := 6, ipv4Protocol := job.view.terminalProtocol, ipv4OptionsLen := 0
      ipv4Options := Vector.replicate 40 0 } ∧
    (job.capturedIp profile ctx).toIpv6Context =
      { ipv6TrafficClass := (u32At job.packet 0 >>> 20).toUInt8, ipv6FlowLabel := u32At job.packet 0 &&& 0x000FFFFF
        ipv6NextHeader := u8At job.packet 6, ipv6HopLimit := u8At job.packet 7
        ipv6Saddr := fillCopy 16 (slice job.packet 8 16), ipv6Daddr := fillCopy 16 (slice job.packet 24 16)
        ipv6ExtensionLen := if job.view.extensionLen > 128 then 0 else job.view.extensionLen
        ipv6Extensions := if job.view.extensionLen > 128 then Vector.replicate 128 0
          else fillCopy 128 (slice job.packet 40 job.view.extensionLen) } := by
  unfold capturesIp capturedIp captureIpContext
  simp only [h6, Bool.not_true, Bool.false_eq_true, if_false]
  by_cases hext : job.view.extensionLen > 128
  · simp only [if_pos hext]
    exact ⟨by simpa using hext, rfl, rfl⟩
  · simp only [if_neg hext]
    exact ⟨by simpa using hext, rfl, rfl⟩

/-- The context has the header exactly if capturing it changes the IP-ID behaviour at most. -/
theorem repeatsIp_iff (profile : Profile) (hv : parseIpView job.packet = some job.view) : job.RepeatsIp ctx ↔
    ctx.toIpv4Context = { (job.capturedIp profile ctx).toIpv4Context with
      ipv4IdBehavior := ctx.ipv4IdBehavior, ipv4IdSequential := ctx.ipv4IdSequential } ∧
    ctx.toIpv6Context = (job.capturedIp profile ctx).toIpv6Context := by
  cases h6 : job.view.isIpv6 with
  | false =>
    obtain ⟨-, e₄, e₆⟩ := capturedIp_v4 profile ctx hv h6
    rw [e₄, e₆]
    exact ⟨fun h => h.v4 h6, fun h => ⟨fun _ => h, fun hn => by simp [h6] at hn⟩⟩
  | true =>
    obtain ⟨-, e₄, e₆⟩ := capturedIp_v6 profile ctx h6
    rw [e₄, e₆]
    exact ⟨fun h => h.v6 h6, fun h => ⟨fun hn => by simp [h6] at hn, fun _ => h⟩⟩

section InPlace

variable (hv : parseIpView job.packet = some job.view) (hp : ctx.profile = profile) (hm : ctx.mode = job.mode)

include hv hp hm

/-- The context behind a header that repeats. -/
theorem RepeatsIp.captured (h : job.RepeatsIp ctx) : job.capturedIp profile ctx = { ctx with
    ipv4IdBehavior := (job.capturedIp profile ctx).ipv4IdBehavior
    ipv4IdSequential := (job.capturedIp profile ctx).ipv4IdSequential } := by
  obtain ⟨h₄, h₆⟩ := (repeatsIp_iff profile hv).mp h
  obtain ⟨hc, hh, ht, hr⟩ := capturedIp_frame job profile ctx
  refine Context.eq_iff.mpr ⟨?_, hh, ?_, h₆.symm, ht, hr⟩
  · rw [hc, ← hp, ← hm]
  · generalize job.capturedIp profile ctx = c at h₄
    change c.toIpv4Context = { ctx.toIpv4Context with
      ipv4IdBehavior := c.ipv4IdBehavior, ipv4IdSequential := c.ipv4IdSequential }
    rw [h₄]

/-- Capturing UDP-Lite and the start of every branch: the IP header. -/
theorem capturedIp_eq_iff : job.capturedIp profile ctx = ctx ↔
    job.RepeatsIp ctx ∧ (job.view.isIpv6 = false → ctx.ConstantId) := by
  constructor
  · intro h
    have hip : job.RepeatsIp ctx := (repeatsIp_iff profile hv).mpr (by rw [h]; exact ⟨rfl, rfl⟩)
    refine ⟨hip, fun h6 => ?_⟩
    obtain ⟨-, e₄, -⟩ := capturedIp_v4 profile ctx hv h6
    rw [h] at e₄
    constructor
    · rw [e₄]
    · rw [e₄]
  · rintro ⟨hip, hid⟩
    refine (hip.captured hv hp hm).trans ?_
    cases h6 : job.view.isIpv6 with
    | false =>
      obtain ⟨-, e₄, -⟩ := capturedIp_v4 profile ctx hv h6
      have hidEq : ctx.ipv4Id = u16At job.packet 4 := by rw [(hip.v4 h6).1]
      rw [e₄, ← hidEq, ← (hid h6).behavior, ← (hid h6).sequential]
    | true =>
      obtain ⟨-, e₄, -⟩ := capturedIp_v6 profile ctx h6
      rw [e₄]

omit hp hm in
/-- The IP-ID of a header that repeats does not move. -/
theorem RepeatsIp.behavior (h : job.RepeatsIp ctx) (had : Bool) (h6 : job.view.isIpv6 = false) :
    updateIpv4IdBehavior (job.capturedIp profile ctx) had ctx.ipv4Id = job.capturedIp profile ctx := by
  obtain ⟨-, e₄, -⟩ := capturedIp_v4 profile ctx hv h6
  have hidEq : ctx.ipv4Id = u16At job.packet 4 := by rw [(h.v4 h6).1]
  generalize job.capturedIp profile ctx = c at e₄
  have hver : c.ipVersion = 4 := by rw [e₄]
  have hcid : c.ipv4Id = ctx.ipv4Id := by rw [e₄, hidEq]
  have hb : c.ipv4IdBehavior = if ctx.ipv4Id = 0 then 3 else 2 := by rw [e₄, hidEq]
  have hs : c.ipv4IdSequential = false := by rw [e₄]
  have h01 : (0 : UInt16) = 1 ↔ False := by decide
  unfold updateIpv4IdBehavior
  rw [if_neg (fun hn => hn hver), hcid]
  simp only [UInt16.sub_self, h01, if_false, ite_self]
  rw [← hb]
  have hle : decide (c.ipv4IdBehavior ≤ 1) = c.ipv4IdSequential := by
    rw [hs, hb]
    split <;> decide
  rw [hle, ← hcid]

/-- The opening of the UDP, IP-only and ESP branches. -/
theorem capturedBehavior_eq_iff : job.capturedBehavior profile ctx = ctx ↔
    job.RepeatsIp ctx ∧ (job.view.isIpv6 = false → ctx.ConstantId) := by
  have hnote : ∀ had, noteBehaviorChange ctx had ctx = ctx := by
    intro had
    unfold noteBehaviorChange
    rw [if_neg (fun h => h.2.2.1 rfl)]
  have hupdate : job.RepeatsIp ctx → ∀ had, updateIpv4IdBehavior (job.capturedIp profile ctx) had ctx.ipv4Id =
      job.capturedIp profile ctx := by
    intro hip had
    cases h6 : job.view.isIpv6 with
    | false => exact hip.behavior hv had h6
    | true =>
      obtain ⟨-, e₄, -⟩ := capturedIp_v6 profile ctx h6
      have hver : (job.capturedIp profile ctx).ipVersion = 6 := by rw [e₄]
      unfold updateIpv4IdBehavior
      rw [if_pos (by rw [hver]; decide)]
  rw [← capturedIp_eq_iff hv hp hm]
  constructor
  · intro h
    obtain ⟨behavior, sequential, revision, pending, e, -⟩ := capturedBehavior_eq job profile ctx
    have e := h.symm.trans e
    have hip : job.RepeatsIp ctx := by
      have e₄ : ctx.toIpv4Context = { (job.capturedIp profile ctx).toIpv4Context with
          ipv4IdBehavior := behavior, ipv4IdSequential := sequential } := congrArg Context.toIpv4Context e
      have hb : ctx.ipv4IdBehavior = behavior := congrArg Ipv4Context.ipv4IdBehavior e₄
      have hs : ctx.ipv4IdSequential = sequential := congrArg Ipv4Context.ipv4IdSequential e₄
      have e₆ := congrArg Context.toIpv6Context e
      refine (repeatsIp_iff profile hv).mpr ⟨?_, e₆⟩
      rw [hb, hs]
      exact e₄
    unfold capturedBehavior at h
    dsimp only at h
    rw [hupdate hip] at h
    obtain ⟨revision, pending, e', -⟩ := noteBehaviorChange_eq ctx (decide (ctx.ipVersion = 4 ∧ ctx.txCount > 0))
      (job.capturedIp profile ctx)
    have e₄ := congrArg Context.toIpv4Context (h.symm.trans e')
    change ctx.toIpv4Context = (job.capturedIp profile ctx).toIpv4Context at e₄
    have hcap := hip.captured hv hp hm
    rw [← e₄] at hcap
    exact hcap
  · intro h
    unfold capturedBehavior
    dsimp only
    rw [hupdate ((capturedIp_eq_iff hv hp hm).mp h).1, h]
    exact hnote _

end InPlace

/-! ### Transport headers -/

/-- The UDP header is in the context already. -/
structure RepeatsUdp (job : Job) (ctx : Context) : Prop where
  sport : ctx.udpSport = u16At job.packet job.view.headerLen
  dport : ctx.udpDport = u16At job.packet (job.view.headerLen + 2)
  length : ctx.udpLengthOrCoverage = u16At job.packet (job.view.headerLen + 4)
  check : ctx.udpCheck = u16At job.packet (job.view.headerLen + 6)

theorem captureUdpHeader_eq_iff : job.captureUdpHeader ctx = ctx ↔ job.RepeatsUdp ctx := by
  constructor
  · intro h
    exact ⟨(congrArg (·.udpSport) h).symm, (congrArg (·.udpDport) h).symm, (congrArg (·.udpLengthOrCoverage) h).symm,
      (congrArg (·.udpCheck) h).symm⟩
  · rintro ⟨h₁, h₂, h₃, h₄⟩
    unfold captureUdpHeader
    dsimp only
    rw [← h₁, ← h₂, ← h₃, ← h₄]

/-- A stage of a capture that ends as it began has changed nothing, if nothing after it writes its fields. -/
theorem eq_of_later {x c : Context} (hc : c = ctx) (history : x.toMsnHistory = ctx.toMsnHistory)
    (transport : x.toTransportContext = ctx.toTransportContext) (rtp : x.rtp = ctx.rtp) (msn : x.msn = ctx.msn)
    (h₄ : c.toIpv4Context = x.toIpv4Context) (h₆ : c.toIpv6Context = x.toIpv6Context)
    (control : c.toControl = { x.toControl with msn := c.msn }) : x = ctx := by
  subst hc
  refine Context.eq_iff.mpr ⟨?_, history, h₄.symm, h₆.symm, transport, rtp⟩
  rw [control, ← msn]

theorem capturedIp_msn (job : Job) (profile : Profile) (ctx : Context) :
    (job.capturedIp profile ctx).msn = ctx.msn := by
  have h := congrArg Control.msn (capturedIp_frame job profile ctx).1
  exact h

/-- The opening of a branch writes no transport field. -/
theorem capturedBehavior_frame (job : Job) (profile : Profile) (ctx : Context) :
    (job.capturedBehavior profile ctx).toMsnHistory = ctx.toMsnHistory ∧
      (job.capturedBehavior profile ctx).toTransportContext = ctx.toTransportContext ∧
      (job.capturedBehavior profile ctx).rtp = ctx.rtp ∧ (job.capturedBehavior profile ctx).msn = ctx.msn := by
  obtain ⟨behavior, sequential, revision, pending, e, -⟩ := capturedBehavior_eq job profile ctx
  obtain ⟨hc, hh, ht, hr⟩ := capturedIp_frame job profile ctx
  rw [e]
  exact ⟨hh, ht, hr, capturedIp_msn job profile ctx⟩

theorem capturedUdp_eq_self_iff : job.capturedUdp ctx = ctx ↔ job.capturedBehavior .udp ctx = ctx ∧
    job.RepeatsUdp ctx ∧ ctx.udpChecksumUsed = decide (ctx.udpCheck ≠ 0) ∧ ctx.msn = ctx.txCount.toUInt16 + 1 := by
  obtain ⟨hh, ht, hr, hmsn⟩ := capturedBehavior_frame job .udp ctx
  constructor
  · intro h
    have hx : job.capturedBehavior .udp ctx = ctx := eq_of_later h hh ht hr hmsn rfl rfl rfl
    unfold capturedUdp at h
    rw [hx] at h
    refine ⟨hx, ⟨?_, ?_, ?_, ?_⟩, ?_, ?_⟩
    · exact (congrArg (·.udpSport) h).symm
    · exact (congrArg (·.udpDport) h).symm
    · exact (congrArg (·.udpLengthOrCoverage) h).symm
    · exact (congrArg (·.udpCheck) h).symm
    · have hcheck : ctx.udpCheck = u16At job.packet (job.view.headerLen + 6) := (congrArg (·.udpCheck) h).symm
      rw [hcheck]
      exact (congrArg (·.udpChecksumUsed) h).symm
    · exact (congrArg (·.msn) h).symm
  · rintro ⟨hx, hudp, hused, hcount⟩
    unfold capturedUdp captureUdp
    rw [hx, captureUdpHeader_eq_iff.mpr hudp]
    dsimp only
    rw [← hused]
    unfold countMsn
    dsimp only
    rw [← hcount]

theorem capturedIpOnly_eq_self_iff : job.capturedIpOnly ctx = ctx ↔ job.capturedBehavior .ip ctx = ctx ∧
    ctx.msn = ctx.txCount.toUInt16 + 1 := by
  obtain ⟨hh, ht, hr, hmsn⟩ := capturedBehavior_frame job .ip ctx
  constructor
  · intro h
    have hx : job.capturedBehavior .ip ctx = ctx := eq_of_later h hh ht hr hmsn rfl rfl rfl
    unfold capturedIpOnly at h
    rw [hx] at h
    exact ⟨hx, (congrArg (·.msn) h).symm⟩
  · rintro ⟨hx, hcount⟩
    unfold capturedIpOnly countMsn
    rw [hx]
    rw [← hcount]

/-- The ESP header is in the context already. -/
structure RepeatsEsp (job : Job) (ctx : Context) : Prop where
  spi : ctx.espSpi = u32At job.packet job.view.headerLen
  sequence : ctx.espSequence = u32At job.packet (job.view.headerLen + 4)
  msn : ctx.msn = ctx.espSequence.toUInt16

theorem capturedEsp_eq_self_iff : job.capturedEsp ctx = ctx ↔ job.capturedBehavior .esp ctx = ctx ∧
    job.RepeatsEsp ctx := by
  obtain ⟨hh, ht, hr, hmsn⟩ := capturedBehavior_frame job .esp ctx
  constructor
  · intro h
    have hx : job.capturedBehavior .esp ctx = ctx := eq_of_later h hh ht hr hmsn rfl rfl rfl
    unfold capturedEsp at h
    rw [hx] at h
    have hsequence : ctx.espSequence = u32At job.packet (job.view.headerLen + 4) := (congrArg (·.espSequence) h).symm
    refine ⟨hx, (congrArg (·.espSpi) h).symm, hsequence, ?_⟩
    rw [hsequence]
    exact (congrArg (·.msn) h).symm
  · rintro ⟨hx, hspi, hsequence, hcount⟩
    unfold capturedEsp captureEsp
    rw [hx]
    dsimp only
    rw [← hspi, ← hsequence, ← hcount]

theorem capturedUdpLite_eq_self_iff : job.capturedUdpLite ctx = ctx ↔ job.capturedIp .udpLite ctx = ctx ∧
    job.RepeatsUdp ctx := by
  obtain ⟨hc, hh, ht, hr⟩ := capturedIp_frame job .udpLite ctx
  constructor
  · intro h
    have hx : job.capturedIp .udpLite ctx = ctx := eq_of_later h hh ht hr (capturedIp_msn job .udpLite ctx) rfl rfl rfl
    unfold capturedUdpLite at h
    rw [hx] at h
    exact ⟨hx, captureUdpHeader_eq_iff.mp h⟩
  · rintro ⟨hx, hudp⟩
    unfold capturedUdpLite
    rw [hx]
    exact captureUdpHeader_eq_iff.mpr hudp

/-! ### RTP -/

/-- The UDP and RTP headers are in the context already; a sequential IP-ID has counted no packets since. -/
structure RepeatsRtpHeader (job : Job) (ctx : Context) : Prop extends job.RepeatsUdp ctx where
  used : ctx.udpChecksumUsed = decide (ctx.udpCheck ≠ 0)
  behavior : ctx.ipv4IdBehavior =
    if ctx.ipVersion = 4 ∧ ctx.txCount > 0 then 0 else if ctx.ipv4Id = 0 then 3 else 2
  sequential : ctx.ipv4IdSequential = decide (ctx.ipVersion = 4 ∧ ctx.txCount > 0)
  msn : ctx.msn = ctx.rtp.lastSeq
  header : HasRtpHeader ctx.rtp job.rtpPacket
  stride : ctx.txCount = 0 → ctx.rtp.tsStride = 0 ∧ ctx.rtp.tsResidue = 0

theorem captureRtpExtras_clearExtras (rtp : RtpContext) (rtpPacket : Bytes) :
    (captureRtpExtras rtp rtpPacket).2.clearExtras = rtp.clearExtras := by
  unfold captureRtpExtras RtpContext.clearExtras
  dsimp only
  split_ifs <;> rfl

theorem captureRtpContext_snd {rtpPacket : Bytes} (h : 12 ≤ rtpPacket.length) (ctx : Context) :
    (captureRtpContext ctx rtpPacket).2 =
      { ctx with rtp := (captureRtpExtras ctx.rtp.clearExtras rtpPacket).2 } := by
  unfold captureRtpContext
  rw [if_neg (by omega)]
  split
  · rename_i he
    rw [he]
  · rename_i he
    rw [he]

/-- Neither the lists nor anything else but the header. -/
theorem captureRtpHeader_rtp (job : Job) (previous ctx : Context) : ∃ vpxcc mpt seq ts ssrc stride residue,
    (job.captureRtpHeader previous ctx).2.rtp = { ctx.rtp with
      vpxcc := vpxcc, mpt := mpt, lastSeq := seq, lastTs := ts, ssrc := ssrc, tsStride := stride
      tsResidue := residue } := by
  unfold captureRtpHeader
  dsimp only
  generalize hu : updateRtpIpv4IdBehavior _ _ _ _ _ _ _ = update
  obtain ⟨behavior, sequential, e, -⟩ := updateRtpIpv4IdBehavior_eq (job.captureUdpHeader ctx)
    (decide (previous.ipVersion = 4 ∧ previous.txCount > 0)) previous.ipv4Id previous.ipv4Flags
    previous.ipv4IdSequential previous.rtp.lastSeq (u16At job.packet (job.view.headerLen + 8 + 2))
  rw [hu] at e
  split
  · obtain ⟨stride, residue, e'⟩ := updateRtpTimestampStride_eq (startReplacement update.2)
      (u16At job.packet (job.view.headerLen + 8 + 2)) (u32At job.packet (job.view.headerLen + 8 + 4))
    rw [e', e]
    exact ⟨_, _, _, _, _, stride, residue, rfl⟩
  · obtain ⟨stride, residue, e'⟩ := updateRtpTimestampStride_eq update.2
      (u16At job.packet (job.view.headerLen + 8 + 2)) (u32At job.packet (job.view.headerLen + 8 + 4))
    rw [e', e]
    exact ⟨_, _, _, _, _, stride, residue, rfl⟩

/-- What is captured of an RTP packet is in the context already exactly if the header and the lists are. -/
theorem capturedRtp_eq_self_iff (long : 12 ≤ job.rtpPacket.length) : (job.capturedRtp profile ctx).2 = ctx ↔
    (job.captureRtpHeader ctx (job.capturedIp profile ctx)).2 = ctx ∧
      ctx.rtp = (captureRtpExtras ctx.rtp.clearExtras job.rtpPacket).2 := by
  unfold capturedRtp
  dsimp only
  rw [captureRtpContext_snd long]
  obtain ⟨vpxcc, mpt, seq, ts, ssrc, stride, residue, hrtp⟩ :=
    captureRtpHeader_rtp job ctx (job.capturedIp profile ctx)
  rw [(capturedIp_frame job profile ctx).2.2.2] at hrtp
  generalize (job.captureRtpHeader ctx (job.capturedIp profile ctx)).2 = x at hrtp
  constructor
  · intro h
    have hlists : (captureRtpExtras x.rtp.clearExtras job.rtpPacket).2 = ctx.rtp := congrArg Context.rtp h
    have hclear := captureRtpExtras_clearExtras x.rtp.clearExtras job.rtpPacket
    rw [hlists] at hclear
    have hx : x.rtp = ctx.rtp := by
      rw [hrtp] at hclear ⊢
      unfold RtpContext.clearExtras at hclear
      simp only [RtpContext.mk.injEq] at hclear
      obtain ⟨h₁, h₂, h₃, h₄, h₅, -, h₇, h₈, -⟩ := hclear
      rw [← h₁, ← h₂, ← h₃, ← h₄, ← h₅, ← h₇, ← h₈]
    have hctx : x = ctx := by
      obtain ⟨c₁, c₂, c₃, c₄, c₅, -⟩ := Context.eq_iff.mp h
      exact Context.eq_iff.mpr ⟨c₁, c₂, c₃, c₄, c₅, hx⟩
    rw [hx] at hlists
    exact ⟨hctx, hlists.symm⟩
  · rintro ⟨rfl, hlists⟩
    rw [← hlists]

/-- The update of the IP-ID behaviour that the RTP branches make. -/
def rtpUpdate (job : Job) (previous ctx : Context) : Bool × Context :=
  updateRtpIpv4IdBehavior (job.captureUdpHeader ctx) (decide (previous.ipVersion = 4 ∧ previous.txCount > 0))
    previous.ipv4Id previous.ipv4Flags previous.ipv4IdSequential previous.rtp.lastSeq
    (u16At job.packet (job.view.headerLen + 8 + 2))

theorem captureRtpHeader_update (job : Job) (previous ctx : Context) :
    (job.captureRtpHeader previous ctx).1 = (job.rtpUpdate previous ctx).1 ∧
      (job.captureRtpHeader previous ctx).2.toIpv4Context = (job.rtpUpdate previous ctx).2.toIpv4Context ∧
      ((job.rtpUpdate previous ctx).2.txCount = 0 → (job.captureRtpHeader previous ctx).2.rtp.tsStride = 0 ∧
        (job.captureRtpHeader previous ctx).2.rtp.tsResidue = 0) := by
  have hstride : ∀ started : Context, started.txCount = 0 →
      updateRtpTimestampStride started (u16At job.packet (job.view.headerLen + 8 + 2))
        (u32At job.packet (job.view.headerLen + 8 + 4)) =
          started.withRtp fun rtp => { rtp with tsStride := 0, tsResidue := 0 } := by
    intro started h0
    unfold updateRtpTimestampStride
    rw [if_pos h0]
  have hip : ∀ started : Context, (updateRtpTimestampStride started (u16At job.packet (job.view.headerLen + 8 + 2))
      (u32At job.packet (job.view.headerLen + 8 + 4))).toIpv4Context = started.toIpv4Context := by
    intro started
    obtain ⟨stride, residue, e⟩ := updateRtpTimestampStride_eq started
      (u16At job.packet (job.view.headerLen + 8 + 2)) (u32At job.packet (job.view.headerLen + 8 + 4))
    rw [e]
  unfold captureRtpHeader
  dsimp only
  change _ = (job.rtpUpdate previous ctx).1 ∧ _
  generalize hu : updateRtpIpv4IdBehavior _ _ _ _ _ _ _ = update
  rw [show job.rtpUpdate previous ctx = update from hu]
  refine ⟨rfl, ?_, fun h0 => ?_⟩
  · rw [hip]
    split <;> rfl
  · rw [hstride]
    · exact ⟨rfl, rfl⟩
    · split
      · exact h0
      · exact h0

section InPlace

variable (hv : parseIpView job.packet = some job.view) (hp : ctx.profile = profile) (hm : ctx.mode = job.mode)

include hv hp hm

theorem RepeatsIp.rtpUpdate (h : job.RepeatsIp ctx)
    (hseq : u16At job.packet (job.view.headerLen + 8 + 2) = ctx.rtp.lastSeq) :
    job.rtpUpdate ctx (job.capturedIp profile ctx) =
      (if ctx.ipVersion = 4 ∧ ctx.txCount > 0 then ctx.ipv4IdSequential else true,
        { job.captureUdpHeader (job.capturedIp profile ctx) with
          ipv4IdBehavior := if ctx.ipVersion = 4 ∧ ctx.txCount > 0 then 0 else if ctx.ipv4Id = 0 then 3 else 2
          ipv4IdSequential := decide (ctx.ipVersion = 4 ∧ ctx.txCount > 0) }) := by
  have hcap := h.captured hv hp hm
  generalize job.capturedIp profile ctx = c at hcap ⊢
  have hver : (job.captureUdpHeader c).ipVersion = ctx.ipVersion := by rw [hcap]; rfl
  have hid : (job.captureUdpHeader c).ipv4Id = ctx.ipv4Id := by rw [hcap]; rfl
  have hflags : (job.captureUdpHeader c).ipv4Flags = ctx.ipv4Flags := by rw [hcap]; rfl
  have hle : (0 : UInt8) ≤ 1 := by decide
  unfold Job.rtpUpdate updateRtpIpv4IdBehavior
  generalize job.captureUdpHeader c = u at hver hid hflags
  by_cases had : ctx.ipVersion = 4 ∧ ctx.txCount > 0
  · rw [if_neg (by rw [hver]; simp [had]), if_pos had, if_pos had]
    dsimp only
    rw [if_pos (by rw [hseq, hid, UInt16.sub_self, UInt16.sub_self]), decide_eq_true had]
    simp [hle, hflags]
  · rw [if_pos (Or.inr (by rw [decide_eq_false had]; rfl)), if_neg had, if_neg had, decide_eq_false had, ← hid]

omit hv hp hm in
/-- A sequence number that repeats gives no stride. -/
theorem updateRtpTimestampStride_repeats {seq : UInt16} {ts : UInt32} (hseq : ctx.rtp.lastSeq = seq)
    (hstride : ctx.txCount = 0 → ctx.rtp.tsStride = 0 ∧ ctx.rtp.tsResidue = 0) :
    updateRtpTimestampStride ctx seq ts = ctx := by
  have hinfer : inferTimestampStride ctx.rtp.lastSeq ctx.rtp.lastTs seq ts = none := by
    unfold inferTimestampStride
    rw [hseq, UInt16.sub_self]
    exact if_pos (Or.inl rfl)
  unfold updateRtpTimestampStride
  rw [hinfer]
  by_cases h0 : ctx.txCount = 0
  · obtain ⟨h₁, h₂⟩ := hstride h0
    have hsame : { ctx.rtp with tsStride := 0, tsResidue := 0 } =
        { ctx.rtp with tsStride := ctx.rtp.tsStride, tsResidue := ctx.rtp.tsResidue } := by rw [h₁, h₂]
    rw [if_pos h0]
    exact congrArg (fun rtp => { ctx with rtp := rtp }) hsame
  · rw [if_neg h0, ite_self]

omit hv hp hm in
/-- Where the header is in the context, the sequence number repeats. -/
theorem seq_of_hasRtpHeader (h : HasRtpHeader ctx.rtp job.rtpPacket) :
    u16At job.packet (job.view.headerLen + 8 + 2) = ctx.rtp.lastSeq := by
  rw [h.seq, rtpPacket, u16At_drop]

theorem captureRtpHeader_eq_self_iff : (job.captureRtpHeader ctx (job.capturedIp profile ctx)).2 = ctx ↔
    job.RepeatsIp ctx ∧ job.RepeatsRtpHeader ctx := by
  obtain ⟨hsafe, hip, hstride⟩ := captureRtpHeader_update job ctx (job.capturedIp profile ctx)
  constructor
  · intro h
    obtain ⟨behavior, sequential, revision, pending, h₄, h₆, hcontrol, hudp, hlength, hheader, -⟩ :=
      captureRtpHeader_frame job ctx (job.capturedIp profile ctx)
    have hused : (job.captureRtpHeader ctx (job.capturedIp profile ctx)).2.udpChecksumUsed =
      decide ((job.captureRtpHeader ctx (job.capturedIp profile ctx)).2.udpCheck ≠ 0) := rfl
    rw [h] at hip hstride h₄ h₆ hcontrol hudp hlength hheader hused
    have hb : ctx.ipv4IdBehavior = behavior := congrArg Ipv4Context.ipv4IdBehavior h₄
    have hs : ctx.ipv4IdSequential = sequential := congrArg Ipv4Context.ipv4IdSequential h₄
    have hrepeats : job.RepeatsIp ctx := by
      refine (repeatsIp_iff profile hv).mpr ⟨?_, h₆⟩
      rw [hb, hs]
      exact h₄
    have hupdate := hrepeats.rtpUpdate hv hp hm (seq_of_hasRtpHeader hheader)
    rw [hupdate] at hip hstride
    have hmsn : ctx.msn = ctx.rtp.lastSeq := by
      rw [hheader.seq]
      exact congrArg Control.msn hcontrol
    have htx : (job.captureUdpHeader (job.capturedIp profile ctx)).txCount = ctx.txCount := by
      have htx := congrArg Control.txCount (capturedIp_frame job profile ctx).1
      exact htx
    exact ⟨hrepeats, ⟨hudp.sport, hudp.dport, hlength, hudp.check⟩, hused, congrArg Ipv4Context.ipv4IdBehavior hip,
      congrArg Ipv4Context.ipv4IdSequential hip, hmsn, hheader, fun h0 => hstride (htx.trans h0)⟩
  · rintro ⟨hrepeats, hrtp⟩
    have hseq := seq_of_hasRtpHeader hrtp.header
    have hupdate : job.rtpUpdate ctx (job.capturedIp profile ctx) = (true, ctx) := by
      have hudp : job.captureUdpHeader { job.capturedIp profile ctx with
          ipv4IdBehavior := ctx.ipv4IdBehavior, ipv4IdSequential := ctx.ipv4IdSequential } = ctx := by
        rw [hrepeats.captured hv hp hm]
        exact captureUdpHeader_eq_iff.mpr hrtp.toRepeatsUdp
      rw [hrepeats.rtpUpdate hv hp hm hseq, ← hrtp.behavior, ← hrtp.sequential]
      refine Prod.ext ?_ hudp
      by_cases had : ctx.ipVersion = 4 ∧ ctx.txCount > 0
      · rw [if_pos had, hrtp.sequential, decide_eq_true had]
      · rw [if_neg had]
    unfold rtpUpdate at hupdate
    unfold captureRtpHeader
    dsimp only
    rw [hupdate]
    dsimp only
    rw [if_neg (by simp), updateRtpTimestampStride_repeats hseq.symm hrtp.stride, hseq, ← hrtp.used]
    have hvpxcc : u8At job.packet (job.view.headerLen + 8) = ctx.rtp.vpxcc := by
      rw [hrtp.header.vpxcc, rtpPacket, u8At_drop, Nat.add_zero]
    have hmpt : u8At job.packet (job.view.headerLen + 8 + 1) = ctx.rtp.mpt := by
      rw [hrtp.header.mpt, rtpPacket, u8At_drop]
    have hts : u32At job.packet (job.view.headerLen + 8 + 4) = ctx.rtp.lastTs := by
      rw [hrtp.header.ts, rtpPacket, u32At_drop]
    have hssrc : u32At job.packet (job.view.headerLen + 8 + 8) = ctx.rtp.ssrc := by
      rw [hrtp.header.ssrc, rtpPacket, u32At_drop]
    have hmsn : { ctx.toControl with msn := ctx.rtp.lastSeq } = ctx.toControl := by rw [← hrtp.msn]
    rw [hvpxcc, hmpt, hts, hssrc]
    exact congrArg (fun control => { ctx with toControl := control }) hmsn

end InPlace

end Job

end Rohccxx
