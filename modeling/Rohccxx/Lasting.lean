import Rohccxx.Calls

/-!
# What a unit does to the lasting part of a context

Profile, gates and static fields outlive the packet (`Context.lasting`). A compact unit leaves them as they are and is
taken only in a live context of its profile (`Frame.Accepts.compact`); an IR installs its profile
(`Frame.Accepts.of_ir`); an IR-DYN keeps the static fields whatever context it meets (`Frame.Accepts.of_irDyn`).
-/

set_option autoImplicit false

namespace Rohccxx

open Octets Reader Context

/-- Profile, gates and static fields, without what changes from packet to packet. -/
def Context.lasting (ctx : Context) : Control × Statics :=
  ({ ctx.toControl with
      mode := .uncompressed, rohcState := .noContext, cid := 0, largeCid := false, txCount := 0, nackCount := 0
      formalPt0Crc7Seen := false, limitLegacyUdpPt0ToSequential := false, msn := 0 }, ctx.statics)

/-- The profile of a kind, and whether it is a compact one. -/
def UnitKind.profile : UnitKind → Profile
  | .normal => .uncompressed
  | .ir p | .irDyn p | .privateFo p | .pt0Crc3 p | .pt0Crc7 p | .pt1 p => p

def UnitKind.compact : UnitKind → Bool
  | .ir _ | .irDyn _ => false
  | _ => true

theorem profile_of_lasting {a b : Context} (h : a.lasting = b.lasting) : a.profile = b.profile :=
  congrArg (fun k => k.1.profile) h

theorem statics_of_lasting {a b : Context} (h : a.lasting = b.lasting) : a.statics = b.statics :=
  congrArg Prod.snd h

theorem reject_of_lasting {a b : Context} (h : a.lasting = b.lasting) :
    a.rejectLegacyUdpPt0UntilRefresh = b.rejectLegacyUdpPt0UntilRefresh :=
  congrArg (fun k => k.1.rejectLegacyUdpPt0UntilRefresh) h

theorem retired_of_lasting {a b : Context} (h : a.lasting = b.lasting) :
    a.formalPt0Crc3Retired = b.formalPt0Crc3Retired :=
  congrArg (fun k => k.1.formalPt0Crc3Retired) h

/-! ## Compact units -/

/-- What a compact unit does to a context: nothing lasting. -/
structure Follows (before ctx : Context) : Prop where
  lasting : ctx.lasting = before.lasting
  state : ctx.rohcState ≠ .noContext
  crc7 : ctx.formalPt0Crc7Seen = before.formalPt0Crc7Seen
  largeCid : ctx.largeCid = before.largeCid

theorem Follows.of_establish {p : Profile} {a b : Context} (hp : a.profile = p)
    (h : frozen b = establish (some p) (frozen a)) : Follows a b := by
  obtain ⟨hcontrol, hstatics⟩ := Prod.mk.inj h
  have hc : b.toControl = { a.toControl with rohcState := .dynamicEstablished } := by rw [hcontrol, ← hp]; rfl
  refine ⟨?_, ?_, ?_, ?_⟩
  · simp only [Context.lasting, hc]
    exact congrArg (Prod.mk _) hstatics
  · rw [hc]
    simp
  · rw [hc]
  · rw [hc]

theorem Follows.of_frozen {a b : Context} (hs : a.rohcState ≠ .noContext) (h : frozen b = frozen a) : Follows a b := by
  obtain ⟨hc, hstatics⟩ := Prod.mk.inj h
  refine ⟨?_, ?_, ?_, ?_⟩
  · simp only [Context.lasting, hc]
    exact congrArg (Prod.mk _) hstatics
  · rw [hc]
    exact hs
  · rw [hc]
  · rw [hc]

theorem Follows.trans {a b c : Context} (hab : Follows a b) (hbc : Follows b c) : Follows a c :=
  ⟨hbc.lasting.trans hab.lasting, hbc.state, hbc.crc7.trans hab.crc7, hbc.largeCid.trans hab.largeCid⟩

namespace Frame

variable {f : Frame} {r : Reading}

theorem livePt0_state {ctx : Context} {space : Bool} {cid : Nat} {addCid : Bool}
    (h : livePt0ContextSupported ctx space cid addCid = true) : ctx.rohcState = .dynamicEstablished := by
  unfold livePt0ContextSupported at h
  split at h
  · cases h
  · rename_i hn
    simp only [not_or, not_not] at hn
    exact hn.1

theorem readCompactUdpCheck_follows {ctx ctx' : Context} {packet : Bytes} {n m : Nat}
    (h : readCompactUdpCheck ctx packet n = some (ctx', m)) (hs : ctx.rohcState ≠ .noContext) : Follows ctx ctx' := by
  unfold readCompactUdpCheck at h
  split at h
  · split at h
    · cases h
    · cases h
      exact ⟨rfl, hs, rfl, rfl⟩
  · cases h
    exact ⟨rfl, hs, rfl, rfl⟩

theorem rtpPt0Crc7Reading_follows (hs : f.before.rohcState ≠ .noContext) (h : f.rtpPt0Crc7Reading = some r) :
    Follows f.before r.ctx := by
  unfold rtpPt0Crc7Reading at h
  split at h
  · cases h
  · simp only [Option.bind_eq_bind, Option.bind_eq_some_iff, Option.ite_none_right_eq_some] at h
    obtain ⟨_, -, _, -, _, -, _, -, -, h⟩ := h
    cases h
    exact ⟨rfl, hs, rfl, rfl⟩

/-- The CRC-7 form of ESP leaves its mark. -/
theorem espPt0Crc7Reading_follows (h : f.espPt0Crc7Reading = some r) :
    r.ctx.lasting = f.before.lasting ∧ r.ctx.rohcState = f.before.rohcState ∧ r.ctx.formalPt0Crc7Seen = true ∧
      r.ctx.largeCid = f.before.largeCid := by
  simp only [espPt0Crc7Reading, Option.bind_eq_bind, Option.bind_eq_some_iff, Option.ite_none_right_eq_some] at h
  obtain ⟨_, -, _, -, _, -, _, -, -, h⟩ := h
  cases h
  exact ⟨rfl, rfl, rfl, rfl⟩

theorem pt1SeqIdReading_follows (hs : f.before.rohcState ≠ .noContext) (h : f.pt1SeqIdReading = some r) :
    Follows f.before r.ctx := by
  simp only [pt1SeqIdReading, Option.bind_eq_bind, Option.bind_eq_some_iff, Option.ite_none_right_eq_some] at h
  obtain ⟨_, -, _, -, _, -, ⟨ctx, n⟩, hc, _, -, _, -, -, h⟩ := h
  cases h
  refine Follows.trans ?_ (readCompactUdpCheck_follows hc hs)
  exact ⟨rfl, hs, rfl, rfl⟩

/-- The opening of a CRC-3 reading passes the gate. -/
theorem pt0Crc3Msn_reject {ctx : Context} {octets : Bytes} {profile : Profile} {v : UInt16 × UInt8}
    (h : pt0Crc3Msn ctx octets profile = some v) : ctx.rejectLegacyUdpPt0UntilRefresh = false := by
  simp only [pt0Crc3Msn, Option.bind_eq_bind, Option.bind_eq_some_iff] at h
  obtain ⟨_, -, h⟩ := h
  split at h
  · cases h
  · rename_i hr
    exact Bool.not_eq_true _ ▸ hr

theorem udpPt0Reading_follows (hs : f.before.rohcState ≠ .noContext) (h : f.udpPt0Reading = some r) :
    Follows f.before r.ctx ∧ f.before.rejectLegacyUdpPt0UntilRefresh = false := by
  simp only [udpPt0Reading, Option.bind_eq_bind, Option.bind_eq_some_iff] at h
  obtain ⟨⟨msn, crc⟩, hmsn, h⟩ := h
  dsimp only at h
  obtain ⟨-, h⟩ := Option.ite_none_left_eq_some.mp h
  simp only [Option.bind_eq_some_iff, Option.ite_none_right_eq_some] at h
  obtain ⟨⟨ctx, n⟩, hc, _, -, _, -, -, h⟩ := h
  cases h
  refine ⟨Follows.trans ?_ (readCompactUdpCheck_follows hc hs), pt0Crc3Msn_reject hmsn⟩
  exact ⟨rfl, hs, rfl, rfl⟩

theorem espPt0Reading_follows {first : UInt8} (hs : f.before.rohcState ≠ .noContext)
    (h : f.espPt0Reading first = some r) :
    Follows f.before r.ctx ∧ f.before.rejectLegacyUdpPt0UntilRefresh = false ∧
      f.before.formalPt0Crc3Retired = false := by
  unfold espPt0Reading at h
  split at h
  · cases h
  · rename_i hr
    simp only [Option.bind_eq_bind, Option.bind_eq_some_iff, Option.ite_none_right_eq_some] at h
    obtain ⟨v, hmsn, _, -, _, -, -, h⟩ := h
    cases h
    exact ⟨⟨rfl, hs, rfl, rfl⟩, pt0Crc3Msn_reject hmsn, Bool.not_eq_true _ ▸ hr⟩

theorem ipPt0Reading_follows (hs : f.before.rohcState ≠ .noContext) (h : f.ipPt0Reading = some r) :
    Follows f.before r.ctx ∧ f.before.rejectLegacyUdpPt0UntilRefresh = false := by
  simp only [ipPt0Reading, Option.bind_eq_bind, Option.bind_eq_some_iff, Option.ite_none_right_eq_some] at h
  obtain ⟨v, hmsn, _, -, _, -, -, h⟩ := h
  cases h
  exact ⟨⟨rfl, hs, rfl, rfl⟩, pt0Crc3Msn_reject hmsn⟩

theorem rtpPt0Reading_follows (hs : f.ctx.rohcState ≠ .noContext) (h : f.rtpPt0Reading = some r) :
    Follows f.ctx r.ctx ∧ f.ctx.rejectLegacyUdpPt0UntilRefresh = false := by
  unfold rtpPt0Reading at h
  split at h
  · cases h
  · simp only [Option.bind_eq_bind, Option.bind_eq_some_iff, Option.ite_none_right_eq_some] at h
    obtain ⟨v, hmsn, _, -, _, -, -, h⟩ := h
    cases h
    exact ⟨⟨rfl, hs, rfl, rfl⟩, pt0Crc3Msn_reject hmsn⟩

theorem advanceFormal_follows {ctx : Context} (hs : ctx.rohcState ≠ .noContext) (msn : UInt16) :
    Follows ctx (advanceFormal ctx msn) := by
  unfold advanceFormal
  dsimp only
  split
  · exact ⟨rfl, hs, rfl, rfl⟩
  · exact ⟨rfl, hs, rfl, rfl⟩

theorem decodePt0Unit_follows {d : Decoded} (hs : f.ctx.rohcState ≠ .noContext) (h : f.decodePt0Unit = some d) :
    Follows f.ctx d.ctx ∧ f.ctx.rejectLegacyUdpPt0UntilRefresh = false := by
  unfold decodePt0Unit at h
  split at h
  · cases h
  · simp only [Option.bind_eq_bind, Option.bind_eq_some_iff] at h
    obtain ⟨⟨msn, crc⟩, hmsn, h⟩ := h
    dsimp only at h
    obtain ⟨-, h⟩ := Option.ite_none_left_eq_some.mp h
    simp only [Option.bind_eq_some_iff] at h
    obtain ⟨⟨ctx, n⟩, hc, h⟩ := h
    cases h
    have hadv := advanceFormal_follows hs msn
    have hread := readCompactUdpCheck_follows hc hadv.state
    refine ⟨(hadv.trans hread).trans ?_, pt0Crc3Msn_reject hmsn⟩
    exact ⟨rfl, hread.state, rfl, rfl⟩

/-- A private unit read in a copy of the context; in a UDP context only the UDP form can be rebuilt. -/
theorem checkedPrivateUdp_follows {ctx : Context} {n : Nat} (hp : f.before.profile = .udp)
    (h : f.udpPrivateReading = some (ctx, n)) (hr : f.checkedPrivateUdp ctx n = some r) : Follows f.before r.ctx := by
  simp only [checkedPrivateUdp, Option.bind_eq_bind, Option.bind_eq_some_iff, Option.ite_none_right_eq_some] at hr
  obtain ⟨payload, -, header, hbuild, -, hr⟩ := hr
  cases hr
  have hprofile : ctx.profile = .udp := by
    unfold buildFixedUdpIpv4Header at hbuild
    split at hbuild
    · cases hbuild
    · rename_i hn
      simp only [not_or, not_not] at hn
      exact hn.1
  have turned : ∀ {p : Profile} {decode : Bytes → Proc (Cursor Context) Nat},
      (∀ bs, Turns frozen (establish (some p)) (decode bs)) → f.privateReading decode = some (ctx, n) →
        frozen ctx = establish (some p) (frozen f.before) := by
    intro p decode ht hread
    unfold privateReading at hread
    split at hread
    · rename_i e
      cases hread
      exact (ht f.packet).exec_eq e
    · cases hread
  have key : frozen ctx = establish (some .udp) (frozen f.before) := by
    unfold udpPrivateReading at h
    split at h
    · exact turned decodeUdpFo_turns h
    · have hesp : ctx.profile = .esp := congrArg (fun k => k.1.profile) (turned decodeEspFo_turns h)
      exact absurd (hprofile.symm.trans hesp) (by decide)
    · have hip : ctx.profile = .ip := congrArg (fun k => k.1.profile) (turned decodeIpFo_turns h)
      exact absurd (hprofile.symm.trans hip) (by decide)
    · cases h
  have hf := Follows.of_establish hp key
  exact hf.trans ⟨rfl, hf.state, rfl, rfl⟩

/-- The labels are nothing lasting. -/
theorem Regular.lasting (h : f.Regular) :
    f.ctx.lasting = f.before.lasting ∧ f.ctx.rohcState = f.before.rohcState ∧
      f.ctx.formalPt0Crc7Seen = f.before.formalPt0Crc7Seen ∧ f.ctx.largeCid = f.largeCidSpace := by
  obtain ⟨mode, e⟩ := h.ctx
  rw [e]
  exact ⟨rfl, rfl, rfl, rfl⟩

theorem profile_of_fixedRtpShape {ctx : Context} (h : fixedRtpShape ctx = true) : ctx.profile = .rtp := by
  simp only [fixedRtpShape, Bool.and_eq_true, decide_eq_true_eq] at h
  exact h.1.1.1.1.1

theorem privateFoContextReady_iff {p : Profile} :
    f.privateFoContextReady p = true ↔ f.before.rohcState ≠ .noContext ∧ f.before.profile = p := by
  simp [privateFoContextReady]

/-- What a compact unit asks of its context and does to it. -/
structure Compact (f : Frame) (kind : UnitKind) (ctx : Context) : Prop where
  state : f.before.rohcState ≠ .noContext
  profile : f.before.profile = kind.profile
  lasting : ctx.lasting = f.before.lasting
  stateAfter : ctx.rohcState ≠ .noContext
  crc7 : ctx.formalPt0Crc7Seen = (f.before.formalPt0Crc7Seen || decide (kind = .pt0Crc7 .esp))
  largeCid : ctx.largeCid = f.before.largeCid ∨ ctx.largeCid = f.largeCidSpace

/-- A unit read in the context as it was. -/
theorem Compact.of_before {kind : UnitKind} {ctx : Context} (hs : f.before.rohcState ≠ .noContext)
    (hp : f.before.profile = kind.profile) (hk : kind ≠ .pt0Crc7 .esp) (h : Follows f.before ctx) :
    f.Compact kind ctx :=
  ⟨hs, hp, h.lasting, h.state, by simp [h.crc7, hk], .inl h.largeCid⟩

/-- A unit read in the labelled context. -/
theorem Compact.of_labelled {kind : UnitKind} {ctx : Context} (hreg : f.Regular)
    (hs : f.before.rohcState ≠ .noContext) (hp : f.before.profile = kind.profile) (hk : kind ≠ .pt0Crc7 .esp)
    (h : Follows f.ctx ctx) : f.Compact kind ctx := by
  obtain ⟨hl, -, hc, hlarge⟩ := hreg.lasting
  exact ⟨hs, hp, h.lasting.trans hl, h.state, by simp [h.crc7, hc, hk], .inr (h.largeCid.trans hlarge)⟩

theorem updateIpv4IdBehavior_follows {ctx : Context} (hs : ctx.rohcState ≠ .noContext) (had : Bool) (id : UInt16) :
    Follows ctx (updateIpv4IdBehavior ctx had id) := by
  unfold updateIpv4IdBehavior
  split
  · exact ⟨rfl, hs, rfl, rfl⟩
  · exact ⟨rfl, hs, rfl, rfl⟩

theorem PrivateUnit.follows {profile : Profile} {decode : Bytes → Proc (Cursor Context) Nat} {after : Context → Context}
    (unit : PrivateUnit f profile decode after) {ctx : Context} {n : Nat} (hp : f.ctx.profile = profile)
    (h : exec (decode f.packet) f.ctx = (some n, ctx)) : Follows f.ctx (after ctx) := by
  cases unit with
  | udp =>
    have hf := Follows.of_establish hp ((decodeUdpFo_turns _).exec_eq h)
    exact hf.trans ⟨rfl, hf.state, rfl, rfl⟩
  | ip =>
    have hf := Follows.of_establish hp ((decodeIpFo_turns _).exec_eq h)
    have hs : ({ ctx with msn := f.ctx.msn + 1 } : Context).rohcState ≠ .noContext := hf.state
    refine hf.trans (Follows.trans (b := { ctx with msn := f.ctx.msn + 1 }) ⟨rfl, hf.state, rfl, rfl⟩ ?_)
    exact updateIpv4IdBehavior_follows hs _ _
  | esp => exact Follows.of_establish hp ((decodeEspFo_turns _).exec_eq h)
  | udpLite => exact Follows.of_establish hp ((decodeUdpLiteFo_turns _).exec_eq h)

namespace Accepts

variable {kind : UnitKind} {ctx : Context} {octets : Bytes}

/-- **A compact unit is taken only in a live context of its profile, and nothing lasting changes.** -/
theorem compact (hreg : f.Regular) (h : f.Accepts kind ctx octets) (hk : kind.compact = true) : f.Compact kind ctx := by
  have live : ∀ {s : RohcState}, s = .dynamicEstablished → s ≠ .noContext := fun h => by simp [h]
  obtain ⟨hl, hstate, hcrc7, hlarge⟩ := hreg.lasting
  cases h with
  | normal state profile =>
    exact ⟨state, profile, hl, by rw [hstate]; exact state, by simp [hcrc7], .inr hlarge⟩
  | uncompressedIr => cases hk
  | rtpPt0Crc7 shape hlive reading =>
    have hs := live (livePt0_state hlive)
    exact .of_before hs (profile_of_fixedRtpShape shape) (by decide) (rtpPt0Crc7Reading_follows hs reading)
  | espPt0Crc7 profile hlive reading =>
    have hs := live (livePt0_state hlive)
    obtain ⟨h₁, h₂, h₃, h₄⟩ := espPt0Crc7Reading_follows reading
    exact ⟨hs, profile, h₁, by rw [h₂]; exact hs, by simp [h₃], .inl h₄⟩
  | pt1SeqId hlive reading =>
    have hs := live (livePt0_state hlive)
    exact .of_before hs rfl (by simp) (pt1SeqIdReading_follows hs reading)
  | udpPt0Crc3 profile hlive reading =>
    have hs := live (livePt0_state hlive)
    exact .of_before hs profile (by decide) (udpPt0Reading_follows hs reading).1
  | udpChecked profile hlive hprivate reading =>
    exact .of_before (live (livePt0_state hlive)) profile (by decide) (checkedPrivateUdp_follows profile hprivate reading)
  | espPt0Crc3 unstaged noOptions aliased hlive reading =>
    have hs := live (livePt0_state hlive)
    simp only [espPt0AliasContext, Bool.and_eq_true, decide_eq_true_eq] at aliased
    exact .of_before hs aliased.1.1.1.1.1.2 (by decide) (espPt0Reading_follows hs reading).1
  | ipPt0Crc3 profile hlive reading =>
    have hs := live (livePt0_state hlive)
    exact .of_before hs profile (by decide) (ipPt0Reading_follows hs reading).1
  | rtpPt0Crc3 shape hlive reading =>
    have hs := live (livePt0_state hlive)
    exact .of_labelled hreg hs (profile_of_fixedRtpShape shape) (by decide)
      (rtpPt0Reading_follows (by rw [hstate]; exact hs) reading).1
  | ir => cases hk
  | irDyn => cases hk
  | privateFo octets unit ready decoded =>
    obtain ⟨hs, hp⟩ := privateFoContextReady_iff.mp ready
    exact .of_labelled hreg hs hp (by simp) (unit.follows ((profile_of_lasting hl).trans hp) decoded)
  | privateRtp octets ready decoded =>
    have hs : f.before.rohcState ≠ .noContext := by
      rcases ready with r | r
      · exact (privateFoContextReady_iff.mp r).1
      · exact (privateFoContextReady_iff.mp r).1
    have hf := Follows.of_frozen (by rw [hstate]; exact hs) (decodeFoRtp_frozen decoded)
    exact .of_labelled hreg hs rfl (by simp) (hf.trans ⟨rfl, hf.state, rfl, rfl⟩)
  | pt0InPlace octets takes decoded esp =>
    simp only [takesPt0, Bool.and_eq_true] at takes
    have hs := live (livePt0_state takes.2)
    exact .of_labelled hreg (by rw [← hstate]; exact hs) (profile_of_lasting hl).symm (by simp)
      (decodePt0Unit_follows hs decoded).1

/-- The CRC-3 form passes the gates of its context. -/
theorem crc3 (hreg : f.Regular) {p : Profile} (h : f.Accepts (.pt0Crc3 p) ctx octets) :
    f.before.rejectLegacyUdpPt0UntilRefresh = false ∧ (p = .esp → f.before.formalPt0Crc3Retired = true →
      f.largeCidSpace = false ∧ (f.staged = true ∨ f.before.ipv4OptionsLen ≠ 0 ∨ f.before.largeCid = true)) := by
  have live : ∀ {s : RohcState}, s = .dynamicEstablished → s ≠ .noContext := fun h => by simp [h]
  obtain ⟨hl, hstate, -, -⟩ := hreg.lasting
  generalize hkind : UnitKind.pt0Crc3 p = kind at h
  cases h with
  | udpPt0Crc3 profile hlive reading =>
    cases hkind
    exact ⟨(udpPt0Reading_follows (live (livePt0_state hlive)) reading).2, fun e => absurd e (by decide)⟩
  | espPt0Crc3 unstaged noOptions aliased hlive reading =>
    cases hkind
    obtain ⟨-, hrej, hret⟩ := espPt0Reading_follows (live (livePt0_state hlive)) reading
    exact ⟨hrej, fun _ h => absurd h (by simp [hret])⟩
  | ipPt0Crc3 profile hlive reading =>
    cases hkind
    exact ⟨(ipPt0Reading_follows (live (livePt0_state hlive)) reading).2, fun e => absurd e (by decide)⟩
  | rtpPt0Crc3 shape hlive reading =>
    cases hkind
    refine ⟨?_, fun e => absurd e (by decide)⟩
    rw [← reject_of_lasting hl]
    exact (rtpPt0Reading_follows (by rw [hstate]; exact live (livePt0_state hlive)) reading).2
  | pt0InPlace octets takes decoded esp =>
    cases hkind
    have hp := profile_of_lasting hl
    have hlive : livePt0ContextSupported f.ctx f.largeCidSpace f.cid f.parsed.hasAddCid = true := by
      simp only [takesPt0, Bool.and_eq_true] at takes
      exact takes.2
    refine ⟨?_, fun e _ => ⟨?_, esp (hp.symm.trans e)⟩⟩
    · rw [← reject_of_lasting hl]
      exact (decodePt0Unit_follows (live (livePt0_state hlive)) decoded).2
    · unfold livePt0ContextSupported at hlive
      split at hlive
      · cases hlive
      · rename_i hn
        simp only [not_or, Bool.not_eq_true] at hn
        exact hn.2.2.1
  | _ => cases hkind

/-! ## Refreshes -/

/-- The gates of an IR touch neither profile nor labels nor the marks of the CRC-7 form. -/
theorem irGates_fields (p : Profile) (c : Context) :
    (f.irGates p c).profile = c.profile ∧ (f.irGates p c).rohcState = c.rohcState ∧
      (f.irGates p c).largeCid = c.largeCid ∧ (f.irGates p c).formalPt0Crc7Seen = c.formalPt0Crc7Seen ∧
      (f.irGates p c).formalPt0Crc3Retired = c.formalPt0Crc3Retired := by
  unfold irGates
  dsimp only
  split
  · exact ⟨rfl, rfl, rfl, rfl, rfl⟩
  · split
    · exact ⟨rfl, rfl, rfl, rfl, rfl⟩
    · split
      · exact ⟨rfl, rfl, rfl, rfl, rfl⟩
      · exact ⟨rfl, rfl, rfl, rfl, rfl⟩

theorem irContext_fields (hreg : f.Regular) (p : Profile) :
    (f.irContext p).largeCid = f.largeCidSpace ∧
      (f.before.rohcState ≠ .noContext → f.before.profile = p → p = .esp →
        (f.irContext p).formalPt0Crc7Seen = f.before.formalPt0Crc7Seen ∧
          (f.irContext p).formalPt0Crc3Retired = (f.before.formalPt0Crc3Retired || f.before.formalPt0Crc7Seen)) := by
  obtain ⟨hl, -, hc, hlarge⟩ := hreg.lasting
  have hr := retired_of_lasting hl
  unfold irContext
  split
  · rename_i h
    exact ⟨rfl, fun _ hp => absurd hp h.2⟩
  · split
    · rename_i h
      exact ⟨hlarge, fun _ _ _ => ⟨hc, by simp [h.2.2]⟩⟩
    · rename_i h
      refine ⟨hlarge, fun hs _ he => ⟨hc, ?_⟩⟩
      have : f.before.formalPt0Crc7Seen = false := by
        by_contra hn
        exact h ⟨hs, he, Bool.not_eq_false _ ▸ hn⟩
      rw [hr, this, Bool.or_false]

/-- What an IR of profile `p` leaves. -/
theorem of_ir (hreg : f.Regular) {p : Profile} (h : f.Accepts (.ir p) ctx octets) :
    ctx.profile = p ∧ ctx.rohcState ≠ .noContext ∧ ctx.largeCid = f.largeCidSpace ∧
      (f.before.rohcState ≠ .noContext → f.cid ≠ 0 → f.before.profile ≠ p → profileUsesFormalPt0 p = true →
        ctx.rejectLegacyUdpPt0UntilRefresh = true) ∧
      (f.before.rohcState ≠ .noContext → f.before.profile = p → p = .esp →
        ctx.formalPt0Crc7Seen = f.before.formalPt0Crc7Seen ∧
          ctx.formalPt0Crc3Retired = (f.before.formalPt0Crc3Retired || f.before.formalPt0Crc7Seen)) := by
  generalize hkind : UnitKind.ir p = kind at h
  cases h with
  | uncompressedIr =>
    cases hkind
    exact ⟨rfl, by simp [uncompressedReplacement], rfl, fun _ _ _ hp => absurd hp (by decide),
      fun _ _ he => absurd he (by decide)⟩
  | ir octets incoming decoded =>
    cases hkind
    obtain ⟨state, hs, hgates⟩ := decodeIrOf_gates decoded
    rename_i c _
    obtain ⟨hprofile, hstate, hlarge, hcrc7, hretired⟩ := irGates_fields (f := f) p c
    obtain ⟨hlarge', hmarks⟩ := irContext_fields hreg p
    have gate : ∀ {α : Type} (g : Control → α), g c.gates = g (install p state (f.irContext p).gates) :=
      fun g => congrArg g hgates
    refine ⟨?_, ?_, ?_, ?_, ?_⟩
    · rw [hprofile]
      exact gate (·.profile)
    · rw [hstate, show c.rohcState = state from gate (·.rohcState)]
      exact hs
    · rw [hlarge, ← hlarge']
      exact gate (·.largeCid)
    · intro hst hcid hne hformal
      rw [irGates, if_pos ⟨hst, hcid, hne, hformal⟩]
    · intro hst hp he
      obtain ⟨h₁, h₂⟩ := hmarks hst hp he
      rw [hcrc7, hretired, ← h₂, ← h₁]
      exact ⟨gate (·.formalPt0Crc7Seen), gate (·.formalPt0Crc3Retired)⟩
  | _ => cases hkind

/-- What an IR-DYN of profile `p` leaves: the static fields as they were, whatever context it met. -/
theorem of_irDyn (hreg : f.Regular) {p : Profile} (h : f.Accepts (.irDyn p) ctx octets) :
    ctx.profile = (irDynProfile p).getD f.before.profile ∧ ctx.rohcState ≠ .noContext ∧
      ctx.statics = f.before.statics ∧ ctx.largeCid = f.largeCidSpace ∧
      ctx.formalPt0Crc7Seen = f.before.formalPt0Crc7Seen ∧
      ctx.formalPt0Crc3Retired = f.before.formalPt0Crc3Retired ∧
      (f.before.profile ≠ p → ctx.rejectLegacyUdpPt0UntilRefresh = f.before.rejectLegacyUdpPt0UntilRefresh) ∧
      incomingProfile f.parsed.profileId = some p ∧ f.parsed.type = .irDyn := by
  obtain ⟨hl, -, hc, hlarge⟩ := hreg.lasting
  have hstatics := statics_of_lasting hl
  have hp := profile_of_lasting hl
  have hrej := reject_of_lasting hl
  have hret := retired_of_lasting hl
  generalize hkind : UnitKind.irDyn p = kind at h
  cases h with
  | irDyn octets type incoming decoded =>
    cases hkind
    rename_i c _
    have hf := (decodeIrDynOf_turns p _).exec_eq decoded
    obtain ⟨hcontrol, hst⟩ := Prod.mk.inj hf
    have hprofile : c.profile = (irDynProfile p).getD f.before.profile := by
      rw [hcontrol, ← hp]
      rfl
    have hstate : c.rohcState ≠ .noContext := by
      rw [hcontrol]
      simp
    have hl' : c.largeCid = f.ctx.largeCid := by rw [hcontrol]; rfl
    have h7 : c.formalPt0Crc7Seen = f.ctx.formalPt0Crc7Seen := by rw [hcontrol]; rfl
    have h3 : c.formalPt0Crc3Retired = f.ctx.formalPt0Crc3Retired := by rw [hcontrol]; rfl
    have hr : c.rejectLegacyUdpPt0UntilRefresh = f.ctx.rejectLegacyUdpPt0UntilRefresh := by rw [hcontrol]; rfl
    unfold irDynGates
    by_cases hsame : f.before.profile = p
    · rw [if_pos hsame]
      exact ⟨hprofile, hstate, hst.trans hstatics, hl'.trans hlarge, h7.trans hc, h3.trans hret,
        fun hn => absurd hsame hn, incoming, type⟩
    · rw [if_neg hsame]
      exact ⟨hprofile, hstate, hst.trans hstatics, hl'.trans hlarge, h7.trans hc, h3.trans hret,
        fun _ => hr.trans hrej, incoming, type⟩
  | _ => cases hkind

end Accepts

end Frame

end Rohccxx
