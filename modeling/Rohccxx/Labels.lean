import Rohccxx.DecompRuns

/-!
# The labels of contexts in use

A call writes the labels of a context before it decodes, and no decoder touches them. So in every state that a
decompressor can reach, a context that has been used carries its own CID and the CID space of the handle
(`labelled_of_reaches`).
-/

set_option autoImplicit false

namespace Rohccxx

open Octets Reader Context Runs

/-- A context in use has the labels of its CID. -/
def Context.Labelled (ctx : Context) (space : Bool) (cid : Nat) : Prop :=
  ctx.rohcState ≠ .noContext → ctx.labels = (cid, space)

/-- Every context of the handle. -/
def Decompressor.Labelled (decomp : Decompressor) : Prop :=
  ∀ cid ctx, decomp.contexts.get cid = some ctx → ctx.Labelled decomp.largeCidSpace cid

/-! ## Readings -/

/-- What keeps the control fields keeps the labels. -/
theorem labels_of_frozen {a b : Context} {g : Control × Statics → Control × Statics} (h : frozen b = g (frozen a))
    (hg : ∀ k, ((g k).1.cid, (g k).1.largeCid) = (k.1.cid, k.1.largeCid)) : b.labels = a.labels :=
  (congrArg (fun k => (k.1.cid, k.1.largeCid)) h).trans (hg (frozen a))

theorem labels_readCompactUdpCheck {ctx ctx' : Context} {packet : Bytes} {n m : Nat}
    (h : readCompactUdpCheck ctx packet n = some (ctx', m)) : ctx'.labels = ctx.labels := by
  unfold readCompactUdpCheck at h
  split at h
  · obtain ⟨-, h⟩ := Option.ite_none_left_eq_some.mp h
    cases h
    rfl
  · cases h
    rfl

theorem labels_advanceFormal (ctx : Context) (msn : UInt16) : (Frame.advanceFormal ctx msn).labels = ctx.labels := by
  unfold Frame.advanceFormal
  dsimp only
  split
  · rfl
  · rfl

namespace Frame

variable {f : Frame} {r : Reading}

theorem labels_rtpPt0Crc7Reading (h : f.rtpPt0Crc7Reading = some r) : r.ctx.labels = f.before.labels := by
  unfold rtpPt0Crc7Reading at h
  obtain ⟨-, h⟩ := Option.ite_none_left_eq_some.mp h
  simp only [Option.bind_eq_bind, Option.bind_eq_some_iff, Option.ite_none_right_eq_some] at h
  obtain ⟨_, -, _, -, _, -, _, -, -, h⟩ := h
  cases h
  rfl

theorem labels_espPt0Crc7Reading (h : f.espPt0Crc7Reading = some r) : r.ctx.labels = f.before.labels := by
  simp only [espPt0Crc7Reading, Option.bind_eq_bind, Option.bind_eq_some_iff, Option.ite_none_right_eq_some] at h
  obtain ⟨_, -, _, -, _, -, _, -, -, h⟩ := h
  cases h
  rfl

theorem labels_pt1SeqIdReading (h : f.pt1SeqIdReading = some r) : r.ctx.labels = f.before.labels := by
  simp only [pt1SeqIdReading, Option.bind_eq_bind, Option.bind_eq_some_iff, Option.ite_none_right_eq_some] at h
  obtain ⟨_, -, _, -, _, -, ⟨ctx, n⟩, hcheck, _, -, _, -, -, h⟩ := h
  cases h
  have hkept := labels_readCompactUdpCheck hcheck
  exact hkept

theorem labels_udpPt0Reading (h : f.udpPt0Reading = some r) : r.ctx.labels = f.before.labels := by
  simp only [udpPt0Reading, Option.bind_eq_bind, Option.bind_eq_some_iff] at h
  obtain ⟨⟨msn, crc⟩, -, h⟩ := h
  obtain ⟨-, h⟩ := Option.ite_none_left_eq_some.mp h
  simp only [Option.bind_eq_some_iff, Option.ite_none_right_eq_some] at h
  obtain ⟨⟨ctx, n⟩, hcheck, _, -, _, -, -, h⟩ := h
  cases h
  have hkept := labels_readCompactUdpCheck hcheck
  exact hkept

theorem labels_espPt0Reading {first : UInt8} (h : f.espPt0Reading first = some r) : r.ctx.labels = f.before.labels := by
  unfold espPt0Reading at h
  obtain ⟨-, h⟩ := Option.ite_none_left_eq_some.mp h
  simp only [Option.bind_eq_bind, Option.bind_eq_some_iff, Option.ite_none_right_eq_some] at h
  obtain ⟨_, -, _, -, _, -, -, h⟩ := h
  cases h
  rfl

theorem labels_ipPt0Reading (h : f.ipPt0Reading = some r) : r.ctx.labels = f.before.labels := by
  simp only [ipPt0Reading, Option.bind_eq_bind, Option.bind_eq_some_iff, Option.ite_none_right_eq_some] at h
  obtain ⟨_, -, _, -, _, -, -, h⟩ := h
  cases h
  rfl

theorem labels_rtpPt0Reading (h : f.rtpPt0Reading = some r) : r.ctx.labels = f.ctx.labels := by
  unfold rtpPt0Reading at h
  obtain ⟨-, h⟩ := Option.ite_none_left_eq_some.mp h
  simp only [Option.bind_eq_bind, Option.bind_eq_some_iff, Option.ite_none_right_eq_some] at h
  obtain ⟨_, -, _, -, _, -, -, h⟩ := h
  cases h
  rfl

theorem labels_decodePt0Unit {d : Decoded} (h : f.decodePt0Unit = some d) : d.ctx.labels = f.ctx.labels := by
  unfold decodePt0Unit at h
  obtain ⟨-, h⟩ := Option.ite_none_left_eq_some.mp h
  simp only [Option.bind_eq_bind, Option.bind_eq_some_iff] at h
  obtain ⟨⟨msn, crc⟩, -, h⟩ := h
  obtain ⟨-, h⟩ := Option.ite_none_left_eq_some.mp h
  simp only [Option.bind_eq_some_iff] at h
  obtain ⟨⟨ctx, n⟩, hcheck, h⟩ := h
  cases h
  have hkept := labels_readCompactUdpCheck hcheck
  exact hkept.trans (labels_advanceFormal _ _)

theorem labels_privateReading {p : Profile} {decode : Bytes → Proc (Cursor Context) Nat} {ctx : Context} {n : Nat}
    (hturns : ∀ bs, Turns frozen (establish (some p)) (decode bs)) (h : f.privateReading decode = some (ctx, n)) :
    ctx.labels = f.before.labels := by
  unfold privateReading at h
  split at h
  · rename_i e
    cases h
    exact labels_of_frozen ((hturns f.packet).exec_eq e) fun _ => rfl
  · cases h

theorem labels_checkedPrivateUdp {ctx : Context} {n : Nat} (h : f.udpPrivateReading = some (ctx, n))
    (hr : f.checkedPrivateUdp ctx n = some r) : r.ctx.labels = f.before.labels := by
  simp only [checkedPrivateUdp, Option.bind_eq_bind, Option.bind_eq_some_iff, Option.ite_none_right_eq_some] at hr
  obtain ⟨_, -, _, -, -, hr⟩ := hr
  cases hr
  change ctx.labels = f.before.labels
  unfold udpPrivateReading at h
  split at h
  · exact labels_privateReading decodeUdpFo_turns h
  · exact labels_privateReading decodeEspFo_turns h
  · exact labels_privateReading decodeIpFo_turns h
  · cases h

theorem PrivateUnit.labels {profile : Profile} {decode : Bytes → Proc (Cursor Context) Nat} {after : Context → Context}
    (unit : PrivateUnit f profile decode after) {ctx : Context} {n : Nat}
    (h : exec (decode f.packet) f.ctx = (some n, ctx)) : (after ctx).labels = f.ctx.labels := by
  cases unit with
  | udp =>
    have hlabels : ctx.labels = f.ctx.labels := labels_of_frozen ((decodeUdpFo_turns _).exec_eq h) fun _ => rfl
    exact hlabels
  | ip =>
    have hlabels : ctx.labels = f.ctx.labels := labels_of_frozen ((decodeIpFo_turns _).exec_eq h) fun _ => rfl
    refine Eq.trans ?_ hlabels
    dsimp only
    unfold updateIpv4IdBehavior
    split
    · rfl
    · rfl
  | esp => exact labels_of_frozen ((decodeEspFo_turns _).exec_eq h) fun _ => rfl
  | udpLite => exact labels_of_frozen ((decodeUdpLiteFo_turns _).exec_eq h) fun _ => rfl

theorem labels_irContext (hreg : f.Regular) (p : Profile) : (f.irContext p).labels = (f.cid, f.largeCidSpace) := by
  have hctx : f.ctx.labels = (f.cid, f.largeCidSpace) := by
    obtain ⟨mode, e⟩ := hreg.ctx
    rw [e]
    rfl
  unfold irContext
  split
  · rfl
  · split
    · exact hctx
    · exact hctx

theorem labels_irGates (p : Profile) (ctx : Context) : (f.irGates p ctx).labels = ctx.labels := by
  unfold irGates
  dsimp only
  split
  · rfl
  · split
    · rfl
    · split
      · rfl
      · rfl

/-- **A unit leaves the labels of its CID.** -/
theorem Accepts.labels {kind : UnitKind} {ctx : Context} {octets : Bytes} (hreg : f.Regular)
    (hbefore : f.before.Labelled f.largeCidSpace f.cid) (h : f.Accepts kind ctx octets) :
    ctx.labels = (f.cid, f.largeCidSpace) := by
  have hctx : f.ctx.labels = (f.cid, f.largeCidSpace) := by
    obtain ⟨mode, e⟩ := hreg.ctx
    rw [e]
    rfl
  have hlive : f.livePt0 = true → f.before.labels = (f.cid, f.largeCidSpace) := fun h =>
    hbefore (by rw [livePt0_state h]; decide)
  cases h with
  | normal => exact hctx
  | uncompressedIr => rfl
  | rtpPt0Crc7 _ live reading => exact (labels_rtpPt0Crc7Reading reading).trans (hlive live)
  | espPt0Crc7 _ live reading => exact (labels_espPt0Crc7Reading reading).trans (hlive live)
  | pt1SeqId live reading => exact (labels_pt1SeqIdReading reading).trans (hlive live)
  | udpPt0Crc3 _ live reading => exact (labels_udpPt0Reading reading).trans (hlive live)
  | udpChecked _ live hprivate reading => exact (labels_checkedPrivateUdp hprivate reading).trans (hlive live)
  | espPt0Crc3 _ _ _ live reading => exact (labels_espPt0Reading reading).trans (hlive live)
  | ipPt0Crc3 _ live reading => exact (labels_ipPt0Reading reading).trans (hlive live)
  | rtpPt0Crc3 _ _ reading => exact (labels_rtpPt0Reading reading).trans hctx
  | ir _ _ decoded =>
    obtain ⟨_, -, hgates⟩ := decodeIrOf_gates decoded
    have hkept := congrArg (fun k : Control => (k.cid, k.largeCid)) hgates
    exact (labels_irGates _ _).trans (Eq.trans hkept (labels_irContext hreg _))
  | irDyn _ _ _ decoded =>
    have hkept := labels_of_frozen ((decodeIrDynOf_turns _ _).exec_eq decoded) fun _ => rfl
    refine Eq.trans ?_ (hkept.trans hctx)
    unfold irDynGates
    split
    · rfl
    · rfl
  | privateFo _ unit _ decoded => exact (unit.labels decoded).trans hctx
  | privateRtp _ _ decoded =>
    exact (labels_of_frozen (g := id) (decodeFoRtp_frozen decoded) fun _ => rfl).trans hctx
  | pt0InPlace _ _ decoded _ => exact (labels_decodePt0Unit decoded).trans hctx

end Frame

/-! ## Calls and runs -/

theorem Spared.keeps_labelled {base after : Live} (h : Spared base after) (hl : base.handle.Labelled) : after.handle.Labelled := by
  intro cid y hy hs
  obtain ⟨x, hx, hkeep⟩ := h.found hy
  rw [h.settings.largeCidSpace]
  rcases h.labels cid y hy with e | ⟨x', hx', e⟩
  · exact e
  · obtain rfl : x = x' := Option.some.inj (hx.symm.trans hx')
    refine e.trans (hl cid x hx ?_)
    rw [hkeep.fields] at hs
    exact hs

/-- One context written. -/
theorem Decompressor.Labelled.set {decomp : Decompressor} (hl : decomp.Labelled) {cid : Nat} {ctx : Context}
    (hctx : ctx.Labelled decomp.largeCidSpace cid) {cid' : Nat} {y : Context}
    (hy : (decomp.contexts.set cid ctx).get cid' = some y) : y.Labelled decomp.largeCidSpace cid' := by
  by_cases hc : cid = cid'
  · subst hc
    have hsome : (decomp.contexts.get cid).isSome := by
      rw [ContextTable.get_isSome, ← ContextTable.maxCid_set decomp.contexts cid ctx, ← ContextTable.get_isSome, hy]
      rfl
    rw [ContextTable.get_set_self hsome] at hy
    cases hy
    exact hctx
  · rw [ContextTable.get_set_of_ne hc] at hy
    exact hl cid' y hy

theorem rohcDecompress4_labelled {decomp : Decompressor} (hl : decomp.Labelled) (input out : Bytes) (cap : Nat) :
    (rohcDecompress4 decomp input out cap).2.handle.Labelled := by
  by_cases h : (rohcDecompress4 decomp input out cap).1 = 0
  · obtain ⟨unit, f, mid, ctx, octets, d⟩ := rohcDecompress4_zero h
    have hmid : mid.handle.Labelled := d.spared.keeps_labelled hl
    have hctx : ctx.labels = (f.cid, f.largeCidSpace) :=
      d.accepts.labels d.meets.regular (by rw [d.meets.largeCidSpace]; exact hmid f.cid f.before d.meets.context)
    intro cid y hy
    rw [d.delivered.contexts] at hy
    rw [d.delivered.settings.largeCidSpace]
    exact hmid.set (fun _ => by rw [← d.meets.largeCidSpace]; exact hctx) hy
  · exact (decompressNested_preserves _ _ _ h).keeps_labelled hl

/-- Calls that leave the contexts alone. -/
theorem Decompressor.Labelled.of_contexts {a b : Decompressor} (hl : a.Labelled) (hcontexts : b.contexts = a.contexts)
    (hspace : b.largeCidSpace = a.largeCidSpace) : b.Labelled := fun cid ctx hget => by
  rw [hspace]
  exact hl cid ctx (hcontexts ▸ hget)

theorem receiveNhp_labelled {live : Live} (hl : live.handle.Labelled) (lla : Option LlaSettings) (cid : Nat)
    (payload : Bytes) : (receiveNhp lla live cid payload).2.handle.Labelled := by
  unfold receiveNhp
  split
  · exact hl
  · split
    · exact hl
    · split
      · exact hl
      · rename_i ctx hget
        split
        · exact hl
        · have hadvanced : (advanceNoHeader ctx).Labelled live.handle.largeCidSpace cid := hl cid ctx hget
          have hset : (live.setCtx cid (advanceNoHeader ctx)).handle.Labelled := fun _ _ hy => hl.set hadvanced hy
          dsimp only
          split
          · exact hset.of_contexts rfl rfl
          · exact hset.of_contexts rfl rfl

theorem receiveCsp_labelled {live : Live} (hl : live.handle.Labelled) (lla : Option LlaSettings) (packet : Bytes) :
    (receiveCsp lla live packet).2.handle.Labelled := by
  unfold receiveCsp
  split
  · exact hl
  · split
    · exact hl
    · split
      · exact hl.of_contexts rfl rfl
      · exact rohcDecompress4_labelled hl _ _ _

/-- **One call.** -/
theorem DecompHandle.call_labelled {handle : DecompHandle} (hl : handle.core.Labelled) (call : DecompCall) :
    (handle.call call).core.Labelled := by
  cases call with
  | decompress input out cap => exact rohcDecompress4_labelled hl input out cap
  | receiveCsp packet out cap => exact @receiveCsp_labelled ⟨handle.core, out, cap⟩ hl handle.lla packet
  | receiveNhp cid payload out cap => exact @receiveNhp_labelled ⟨handle.core, out, cap⟩ hl handle.lla cid payload
  | receiveCcp cid packet =>
    obtain ⟨hcontexts, hspace⟩ := receiveCcp_contexts handle.lla handle.core cid packet
    exact hl.of_contexts hcontexts hspace
  | reportLoss cid =>
    simp only [DecompHandle.call]
    split
    · exact hl.of_contexts rfl rfl
    · exact hl
  | reportResidualError cid =>
    simp only [DecompHandle.call]
    split
    · exact hl.of_contexts rfl rfl
    · exact hl
  | setMode mode => exact hl.of_contexts rfl rfl
  | setMrru mrru =>
    simp only [DecompHandle.call, DecompHandle.withCore, Decompressor.setMrru]
    split
    · exact hl
    · exact hl.of_contexts rfl rfl
  | setContextRefreshAckEnabled enabled => exact hl.of_contexts rfl rfl
  | setRohcoipsecIntegrity algorithm key icvLen => exact hl.of_contexts rfl rfl
  | enableLla contract flow => exact hl

theorem labelled_fresh (maxCid : Nat) : (DecompHandle.fresh maxCid).core.Labelled := by
  intro cid ctx hget hs
  have hle : cid ≤ maxCid := ContextTable.get_isSome.mp (Option.isSome_of_eq_some hget)
  have heq : (ContextTable.init maxCid).get cid = some ctx := hget
  rw [ContextTable.get_init hle] at heq
  cases heq
  exact absurd rfl hs

/-- **In every run contexts in use carry the labels of their CID.** -/
theorem labelled_of_reaches {ok : DecompHandle → DecompCall → Prop} {maxCid : Nat}
    {labels : List (DecompCall × Option Acceptance)} {handle : DecompHandle}
    (run : Reaches (decompMachine.Step ok) (.fresh maxCid) labels handle) : handle.core.Labelled := by
  refine run.invariant (P := fun _ handle => handle.core.Labelled) (labelled_fresh maxCid) fun {_ handle label _} hl h => ?_
  obtain ⟨-, hnext, -⟩ := h
  rw [hnext]
  exact handle.call_labelled hl label.1

end Rohccxx
