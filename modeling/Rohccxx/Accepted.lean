import Rohccxx.Transactional

/-!
# What an accepted call decoded

A call of `rohc_decompress4` that returns 0 decoded one unit: its own, or one that its segment completed (`Decodes`). The
unit was read by one block in one way (`Frame.Accepts`), its ICV held, and the packet and the context of that reading are
what the call left (`Delivered`). `rohcDecompress4_zero` says all of this once; what runs of a decompressor can do is
derived from it.
-/

set_option autoImplicit false

namespace Rohccxx

open Octets Reader

/-! ## Delivery -/

/-- The unit was taken: the packet is in the buffer, the context in the table, and nothing else changed but mode and
feedback. -/
structure Delivered (live : Live) (cid : Nat) (ctx : Context) (octets : Bytes) (ret : Return) : Prop where
  rc : ret.1 = 0
  outLen : ret.2.outLen = octets.length
  out : ret.2.out = overwrite live.out octets
  contexts : ret.2.handle.contexts = live.handle.contexts.set cid ctx
  settings : SameSettings live.handle ret.2.handle

namespace Delivered

variable {live : Live} {cid : Nat} {ctx : Context} {octets : Bytes} {ret : Return}

/-- What the caller finds in its buffer. -/
theorem output (h : Delivered live cid ctx octets ret) : ret.2.out.take ret.2.outLen = octets := by
  rw [h.out, h.outLen, overwrite, List.take_left]

theorem guardLength (h : Delivered live cid ctx octets ret) : Delivered live cid ctx octets (guardLength ret) := by
  unfold Rohccxx.guardLength
  rw [if_pos h.rc]
  exact h

/-- What was written to the context before does not show. -/
theorem of_setCtx {old : Context} (h : Delivered (live.setCtx cid old) cid ctx octets ret) :
    Delivered live cid ctx octets ret where
  rc := h.rc
  outLen := h.outLen
  out := h.out
  contexts := by rw [h.contexts]; exact ContextTable.set_set _ _ _ _
  settings := ⟨h.settings.1, h.settings.2, h.settings.3, h.settings.4⟩

end Delivered

namespace Frame

variable {f : Frame} {live : Live}

/-- Acknowledging a refresh touches the feedback slot only. -/
theorem acknowledgeRefresh_delivered {base : Live} {cid : Nat} {ctx : Context} {octets : Bytes}
    (h : Delivered base cid ctx octets (0, live)) : Delivered base cid ctx octets (0, f.acknowledgeRefresh live) := by
  unfold acknowledgeRefresh
  split
  · exact h
  · split
    · split
      · exact ⟨rfl, h.outLen, h.out, h.contexts, h.settings.trans ⟨rfl, rfl, rfl, rfl⟩⟩
      · exact ⟨rfl, h.outLen, h.out, h.contexts, h.settings.trans ⟨rfl, rfl, rfl, rfl⟩⟩
    · exact h

/-! ## The ICV -/

/-- The ICV taken off the unit is that of the packet. -/
def IcvHolds (f : Frame) (octets : Bytes) : Prop :=
  ∀ integrity, f.integrity = some integrity → f.icv ≠ [] →
    ∃ computed, computeIcv integrity.algorithm integrity.key octets f.icv.length = some computed ∧
      (computed ++ List.replicate f.icv.length 0).take f.icv.length = f.icv

/-- A check that passes leaves the state alone. -/
theorem verifyIcv_zero {octets : Bytes} (h : (f.verifyIcv live octets).1 = 0) :
    f.verifyIcv live octets = (0, live) ∧ f.IcvHolds octets := by
  have hfail : (live.failWithFeedback f.parsed.cid).1 ≠ 0 := by simp [Live.failWithFeedback]
  unfold verifyIcv at h ⊢
  split at h
  · rename_i hi
    exact ⟨rfl, fun integrity hi' => by simp [hi] at hi'⟩
  · rename_i integrity hi
    split at h
    · rename_i hl
      rw [if_pos hl]
      exact ⟨rfl, fun _ _ hne => absurd (List.length_eq_zero_iff.mp hl) hne⟩
    · rename_i hl
      rw [if_neg hl]
      split at h
      · exact absurd h hfail
      · rename_i computed hc
        split at h
        · rename_i heq
          simp only [if_pos heq, true_and]
          intro integrity' hi' _
          rw [hi] at hi'
          cases hi'
          exact ⟨computed, hc, heq⟩
        · exact absurd h hfail

/-- The common end of an accepted unit. -/
theorem finish_zero {staged : Bool} {ctx : Context} {mode : Mode} {octets : Bytes}
    (h : (f.finishDecoding staged octets
      (f.verifyIcv ((writeReconstruction staged (live.setCtx f.cid ctx) octets).setMode mode) octets)).1 = 0) :
    f.IcvHolds octets ∧ Delivered live f.cid ctx octets (f.finishDecoding staged octets
      (f.verifyIcv ((writeReconstruction staged (live.setCtx f.cid ctx) octets).setMode mode) octets)) := by
  have hv : (f.verifyIcv ((writeReconstruction staged (live.setCtx f.cid ctx) octets).setMode mode) octets).1 = 0 := by
    by_contra hne
    rw [finishDecoding, if_pos hne] at h
    exact hne h
  obtain ⟨e, hicv⟩ := verifyIcv_zero hv
  refine ⟨hicv, ?_⟩
  rw [e, finishDecoding, if_neg (by simp)]
  apply acknowledgeRefresh_delivered
  unfold writeReconstruction
  cases staged with
  | true => exact ⟨rfl, rfl, rfl, rfl, ⟨rfl, rfl, rfl, rfl⟩⟩
  | false => exact ⟨rfl, rfl, rfl, rfl, ⟨rfl, rfl, rfl, rfl⟩⟩

theorem failDecode_ne_zero (live : Live) : (f.failDecode live).1 ≠ 0 := by simp [failDecode, Live.failWithFeedback]

theorem fail_ne_zero (live : Live) : (f.fail live).1 ≠ 0 := by simp [fail, finishDecoding, Live.failWithFeedback]

theorem deliver_zero {ctx : Context} {octets : Bytes} (h : (f.deliver (live.setCtx f.cid ctx) octets).1 = 0) :
    f.IcvHolds octets ∧ Delivered live f.cid ctx octets (f.deliver (live.setCtx f.cid ctx) octets) := by
  have he : (writeReconstruction f.staged (live.setCtx f.cid ctx) octets).setMode live.handle.mode =
      writeReconstruction f.staged (live.setCtx f.cid ctx) octets := by
    unfold writeReconstruction
    split <;> rfl
  unfold deliver at h ⊢
  rw [← he] at h ⊢
  exact finish_zero h

theorem commit_zero {ctx : Context} {octets : Bytes} (h : (f.commit live ctx octets).1 = 0) :
    f.IcvHolds octets ∧ Delivered live f.cid ctx octets (f.commit live ctx octets) := by
  have he : (writeReconstruction f.staged (live.setCtx f.cid ctx) octets).setMode ctx.mode =
      writeReconstruction f.staged ((live.setCtx f.cid ctx).setMode ctx.mode) octets := by
    unfold writeReconstruction
    split <;> rfl
  unfold commit at h ⊢
  split at h
  · exact absurd h (fail_ne_zero _)
  · rename_i hcap
    rw [if_neg hcap]
    unfold deliver at h ⊢
    rw [← he] at h ⊢
    exact finish_zero h

end Frame

/-! ## Kinds of units -/

/-- What a unit was decoded as. -/
inductive UnitKind where
  | normal
  | ir (profile : Profile)
  | irDyn (profile : Profile)
  | privateFo (profile : Profile)
  | pt0Crc3 (profile : Profile)
  | pt0Crc7 (profile : Profile)
  | pt1 (profile : Profile)
deriving DecidableEq, Repr

namespace Frame

/-- The UDP block takes a unit as private when that reading passed its checksum, which it is asked for only when the
formal reading authenticates too. -/
def udpPt0Kind (f : Frame) : UnitKind :=
  match f.udpPrivateReading with
  | some (ctx, headerLen) => if (f.checkedPrivateUdp ctx headerLen).isSome then .privateFo .udp else .pt0Crc3 .udp
  | none => .pt0Crc3 .udp

/-- The kinds of the last block go by the type of the unit. -/
def inPlaceKind (f : Frame) (type : RohcPacketType) (preferPrivate : Bool) : UnitKind :=
  match type with
  | .ir => .ir ((incomingProfile f.parsed.profileId).getD .uncompressed)
  | .irDyn => .irDyn ((incomingProfile f.parsed.profileId).getD .uncompressed)
  | .foUdp => .privateFo .udp
  | .foIp => .privateFo .ip
  | .foEsp => .privateFo .esp
  | .foUdpLite => .privateFo .udpLite
  | .foRtp => if f.takesPt0 preferPrivate then .pt0Crc3 f.ctx.profile else .privateFo f.before.profile
  | _ => .normal

/-- The type the last blocks see. -/
def lastType (f : Frame) : RohcPacketType := f.resolveOverlap f.correctedType

def preferPrivate (f : Frame) : Bool := f.rtpPt0Crc3Candidate f.correctedType && f.rtpPrivateValid

/-- The kind of an accepted unit: the first block that answers says what it took the unit for. -/
def kind (f : Frame) (live : Live) : UnitKind :=
  if (f.normalPacket live).isSome then .normal
  else if (f.uncompressedIr live).isSome then .ir .uncompressed
  else if (f.rtpPt0Crc7 live).isSome then .pt0Crc7 .rtp
  else if (f.espPt0Crc7 live).isSome then .pt0Crc7 .esp
  else if (f.pt1SeqId live).isSome then .pt1 f.before.profile
  else if (f.udpPt0Crc3 live).isSome then f.udpPt0Kind
  else if (f.espPt0Crc3 live).isSome then .pt0Crc3 .esp
  else if (f.ipPt0Crc3 live).isSome then .pt0Crc3 .ip
  else if (f.rtpPt0Crc3 f.correctedType live).isSome then .pt0Crc3 .rtp
  else f.inPlaceKind f.lastType f.preferPrivate

/-- The private units of the last block: profile, decoder, and what is done with the context. -/
inductive PrivateUnit (f : Frame) : Profile → (Bytes → Proc (Cursor Context) Nat) → (Context → Context) → Prop where
  | udp : PrivateUnit f .udp decodeUdpFo fun ctx => { ctx with msn := f.ctx.msn + 1 }
  | ip : PrivateUnit f .ip decodeIpFo fun ctx =>
      updateIpv4IdBehavior { ctx with msn := f.ctx.msn + 1 } (f.ctx.ipVersion = 4) f.ctx.ipv4Id
  | esp : PrivateUnit f .esp decodeEspFo id
  | udpLite : PrivateUnit f .udpLite decodeUdpLiteFo id

/-- The context after an accepted IR-DYN. -/
def irDynGates (f : Frame) (incoming : Profile) (ctx : Context) : Context :=
  if f.before.profile = incoming then
    { ctx with
      formalPt0SinceConfirmation := 0, rejectLegacyUdpPt0UntilRefresh := false, limitLegacyUdpPt0ToSequential := false }
  else ctx

/-- **The ways a unit can be accepted**: its kind, the context it leads to, the packet. -/
inductive Accepts (f : Frame) : UnitKind → Context → Bytes → Prop where
  | normal (state : f.before.rohcState ≠ .noContext) (profile : f.before.profile = .uncompressed) :
    Accepts f .normal { f.ctx with txCount := f.ctx.txCount + 1, nackCount := 0 } f.packet
  | uncompressedIr (octets : Bytes) : Accepts f (.ir .uncompressed) f.uncompressedReplacement octets
  | rtpPt0Crc7 {r : Reading} (shape : fixedRtpShape f.before = true) (live : f.livePt0 = true)
    (reading : f.rtpPt0Crc7Reading = some r) : Accepts f (.pt0Crc7 .rtp) r.ctx (r.header ++ r.payload)
  | espPt0Crc7 {r : Reading} (profile : f.before.profile = .esp) (live : f.livePt0 = true)
    (reading : f.espPt0Crc7Reading = some r) : Accepts f (.pt0Crc7 .esp) r.ctx (r.header ++ r.payload)
  | pt1SeqId {r : Reading} (live : f.livePt0 = true) (reading : f.pt1SeqIdReading = some r) :
    Accepts f (.pt1 f.before.profile) r.ctx (r.header ++ r.payload)
  | udpPt0Crc3 {r : Reading} (profile : f.before.profile = .udp) (live : f.livePt0 = true)
    (reading : f.udpPt0Reading = some r) : Accepts f (.pt0Crc3 .udp) r.ctx (r.header ++ r.payload)
  | udpChecked {ctx : Context} {headerLen : Nat} {r : Reading} (profile : f.before.profile = .udp)
    (live : f.livePt0 = true) (private' : f.udpPrivateReading = some (ctx, headerLen))
    (reading : f.checkedPrivateUdp ctx headerLen = some r) :
    Accepts f (.privateFo .udp) r.ctx (r.header ++ r.payload)
  | espPt0Crc3 {r : Reading} (unstaged : f.staged = false) (noOptions : f.before.ipv4OptionsLen = 0)
    (aliased : f.espPt0AliasContext = true) (live : f.livePt0 = true)
    (reading : f.espPt0Reading (u8At f.packet 0) = some r) : Accepts f (.pt0Crc3 .esp) r.ctx (r.header ++ r.payload)
  | ipPt0Crc3 {r : Reading} (profile : f.before.profile = .ip) (live : f.livePt0 = true)
    (reading : f.ipPt0Reading = some r) : Accepts f (.pt0Crc3 .ip) r.ctx (r.header ++ r.payload)
  | rtpPt0Crc3 {r : Reading} (shape : fixedRtpShape f.before = true) (live : f.livePt0 = true)
    (reading : f.rtpPt0Reading = some r) : Accepts f (.pt0Crc3 .rtp) r.ctx (r.header ++ r.payload)
  | ir {profile : Profile} {ctx : Context} {headerLen : Nat} (octets : Bytes)
    (incoming : incomingProfile f.parsed.profileId = some profile)
    (decoded : decodeIrOf profile (decoderPacket f.parsed) (f.irContext profile) = some (ctx, headerLen)) :
    Accepts f (.ir profile) (f.irGates profile ctx) octets
  | irDyn {profile : Profile} {ctx : Context} {headerLen : Nat} (octets : Bytes) (type : f.parsed.type = .irDyn)
    (incoming : incomingProfile f.parsed.profileId = some profile)
    (decoded : exec (decodeIrDynOf profile (decoderPacket f.parsed)) f.ctx = (some headerLen, ctx)) :
    Accepts f (.irDyn profile) (f.irDynGates profile ctx) octets
  | privateFo {profile : Profile} {decode : Bytes → Proc (Cursor Context) Nat} {after : Context → Context}
    {ctx : Context} {headerLen : Nat} (octets : Bytes) (unit : PrivateUnit f profile decode after)
    (ready : f.privateFoContextReady profile = true)
    (decoded : exec (decode f.packet) f.ctx = (some headerLen, ctx)) :
    Accepts f (.privateFo profile) (after ctx) octets
  | privateRtp {ctx : Context} {headerLen : Nat} (octets : Bytes)
    (ready : f.privateFoContextReady .rtp = true ∨ f.privateFoContextReady .rtpUdpLite = true)
    (decoded : decodeFoRtp f.packet f.ctx = some (ctx, headerLen)) :
    Accepts f (.privateFo f.before.profile) { ctx with msn := ctx.rtp.lastSeq } octets
  | pt0InPlace {d : Decoded} {preferPrivate : Bool} (octets : Bytes) (takes : f.takesPt0 preferPrivate = true)
    (decoded : f.decodePt0Unit = some d)
    (esp : f.before.profile = .esp → f.staged = true ∨ f.before.ipv4OptionsLen ≠ 0 ∨ f.before.largeCid = true) :
    Accepts f (.pt0Crc3 f.ctx.profile) d.ctx octets

/-- What is said of a frame that accepted its unit. -/
structure Accepted (f : Frame) (live : Live) (kind : UnitKind) (ctx : Context) (octets : Bytes) (ret : Return) :
    Prop where
  accepts : f.Accepts kind ctx octets
  icv : f.IcvHolds octets
  delivered : Delivered live f.cid ctx octets ret

variable {f : Frame} {live : Live}

theorem commitOnly_zero {r : Option Reading} (h : (f.commitOnly live r).1 = 0) :
    ∃ reading, r = some reading ∧ f.IcvHolds (reading.header ++ reading.payload) ∧
      Delivered live f.cid reading.ctx (reading.header ++ reading.payload) (f.commitOnly live r) := by
  cases r with
  | none => exact absurd h (fail_ne_zero _)
  | some reading => exact ⟨reading, rfl, commit_zero h⟩

/-- The last block: a decoded unit whose packet was rebuilt. -/
theorem finishUnit_rebuilt {d : Decoded} (h : (f.finishUnit live d).1 = 0) :
    ∃ payload octets, payloadAfterHeader (decoderPacket f.parsed) d.headerLen = some payload ∧
      (∃ cap, rebuild cap d.ctx payload = some octets) ∧ f.IcvHolds octets ∧
      Delivered live f.cid d.ctx octets (f.finishUnit live d) := by
  unfold finishUnit at h ⊢
  dsimp only at h ⊢
  split at h
  · exact absurd h (failDecode_ne_zero _)
  · rename_i payload hpay
    split at h
    · exact absurd h (failDecode_ne_zero _)
    · rename_i octets hbuild
      split at h
      · exact absurd h (failDecode_ne_zero _)
      · rename_i hcrc
        rw [if_neg hcrc]
        exact ⟨payload, octets, hpay, ⟨_, hbuild⟩, finish_zero h⟩

theorem finishUnit_zero {d : Decoded} (h : (f.finishUnit live d).1 = 0) :
    ∃ octets, f.IcvHolds octets ∧ Delivered live f.cid d.ctx octets (f.finishUnit live d) := by
  obtain ⟨_, octets, -, -, hrest⟩ := finishUnit_rebuilt h
  exact ⟨octets, hrest⟩

/-! ### One lemma for each block -/

theorem normalPacket_zero {ret : Return} (h : f.normalPacket live = some ret) (h0 : ret.1 = 0) :
    ∃ ctx octets, f.Accepted live .normal ctx octets ret := by
  unfold normalPacket at h
  split at h
  · rename_i hg
    split at h
    · cases h
      exact absurd h0 (fail_ne_zero _)
    · cases h
      obtain ⟨hicv, hd⟩ := deliver_zero h0
      exact ⟨_, _, .normal hg.2.1 hg.2.2, hicv, hd⟩
  · cases h

theorem uncompressedIr_zero {ret : Return} (h : f.uncompressedIr live = some ret) (h0 : ret.1 = 0) :
    ∃ ctx octets, f.Accepted live (.ir .uncompressed) ctx octets ret := by
  unfold uncompressedIr at h
  split at h
  · dsimp only at h
    split at h
    · cases h
      exact absurd h0 (fail_ne_zero _)
    · split at h
      · cases h
        exact absurd h0 (fail_ne_zero _)
      · cases h
        obtain ⟨hicv, hd⟩ := commit_zero h0
        exact ⟨_, _, .uncompressedIr _, hicv, hd⟩
  · cases h

theorem rtpPt0Crc7_zero {ret : Return} (h : f.rtpPt0Crc7 live = some ret) (h0 : ret.1 = 0) :
    ∃ ctx octets, f.Accepted live (.pt0Crc7 .rtp) ctx octets ret := by
  unfold rtpPt0Crc7 at h
  split at h
  · rename_i hg
    cases h
    obtain ⟨r, hr, hicv, hd⟩ := commitOnly_zero h0
    exact ⟨_, _, .rtpPt0Crc7 hg.2.2.2.1 hg.2.2.2.2 hr, hicv, hd⟩
  · cases h

theorem espPt0Crc7_zero {ret : Return} (h : f.espPt0Crc7 live = some ret) (h0 : ret.1 = 0) :
    ∃ ctx octets, f.Accepted live (.pt0Crc7 .esp) ctx octets ret := by
  unfold espPt0Crc7 at h
  split at h
  · rename_i hg
    cases h
    obtain ⟨r, hr, hicv, hd⟩ := commitOnly_zero h0
    exact ⟨_, _, .espPt0Crc7 hg.2.2.2.1 hg.2.2.2.2.2 hr, hicv, hd⟩
  · cases h

theorem pt1SeqId_zero {ret : Return} (h : f.pt1SeqId live = some ret) (h0 : ret.1 = 0) :
    ∃ ctx octets, f.Accepted live (.pt1 f.before.profile) ctx octets ret := by
  unfold pt1SeqId at h
  split at h
  · rename_i hg
    cases h
    obtain ⟨r, hr, hicv, hd⟩ := commitOnly_zero h0
    exact ⟨_, _, .pt1SeqId hg.2.2.2.2 hr, hicv, hd⟩
  · cases h

theorem udpPt0Crc3_zero {ret : Return} (h : f.udpPt0Crc3 live = some ret) (h0 : ret.1 = 0) :
    ∃ ctx octets, f.Accepted live f.udpPt0Kind ctx octets ret := by
  unfold udpPt0Crc3 at h
  split at h
  · rename_i hg
    split at h
    · rename_i r hr hp
      have hk : f.udpPt0Kind = .pt0Crc3 .udp := by rw [udpPt0Kind, hp]
      split at h
      · cases h
        exact absurd h0 (fail_ne_zero _)
      · cases h
        obtain ⟨hicv, hd⟩ := commit_zero h0
        exact ⟨_, _, hk ▸ .udpPt0Crc3 hg.2.1 hg.2.2.2 hr, hicv, hd⟩
    · rename_i r ctx headerLen hr hp
      split at h
      · cases h
        exact absurd h0 (fail_ne_zero _)
      · split at h
        · rename_i p hc _
          have hk : f.udpPt0Kind = .privateFo .udp := by simp [udpPt0Kind, hp, hc]
          cases h
          obtain ⟨hicv, hd⟩ := commit_zero h0
          exact ⟨_, _, hk ▸ .udpChecked hg.2.1 hg.2.2.2 hp hc, hicv, hd⟩
        · rename_i hc _
          have hk : f.udpPt0Kind = .pt0Crc3 .udp := by simp [udpPt0Kind, hp, hc]
          cases h
          obtain ⟨hicv, hd⟩ := commit_zero h0
          exact ⟨_, _, hk ▸ .udpPt0Crc3 hg.2.1 hg.2.2.2 hr, hicv, hd⟩
        · cases h
          exact absurd h0 (fail_ne_zero _)
    · cases h
      exact absurd h0 (fail_ne_zero _)
    · cases h
  · cases h

theorem espPt0Crc3_zero {ret : Return} (h : f.espPt0Crc3 live = some ret) (h0 : ret.1 = 0) :
    ∃ ctx octets, f.Accepted live (.pt0Crc3 .esp) ctx octets ret := by
  unfold espPt0Crc3 at h
  split at h
  · rename_i hg
    dsimp only at h
    split at h
    · cases h
      exact absurd h0 (fail_ne_zero _)
    · rename_i hlive
      split at h
      · cases h
        exact absurd h0 (fail_ne_zero _)
      · split at h
        · rename_i r hr
          cases h
          obtain ⟨hicv, hd⟩ := commit_zero h0
          have hl : f.livePt0 = true := by
            by_contra hn
            exact hlive ⟨by rw [hr]; rfl, Or.inl (by simpa using hn)⟩
          have hs : f.staged = false := by
            have := hg.1
            simp only [pt0Shaped, Bool.and_eq_true, Bool.not_eq_true'] at this
            exact this.1.1
          exact ⟨_, _, .espPt0Crc3 hs hg.2.1 hg.2.2 hl hr, hicv, hd⟩
        · split at h
          · cases h
          · cases h
            exact absurd h0 (fail_ne_zero _)
  · cases h

theorem ipPt0Crc3_zero {ret : Return} (h : f.ipPt0Crc3 live = some ret) (h0 : ret.1 = 0) :
    ∃ ctx octets, f.Accepted live (.pt0Crc3 .ip) ctx octets ret := by
  unfold ipPt0Crc3 at h
  split at h
  · rename_i hg
    dsimp only at h
    split at h
    · rename_i r hr
      split at h
      · cases h
        exact absurd h0 (fail_ne_zero _)
      · cases h
        obtain ⟨hicv, hd⟩ := commit_zero h0
        exact ⟨_, _, .ipPt0Crc3 hg.2.1 hg.2.2.2 hr, hicv, hd⟩
    · split at h
      · cases h
      · cases h
        exact absurd h0 (fail_ne_zero _)
  · cases h

theorem rtpPt0Crc3_zero {type : RohcPacketType} {ret : Return} (h : f.rtpPt0Crc3 type live = some ret)
    (h0 : ret.1 = 0) : ∃ ctx octets, f.Accepted live (.pt0Crc3 .rtp) ctx octets ret := by
  unfold rtpPt0Crc3 at h
  split at h
  · rename_i hg
    split at h
    · cases h
      exact absurd h0 (fail_ne_zero _)
    · rename_i r hr _
      cases h
      obtain ⟨hicv, hd⟩ := commit_zero h0
      simp only [rtpPt0Crc3Candidate, Bool.and_eq_true] at hg
      exact ⟨_, _, .rtpPt0Crc3 hg.1.2 hg.2 hr, hicv, hd⟩
    · cases h
    · cases h
      exact absurd h0 (fail_ne_zero _)
  · cases h

/-! ### The last block -/

/-- The context of a frame is the one before with its labels written, and the type of its unit is that of its octets. -/
structure Regular (f : Frame) : Prop where
  ctx : ∃ mode, f.ctx = { f.before with cid := f.cid, largeCid := f.largeCidSpace, mode := mode }
  type : f.parsed.type = packetTypeOf f.packet

theorem private_accepts {profile : Profile} {decode : Bytes → Proc (Cursor Context) Nat} {after : Context → Context}
    (unit : PrivateUnit f profile decode after) {d : Decoded} (hd : f.decodePrivateUnit profile decode after = some d)
    (octets : Bytes) : f.Accepts (.privateFo profile) d.ctx octets := by
  unfold decodePrivateUnit at hd
  split at hd
  · rename_i hready
    split at hd
    · rename_i headerLen ctx hdec
      cases hd
      exact .privateFo octets unit hready hdec
    · cases hd
  · cases hd

theorem decodeInPlace_zero {type : RohcPacketType} {preferPrivate : Bool}
    (h : (f.decodeInPlace type preferPrivate live).1 = 0) (hdyn : type = .irDyn → f.parsed.type = .irDyn)
    (hesp : type = .foRtp → f.takesPt0 preferPrivate = true → f.before.profile = .esp →
      f.staged = true ∨ f.before.ipv4OptionsLen ≠ 0 ∨ f.before.largeCid = true) :
    ∃ ctx octets, f.Accepted live (f.inPlaceKind type preferPrivate) ctx octets
      (f.decodeInPlace type preferPrivate live) := by
  unfold decodeInPlace at h ⊢
  split at h
  · exact absurd h (failDecode_ne_zero _)
  · rename_i d hd
    obtain ⟨octets, hicv, hdel⟩ := finishUnit_zero h
    refine ⟨d.ctx, octets, ?_, hicv, hdel⟩
    cases type with
    | ir =>
      simp only [decodeUnit, decodeIrUnit, Option.bind_eq_bind, Option.bind_eq_some_iff, Option.pure_def] at hd
      obtain ⟨profile, hin, ⟨ctx, headerLen⟩, hdec, hd⟩ := hd
      cases hd
      simp only [inPlaceKind, hin, Option.getD_some]
      exact .ir octets hin hdec
    | irDyn =>
      simp only [decodeUnit, decodeIrDynUnit, Option.bind_eq_bind, Option.bind_eq_some_iff] at hd
      obtain ⟨profile, hin, hd⟩ := hd
      split at hd
      · cases hd
      · rename_i headerLen ctx hdec
        cases hd
        simp only [inPlaceKind, hin, Option.getD_some]
        exact .irDyn octets (hdyn rfl) hin hdec
    | foUdp => exact private_accepts .udp hd octets
    | foIp => exact private_accepts .ip hd octets
    | foEsp => exact private_accepts .esp hd octets
    | foUdpLite => exact private_accepts .udpLite hd octets
    | foRtp =>
      simp only [decodeUnit] at hd
      simp only [inPlaceKind]
      split at hd
      · rename_i ht
        rw [if_pos ht]
        exact .pt0InPlace octets ht hd (hesp rfl ht)
      · rename_i ht
        rw [if_neg ht]
        unfold decodePrivateRtpUnit at hd
        split at hd
        · rename_i hg
          simp only [Option.bind_eq_bind, Option.bind_eq_some_iff] at hd
          obtain ⟨⟨ctx, headerLen⟩, hdec, hd⟩ := hd
          dsimp only at hd
          split at hd
          · cases hd
          · cases hd
            exact .privateRtp octets hg.2.2 hdec
        · cases hd
    | _ => cases hd

/-! ### Units with the top bit set -/

theorem pt0Shaped_of_top_bit (h : u8At f.packet 0 &&& 0x80 ≠ 0) : f.pt0Shaped = false := by
  simp [pt0Shaped, h]

/-- Such a unit is nothing for the first blocks, profile-0 IRs, whole packets and formal units apart. -/
theorem decode_of_top_bit (again : Live → Bytes → Return) (live : Live) (hbit : u8At f.packet 0 &&& 0x80 ≠ 0)
    (hu : f.parsed.type ≠ .uncompressed) (hf : f.parsed.type ≠ .formalCo)
    (hir : ¬(f.parsed.type = .ir ∧ f.parsed.profileId = 0)) :
    f.decode again live = (f.feedbackUnit f.parsed.type live).getD
      ((f.segmentUnit f.parsed.type again live).getD (f.decodeInPlace f.parsed.type false live)) := by
  have hshape := pt0Shaped_of_top_bit hbit
  have hc : f.correctedType = f.parsed.type := by simp [correctedType, hu]
  have ho : f.privateFoOverlap = false := by simp [privateFoOverlap, hbit]
  have hr : f.resolveOverlap f.correctedType = f.parsed.type := by simp [hc, resolveOverlap, ho]
  have hcand : f.rtpPt0Crc3Candidate f.correctedType = false := by simp [rtpPt0Crc3Candidate, hshape]
  have h₁ : f.normalPacket live = none := by simp [normalPacket, hu]
  have h₂ : f.uncompressedIr live = none := by rw [uncompressedIr, if_neg hir]
  have h₃ : f.rtpPt0Crc7 live = none := by simp [rtpPt0Crc7, hf]
  have h₄ : f.espPt0Crc7 live = none := by simp [espPt0Crc7, hf]
  have h₅ : f.pt1SeqId live = none := by simp [pt1SeqId, hf]
  have h₆ : f.udpPt0Crc3 live = none := by simp [udpPt0Crc3, hshape]
  have h₇ : f.espPt0Crc3 live = none := by simp [espPt0Crc3, hshape]
  have h₈ : f.ipPt0Crc3 live = none := by simp [ipPt0Crc3, hshape]
  have h₉ : f.rtpPt0Crc3 f.correctedType live = none := by simp [rtpPt0Crc3, hcand]
  have h₁₀ : f.conflictingMeanings live = none := by simp [conflictingMeanings, ho]
  unfold decode
  simp only [hr, hcand, h₁, h₂, h₃, h₄, h₅, h₆, h₇, h₈, h₉, h₁₀, Option.getD_none, Bool.false_and]

end Frame

end Rohccxx
