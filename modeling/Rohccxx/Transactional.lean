import Rohccxx.Decompress

/-!
# A failed decompression leaves no trace

Whatever `rohc_decompress4` is given, a return code other than 0 means that the output length is 0 and that the caller's
buffer, the handle's mode and every context are as they were, up to the CID labels (`KeepsContext`). The blocks share one
shape: they fail before they write, or what they wrote can be taken back (`Restorable`) and `finishDecoding` takes it
back, or they return 0. Nested calls are handled by induction on their depth.
-/

set_option autoImplicit false

namespace Rohccxx

open Octets

/-! ## What is kept -/

/-- The labels that a call writes: the CID and whether it is a large one. -/
def Context.labels (ctx : Context) : Nat × Bool := (ctx.cid, ctx.largeCid)

/-- A context in use that has the labels of its CID keeps them. -/
theorem labelContext_eq {dec : Decompressor} {cid : Nat} {d : Context} (labels : d.labels = (cid, dec.largeCidSpace))
    (state : d.rohcState ≠ .noContext) : labelContext dec cid d = d := by
  obtain ⟨hcid, hlarge⟩ := Prod.mk.inj labels
  unfold labelContext
  rw [if_neg (fun h => state h.2), ← hcid, ← hlarge]

/-- `b` is `a` up to the CID labels and, in a context never used, the mode. -/
structure KeepsContext (a b : Context) : Prop where
  fields : b = { a with cid := b.cid, largeCid := b.largeCid, mode := b.mode }
  mode : ¬(a.txCount = 0 ∧ a.rohcState = .noContext) → b.mode = a.mode

namespace KeepsContext

theorem refl (a : Context) : KeepsContext a a := ⟨rfl, fun _ => rfl⟩

theorem trans {a b c : Context} (hab : KeepsContext a b) (hbc : KeepsContext b c) : KeepsContext a c := by
  have hb := hab.fields
  have htx : b.txCount = a.txCount := by rw [hb]
  have hst : b.rohcState = a.rohcState := by rw [hb]
  refine ⟨?_, fun h => ?_⟩
  · have hc := hbc.fields
    rw [hb] at hc
    exact hc
  · rw [hbc.mode (by rw [htx, hst]; exact h), hab.mode h]

/-- Labelling a context keeps it. -/
theorem label (decomp : Decompressor) (cid : Nat) (ctx : Context) : KeepsContext ctx (labelContext decomp cid ctx) := by
  refine ⟨rfl, fun h => ?_⟩
  simp only [labelContext]
  rw [if_neg h]

end KeepsContext

/-- The settings of a handle that no call changes. -/
structure SameSettings (a b : Decompressor) : Prop where
  largeCidSpace : b.largeCidSpace = a.largeCidSpace
  acknowledge : b.acknowledgeContextRefresh = a.acknowledgeContextRefresh
  mrru : b.mrru = a.mrru
  integrity : b.integrity = a.integrity

namespace SameSettings

theorem refl (a : Decompressor) : SameSettings a a := ⟨rfl, rfl, rfl, rfl⟩

theorem trans {a b c : Decompressor} (hab : SameSettings a b) (hbc : SameSettings b c) : SameSettings a c :=
  ⟨hbc.1.trans hab.1, hbc.2.trans hab.2, hbc.3.trans hab.3, hbc.4.trans hab.4⟩

end SameSettings

/-- What a call that does not return 0 leaves as it was. The feedback slot and the reassembly state are not mentioned:
they may change. -/
structure Kept (base after : Live) : Prop where
  out : after.out = base.out
  mode : after.handle.mode = base.handle.mode
  settings : SameSettings base.handle after.handle
  maxCid : after.handle.contexts.maxCid = base.handle.contexts.maxCid
  contexts : ∀ cid a, base.handle.contexts.get cid = some a →
    ∃ b, after.handle.contexts.get cid = some b ∧ KeepsContext a b

namespace Kept

theorem refl (live : Live) : Kept live live :=
  ⟨rfl, rfl, .refl _, rfl, fun _ a h => ⟨a, h, .refl a⟩⟩

theorem trans {a b c : Live} (hab : Kept a b) (hbc : Kept b c) : Kept a c where
  out := hbc.out.trans hab.out
  mode := hbc.mode.trans hab.mode
  settings := hab.settings.trans hbc.settings
  maxCid := hbc.maxCid.trans hab.maxCid
  contexts cid x hx := by
    obtain ⟨y, hy, hxy⟩ := hab.contexts cid x hx
    obtain ⟨z, hz, hyz⟩ := hbc.contexts cid y hy
    exact ⟨z, hz, hxy.trans hyz⟩

/-- Every context was there before, under other labels at most. -/
theorem found {base after : Live} (h : Kept base after) {cid : Nat} {y : Context}
    (hy : after.handle.contexts.get cid = some y) :
    ∃ x, base.handle.contexts.get cid = some x ∧ KeepsContext x y := by
  have hle : (base.handle.contexts.get cid).isSome := by
    rw [ContextTable.get_isSome, ← h.maxCid, ← ContextTable.get_isSome, hy]
    rfl
  obtain ⟨x, hx⟩ := Option.isSome_iff_exists.mp hle
  obtain ⟨y', hy', hkeep⟩ := h.contexts cid x hx
  obtain rfl : y = y' := Option.some.inj (hy.symm.trans hy')
  exact ⟨x, hx, hkeep⟩

/-- A handle with the same mode, settings and contexts, in front of the same buffer. -/
theorem of_eq {base after : Live} (hout : after.out = base.out) (hmode : after.handle.mode = base.handle.mode)
    (hset : SameSettings base.handle after.handle) (hctx : after.handle.contexts = base.handle.contexts) :
    Kept base after :=
  ⟨hout, hmode, hset, by rw [hctx], fun _ a h => ⟨a, by rw [hctx]; exact h, .refl a⟩⟩

/-- Labelling the context of a unit. -/
theorem labelled {live : Live} {cid : Nat} {ctx : Context} (h : live.handle.contexts.get cid = some ctx) :
    Kept live (live.setCtx cid (labelContext live.handle cid ctx)) where
  out := rfl
  mode := rfl
  settings := ⟨rfl, rfl, rfl, rfl⟩
  maxCid := rfl
  contexts cid' a ha := by
    by_cases hc : cid = cid'
    · subst hc
      obtain rfl : ctx = a := Option.some.inj (h.symm.trans ha)
      exact ⟨_, ContextTable.get_set_self (by rw [h]; rfl), .label _ _ _⟩
    · exact ⟨a, (ContextTable.get_set_of_ne hc).trans ha, .refl a⟩

end Kept

/-- `Kept`, with what the labels say: they are those of the CID in the handle's space, or as they were. -/
structure Spared (base after : Live) : Prop extends Kept base after where
  labels : ∀ cid b, after.handle.contexts.get cid = some b → b.labels = (cid, base.handle.largeCidSpace) ∨
    ∃ a, base.handle.contexts.get cid = some a ∧ b.labels = a.labels

namespace Spared

theorem refl (live : Live) : Spared live live := ⟨.refl live, fun _ b h => .inr ⟨b, h, rfl⟩⟩

theorem trans {a b c : Live} (hab : Spared a b) (hbc : Spared b c) : Spared a c where
  toKept := hab.toKept.trans hbc.toKept
  labels cid z hz := by
    rcases hbc.labels cid z hz with e | ⟨y, hy, e⟩
    · exact .inl (by rw [e, hab.settings.largeCidSpace])
    · rw [e]
      exact hab.labels cid y hy

/-- A handle with the same mode, settings and contexts, in front of the same buffer. -/
theorem of_eq {base after : Live} (hout : after.out = base.out) (hmode : after.handle.mode = base.handle.mode)
    (hset : SameSettings base.handle after.handle) (hctx : after.handle.contexts = base.handle.contexts) :
    Spared base after :=
  ⟨.of_eq hout hmode hset hctx, fun _ b h => .inr ⟨b, hctx ▸ h, rfl⟩⟩

/-- Labelling the context of a unit. -/
theorem labelled {live : Live} {cid : Nat} {ctx : Context} (h : live.handle.contexts.get cid = some ctx) :
    Spared live (live.setCtx cid (labelContext live.handle cid ctx)) where
  toKept := .labelled h
  labels cid' b hb := by
    by_cases hc : cid = cid'
    · subst hc
      rw [Live.setCtx, ContextTable.get_set_self (by rw [h]; rfl)] at hb
      cases hb
      exact .inl rfl
    · rw [Live.setCtx, ContextTable.get_set_of_ne hc] at hb
      exact .inr ⟨b, hb, rfl⟩

end Spared

/-- Making feedback changes nothing that has to be kept. -/
theorem Live.failWithFeedback_spared {base live : Live} (cid : Nat) (h : Spared base live) :
    Spared base (live.failWithFeedback cid).2 :=
  h.trans (.of_eq rfl rfl ⟨rfl, rfl, rfl, rfl⟩ rfl)

/-- A return that is not 0 kept everything. -/
def Preserves (base : Live) (ret : Return) : Prop := ret.1 ≠ 0 → Spared base ret.2

theorem Preserves.of_spared {base : Live} {ret : Return} (h : Spared base ret.2) : Preserves base ret := fun _ => h

theorem Preserves.of_zero {base : Live} {ret : Return} (h : ret.1 = 0) : Preserves base ret := fun hne => absurd h hne

/-! ## What can be taken back -/

/-- Writing `before` to `cid` is all it takes to have the contexts of `base` again. -/
structure Restorable (f : Frame) (base live : Live) : Prop where
  out : live.out = base.out
  settings : SameSettings base.handle live.handle
  contexts : live.handle.contexts.set f.cid f.before = base.handle.contexts

namespace Restorable

variable {f : Frame} {base live : Live}

theorem setCtx (h : Restorable f base live) (ctx : Context) : Restorable f base (live.setCtx f.cid ctx) :=
  ⟨h.out, h.settings.trans ⟨rfl, rfl, rfl, rfl⟩, by simpa [Live.setCtx] using h.contexts⟩

theorem setMode (h : Restorable f base live) (mode : Mode) : Restorable f base (live.setMode mode) :=
  ⟨h.out, h.settings.trans ⟨rfl, rfl, rfl, rfl⟩, h.contexts⟩

theorem failWithFeedback (h : Restorable f base live) (cid : Nat) :
    Restorable f base (live.failWithFeedback cid).2 :=
  ⟨h.out, h.settings.trans ⟨rfl, rfl, rfl, rfl⟩, h.contexts⟩

/-- Context and mode put back. -/
theorem restore (h : Restorable f base live) (hmode : f.modeBefore = base.handle.mode) :
    Spared base ((live.setCtx f.cid f.before).setMode f.modeBefore) :=
  .of_eq h.out hmode (h.settings.trans ⟨rfl, rfl, rfl, rfl⟩) h.contexts

end Restorable

/-! ## The blocks -/

namespace Frame

variable {f : Frame} {base live : Live}

/-- The ICV check writes nothing that cannot be taken back. -/
theorem verifyIcv_restorable (h : Restorable f base live) (octets : Bytes) :
    Restorable f base (f.verifyIcv live octets).2 := by
  unfold verifyIcv
  split
  · exact h
  · split
    · exact h
    · split
      · exact h.failWithFeedback _
      · split
        · exact h
        · exact h.failWithFeedback _

/-- Without an ICV there is nothing to refuse. -/
theorem verifyIcv_of_not_staged (hs : f.staged = false) (live : Live) (octets : Bytes) :
    f.verifyIcv live octets = (0, live) := by
  have hl : f.icv.length = 0 := by simpa [staged] using hs
  unfold verifyIcv
  split
  · rfl
  · rw [if_pos hl]

/-- A failure that went through `finishDecoding` is undone. -/
theorem finishDecoding_preserves (hmode : f.modeBefore = base.handle.mode) (staged : Bool) (octets : Bytes)
    {ret : Return} (h : ret.1 ≠ 0 → Restorable f base ret.2) : Preserves base (f.finishDecoding staged octets ret) := by
  unfold finishDecoding
  by_cases hrc : ret.1 ≠ 0
  · rw [if_pos hrc]
    exact .of_spared ((h hrc).restore hmode)
  · rw [if_neg hrc]
    exact .of_zero rfl

theorem fail_preserves (hmode : f.modeBefore = base.handle.mode) (h : Restorable f base live) :
    Preserves base (f.fail live) :=
  finishDecoding_preserves hmode _ _ fun _ => h.failWithFeedback _

/-- Octets reach the caller's buffer before the last check only when there is no check left. -/
theorem finish_preserves (hmode : f.modeBefore = base.handle.mode) (h : Restorable f base live) {staged : Bool}
    (hst : f.staged = true → staged = true) (mode : Mode) (octets : Bytes) :
    Preserves base (f.finishDecoding staged octets
      (f.verifyIcv ((writeReconstruction staged live octets).setMode mode) octets)) := by
  apply finishDecoding_preserves hmode
  intro hrc
  cases hs : f.staged with
  | false =>
    rw [verifyIcv_of_not_staged hs] at hrc
    exact absurd rfl hrc
  | true =>
    rw [hst hs]
    exact verifyIcv_restorable (h.setMode mode) octets

theorem deliver_preserves (hmode : f.modeBefore = base.handle.mode) (h : Restorable f base live) (octets : Bytes) :
    Preserves base (f.deliver live octets) := by
  have := finish_preserves hmode h (fun hs => hs) live.handle.mode octets
  have he : (writeReconstruction f.staged live octets).setMode live.handle.mode =
      writeReconstruction f.staged live octets := by
    unfold writeReconstruction
    split <;> rfl
  rwa [he] at this

theorem commit_preserves (hmode : f.modeBefore = base.handle.mode) (h : Restorable f base live) (ctx : Context)
    (octets : Bytes) : Preserves base (f.commit live ctx octets) := by
  unfold commit
  split
  · exact fail_preserves hmode h
  · exact deliver_preserves hmode ((h.setCtx ctx).setMode _) octets

theorem commitOnly_preserves (hmode : f.modeBefore = base.handle.mode) (h : Restorable f base live)
    (r : Option Reading) : Preserves base (f.commitOnly live r) := by
  cases r with
  | none => exact fail_preserves hmode h
  | some r => exact commit_preserves hmode h _ _

end Frame

/-- Every answer of a block preserves. -/
def BlockPreserves (base : Live) (block : Option Return) : Prop := ∀ ret, block = some ret → Preserves base ret

theorem BlockPreserves.none {base : Live} : BlockPreserves base none := fun _ h => nomatch h

theorem BlockPreserves.some {base : Live} {ret : Return} (h : Preserves base ret) :
    BlockPreserves base (some ret) := fun _ e => Option.some.inj e ▸ h

/-- Blocks in sequence: the first answer, or what follows. -/
theorem BlockPreserves.getD {base : Live} {block : Option Return} {rest : Return} (h : BlockPreserves base block)
    (hrest : Preserves base rest) : Preserves base (block.getD rest) := by
  cases block with
  | none => exact hrest
  | some ret => exact h ret rfl

namespace Frame

variable {f : Frame} {base live : Live} (hmode : f.modeBefore = base.handle.mode) (h : Restorable f base live)

include hmode h

theorem normalPacket_preserves : BlockPreserves base (f.normalPacket live) := by
  unfold normalPacket
  split
  · split
    · exact .some (fail_preserves hmode h)
    · exact .some (deliver_preserves hmode (h.setCtx _) _)
  · exact .none

theorem uncompressedIr_preserves : BlockPreserves base (f.uncompressedIr live) := by
  unfold uncompressedIr
  split
  · dsimp only
    split
    · exact .some (fail_preserves hmode h)
    · split
      · exact .some (fail_preserves hmode h)
      · exact .some (commit_preserves hmode h _ _)
  · exact .none

theorem rtpPt0Crc7_preserves : BlockPreserves base (f.rtpPt0Crc7 live) := by
  unfold rtpPt0Crc7
  split
  · exact .some (commitOnly_preserves hmode h _)
  · exact .none

theorem espPt0Crc7_preserves : BlockPreserves base (f.espPt0Crc7 live) := by
  unfold espPt0Crc7
  split
  · exact .some (commitOnly_preserves hmode h _)
  · exact .none

theorem pt1SeqId_preserves : BlockPreserves base (f.pt1SeqId live) := by
  unfold pt1SeqId
  split
  · exact .some (commitOnly_preserves hmode h _)
  · exact .none

theorem udpPt0Crc3_preserves : BlockPreserves base (f.udpPt0Crc3 live) := by
  have hfail : BlockPreserves base (some (f.fail live)) := .some (fail_preserves hmode h)
  have hcommit : ∀ r : Reading, BlockPreserves base (some (f.commitReading live r)) := fun r =>
    .some (commit_preserves hmode h _ _)
  unfold udpPt0Crc3
  split
  · split
    · split
      · exact hfail
      · exact hcommit _
    · split
      · exact hfail
      · split
        · exact hcommit _
        · exact hcommit _
        · exact hfail
    · exact hfail
    · exact .none
  · exact .none

theorem espPt0Crc3_preserves : BlockPreserves base (f.espPt0Crc3 live) := by
  have hfail : BlockPreserves base (some (f.fail live)) := .some (fail_preserves hmode h)
  unfold espPt0Crc3
  split
  · dsimp only
    split
    · exact hfail
    · split
      · exact hfail
      · split
        · exact .some (commit_preserves hmode h _ _)
        · split
          · exact .none
          · exact hfail
  · exact .none

theorem ipPt0Crc3_preserves : BlockPreserves base (f.ipPt0Crc3 live) := by
  have hfail : BlockPreserves base (some (f.fail live)) := .some (fail_preserves hmode h)
  unfold ipPt0Crc3
  split
  · dsimp only
    split
    · split
      · exact hfail
      · exact .some (commit_preserves hmode h _ _)
    · split
      · exact .none
      · exact hfail
  · exact .none

theorem rtpPt0Crc3_preserves (type : RohcPacketType) : BlockPreserves base (f.rtpPt0Crc3 type live) := by
  have hfail : BlockPreserves base (some (f.fail live)) := .some (fail_preserves hmode h)
  unfold rtpPt0Crc3
  split
  · split
    · exact hfail
    · exact .some (commit_preserves hmode h _ _)
    · exact .none
    · exact hfail
  · exact .none

theorem conflictingMeanings_preserves : BlockPreserves base (f.conflictingMeanings live) := by
  unfold conflictingMeanings
  split
  · split
    · split
      · exact .none
      · exact .some (.of_spared (Live.failWithFeedback_spared _ (h.restore hmode)))
    · exact .none
  · exact .none

end Frame

namespace Frame

variable {f : Frame} {base live : Live}

/-- A feedback element is refused with the labels written and nothing else. -/
theorem feedbackUnit_preserves (hk : Spared base live) (type : RohcPacketType) :
    BlockPreserves base (f.feedbackUnit type live) := by
  unfold feedbackUnit
  split
  · split
    · exact .some (.of_spared hk)
    · exact .some (.of_spared (Live.failWithFeedback_spared _ hk))
  · exact .none

/-- A segment changes the reassembly state, and a completed one is another call. -/
theorem segmentUnit_preserves (hk : Spared base live) (type : RohcPacketType) {again : Live → Bytes → Return}
    (hagain : ∀ live input, Preserves live (again live input)) :
    BlockPreserves base (f.segmentUnit type again live) := by
  -- Whatever the reassembly fields hold, the rest of the handle is kept.
  have hre : ∀ active bytes expected, Spared base
      { live with handle := { live.handle with
          reassemblyActive := active, reassembly := bytes, expectedSegmentSequence := expected } } :=
    fun _ _ _ => hk.trans (.of_eq rfl rfl ⟨rfl, rfl, rfl, rfl⟩ rfl)
  unfold segmentUnit
  split
  · exact .none
  · split
    · exact .some (.of_spared (Live.failWithFeedback_spared _ (hre false [] _)))
    · dsimp only
      split
      · exact .some (.of_spared (Live.failWithFeedback_spared _ (hre false [] _)))
      · split
        · exact .some (.of_spared (Live.failWithFeedback_spared _ hk))
        · split
          · exact .some (.of_spared (Live.failWithFeedback_spared _ (hre false [] _)))
          · split
            · exact .some (.of_spared (hre _ _ _))
            · exact .some fun hne => (hre _ _ _).trans (hagain _ _ hne)

/-- A decoded unit that is not delivered gives its context back. -/
theorem failDecode_preserves (hlive : live.handle.mode = base.handle.mode) (h : Restorable f base live) :
    Preserves base (f.failDecode live) :=
  .of_spared (Live.failWithFeedback_spared _ (.of_eq h.out hlive (h.settings.trans ⟨rfl, rfl, rfl, rfl⟩) h.contexts))

theorem finishUnit_preserves (hmode : f.modeBefore = base.handle.mode) (hlive : live.handle.mode = base.handle.mode)
    (h : Restorable f base live) (d : Decoded) : Preserves base (f.finishUnit live d) := by
  have hfail : Preserves base (f.failDecode (live.setCtx f.cid d.ctx)) := failDecode_preserves hlive (h.setCtx d.ctx)
  unfold finishUnit
  dsimp only
  split
  · exact hfail
  · split
    · exact hfail
    · split
      -- A CRC-3 is checked only on octets that were rebuilt in a buffer of their own.
      · rename_i hcrc
        have hc : d.crc.isSome = true := by
          cases hd : d.crc with
          | none => simp [crcHolds, hd] at hcrc
          | some _ => rfl
        rw [hc, Bool.or_true]
        exact hfail
      · exact finish_preserves hmode (h.setCtx d.ctx) (by intro hs; simp [hs]) _ _

theorem decodeInPlace_preserves (hmode : f.modeBefore = base.handle.mode)
    (hlive : live.handle.mode = base.handle.mode) (h : Restorable f base live) (type : RohcPacketType)
    (preferPrivate : Bool) : Preserves base (f.decodeInPlace type preferPrivate live) := by
  unfold decodeInPlace
  split
  · exact failDecode_preserves hlive h
  · exact finishUnit_preserves hmode hlive h _

/-- All blocks of a unit, on a live state that differs from `base` in labels only. -/
theorem decode_preserves (hmode : f.modeBefore = base.handle.mode) (hlive : live.handle.mode = base.handle.mode)
    (h : Restorable f base live) (hk : Spared base live) {again : Live → Bytes → Return}
    (hagain : ∀ live input, Preserves live (again live input)) : Preserves base (f.decode again live) := by
  unfold decode
  refine (normalPacket_preserves hmode h).getD ?_
  refine (uncompressedIr_preserves hmode h).getD ?_
  refine (rtpPt0Crc7_preserves hmode h).getD ?_
  refine (espPt0Crc7_preserves hmode h).getD ?_
  refine (pt1SeqId_preserves hmode h).getD ?_
  refine (udpPt0Crc3_preserves hmode h).getD ?_
  refine (espPt0Crc3_preserves hmode h).getD ?_
  refine (ipPt0Crc3_preserves hmode h).getD ?_
  refine (rtpPt0Crc3_preserves hmode h _).getD ?_
  refine (conflictingMeanings_preserves hmode h).getD ?_
  refine (feedbackUnit_preserves hk _).getD ?_
  refine (segmentUnit_preserves hk _ hagain).getD ?_
  exact decodeInPlace_preserves hmode hlive h _ _

end Frame

/-! ## The call -/

section Call

variable {again : Live → Bytes → Return}

theorem decompressParsed_eq {again : Live → Bytes → Return} {live : Live} {parsed : ParsedRohcPacket}
    {parsedCid cid : Nat} {before : Context} (pending : Option Feedback) (icv : Bytes)
    (hsel : selectCid live.handle parsed = (parsedCid, cid)) (hget : live.handle.contexts.get cid = some before) :
    decompressParsed again live pending parsed icv =
      (openFrame live pending { parsed with cid := parsedCid } cid before icv).decode again
        (live.setCtx cid (labelContext live.handle cid before)) := by
  unfold decompressParsed
  simp only [hsel, hget]
  rfl

theorem decompressParsed_of_none {again : Live → Bytes → Return} {live : Live} {parsed : ParsedRohcPacket}
    (pending : Option Feedback) (icv : Bytes)
    (hget : live.handle.contexts.get (selectCid live.handle parsed).2 = none) :
    decompressParsed again live pending parsed icv = live.failWithFeedback (selectCid live.handle parsed).2 := by
  unfold decompressParsed
  simp only [hget]

theorem decompressParsed_preserves (hagain : ∀ live input, Preserves live (again live input)) (live : Live)
    (pending : Option Feedback) (parsed : ParsedRohcPacket) (icv : Bytes) :
    Preserves live (decompressParsed again live pending parsed icv) := by
  unfold decompressParsed
  dsimp only
  split
  · exact .of_spared (Live.failWithFeedback_spared _ (.refl live))
  · rename_i before hget
    have hk := Spared.labelled hget
    refine Frame.decode_preserves ?_ ?_ ⟨hk.out, hk.settings, ?_⟩ hk hagain
    · rfl
    · rfl
    · simp only [Live.setCtx, openFrame, ContextTable.set_set]
      exact ContextTable.set_get hget

theorem decompressUnit_preserves (hagain : ∀ live input, Preserves live (again live input)) (live : Live)
    (pending : Option Feedback) (unit : Bytes) : Preserves live (decompressUnit again live pending unit) := by
  have hparsed := decompressParsed_preserves hagain live pending
  have hfail : ∀ cid, Preserves live (live.failWithFeedback cid) := fun cid =>
    .of_spared (Live.failWithFeedback_spared cid (.refl live))
  unfold decompressUnit
  dsimp only
  split
  · exact hfail 0
  · split
    · exact hparsed _ _
    · split
      · exact hparsed _ _
      · split
        · exact hfail _
        · split
          · exact hfail 0
          · exact hparsed _ _

/-- A return that is not 0 leaves the length at 0. -/
theorem guardLength_outLen {ret : Return} (h : (guardLength ret).1 ≠ 0) : (guardLength ret).2.outLen = 0 := by
  unfold guardLength at h ⊢
  split
  · rename_i h0
    rw [if_pos h0] at h
    exact absurd h0 h
  · rfl

theorem guardLength_preserves {base : Live} {ret : Return} (h : Preserves base ret) :
    Preserves base (guardLength ret) := by
  unfold guardLength
  split
  · exact h
  · rename_i h0
    exact fun _ => (h h0).trans (.of_eq rfl rfl ⟨rfl, rfl, rfl, rfl⟩ rfl)

theorem decompressCall_preserves (hagain : ∀ live input, Preserves live (again live input)) (live : Live)
    (input : Bytes) : Preserves live (decompressCall again live input) := by
  have hclear : Spared live { live with handle := { live.handle with hasFeedback := false } } :=
    .of_eq rfl rfl ⟨rfl, rfl, rfl, rfl⟩ rfl
  unfold decompressCall
  apply guardLength_preserves
  split
  · exact .of_spared (.refl live)
  · dsimp only
    split
    · exact .of_spared (Live.failWithFeedback_spared _ hclear)
    · exact .of_spared hclear
    · exact fun hne => hclear.trans (decompressUnit_preserves hagain _ _ _ hne)

end Call

/-- Nested calls, by induction on their depth. -/
theorem decompressNested_preserves : ∀ (fuel : Nat) (live : Live) (input : Bytes),
    Preserves live (decompressNested fuel live input)
  | 0, live, _ => .of_spared (.refl live)
  | fuel + 1, live, input => decompressCall_preserves (decompressNested_preserves fuel) live input

/-- **Decompression is transactional**: after any other return than 0 the output length is 0 and the caller's buffer,
the mode and the contexts are what they were. -/
theorem rohcDecompress4_transactional (decomp : Decompressor) (input out : Bytes) (cap : Nat)
    (h : (rohcDecompress4 decomp input out cap).1 ≠ 0) :
    (rohcDecompress4 decomp input out cap).2.outLen = 0 ∧
      Kept ⟨decomp, out, cap⟩ (rohcDecompress4 decomp input out cap).2 :=
  ⟨guardLength_outLen h, (decompressNested_preserves _ _ _ h).toKept⟩

/-- A fresh handle with CIDs 0 to 15. -/
def freshDecompressor : Decompressor := { contexts := .init 15, largeCidSpace := false }

/-- An IR for CID 3 that ends before its CRC is refused: the buffer stays. -/
theorem rohcDecompress4_transactional_truncated :
    (rohcDecompress4 freshDecompressor [0xE3, 0xFD, 0x02] [7, 7, 7] 3).2.outLen = 0 ∧
      Kept ⟨freshDecompressor, [7, 7, 7], 3⟩ (rohcDecompress4 freshDecompressor [0xE3, 0xFD, 0x02] [7, 7, 7] 3).2 :=
  rohcDecompress4_transactional _ _ _ _ (by decide +kernel)

/-! ## The depth of nested calls -/

section Depth

variable {again again' : Live → Bytes → Return} {n : Nat}

/-- Two nested calls that cannot be told apart on fewer than `n` octets. -/
def AgreeBelow (n : Nat) (again again' : Live → Bytes → Return) : Prop :=
  ∀ live input, live.handle.reassembly.length + input.length < n → again live input = again' live input

theorem Frame.segmentUnit_congr (f : Frame) (type : RohcPacketType) (live : Live)
    (hlt : live.handle.collected.length + f.packet.length ≤ n) (hagree : AgreeBelow n again again') :
    f.segmentUnit type again live = f.segmentUnit type again' live := by
  unfold segmentUnit
  split
  · rfl
  · split
    · rfl
    · dsimp only
      split
      · rfl
      · rename_i hlen
        simp only [not_or, segmentHeaderLen, Nat.not_le] at hlen
        split
        · rfl
        · split
          · rfl
          · split
            · rfl
            · congr 1
              apply hagree
              simp only [List.length_nil, List.length_append, List.length_drop, segmentHeaderLen]
              omega

theorem Frame.decode_congr (f : Frame) (live : Live) (hlt : live.handle.collected.length + f.packet.length ≤ n)
    (hagree : AgreeBelow n again again') : f.decode again live = f.decode again' live := by
  unfold decode
  dsimp only
  rw [f.segmentUnit_congr _ live hlt hagree]

theorem decompressParsed_congr (live : Live) (pending : Option Feedback) (parsed : ParsedRohcPacket) (icv : Bytes)
    (hlt : live.handle.collected.length + parsed.packet.length ≤ n) (hagree : AgreeBelow n again again') :
    decompressParsed again live pending parsed icv = decompressParsed again' live pending parsed icv := by
  unfold decompressParsed
  dsimp only
  split
  · rfl
  · exact Frame.decode_congr _ _ hlt hagree

theorem decompressUnit_congr (live : Live) (pending : Option Feedback) (unit : Bytes)
    (hlt : live.handle.collected.length + unit.length ≤ n) (hagree : AgreeBelow n again again') :
    decompressUnit again live pending unit = decompressUnit again' live pending unit := by
  unfold decompressUnit
  dsimp only
  split
  · rfl
  · rename_i parsed hparse
    have hle := length_parseRohcPacket_le hparse
    split
    · exact decompressParsed_congr _ _ _ _ (by omega) hagree
    · split
      · exact decompressParsed_congr _ _ _ _ (by omega) hagree
      · split
        · rfl
        · split
          · rfl
          · rename_i hparse'
            have hle' := length_parseRohcPacket_le hparse'
            rw [List.length_take] at hle'
            exact decompressParsed_congr _ _ _ _ (by omega) hagree

theorem decompressCall_congr (live : Live) (input : Bytes)
    (hlt : live.handle.collected.length + input.length ≤ n) (hagree : AgreeBelow n again again') :
    decompressCall again live input = decompressCall again' live input := by
  unfold decompressCall
  congr 1
  split
  · rfl
  · dsimp only
    split
    · rfl
    · rfl
    · rename_i hskip
      have := length_skipFeedback_le _ hskip
      exact decompressUnit_congr _ _ _ (Nat.le_trans (Nat.add_le_add_left this _) hlt) hagree

/-- More depth than there are octets at hand changes nothing. -/
theorem decompressNested_stable : ∀ (fuel fuel' : Nat) (live : Live) (input : Bytes),
    live.handle.reassembly.length + input.length < fuel → live.handle.reassembly.length + input.length < fuel' →
    decompressNested fuel live input = decompressNested fuel' live input
  | 0, _, _, _, h, _ => absurd h (Nat.not_lt_zero _)
  | _, 0, _, _, _, h => absurd h (Nat.not_lt_zero _)
  | fuel + 1, fuel' + 1, live, input, h, h' => by
    have hcol : live.handle.collected.length ≤ live.handle.reassembly.length := by
      unfold Decompressor.collected
      split <;> simp
    refine decompressCall_congr (n := min fuel fuel') live input (by omega) fun live' input' hlt => ?_
    exact decompressNested_stable fuel fuel' live' input' (by omega) (by omega)

/-- The nested call of `rohc_decompress4` is `rohc_decompress4`. -/
theorem rohcDecompress4_unfold (decomp : Decompressor) (input out : Bytes) (cap : Nat) :
    rohcDecompress4 decomp input out cap =
      decompressCall (fun live input => rohcDecompress4 live.handle input live.out live.outLen) ⟨decomp, out, cap⟩
        input := by
  have hcol : decomp.collected.length ≤ decomp.reassembly.length := by
    unfold Decompressor.collected
    split <;> simp
  refine decompressCall_congr (n := decomp.reassembly.length + input.length) _ input
    (by dsimp only; omega) fun live' input' hlt => ?_
  exact decompressNested_stable _ _ live' input' (by omega) (by omega)

end Depth

end Rohccxx
