import Rohccxx.CompRuns
import Rohccxx.FirstPacket

/-!
# Two ends of a link

A compressor with everything that can happen to it, and the decompressor its units are handed to (`Link`). Here is what
the calls that do not belong to a flow leave of its two contexts: acts of the sender that compress nothing on the CID keep
every header field of its context (`SameFlow`), and units that the receiver does not accept on the CID keep its context up
to labels. The flows of the single profiles are runs over these steps.
-/

set_option autoImplicit false

namespace Rohccxx

open Octets

/-! ## The link -/

structure Link where
  sender : CompHandle
  receiver : Decompressor

/-- One packet: the room for its unit, the buffer of the receiver and the room in it. -/
structure Exchange where
  packet : Bytes
  unitCap : Nat
  out : Bytes
  room : Nat

namespace Link

/-- The unit the sender makes of the packet. -/
def unit (link : Link) (x : Exchange) : Option Bytes := (rohcCompress4 link.sender.core x.packet x.unitCap).1

/-- What the receiver answers to a unit. -/
def answer (link : Link) (x : Exchange) (unit : Bytes) : Return := rohcDecompress4 link.receiver unit x.out x.room

/-- After the packet has been compressed; the unit is on its way. -/
def sent (link : Link) (x : Exchange) : Link := { link with sender := link.sender.act (.compress x.packet x.unitCap) }

/-- After the unit has been handed over, too. -/
def exchanged (link : Link) (x : Exchange) (unit : Bytes) : Link :=
  { link.sent x with receiver := (link.answer x unit).2.handle }

/-- After another act of the sender. -/
def acted (link : Link) (act : CompAct) : Link := { link with sender := link.sender.act act }

/-- After other octets have reached the receiver. -/
def heard (link : Link) (input out : Bytes) (cap : Nat) : Link :=
  { link with receiver := (rohcDecompress4 link.receiver input out cap).2.handle }

/-- The packet that came out. -/
def output (link : Link) (x : Exchange) (unit : Bytes) : Bytes :=
  (link.answer x unit).2.out.take (link.answer x unit).2.outLen

/-- Both ends are set to a small CID, without integrity and segments. -/
structure Ready (link : Link) (cid : Nat) : Prop where
  plain : link.sender.core.Plain
  current : link.sender.core.currentCid = cid
  senderSpace : link.sender.core.largeCidSpace = false
  integrity : link.receiver.integrity = none
  space : link.receiver.largeCidSpace = false
  small : cid ≤ 0x0F

end Link

/-! ## Header fields of a context -/

/-- The header fields of a flow are the same: what differs is control data. -/
structure SameFlow (a b : Context) : Prop where
  ipv4 : b.toIpv4Context = a.toIpv4Context
  ipv6 : b.toIpv6Context = a.toIpv6Context
  transport : b.toTransportContext = a.toTransportContext
  rtp : b.rtp = a.rtp
  msn : b.msn = a.msn
  profile : b.profile = a.profile

namespace SameFlow

variable {a b c : Context}

theorem refl (a : Context) : SameFlow a a := ⟨rfl, rfl, rfl, rfl, rfl, rfl⟩

theorem trans (hab : SameFlow a b) (hbc : SameFlow b c) : SameFlow a c :=
  ⟨hbc.1.trans hab.1, hbc.2.trans hab.2, hbc.3.trans hab.3, hbc.4.trans hab.4, hbc.5.trans hab.5, hbc.6.trans hab.6⟩

theorem finishTransmit (ctx : Context) : SameFlow ctx (finishTransmit ctx) := ⟨rfl, rfl, rfl, rfl, rfl, rfl⟩

theorem inState (ctx : Context) (state : RohcState) : SameFlow ctx (ctx.inState state) := ⟨rfl, rfl, rfl, rfl, rfl, rfl⟩

theorem countPt0 (ctx : Context) : SameFlow ctx ctx.countPt0 := ⟨rfl, rfl, rfl, rfl, rfl, rfl⟩

/-- Labels are control data. -/
theorem of_keeps (h : KeepsContext a b) : SameFlow a b := by
  have e := h.fields
  constructor <;> rw [e]

/-- Feedback is control data. -/
theorem feedback (ctx : Context) (element : Feedback) : SameFlow ctx (applyFeedbackToContext ctx element) := by
  unfold applyFeedbackToContext
  dsimp only
  split
  · unfold acknowledge
    dsimp only
    split
    · exact ⟨rfl, rfl, rfl, rfl, rfl, rfl⟩
    · exact ⟨rfl, rfl, rfl, rfl, rfl, rfl⟩
  · exact ⟨rfl, rfl, rfl, rfl, rfl, rfl⟩
  · split
    · exact ⟨rfl, rfl, rfl, rfl, rfl, rfl⟩
    · exact ⟨rfl, rfl, rfl, rfl, rfl, rfl⟩

/-- Unless the CID changes its profile, a branch starts from the header fields of the packet before. -/
theorem prepareContext (comp : Compressor) {before : Context} {profile : Profile} (h : ¬replaces before profile) :
    SameFlow before (prepareContext comp before profile) := by
  have hrequire : ∀ ctx, SameFlow ctx (requireConfirmationBeforePt0Alias ctx) := by
    intro ctx
    unfold requireConfirmationBeforePt0Alias startReplacement
    dsimp only
    split
    · exact ⟨rfl, rfl, rfl, rfl, rfl, rfl⟩
    · exact .refl ctx
  have hlabel : SameFlow before { before with cid := comp.currentCid, largeCid := comp.largeCidSpace } :=
    ⟨rfl, rfl, rfl, rfl, rfl, rfl⟩
  have hno : ¬(before.profileHasBeenUsed = true ∧ before.profile ≠ profile ∧ profile ≠ .uncompressed) := h
  unfold Rohccxx.prepareContext replaceProfile
  dsimp only
  rw [if_neg hno]
  split
  · exact hlabel.trans (hrequire _)
  · exact hlabel

end SameFlow

/-! ## The sender -/

/-- The act compresses nothing on the CID. -/
def CompHandle.LeavesAlone (handle : CompHandle) (cid : Nat) (act : CompAct) : Prop :=
  handle.core.currentCid = cid → handle.branches act = none

/-- Such an act keeps the header fields of the context. -/
theorem CompHandle.LeavesAlone.context {handle : CompHandle} {cid : Nat} {act : CompAct} {c : Context}
    (h : handle.LeavesAlone cid act) (hc : (handle.act act).context cid = some c) :
    ∃ before, handle.context cid = some before ∧ SameFlow before c := by
  obtain ⟨before, hbefore, turned⟩ := context_act hc
  refine ⟨before, hbefore, ?_⟩
  cases turned with
  | same => exact .refl _
  | mode mode => exact ⟨rfl, rfl, rfl, rfl, rfl, rfl⟩
  | feedback feeds here => exact .feedback _ _
  | branch here runs run => cases (h here).symm.trans runs

/-- The count of PT-0 units is the same, and what it is measured by. -/
structure SameWindow (a b : Context) : Prop where
  ratio : b.reorderRatio = a.reorderRatio
  count : b.formalPt0SinceConfirmation = a.formalPt0SinceConfirmation

/-- Unless it is feedback for the CID, such an act keeps the window, too. -/
theorem CompHandle.LeavesAlone.window {handle : CompHandle} {cid : Nat} {act : CompAct} {before c : Context}
    (h : handle.LeavesAlone cid act) (unfed : ∀ element, handle.feeds act = some element → element.cid ≠ cid)
    (hbefore : handle.context cid = some before) (hc : (handle.act act).context cid = some c) : SameWindow before c := by
  obtain ⟨before', hbefore', turned⟩ := context_act hc
  cases hbefore.symm.trans hbefore'
  cases turned with
  | same => exact ⟨rfl, rfl⟩
  | mode mode => exact ⟨rfl, rfl⟩
  | feedback feeds here => exact absurd here (unfed _ feeds)
  | branch here runs run => cases (h here).symm.trans runs

/-- The unit of a packet, and what made it. -/
structure Link.Made (link : Link) (cid : Nat) (x : Exchange) (unit : Bytes) (view : ParsedIpView) (before c : Context) :
    Prop where
  parsed : parseIpView x.packet = some view
  context : link.sender.context cid = some before
  run : runBranch link.sender.core x.packet view before = (.ok unit, c)
  left : (link.sent x).sender.context cid = some c

/-- **A unit of a link that is ready** comes from the branch of its packet. -/
theorem Link.Ready.made {link : Link} {cid : Nat} (ready : link.Ready cid) {x : Exchange} {unit : Bytes}
    (h : link.unit x = some unit) : ∃ view before c, link.Made cid x unit view before c := by
  have hout : rohcCompress4 link.sender.core x.packet x.unitCap =
      (some unit, (rohcCompress4 link.sender.core x.packet x.unitCap).2) := Prod.ext h rfl
  obtain ⟨view, before, c, hv, hb, hrun, hafter, -⟩ := rohcCompress4_ok ready.plain hout
  rw [ready.current] at hb
  refine ⟨view, before, c, hv, hb, hrun, ?_⟩
  change ((rohcCompress4 link.sender.core x.packet x.unitCap).2.contexts).get cid = some c
  rw [hafter, afterBranch, ready.current]
  exact ContextTable.get_set_self (by rw [hb]; rfl)

/-- The settings stay when a packet is sent. -/
theorem Link.Ready.sent {link : Link} {cid : Nat} (ready : link.Ready cid) {x : Exchange} {unit : Bytes}
    (h : link.unit x = some unit) : (link.sent x).Ready cid := by
  have hout : rohcCompress4 link.sender.core x.packet x.unitCap =
      (some unit, (rohcCompress4 link.sender.core x.packet x.unitCap).2) := Prod.ext h rfl
  obtain ⟨view, before, c, -, -, -, hafter, -⟩ := rohcCompress4_ok ready.plain hout
  have hcore : (link.sent x).sender.core = afterBranch link.sender.core c := hafter
  refine ⟨?_, ?_, ?_, ready.integrity, ready.space, ready.small⟩
  · rw [hcore]
    exact ⟨ready.plain.integrity, ready.plain.mrru⟩
  · rw [hcore]
    exact ready.current
  · rw [hcore]
    exact ready.senderSpace

/-! ## The receiver -/

/-- A call that accepts nothing on the CID keeps its context up to labels. -/
theorem heard_context {dec : Decompressor} {input out : Bytes} {cap cid : Nat} {d : Context}
    (h : ∀ a, accepted dec input out cap = some a → a.cid ≠ cid)
    (hd : (rohcDecompress4 dec input out cap).2.handle.contexts.get cid = some d) :
    ∃ before, dec.contexts.get cid = some before ∧ KeepsContext before d ∧
      (d.labels = (cid, dec.largeCidSpace) ∨ d.labels = before.labels) := by
  have key : ∀ live, Spared ⟨dec, out, cap⟩ live → live.handle.contexts.get cid = some d →
      ∃ before, dec.contexts.get cid = some before ∧ KeepsContext before d ∧
        (d.labels = (cid, dec.largeCidSpace) ∨ d.labels = before.labels) := by
    intro live hs hget
    obtain ⟨before, hbefore, hkeep⟩ := hs.found hget
    refine ⟨before, hbefore, hkeep, ?_⟩
    rcases hs.labels cid d hget with e | ⟨before', hbefore', e⟩
    · exact .inl e
    · cases hbefore.symm.trans hbefore'
      exact .inr e
  by_cases h0 : (rohcDecompress4 dec input out cap).1 = 0
  · obtain ⟨unit, f, mid, ctx, octets, made, -, hacc⟩ := accepted_of_zero h0
    rw [made.delivered.contexts, ContextTable.get_set_of_ne (h _ hacc)] at hd
    exact key mid made.spared hd
  · exact key _ (decompressNested_preserves _ _ _ h0) hd

/-- The settings of the receiver outlast every call. -/
theorem heard_settings (dec : Decompressor) (input out : Bytes) (cap : Nat) :
    SameSettings dec (rohcDecompress4 dec input out cap).2.handle := by
  by_cases h0 : (rohcDecompress4 dec input out cap).1 = 0
  · obtain ⟨unit, f, mid, ctx, octets, made⟩ := rohcDecompress4_zero h0
    exact made.spared.settings.trans made.delivered.settings
  · exact (decompressNested_preserves _ _ _ h0 : Spared ⟨dec, out, cap⟩ _).settings

/-- No call changes how many contexts there are. -/
theorem heard_maxCid (dec : Decompressor) (input out : Bytes) (cap : Nat) :
    (rohcDecompress4 dec input out cap).2.handle.contexts.maxCid = dec.contexts.maxCid := by
  by_cases h0 : (rohcDecompress4 dec input out cap).1 = 0
  · obtain ⟨unit, f, mid, ctx, octets, made⟩ := rohcDecompress4_zero h0
    rw [made.delivered.contexts, ContextTable.maxCid_set]
    exact made.spared.maxCid
  · exact (decompressNested_preserves _ _ _ h0 : Spared ⟨dec, out, cap⟩ _).maxCid

theorem heard_exists {dec : Decompressor} {input out : Bytes} {cap cid : Nat} {d : Context}
    (hd : (rohcDecompress4 dec input out cap).2.handle.contexts.get cid = some d) :
    ∃ before, dec.contexts.get cid = some before := by
  rw [← Option.isSome_iff_exists, ContextTable.get_isSome, ← heard_maxCid dec input out cap, ← ContextTable.get_isSome, hd]
  rfl

theorem Link.Ready.exchanged {link : Link} {cid : Nat} (ready : link.Ready cid) {x : Exchange} {unit : Bytes}
    (h : link.unit x = some unit) : (link.exchanged x unit).Ready cid := by
  have hsettings := heard_settings link.receiver unit x.out x.room
  exact { ready.sent h with
    integrity := hsettings.integrity.trans ready.integrity, space := hsettings.largeCidSpace.trans ready.space }

end Rohccxx
