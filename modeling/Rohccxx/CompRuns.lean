import Rohccxx.Branches
import Rohccxx.CompFeedback
import Rohccxx.DecompRuns

/-!
# Runs of a compressor

A handle and everything that can happen to it, in any order (`compMachine`). An act is one call, or one element of a
feedback packet: `rohc_comp_deliver_feedback_packet` is the sequence of its elements (`CompCall.acts`). `act_cases` is the
one place where the acts are told apart: an act runs the branch of a packet on the current CID, applies one piece of
feedback, sets the mode, or leaves mode and contexts alone.
-/

set_option autoImplicit false

namespace Rohccxx

open Octets Runs

/-! ## The handle and its calls -/

/-- `rohc_comp`: the compressor, the direction it feeds and its contract with the assisting layer. -/
structure CompHandle where
  core : Compressor
  direction : Direction := .uplink
  lla : Option LlaSettings := none

inductive CompAct where
  | compress (packet : Bytes) (cap : Nat)
  | emitNhp (packet : Bytes)
  | emitCsp (packet : Bytes) (cap : Nat)
  /-- One element of legacy feedback. -/
  | element (cid : Nat) (type : FeedbackType) (mode : Option Mode)
  | deliverFeedbackV1 (feedback : FeedbackV1)
  | setMode (mode : Mode)
  | setCid (cid : Nat)
  | setMrru (mrru : Nat)
  | getSegment (cap : Nat)
  | setRohcoipsecIntegrity (algorithm : IntegrityAlgorithm) (key : Bytes) (icvLen : Nat)
  | enableLla (contract : AssistingLayerContract) (flow : ZeroByteFlow)

namespace CompHandle

def withCore (handle : CompHandle) (core : Compressor) : CompHandle := { handle with core := core }

@[simp] theorem withCore_core (handle : CompHandle) (core : Compressor) : (handle.withCore core).core = core := rfl

/-- The v1 feedback a record stands for, once it has passed the checks. -/
def correlated (handle : CompHandle) (feedback : FeedbackV1) : Option Feedback :=
  (correlateFeedbackV1 handle.direction handle.core feedback).toOption

/-- The handle after an act. -/
def act (handle : CompHandle) : CompAct → CompHandle
  | .compress packet cap => handle.withCore (rohcCompress4 handle.core packet cap).2
  | .emitNhp packet => handle.withCore (Rohccxx.emitNhp handle.lla handle.core packet).2
  | .emitCsp packet cap => handle.withCore (Rohccxx.emitCsp handle.lla handle.core packet cap).2
  | .element cid type mode => handle.withCore (handle.core.takeFeedback { cid := cid, type := type, mode := mode })
  | .deliverFeedbackV1 feedback =>
    match handle.correlated feedback with
    | some element => handle.withCore (handle.core.takeFeedback element)
    | none => handle
  | .setMode mode => handle.withCore (handle.core.setMode mode)
  | .setCid cid => handle.withCore ((handle.core.setCid cid).getD handle.core)
  | .setMrru mrru => handle.withCore ((handle.core.setMrru mrru).getD handle.core)
  | .getSegment cap => handle.withCore (writeNextSegment handle.core cap).2
  | .setRohcoipsecIntegrity algorithm key icvLen =>
    handle.withCore { handle.core with integrity := (configureRohcoipsec algorithm key icvLen).or handle.core.integrity }
  | .enableLla contract flow => { handle with lla := (enableRfc4362Lla contract flow).or handle.lla }

/-- A fresh handle with CIDs up to `maxCid`. -/
def fresh (maxCid : Nat) (direction : Direction) : CompHandle :=
  { core := { contexts := .init maxCid, largeCidSpace := maxCid > Cid.smallCidMax }, direction := direction }

/-- The context of a CID. -/
def context (handle : CompHandle) (cid : Nat) : Option Context := handle.core.contexts.get cid

end CompHandle

/-- Fresh contexts are value-initialised. -/
theorem context_fresh {maxCid : Nat} {direction : Direction} {cid : Nat} {ctx : Context}
    (h : (CompHandle.fresh maxCid direction).context cid = some ctx) : ctx = {} := by
  have hget : (ContextTable.init maxCid).get cid = some ctx := h
  have hle : cid ≤ maxCid := ContextTable.get_isSome.mp (Option.isSome_of_eq_some hget)
  rw [ContextTable.get_init hle] at hget
  exact (Option.some.inj hget).symm

/-- The calls that deliver legacy feedback, and the acts themselves. -/
inductive CompCall where
  | act (act : CompAct)
  | handleFeedback (cid : Nat) (type : UInt8)
  | deliverFeedbackPacket (packet : Bytes)

/-- What a call does, one act after the other. -/
def CompCall.acts : CompCall → List CompAct
  | .act a => [a]
  | .handleFeedback cid type => (feedbackTypeOf type).toList.map fun type => .element cid type none
  | .deliverFeedbackPacket packet =>
    (deliveredFeedback packet.length packet).map fun feedback => .element feedback.cid feedback.type feedback.mode

/-! ## Units -/

/-- A unit handed out: its CID, the unit itself without ICV and segment headers, the context found and the one left. -/
structure Sent where
  cid : Nat
  unit : Bytes
  before : Context
  after : Context

/-- The unit a packet is compressed to. -/
def sentBy (comp : Compressor) (packet : Bytes) : Option Sent := do
  let before ← comp.contexts.get comp.currentCid
  let unit ← (compressInner comp packet).1
  let after ← (compressInner comp packet).2.contexts.get comp.currentCid
  return ⟨comp.currentCid, unit, before, after⟩

namespace CompHandle

/-- The unit an act hands out, by itself or inside a context synchronisation packet. -/
def sends (handle : CompHandle) : CompAct → Option Sent
  | .compress packet cap =>
    if (rohcCompress4 handle.core packet cap).1.isSome then sentBy handle.core packet else none
  | .emitCsp packet cap =>
    if (Rohccxx.emitCsp handle.lla handle.core packet cap).1.isSome then sentBy handle.core packet else none
  | _ => none

/-- The act sends a packet without any header. -/
def sendsNoHeader (handle : CompHandle) : CompAct → Bool
  | .emitNhp packet => (Rohccxx.emitNhp handle.lla handle.core packet).1
  | _ => false

end CompHandle

namespace Sent

/-- An IR of the context's profile: the type octet 0xFD behind the Add-CID octet, if there is one. -/
def IsIr (sent : Sent) : Prop := irFront sent.after 0xFD sent.after.profile.octet <+: sent.unit

def IsIrDyn (sent : Sent) : Prop := irFront sent.after 0xF8 sent.after.profile.octet <+: sent.unit

instance (sent : Sent) : Decidable sent.IsIr := inferInstanceAs (Decidable (_ <+: _))

instance (sent : Sent) : Decidable sent.IsIrDyn := inferInstanceAs (Decidable (_ <+: _))

end Sent

/-- The compressor as a machine; a label carries the unit the act handed out. -/
def compMachine : Machine CompHandle CompAct (Option Sent) := ⟨CompHandle.act, CompHandle.sends⟩

/-! ## What an act does -/

/-- The checks of `rohc_comp_rfc4362_emit_nhp`. -/
def nhpReady (lla : Option LlaSettings) (comp : Compressor) (packet : Bytes) : Bool :=
  match lla, comp.contexts.get comp.currentCid with
  | some settings, some ctx =>
    canEmitNoHeaderPacketForFlow settings.contract settings.flow && llaContextReady ctx &&
      (ctx.mode ≠ .reliable || ctx.dynamicAcked) && decide (40 ≤ packet.length) &&
      decide (buildFixedRtpIpv4Header (advanceNoHeader ctx) (packet.length - 40) = some (packet.take 40))
  | _, _ => false

theorem emitNhp_eq (lla : Option LlaSettings) (comp : Compressor) (packet : Bytes) :
    emitNhp lla comp packet = if nhpReady lla comp packet then
      ((compressInner comp packet).1.isSome, (compressInner comp packet).2) else (false, comp) := by
  unfold emitNhp nhpReady
  cases lla with
  | none => rfl
  | some settings =>
    cases comp.contexts.get comp.currentCid with
    | none => simp
    | some ctx =>
      simp only [LlaSettings.canEmitNoHeaderPacketForFlow, Bool.not_true, Bool.false_eq_true, if_false, Bool.true_and]
      by_cases hbad : !llaContextReady ctx ∨ (ctx.mode = .reliable ∧ !ctx.dynamicAcked) ∨ packet.length < 40
      · rw [if_pos hbad, if_neg]
        simp only [Bool.and_eq_true, Bool.or_eq_true, decide_eq_true_eq, Bool.not_eq_true'] at hbad ⊢
        grind
      · rw [if_neg hbad]
        simp only [not_or, not_and, Bool.not_eq_true', Bool.not_eq_false, Nat.not_lt] at hbad
        obtain ⟨h₁, h₂, h₃⟩ := hbad
        have hm : (decide (ctx.mode ≠ .reliable) || ctx.dynamicAcked) = true := by
          simp only [Bool.or_eq_true, decide_eq_true_eq]
          by_cases hr : ctx.mode = .reliable
          · exact .inr (h₂ hr)
          · exact .inl hr
        simp only [h₁, hm, h₃, decide_true, Bool.true_and, decide_eq_true_eq]
        cases buildFixedRtpIpv4Header (advanceNoHeader ctx) (packet.length - 40) with
        | none => rfl
        | some header =>
          by_cases hh : header = packet.take 40
          · simp only [hh, ne_eq, not_true_eq_false, if_false, if_true]
            rcases compressInner comp packet with ⟨_ | unit, comp'⟩
            · rfl
            · rfl
          · simp [hh]
namespace CompHandle

/-- The packet an act compresses. -/
def compresses (handle : CompHandle) : CompAct → Option Bytes
  | .compress packet cap => if cap ≤ segmentHeaderLen then none else some packet
  | .emitNhp packet => if nhpReady handle.lla handle.core packet then some packet else none
  | .emitCsp packet _ =>
    if handle.lla.any fun settings => canEmitContextSynchronizationPacket settings.contract then some packet else none
  | _ => none

/-- The packet whose branch an act runs, with its IP header and the context the branch finds. -/
def branches (handle : CompHandle) (act : CompAct) : Option (Bytes × ParsedIpView × Context) := do
  let packet ← handle.compresses act
  let view ← parseIpView packet
  let before ← handle.core.contexts.get handle.core.currentCid
  return (packet, view, before)

/-- The feedback an act applies. -/
def feeds (handle : CompHandle) : CompAct → Option Feedback
  | .element cid type mode => some { cid := cid, type := type, mode := mode }
  | .deliverFeedbackV1 feedback => handle.correlated feedback
  | _ => none

end CompHandle

open CompHandle

/-- Mode, CID and contexts are those of `a`; segments, integrity and buffers may differ. -/
structure SameContexts (a b : Compressor) : Prop where
  contexts : b.contexts = a.contexts
  mode : b.mode = a.mode
  currentCid : b.currentCid = a.currentCid
  space : b.largeCidSpace = a.largeCidSpace

/-- What an act does to mode and contexts. -/
inductive ActStep (handle : CompHandle) : CompAct → CompHandle → Prop where
  | branch {act : CompAct} {handle' : CompHandle} {packet : Bytes} {view : ParsedIpView} {before ctx : Context}
    {out : Outcome Bytes} (runs : handle.branches act = some (packet, view, before))
    (run : runBranch handle.core packet view before = (out, ctx))
    (after : SameContexts (afterBranch handle.core ctx) handle'.core) : ActStep handle act handle'
  | feedback {act : CompAct} {element : Feedback} (feeds : handle.feeds act = some element) :
    ActStep handle act (handle.withCore (handle.core.takeFeedback element))
  | setMode (mode : Mode) : ActStep handle (.setMode mode) (handle.withCore (handle.core.setMode mode))
  | quiet {act : CompAct} {handle' : CompHandle} (rests : handle.branches act = none) (silent : handle.feeds act = none)
    (mode : handle'.core.mode = handle.core.mode) (space : handle'.core.largeCidSpace = handle.core.largeCidSpace)
    (contexts : handle'.core.contexts = handle.core.contexts) : ActStep handle act handle'

/-! ### Compressing -/

theorem branches_eq_some {handle : CompHandle} {act : CompAct} {packet : Bytes} {view : ParsedIpView} {before : Context}
    (h : handle.branches act = some (packet, view, before)) :
    handle.compresses act = some packet ∧ parseIpView packet = some view ∧
      handle.core.contexts.get handle.core.currentCid = some before := by
  unfold branches at h
  simp only [Option.bind_eq_bind, Option.bind_eq_some_iff, Option.pure_def, Option.some.injEq, Prod.mk.injEq] at h
  obtain ⟨packet', hp, view', hv, before', hb, rfl, rfl, rfl⟩ := h
  exact ⟨hp, hv, hb⟩

/-- Without an IP header or a context nothing is compressed. -/
theorem compressInner_of_none {comp : Compressor} {packet : Bytes}
    (h : parseIpView packet = none ∨ comp.contexts.get comp.currentCid = none) :
    compressInner comp packet = (none, comp) := by
  unfold compressInner
  rcases h with h | h
  · simp [h]
  · simp only [h]
    split
    · rfl
    · rfl

theorem writeNextSegment_same (comp : Compressor) (cap : Nat) : SameContexts comp (writeNextSegment comp cap).2 := by
  unfold writeNextSegment
  dsimp only
  split
  · exact ⟨rfl, rfl, rfl, rfl⟩
  · split
    · exact ⟨rfl, rfl, rfl, rfl⟩
    · split
      · exact ⟨rfl, rfl, rfl, rfl⟩
      · exact ⟨rfl, rfl, rfl, rfl⟩

/-- Behind the branch, `rohc_compress4` touches only its segments. -/
theorem rohcCompress4_same (comp : Compressor) (packet : Bytes) {cap : Nat} (h : ¬cap ≤ segmentHeaderLen) :
    SameContexts (compressInner comp packet).2 (rohcCompress4 comp packet cap).2 := by
  unfold rohcCompress4
  rw [if_neg h]
  rcases compressInner comp packet with ⟨_ | unit, comp'⟩
  · exact ⟨rfl, rfl, rfl, rfl⟩
  · dsimp only
    cases withIcv comp' packet unit with
    | none => exact ⟨rfl, rfl, rfl, rfl⟩
    | some full =>
      dsimp only
      split
      · exact ⟨rfl, rfl, rfl, rfl⟩
      · split
        · exact ⟨rfl, rfl, rfl, rfl⟩
        · have hs := writeNextSegment_same
            { comp' with pendingSegment := full, pendingSegmentPos := 0, nextSegmentSequence := 0 } cap
          exact ⟨hs.contexts, hs.mode, hs.currentCid, hs.space⟩

theorem emitCsp_same (settings : LlaSettings) (comp : Compressor) (packet : Bytes) (cap : Nat)
    (h : canEmitContextSynchronizationPacket settings.contract = true) :
    (emitCsp (some settings) comp packet cap).2 = (compressInner comp packet).2 := by
  unfold emitCsp
  simp only [h, Bool.not_true, Bool.false_eq_true, if_false]
  rcases compressInner comp packet with ⟨_ | unit, comp'⟩
  · rfl
  · dsimp only
    split
    · rfl
    · rfl

/-- The acts that compress leave mode and contexts to `compressInner`. -/
theorem act_of_compresses {handle : CompHandle} {act : CompAct} {packet : Bytes}
    (h : handle.compresses act = some packet) :
    SameContexts (compressInner handle.core packet).2 (handle.act act).core := by
  cases act with
  | compress p cap =>
    simp only [compresses, Option.ite_none_left_eq_some, Option.some.injEq] at h
    obtain ⟨hcap, rfl⟩ := h
    exact rohcCompress4_same handle.core p hcap
  | emitNhp p =>
    simp only [compresses, Option.ite_none_right_eq_some, Option.some.injEq] at h
    obtain ⟨hready, rfl⟩ := h
    have e : (handle.act (.emitNhp p)).core = (emitNhp handle.lla handle.core p).2 := rfl
    rw [e, emitNhp_eq, if_pos hready]
    exact ⟨rfl, rfl, rfl, rfl⟩
  | emitCsp p cap =>
    simp only [compresses, Option.ite_none_right_eq_some, Option.some.injEq, Option.any_eq_true] at h
    obtain ⟨⟨settings, hl, hs⟩, rfl⟩ := h
    have e : (handle.act (.emitCsp p cap)).core = (emitCsp handle.lla handle.core p cap).2 := rfl
    rw [e, hl, emitCsp_same settings _ _ _ hs]
    exact ⟨rfl, rfl, rfl, rfl⟩
  | _ => cases h

theorem compressInner_of_branch {comp : Compressor} {packet : Bytes} {view : ParsedIpView} {before ctx : Context}
    {out : Outcome Bytes} (hv : parseIpView packet = some view) (hb : comp.contexts.get comp.currentCid = some before)
    (hr : runBranch comp packet view before = (out, ctx)) :
    (compressInner comp packet).2 = afterBranch comp ctx := by
  cases out with
  | ok unit => rw [compressInner_of_ok hv hb hr]
  | reject => rw [compressInner_of_fail hv hb hr rfl]
  | fault => rw [compressInner_of_fail hv hb hr rfl]

/-- An act that could compress but does not leaves the handle as it is. -/
theorem act_of_branches_none {handle : CompHandle} {act : CompAct} (h : handle.branches act = none)
    (hf : handle.feeds act = none) (hm : ∀ mode, act ≠ .setMode mode) :
    (handle.act act).core.mode = handle.core.mode ∧ (handle.act act).core.largeCidSpace = handle.core.largeCidSpace ∧
      (handle.act act).core.contexts = handle.core.contexts := by
  cases hp : handle.compresses act with
  | some packet =>
    have hs := act_of_compresses hp
    have hnone : parseIpView packet = none ∨ handle.core.contexts.get handle.core.currentCid = none := by
      cases hv : parseIpView packet with
      | none => exact .inl rfl
      | some view =>
        cases hb : handle.core.contexts.get handle.core.currentCid with
        | none => exact .inr rfl
        | some before => simp [branches, hp, hv, hb] at h
    rw [compressInner_of_none hnone] at hs
    exact ⟨hs.mode, hs.space, hs.contexts⟩
  | none =>
    cases act with
    | compress packet cap =>
      simp only [compresses, ite_eq_left_iff, reduceCtorEq, imp_false, Decidable.not_not] at hp
      have e : (handle.act (.compress packet cap)).core = (rohcCompress4 handle.core packet cap).2 := rfl
      rw [e]
      unfold rohcCompress4
      rw [if_pos hp]
      exact ⟨rfl, rfl, rfl⟩
    | emitNhp packet =>
      simp only [compresses, ite_eq_right_iff, reduceCtorEq, imp_false] at hp
      have e : (handle.act (.emitNhp packet)).core = (emitNhp handle.lla handle.core packet).2 := rfl
      rw [e, emitNhp_eq, if_neg hp]
      exact ⟨rfl, rfl, rfl⟩
    | emitCsp packet cap =>
      simp only [compresses, ite_eq_right_iff, reduceCtorEq, imp_false] at hp
      have e : (handle.act (.emitCsp packet cap)).core = (emitCsp handle.lla handle.core packet cap).2 := rfl
      rw [e]
      unfold emitCsp
      cases hl : handle.lla with
      | none => exact ⟨rfl, rfl, rfl⟩
      | some settings =>
        rw [hl, Option.any_some, Bool.not_eq_true] at hp
        simp [hp]
    | element cid type mode => cases hf
    | deliverFeedbackV1 feedback =>
      have e : handle.correlated feedback = none := hf
      simp [CompHandle.act, e]
    | setMode mode => exact absurd rfl (hm mode)
    | setCid cid =>
      simp only [CompHandle.act, withCore, Compressor.setCid]
      split
      · exact ⟨rfl, rfl, rfl⟩
      · exact ⟨rfl, rfl, rfl⟩
    | setMrru mrru =>
      simp only [CompHandle.act, withCore, Compressor.setMrru]
      split
      · exact ⟨rfl, rfl, rfl⟩
      · exact ⟨rfl, rfl, rfl⟩
    | getSegment cap =>
      have hs := writeNextSegment_same handle.core cap
      exact ⟨hs.mode, hs.space, hs.contexts⟩
    | setRohcoipsecIntegrity => exact ⟨rfl, rfl, rfl⟩
    | enableLla => exact ⟨rfl, rfl, rfl⟩

/-- **The acts of a compressor.** -/
theorem act_cases (handle : CompHandle) (act : CompAct) : ActStep handle act (handle.act act) := by
  cases hb : handle.branches act with
  | some triple =>
    obtain ⟨packet, view, before⟩ := triple
    obtain ⟨hp, hv, hc⟩ := branches_eq_some hb
    rcases hr : runBranch handle.core packet view before with ⟨out, ctx⟩
    refine .branch hb hr ?_
    rw [← compressInner_of_branch hv hc hr]
    exact act_of_compresses hp
  | none =>
    cases hf : handle.feeds act with
    | some element =>
      have e : handle.act act = handle.withCore (handle.core.takeFeedback element) := by
        cases act with
        | element cid type mode =>
          cases hf
          rfl
        | deliverFeedbackV1 feedback =>
          have e : handle.correlated feedback = some element := hf
          simp [CompHandle.act, e]
        | _ => cases hf
      rw [e]
      exact .feedback hf
    | none =>
      by_cases hm : ∃ mode, act = .setMode mode
      · obtain ⟨mode, rfl⟩ := hm
        exact .setMode mode
      · obtain ⟨h₁, h₂, h₃⟩ := act_of_branches_none hb hf fun mode e => hm ⟨mode, e⟩
        exact .quiet hb hf h₁ h₂ h₃

/-! ### Sending -/

theorem sentBy_eq_some {comp : Compressor} {packet : Bytes} {sent : Sent} (h : sentBy comp packet = some sent) :
    ∃ view, parseIpView packet = some view ∧ comp.contexts.get comp.currentCid = some sent.before ∧
      runBranch comp packet view sent.before = (.ok sent.unit, sent.after) ∧ sent.cid = comp.currentCid := by
  unfold sentBy at h
  simp only [Option.bind_eq_bind, Option.bind_eq_some_iff, Option.pure_def, Option.some.injEq] at h
  obtain ⟨before, hb, unit, hu, after, ha, rfl⟩ := h
  cases hv : parseIpView packet with
  | none =>
    rw [compressInner_of_none (.inl hv)] at hu
    cases hu
  | some view =>
    rcases hr : runBranch comp packet view before with ⟨out, ctx⟩
    cases out with
    | ok made =>
      rw [compressInner_of_ok hv hb hr] at hu ha
      have hset : (afterBranch comp ctx).contexts.get comp.currentCid = some ctx :=
        ContextTable.get_set_self (by rw [hb]; rfl)
      rw [hset] at ha
      cases hu
      cases ha
      exact ⟨view, rfl, hb, hr, rfl⟩
    | reject =>
      rw [compressInner_of_fail hv hb hr rfl] at hu
      cases hu
    | fault =>
      rw [compressInner_of_fail hv hb hr rfl] at hu
      cases hu

/-- A unit that is handed out is the one its branch made. -/
theorem branches_of_sends {handle : CompHandle} {act : CompAct} {sent : Sent} (h : handle.sends act = some sent) :
    sent.cid = handle.core.currentCid ∧ ∃ packet view, handle.branches act = some (packet, view, sent.before) ∧
      runBranch handle.core packet view sent.before = (.ok sent.unit, sent.after) := by
  have key : ∀ packet, handle.compresses act = some packet → sentBy handle.core packet = some sent →
      sent.cid = handle.core.currentCid ∧ ∃ packet view, handle.branches act = some (packet, view, sent.before) ∧
        runBranch handle.core packet view sent.before = (.ok sent.unit, sent.after) := by
    intro packet hp hs
    obtain ⟨view, hv, hb, hr, hcid⟩ := sentBy_eq_some hs
    refine ⟨hcid, packet, view, ?_, hr⟩
    unfold branches
    simp [hp, hv, hb]
  cases act with
  | compress packet cap =>
    simp only [sends, Option.ite_none_right_eq_some] at h
    refine key packet ?_ h.2
    simp only [compresses]
    rw [if_neg]
    intro hcap
    have hsome := h.1
    unfold rohcCompress4 at hsome
    rw [if_pos hcap] at hsome
    cases hsome
  | emitCsp packet cap =>
    simp only [sends, Option.ite_none_right_eq_some] at h
    refine key packet ?_ h.2
    have hsome := h.1
    unfold emitCsp at hsome
    simp only [compresses]
    rw [if_pos]
    cases hl : handle.lla with
    | none =>
      rw [hl] at hsome
      cases hsome
    | some settings =>
      rw [hl] at hsome
      rw [Option.any_some]
      by_contra hno
      simp only [Bool.not_eq_true] at hno
      simp [hno] at hsome
  | _ => cases h

/-- The context of the current CID after an act that ran a branch. -/
theorem context_of_branches {handle : CompHandle} {act : CompAct} {packet : Bytes} {view : ParsedIpView}
    {before ctx : Context} {out : Outcome Bytes} (h : handle.branches act = some (packet, view, before))
    (hr : runBranch handle.core packet view before = (out, ctx)) :
    handle.context handle.core.currentCid = some before ∧
      (handle.act act).context handle.core.currentCid = some ctx := by
  obtain ⟨hp, hv, hb⟩ := branches_eq_some h
  refine ⟨hb, ?_⟩
  have hs := act_of_compresses hp
  rw [compressInner_of_branch hv hb hr] at hs
  unfold context
  rw [hs.contexts]
  exact ContextTable.get_set_self (by rw [hb]; rfl)

theorem mode_of_branches {handle : CompHandle} {act : CompAct} {packet : Bytes} {view : ParsedIpView} {before : Context}
    (h : handle.branches act = some (packet, view, before)) : (handle.act act).core.mode = handle.core.mode := by
  obtain ⟨hp, hv, hb⟩ := branches_eq_some h
  rcases hr : runBranch handle.core packet view before with ⟨out, ctx⟩
  have hs := act_of_compresses hp
  rw [compressInner_of_branch hv hb hr] at hs
  exact hs.mode

/-! ### One context -/

/-- An act that compresses delivers no feedback. -/
theorem feeds_of_branches {handle : CompHandle} {act : CompAct} {triple : Bytes × ParsedIpView × Context}
    (h : handle.branches act = some triple) : handle.feeds act = none := by
  obtain ⟨packet, view, before⟩ := triple
  have hp := (branches_eq_some h).1
  cases act with
  | element => cases hp
  | deliverFeedbackV1 => cases hp
  | _ => rfl

theorem branches_of_feeds {handle : CompHandle} {act : CompAct} {element : Feedback}
    (h : handle.feeds act = some element) : handle.branches act = none := by
  cases hb : handle.branches act with
  | none => rfl
  | some triple => exact nomatch (feeds_of_branches hb).symm.trans h

/-- What an act does to the context of one CID. -/
inductive Turned (handle : CompHandle) (act : CompAct) (cid : Nat) (a : Context) : Context → Prop where
  | same (unfed : ∀ element, handle.feeds act = some element → element.cid ≠ cid)
    (rests : handle.core.currentCid = cid → handle.branches act = none) : Turned handle act cid a a
  | mode (mode : Mode) (set : act = .setMode mode) : Turned handle act cid a { a with mode := mode }
  | feedback {element : Feedback} (feeds : handle.feeds act = some element) (here : element.cid = cid) :
    Turned handle act cid a (applyFeedbackToContext a element)
  | branch {packet : Bytes} {view : ParsedIpView} {out : Outcome Bytes} {b : Context} (here : handle.core.currentCid = cid)
    (runs : handle.branches act = some (packet, view, a)) (run : runBranch handle.core packet view a = (out, b)) : Turned handle act cid a b

/-- Writing one context and reading another. -/
theorem get_set_cases {tbl : ContextTable} {cid x : Nat} {ctx b : Context} (h : (tbl.set cid ctx).get x = some b) :
    cid ≠ x ∧ tbl.get x = some b ∨ cid = x ∧ b = ctx := by
  by_cases hc : cid = x
  · subst hc
    right
    have hs : (tbl.get cid).isSome := by
      rw [ContextTable.get_isSome, ← ContextTable.maxCid_set tbl cid ctx, ← ContextTable.get_isSome, h]
      rfl
    rw [ContextTable.get_set_self hs] at h
    exact ⟨rfl, (Option.some.inj h).symm⟩
  · rw [ContextTable.get_set_of_ne hc] at h
    exact .inl ⟨hc, h⟩

/-- Every context after an act was there before it. -/
theorem context_act {handle : CompHandle} {act : CompAct} {cid : Nat} {b : Context}
    (h : (handle.act act).context cid = some b) : ∃ a, handle.context cid = some a ∧ Turned handle act cid a b := by
  have hstep := act_cases handle act
  generalize handle.act act = handle' at h hstep
  unfold context at h ⊢
  cases hstep with
  | @branch _ _ packet view before ctx out runs run after =>
    rw [after.contexts] at h
    rcases get_set_cases h with ⟨hc, h⟩ | ⟨rfl, rfl⟩
    · refine ⟨b, h, .same (fun element hf => ?_) fun e => absurd e hc⟩
      cases (feeds_of_branches runs).symm.trans hf
    · exact ⟨before, (branches_eq_some runs).2.2, .branch rfl runs run⟩
  | @feedback _ element feeds =>
    have hother : element.cid ≠ cid → Turned handle act cid b b := by
      intro hc
      refine .same (fun element' hf => ?_) fun _ => branches_of_feeds feeds
      cases feeds.symm.trans hf
      exact hc
    cases hctx : handle.core.contexts.get element.cid with
    | some ctx =>
      rw [withCore_core, Compressor.contexts_takeFeedback hctx] at h
      rcases get_set_cases h with ⟨hc, h⟩ | ⟨rfl, rfl⟩
      · exact ⟨b, h, hother hc⟩
      · exact ⟨ctx, hctx, .feedback feeds rfl⟩
    | none =>
      rw [withCore_core, Compressor.contexts_takeFeedback_of_none hctx] at h
      refine ⟨b, h, hother ?_⟩
      rintro rfl
      cases hctx.symm.trans h
  | setMode mode =>
    have hquiet : Turned handle (.setMode mode) cid b b := .same (fun _ hf => by cases hf) fun _ => rfl
    cases hctx : handle.core.contexts.get handle.core.currentCid with
    | some ctx =>
      rw [withCore_core, Compressor.contexts_setMode hctx] at h
      rcases get_set_cases h with ⟨hc, h⟩ | ⟨rfl, rfl⟩
      · exact ⟨b, h, hquiet⟩
      · exact ⟨ctx, hctx, .mode mode rfl⟩
    | none =>
      rw [withCore_core, Compressor.contexts_setMode_of_none hctx] at h
      exact ⟨b, h, hquiet⟩
  | quiet rests silent mode space contexts =>
    rw [contexts] at h
    exact ⟨b, h, .same (fun element hf => by cases silent.symm.trans hf) fun _ => rests⟩

end Rohccxx
