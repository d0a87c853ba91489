import Rohccxx.CompWindow
import Rohccxx.Tun.Node

/-!
# Recovery

A NACK or a STATIC-NACK for a CID takes its context back from the state in which compact units are sent, and only a packet
on the CID can bring it there again (`Owes`). So the next unit on the CID is a refresh, whatever the node reads for other
flows and receives in between (`feedback_brings_refresh`).
-/

set_option autoImplicit false

namespace Rohccxx

open Octets CompHandle

/-! ## One compressor -/

/-- Feedback that leaves a context established is an ACK. -/
theorem ack_of_applyFeedbackToContext {ctx : Context} {feedback : Feedback}
    (h : (applyFeedbackToContext ctx feedback).rohcState = .dynamicEstablished) : feedback.type = .ack := by
  unfold applyFeedbackToContext at h
  dsimp only at h
  split at h
  · assumption
  · cases h
  · split at h
    · cases h
    · cases h

theorem feedbackTypeOf_lost {type : UInt8} (h : type = 0 ∨ type = 1) :
    ∃ element, feedbackTypeOf type = some element ∧ element ≠ .ack := by
  rcases h with rfl | rfl
  · exact ⟨.nack, rfl, by decide⟩
  · exact ⟨.staticNack, rfl, by decide⟩

/-- The call establishes no context, and a NACK leaves the one of its CID unestablished. -/
theorem established_handleFeedback {handle : CompHandle} {slot cid : Nat} {type : UInt8} {b : Context}
    (hb : ((CompCall.handleFeedback slot type).acts.foldl CompHandle.act handle).context cid = some b)
    (hstate : b.rohcState = .dynamicEstablished) :
    ∃ a, handle.context cid = some a ∧ a.rohcState = .dynamicEstablished ∧ (slot = cid → ¬(type = 0 ∨ type = 1)) := by
  unfold CompCall.acts at hb
  dsimp only at hb
  cases htype : feedbackTypeOf type with
  | none =>
    rw [htype] at hb
    refine ⟨b, hb, hstate, fun _ hlost => ?_⟩
    obtain ⟨element, he, -⟩ := feedbackTypeOf_lost hlost
    cases htype.symm.trans he
  | some element =>
    rw [htype] at hb
    obtain ⟨a, ha, turned⟩ := @context_act _ (.element slot element none) _ _ hb
    refine ⟨a, ha, ?_⟩
    cases turned with
    | same unfed rests => exact ⟨hstate, fun he => absurd he (unfed _ rfl)⟩
    | mode mode set => cases set
    | branch here runs => cases runs
    | feedback feeds here =>
      cases feeds
      have hack : element = .ack := ack_of_applyFeedbackToContext hstate
      refine ⟨applyFeedbackToContext_state hstate, fun _ hlost => ?_⟩
      obtain ⟨lost, he, hne⟩ := feedbackTypeOf_lost hlost
      cases htype.symm.trans he
      exact hne hack

/-- **A branch that does not start from an established context** makes an IR or an IR-DYN. -/
theorem BranchStep.refresh {comp : Compressor} {packet unit : Bytes} {view : ParsedIpView} {a b : Context}
    (h : BranchStep comp packet view a (.ok unit) b) (hstate : a.rohcState ≠ .dynamicEstablished) :
    ∃ (ctx : Context) (type code : UInt8), ctx.cid = comp.currentCid ∧ ctx.largeCid = comp.largeCidSpace ∧
      (type = 0xFD ∨ type = 0xF8) ∧ irFront ctx type code <+: unit := by
  have hlabels := prepareContext_cid comp a (chooseProfile packet view)
  cases h with
  | @sends _ header mid compressed captured emitted front =>
    have hcid : (capturedBy comp packet view a).cid = comp.currentCid :=
      (congrArg (·.2.2.2.2.2.1) captured.settled).trans hlabels.1
    have hlarge : (capturedBy comp packet view a).largeCid = comp.largeCidSpace :=
      (congrArg (·.2.2.2.2.2.2.1) captured.settled).trans hlabels.2
    have hno : ¬Compact (capturedBy comp packet view a) := fun compact => by
      have hprepared : (prepared comp packet view a).rohcState = .dynamicEstablished :=
        captured.state.symm.trans compact.settled.state
      rcases prepareContext_cases comp a (chooseProfile packet view) with continues | restarts
      · exact hstate (continues.state.symm.trans hprepared)
      · cases restarts.state.symm.trans hprepared
    cases emitted with
    | ir state hfront => exact ⟨_, _, _, hcid, hlarge, .inl rfl, hfront.trans front⟩
    | irDyn later lite hfront => exact ⟨_, _, _, hcid, hlarge, .inr rfl, hfront.trans front⟩
    | pt0 compact => exact absurd compact hno
    | fo compact => exact absurd compact hno
  | whole whole front => exact ⟨_, _, _, hlabels.1, hlabels.2, .inl rfl, front⟩
  | fails failed => cases failed
  | wholeFails failed => cases failed

end Rohccxx

namespace Rohccxx.Tun

open Octets Runs

/-- A compressor whose context is not established sends a refresh. -/
theorem SoundComp.refresh {cid : Nat} {handle : CompHandle} (h : SoundComp cid handle)
    (hstate : ∀ ctx, handle.context cid = some ctx → ctx.rohcState ≠ .dynamicEstablished) {packet unit : Bytes} {cap : Nat}
    (hunit : (rohcCompress4 handle.core packet cap).1 = some unit) :
    typeOctet cid unit = 0xFD ∨ typeOctet cid unit = 0xF8 := by
  obtain ⟨view, before, after, -, hbefore, hrun, -⟩ := rohcCompress4_ok h.plain (Prod.ext hunit rfl)
  rw [h.current] at hbefore
  obtain ⟨ctx, type, code, hcid, hlarge, htype, rest, rfl⟩ := (runBranch_cases hrun).refresh (hstate before hbefore)
  have hfront : irFront ctx type code = smallCidOctets cid ++ [type, code] := by
    simp [irFront, addCidOctets, largeCidOctets, smallCidOctets, hcid, hlarge, h.current, h.space]
  rw [hfront, List.append_assoc, List.cons_append, typeOctet_cons]
  exact htype

/-! ## A node -/

/-- The node owes the receiver of the CID a refresh. -/
def Owes (cid : Fin 16) (node : Node) : Prop :=
  ∀ handle ctx, node.compressors.get cid = some handle → handle.context cid = some ctx → ctx.rohcState ≠ .dynamicEstablished

/-- The turn reads no packet of the flow on the CID. -/
def Spares (cid : Fin 16) (node : Node) : Turn → Prop
  | .readTun packet => ∀ assignment : FlowAssignment,
      (node.flows.select (packet.take node.maximumPacket)).1 = .ok assignment → assignment.cid ≠ cid
  | .receive _ => True

theorem feedbackAdapter_get (node : Node) (slot : UInt32) (type : UInt8) (cid : Fin 16) :
    (feedbackAdapter node slot type).compressors.get cid =
      if slot.toNat = cid.val then (node.compressors.get cid).map
        fun handle => (CompCall.handleFeedback slot.toNat type).acts.foldl CompHandle.act handle
      else node.compressors.get cid := by
  have hlt := cid.isLt
  unfold feedbackAdapter
  by_cases h : slot.toNat < 16
  · rw [dif_pos h]
    dsimp only
    by_cases hcid : slot.toNat = cid.val
    · have he : (⟨slot.toNat, h⟩ : Fin 16) = cid := Fin.ext hcid
      rw [if_pos hcid, he]
      cases hcomp : node.compressors.get cid with
      | none => exact hcomp
      | some handle => exact (get_setAt ..).trans (if_pos rfl)
    · rw [if_neg hcid]
      split
      · rfl
      · exact (get_setAt ..).trans (if_neg fun he => hcid (congrArg Fin.val he))
  · rw [dif_neg h, if_neg (by omega)]

/-- **Feedback that is received** goes to the compressor of its CID. -/
theorem receive_feedback {node : Node} {datagram : Bytes} {slot : UInt32} {type : UInt8}
    (hread : readMessage datagram = .ok (.feedback slot type)) (hsize : datagram.length ≤ datagramCapacity) :
    (node.receive datagram).2.compressors = (feedbackAdapter node slot type).compressors := by
  unfold Node.receive
  rw [if_neg (receivable hread hsize), consumeDatagram_of_feedback codec node _ _ _ hread]
  rfl

namespace Owes

variable {node : Node} {cid : Fin 16}

/-- No feedback lifts the debt, and a NACK makes it. -/
theorem of_feedback {next : Node} {slot : UInt32} {type : UInt8}
    (compressors : next.compressors = (feedbackAdapter node slot type).compressors)
    (h : Owes cid node ∨ slot.toNat = cid.val ∧ (type = 0 ∨ type = 1)) : Owes cid next := by
  intro handle ctx hhandle hctx hstate
  rw [compressors, feedbackAdapter_get] at hhandle
  split at hhandle
  · obtain ⟨before, hbefore, rfl⟩ := Option.map_eq_some_iff.mp hhandle
    obtain ⟨a, ha, hestablished, htype⟩ := established_handleFeedback hctx hstate
    rcases h with owes | ⟨hslot, hlost⟩
    · exact owes before a hbefore ha hestablished
    · exact htype hslot hlost
  · rename_i hslot
    exact h.resolve_right (fun hno => hslot hno.1) handle ctx hhandle hctx hstate

/-- **One step**: the debt stays as long as no packet of the flow is read. -/
theorem next (sound : node.Sound) (owes : Owes cid node) {turn : Turn} (spares : Spares cid node turn) :
    Owes cid (nodeMachine.next node turn) := by
  have hsame : ∀ next : Node, next.compressors.get cid = node.compressors.get cid → Owes cid next :=
    fun next he handle ctx hhandle => owes handle ctx (he.symm.trans hhandle)
  cases turn with
  | readTun packet =>
    rcases readTun_spec sound packet with ⟨assignment, key, handle, sends⟩ | ⟨-, comps, -⟩
    · refine hsame _ ?_
      change (node.readTun packet).2.compressors.get cid = _
      rw [sends.compressors, get_setAt, if_neg (spares assignment sends.select)]
    · exact hsame _ (congrArg (Vector.get · cid) comps.compressors)
  | receive datagram =>
    cases receive_spec node datagram with
    | compressed read step => exact hsame _ (congrArg (Vector.get · cid) step.comps.compressors)
    | feedback read decomps flows compressors => exact .of_feedback compressors (.inl owes)
    | ignored comps decomps => exact hsame _ (congrArg (Vector.get · cid) comps.compressors)

/-- **The debt is paid** by the next unit on the CID. -/
theorem paid (sound : node.Sound) (owes : Owes cid node) {packet datagram unit : Bytes}
    (hsent : (node.readTun packet).1 = some datagram) (hread : readMessage datagram = .ok (.compressed unit))
    (named : namedCid unit = cid) : typeOctet cid unit = 0xFD ∨ typeOctet cid unit = 0xF8 := by
  rcases readTun_spec sound packet with ⟨assignment, key, handle, sends⟩ | ⟨hnone, -, -⟩
  · obtain ⟨unit', hunit, hread', -⟩ := sends.sent datagram hsent
    cases hread.symm.trans hread'
    have hcomp := sound.handle sends
    cases (hcomp.namedCid hunit).symm.trans named
    refine hcomp.refresh (fun ctx hctx => ?_) hunit
    rcases sends.old with rfl | hold
    · have hfresh : (CompHandle.fresh 15 .uplink).context assignment.cid = some ctx := hctx
      rw [context_fresh hfresh]
      decide
    · exact owes handle ctx hold hctx
  · cases hnone.symm.trans hsent

end Owes

/-- **Feedback brings a refresh**: once a NACK or a STATIC-NACK for a CID has arrived at a node, in whatever state, the next
unit it sends on the CID is an IR or an IR-DYN. In between it may read packets of other flows, and receive anything. -/
theorem feedback_brings_refresh {maximumPacket : Nat} {turns later : List (Turn × Shown)} {node node' : Node}
    (run : Reaches (nodeMachine.Step fun _ _ => True) (Node.fresh maximumPacket) turns node) {datagram : Bytes}
    {slot : UInt32} {type : UInt8} (hfeedback : readMessage datagram = .ok (.feedback slot type))
    (hsize : datagram.length ≤ datagramCapacity) {cid : Fin 16} (hslot : slot.toNat = cid.val) (hlost : type = 0 ∨ type = 1)
    (rest : Reaches (nodeMachine.Step (Spares cid)) (nodeMachine.next node (.receive datagram)) later node')
    {packet sent unit : Bytes} (hsent : (node'.readTun packet).1 = some sent)
    (hread : readMessage sent = .ok (.compressed unit)) (named : namedCid unit = cid) :
    typeOctet cid unit = 0xFD ∨ typeOctet cid unit = 0xF8 := by
  have sound := sound_of_reaches run
  have howes : Owes cid (nodeMachine.next node (.receive datagram)) :=
    .of_feedback (receive_feedback hfeedback hsize) (.inr ⟨hslot, hlost⟩)
  obtain ⟨sound', owes⟩ := rest.invariant (P := fun _ node => node.Sound ∧ Owes cid node)
    ⟨sound.next _, howes⟩ (by
      rintro turns node ⟨turn, shown⟩ next ⟨sound, owes⟩ ⟨-, rfl, spares⟩
      exact ⟨sound.next turn, owes.next sound spares⟩)
  exact owes.paid sound' hsent hread named

/-- A node that has read three packets of a flow: the next unit would be a private one. -/
def servedNode : Node := nodeMachine.after (Node.fresh 100) (List.replicate 3 (.readTun shortUdpPacket))

def feedbackDatagram (type : FeedbackType) : Bytes := envelope ⟨.feedback, be32 0 ++ [type.toOctet]⟩

/-- The node that has received a NACK. -/
def nackedNode : Node := nodeMachine.next servedNode (.receive (feedbackDatagram .nack))

/-- An ACK comes behind it. -/
def ackedNode : Node := nodeMachine.after nackedNode [.receive (feedbackDatagram .ack)]

/-- The refresh in place of a private unit. -/
def nackedIr : Bytes :=
  [253, 2, 17, 64, 17, 10, 0, 0, 1, 10, 0, 0, 2, 3, 232, 7, 208, 6, 0, 64, 0, 1, 0, 0, 0, 2, 0, 7]

theorem feedback_brings_refresh_nacked : (ackedNode.readTun shortUdpPacket).1 = some (envelope ⟨.compressed, nackedIr⟩) ∧
    (typeOctet (lowNibble 0) nackedIr = 0xFD ∨ typeOctet (lowNibble 0) nackedIr = 0xF8) := by
  have hsent : (ackedNode.readTun shortUdpPacket).1 = some (envelope ⟨.compressed, nackedIr⟩) := by decide +kernel
  have run : Reaches (nodeMachine.Step fun _ _ => True) (Node.fresh 100)
      (nodeMachine.trace (Node.fresh 100) (List.replicate 3 (.readTun shortUdpPacket))) servedNode :=
    Machine.reaches_trace ⟨trivial, trivial, trivial, trivial⟩
  have rest : Reaches (nodeMachine.Step (Spares (lowNibble 0))) nackedNode
      (nodeMachine.trace nackedNode [.receive (feedbackDatagram .ack)]) ackedNode :=
    Machine.reaches_trace ⟨trivial, trivial⟩
  exact ⟨hsent, @feedback_brings_refresh _ _ _ _ _ run (feedbackDatagram .nack) 0 0 rfl (by decide) (lowNibble 0) rfl
    (.inl rfl) rest _ _ nackedIr hsent rfl rfl⟩

end Rohccxx.Tun
