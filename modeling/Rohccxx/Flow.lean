import Rohccxx.Refresh

/-!
# Flows

A flow is a link from an accepted refresh on: packets of one kind, each sent as a refresh or as a compact unit, some
of them lost on the way, and in between whatever both ends do that has nothing to do with the CID. `Flow.invariant`
is the induction over it: a relation between the two contexts that survives these steps holds throughout.
-/

set_option autoImplicit false

namespace Rohccxx

open Octets

/-- The packets of a flow, the types of its compact units and of those that may be lost, how many the receiver may have
missed before a compact one that it takes, and whether feedback for the CID may reach the sender. -/
structure FlowKind where
  packet : Bytes → Prop
  compact : UInt8 → Prop
  loses : UInt8 → Prop
  near : Link → Nat → Nat → Prop
  fed : Prop

/-- A packet of a flow, and its unit. -/
structure FlowSent (kind : FlowKind) (link : Link) (cid : Nat) (x : Exchange) (unit : Bytes) : Prop where
  ready : link.Ready cid
  made : link.unit x = some unit
  packet : kind.packet x.packet

/-- The states of a link whose receiver has accepted a refresh of a flow, whatever both ends were before, and has missed
`lost` units since the last one it accepted. In between the sender may do anything that compresses
nothing on the CID, and the receiver may be handed anything it accepts nothing of on the CID. -/
inductive Flow (kind : FlowKind) (cid : Nat) : Nat → Link → Prop where
  | refreshed {link : Link} {x : Exchange} {unit : Bytes} (sent : FlowSent kind link cid x unit)
    (type : typeOctet cid unit = 0xFD) (accepted : (link.answer x unit).1 = 0) : Flow kind cid 0 (link.exchanged x unit)
  | carried {lost : Nat} {link : Link} {x : Exchange} {unit : Bytes} (flow : Flow kind cid lost link)
    (sent : FlowSent kind link cid x unit) (type : kind.compact (typeOctet cid unit)) (near : kind.near link cid lost)
    (accepted : (link.answer x unit).1 = 0) : Flow kind cid 0 (link.exchanged x unit)
  | missed {lost : Nat} {link : Link} {x : Exchange} {unit : Bytes} (flow : Flow kind cid lost link)
    (sent : FlowSent kind link cid x unit) (type : kind.loses (typeOctet cid unit)) :
    Flow kind cid (lost + 1) (link.sent x)
  | acted {lost : Nat} {link : Link} {act : CompAct} (flow : Flow kind cid lost link)
    (alone : link.sender.LeavesAlone cid act)
    (quiet : ∀ element, link.sender.feeds act = some element → element.cid = cid → kind.fed) :
    Flow kind cid lost (link.acted act)
  | heard {lost : Nat} {link : Link} {input out : Bytes} {cap : Nat} (flow : Flow kind cid lost link)
    (other : ∀ a, accepted link.receiver input out cap = some a → a.cid ≠ cid) :
    Flow kind cid lost (link.heard input out cap)

/-- The contexts of the two ends are related. -/
def Link.Relates (link : Link) (cid : Nat) (R : Context → Context → Prop) : Prop :=
  ∀ c d, link.sender.context cid = some c → link.receiver.contexts.get cid = some d → R c d

/-- No call of a flow leaves the small-CID space. -/
theorem Flow.space {kind : FlowKind} {cid lost : Nat} {link : Link} (flow : Flow kind cid lost link) :
    link.receiver.largeCidSpace = false := by
  induction flow with
  | @refreshed link x unit sent =>
    exact (heard_settings link.receiver unit x.out x.room).largeCidSpace.trans sent.ready.space
  | @carried lost link x unit flow sent =>
    exact (heard_settings link.receiver unit x.out x.room).largeCidSpace.trans sent.ready.space
  | missed _ _ _ ih => exact ih
  | acted _ _ _ ih => exact ih
  | @heard lost link input out cap flow other ih =>
    exact (heard_settings link.receiver input out cap).largeCidSpace.trans ih

/-- **Induction over a flow.** What relates the two contexts after a refresh, and survives the units of the flow, acts that
keep the header fields of the sender's context and labels that are written to the receiver's, relates them throughout. -/
theorem Flow.invariant {kind : FlowKind} {cid lost : Nat} {link : Link} (flow : Flow kind cid lost link)
    {R : Nat → Context → Context → Prop}
    (acted : ∀ {n c c' d}, R n c d → SameFlow c c' → (¬kind.fed → SameWindow c c') → R n c' d)
    (heard : ∀ {n c d d'}, R n c d → KeepsContext d d' → (d'.labels = (cid, false) ∨ d'.labels = d.labels) → R n c d')
    (refreshed : ∀ {link x unit}, FlowSent kind link cid x unit → typeOctet cid unit = 0xFD → (link.answer x unit).1 = 0 →
      (link.exchanged x unit).Relates cid (R 0))
    (carried : ∀ {n link x unit}, link.Relates cid (R n) → FlowSent kind link cid x unit →
      kind.compact (typeOctet cid unit) → kind.near link cid n → (link.answer x unit).1 = 0 →
      (link.exchanged x unit).Relates cid (R 0))
    (missed : ∀ {n link x unit}, link.Relates cid (R n) → FlowSent kind link cid x unit →
      kind.loses (typeOctet cid unit) → (link.sent x).Relates cid (R (n + 1))) : link.Relates cid (R lost) := by
  induction flow with
  | refreshed sent type accepted => exact refreshed sent type accepted
  | carried flow sent type near accepted ih => exact carried ih sent type near accepted
  | missed flow sent type ih => exact missed ih sent type
  | @acted lost link act flow alone quiet ih =>
    intro c d hc hd
    obtain ⟨before, hbefore, hsame⟩ := alone.context hc
    refine acted (ih before d hbefore hd) hsame fun hfed => alone.window (fun element feeds here => ?_) hbefore hc
    exact hfed (quiet element feeds here)
  | @heard lost link input out cap flow other ih =>
    intro c d' hc hd
    obtain ⟨d, hget, keeps, hlabel⟩ := heard_context other hd
    exact heard (ih c d hc hget) keeps (hlabel.imp_left fun e => flow.space ▸ e)

end Rohccxx
