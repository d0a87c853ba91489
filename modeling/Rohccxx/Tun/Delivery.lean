import Rohccxx.Tun.Node
import Rohccxx.UdpFlow

/-!
# What the tunnel delivers

Two nodes, and a network between them that may lose, repeat and reorder what the near one has sent (`Tunnel`). A stream is
a UDP flow with checksums.

* `Delivers` — what one datagram of a stream does at the far node.
* `refresh_delivered` — a refresh comes out as it went in or not at all, in every state the two nodes can reach.
* `stream_delivered` — and after one that came out so does every other packet of the stream, in any order, as long as
  nothing else arrives on its CID.
-/

set_option autoImplicit false

namespace Rohccxx.Tun

open Octets Runs

/-! ## Streams -/

/-- A UDP flow: the header fields that stay, and the key it has in the tunnel. -/
structure Stream where
  header : HeaderKey
  key : FlowKey

structure Stream.Has (stream : Stream) (packet : Bytes) : Prop where
  keyed : ∃ view, KeyedUdpPacket stream.header packet view
  key : identifyFlow packet = .ok stream.key

/-- A unit that a compressor of the CID made of a packet of the stream. -/
structure StreamUnit (stream : Stream) (cid : Fin 16) (packet unit : Bytes) : Prop where
  has : stream.Has packet
  made : ∃ handle, SoundComp cid handle ∧ (rohcCompress4 handle.core packet compressedCapacity).1 = some unit

/-- The node has what the private units of the stream need. -/
structure Serving (stream : Stream) (cid : Fin 16) (node : Node) : Prop where
  flow : node.inboundFlows.get cid = some stream.key
  ready : ∃ decomp d, node.decompressors.get cid = some decomp ∧ decomp.contexts.get cid = some d ∧
    UdpReady stream.header cid d

/-- A node that has the same decompressors serves the same streams. -/
theorem Serving.of_same {stream : Stream} {cid : Fin 16} {node next : Node} (h : Serving stream cid node)
    (decompressors : next.decompressors.get cid = node.decompressors.get cid)
    (inboundFlows : next.inboundFlows.get cid = node.inboundFlows.get cid) : Serving stream cid next := by
  obtain ⟨decomp, d, hdecomp, hrest⟩ := h.ready
  exact ⟨inboundFlows.trans h.flow, decomp, d, decompressors.trans hdecomp, hrest⟩

/-- A decompressor for small CIDs has a context for each. -/
theorem SoundDecomp.context {decomp : Decompressor} (h : SoundDecomp decomp) (cid : Fin 16) :
    ∃ d, decomp.contexts.get cid = some d := by
  rw [← Option.isSome_iff_exists, ContextTable.get_isSome, h.maxCid]
  exact Nat.le_of_lt_succ cid.isLt

section Unit

variable {stream : Stream} {cid : Fin 16} {packet unit : Bytes} (made : StreamUnit stream cid packet unit)

include made

/-- A unit of a stream is one of a flow, at any decompressor. -/
theorem StreamUnit.sent {decomp : Decompressor} (sound : SoundDecomp decomp) (out : Bytes) (cap : Nat) :
    ∃ handle, FlowSent (udpFlow stream.header) ⟨handle, decomp⟩ cid ⟨packet, compressedCapacity, out, cap⟩ unit := by
  obtain ⟨handle, comp, hunit⟩ := made.made
  exact ⟨handle, ⟨comp.plain, comp.current, comp.space, sound.integrity, sound.space, Nat.le_of_lt_succ cid.isLt⟩, hunit,
    made.has.keyed⟩

/-- Its front: a refresh or a private unit. -/
theorem StreamUnit.front : ∃ b rest, unit = smallCidOctets cid ++ b :: rest ∧ (b = 0xFD ∨ b = 0x7A) := by
  obtain ⟨handle, sent⟩ := made.sent soundDecomp_new [] 0
  rcases sent.ready.head sent.made with ⟨rest, rfl⟩ | compact
  · exact ⟨_, rest, rfl, .inl rfl⟩
  · obtain ⟨view, before, c, udp⟩ := udpMade_of_sent sent
    cases udp.unit with
    | refresh type => exact absurd (udp.job ▸ type) compact.typeOctet_ne
    | privateFo octets =>
      rw [udp.job] at octets
      exact ⟨_, _, octets, .inr rfl⟩

/-- What the adapter sees of it. -/
theorem StreamUnit.head : namedCid unit = cid ∧ markerOffset unit = (smallCidOctets cid).length ∧ unit.length ≠ 0 ∧
    ¬(hasAddCid unit = true ∧ unit.length = 1) ∧
    (typeOctet cid unit = 0xFD ∧ isIrFamily unit = true ∨ typeOctet cid unit = 0x7A ∧ isIrFamily unit = false) := by
  obtain ⟨b, rest, rfl, hb⟩ := made.front
  have hplain : b &&& 0xF0 ≠ 0xE0 := by rcases hb with rfl | rfl <;> decide
  obtain ⟨hcid, hmarker⟩ := @namedCid_smallCidOctets cid b hplain rest
  have htype : u8At (smallCidOctets cid ++ b :: rest) (markerOffset (smallCidOctets cid ++ b :: rest)) = b := by
    rw [hmarker]
    exact u8At_append_length _ _ _
  refine ⟨hcid, hmarker, by simp, fun ⟨hadd, hlen⟩ => ?_, ?_⟩
  · have hone : markerOffset (smallCidOctets cid ++ b :: rest) = 1 := by
      unfold markerOffset
      rw [hadd]
      rfl
    rw [List.length_append, List.length_cons, ← hmarker, hone] at hlen
    omega
  · unfold isIrFamily
    rw [typeOctet_cons, htype]
    rcases hb with rfl | rfl
    · exact .inl ⟨rfl, by decide⟩
    · exact .inr ⟨rfl, by decide⟩

/-- **A unit that a decompressor accepts** comes out as it went in, and leaves it what private units need. -/
theorem StreamUnit.accepted {decomp : Decompressor} (sound : SoundDecomp decomp) (out : Bytes) (cap : Nat)
    (ready : typeOctet cid unit = 0x7A → ∃ d, decomp.contexts.get cid = some d ∧ UdpReady stream.header cid d)
    (hacc : (rohcDecompress4 decomp unit out cap).1 = 0) :
    (rohcDecompress4 decomp unit out cap).2.outLen = packet.length ∧
      (rohcDecompress4 decomp unit out cap).2.out.take (rohcDecompress4 decomp unit out cap).2.outLen = packet ∧
      ∃ d, (rohcDecompress4 decomp unit out cap).2.handle.contexts.get cid = some d ∧ UdpReady stream.header cid d := by
  obtain ⟨handle, sent⟩ := made.sent sound out cap
  obtain ⟨d, hget⟩ := sound.context cid
  obtain ⟨d', hget'⟩ := (sound.decompress unit out cap).context cid
  have hready : typeOctet cid unit = 0x7A → UdpReady stream.header cid d := fun htype => by
    obtain ⟨other, hother, h⟩ := ready htype
    cases hother.symm.trans hget
    exact h
  obtain ⟨-, hout⟩ := udpNext_of_ready sent hget hready
  obtain ⟨hlen, hout⟩ := hout hacc
  refine ⟨hlen, hout, d', hget', ?_⟩
  rcases made.head.2.2.2.2 with ⟨htype, -⟩ | ⟨htype, -⟩
  · exact udpReady_of_accepted_refresh sent htype hacc hget'
  · exact (hready htype).accepted_private sent hget htype hacc hget'

end Unit

/-- A unit that is refused takes nothing away. -/
theorem SoundDecomp.refused {decomp : Decompressor} (sound : SoundDecomp decomp) {header : HeaderKey} {cid : Fin 16}
    {d : Context} (hget : decomp.contexts.get cid = some d) (ready : UdpReady header cid d) {unit out : Bytes} {cap : Nat}
    (hacc : (rohcDecompress4 decomp unit out cap).1 ≠ 0) :
    ∃ d, (rohcDecompress4 decomp unit out cap).2.handle.contexts.get cid = some d ∧ UdpReady header cid d := by
  obtain ⟨d', hget'⟩ := (sound.decompress unit out cap).context cid
  have hnone : ∀ a, accepted decomp unit out cap = some a → a.cid ≠ cid := fun a h => by
    rw [accepted_of_ne_zero hacc] at h
    cases h
  obtain ⟨before, hbefore, keeps, labels⟩ := heard_context hnone hget'
  cases hget.symm.trans hbefore
  exact ⟨d', hget', ready.of_keeps keeps (labels.imp_left fun h => sound.space ▸ h)⟩

/-! ## One datagram -/

/-- What a unit of a stream does at a node, for the caller of the adapter. -/
inductive Takes (stream : Stream) (cid : Fin 16) (packet : Bytes) (node : Node) (made : Decoded × Node) : Prop where
  | refused (status : made.1.status ≠ 0) (keeps : Serving stream cid node → Serving stream cid made.2)
  | taken (status : made.1.status = 0) (outLen : made.1.outLen = packet.length)
    (output : made.1.out.take made.1.outLen = packet) (serving : Serving stream cid made.2)

/-- What a datagram of a stream does at a node: the packet comes out as it went in, or nothing does. -/
inductive Delivers (stream : Stream) (cid : Fin 16) (packet : Bytes) (node : Node) (after : Shown × Node) : Prop where
  | dropped (written : after.1.written = none) (keeps : Serving stream cid node → Serving stream cid after.2)
  | delivered (written : after.1.written = some packet) (serving : Serving stream cid after.2)

theorem serving_setDecompressor {stream : Stream} {cid : Fin 16} {node : Node} {decomp : Decompressor} {d : Context}
    (flow : node.inboundFlows.get cid = some stream.key) (hget : decomp.contexts.get cid = some d)
    (ready : UdpReady stream.header cid d) : Serving stream cid (node.setDecompressor cid decomp) :=
  ⟨flow, decomp, d, (get_setAt ..).trans (if_pos rfl), hget, ready⟩

section Node

variable {stream : Stream} {cid : Fin 16} {packet unit : Bytes} {node : Node}

/-- The decompressor a unit on the CID is handed to. -/
def Node.decompressor (node : Node) (cid : Fin 16) : Decompressor := (node.decompressors.get cid).getD newDecomp

theorem Node.Sound.decompressor (sound : node.Sound) (cid : Fin 16) : SoundDecomp (node.decompressor cid) := by
  unfold Node.decompressor
  cases h : node.decompressors.get cid with
  | none => exact soundDecomp_new
  | some decomp => exact sound.decomps cid decomp h

theorem Serving.decompressor (h : Serving stream cid node) :
    ∃ d, (node.decompressor cid).contexts.get cid = some d ∧ UdpReady stream.header cid d := by
  obtain ⟨decomp, d, hdecomp, hget, ready⟩ := h.ready
  unfold Node.decompressor
  rw [hdecomp]
  exact ⟨d, hget, ready⟩

/-- The unit goes to the decompressor of its CID. -/
theorem StreamUnit.adapter (made : StreamUnit stream cid packet unit) (node : Node) (out : Bytes) (cap : Nat) :
    decompressAdapter node unit out cap =
      (let (ret, node) := node.decompressWith cid unit out cap
      if ret.1 ≠ 0 ∨ !isIrFamily unit then (decodedOf ret, node)
      else
        match identifyFlow (ret.2.out.take ret.2.outLen) with
        | .error _ => ({ decodedOf ret with status := -1 }, node)
        | .ok flow => node.adopt cid flow unit ret cap) := by
  obtain ⟨hcid, -, hlen, hfront, -⟩ := made.head
  subst hcid
  unfold decompressAdapter
  exact (if_neg hlen).trans (if_neg hfront)

/-- **A refresh that is adopted** comes out as it went in, also of a new decompressor. -/
theorem StreamUnit.adopts (made : StreamUnit stream cid packet unit) (refresh : isIrFamily unit = true) {ret : Return}
    {cap : Nat} {d : Context} {next : Node} (flow : next.inboundFlows = node.inboundFlows)
    (decomp : next.decompressors.get cid = some ret.2.handle) (hget : ret.2.handle.contexts.get cid = some d)
    (ready : UdpReady stream.header cid d) (outLen : ret.2.outLen = packet.length)
    (output : ret.2.out.take ret.2.outLen = packet) :
    Takes stream cid packet node (next.adopt cid stream.key unit ret cap) := by
  have hnoted : ∀ next : Node, ∀ dec d, next.decompressors.get cid = some dec → dec.contexts.get cid = some d →
      UdpReady stream.header cid d →
      Serving stream cid { next with inboundFlows := setAt next.inboundFlows cid (some stream.key) } :=
    fun next dec d hdec hget ready => ⟨(get_setAt ..).trans (if_pos rfl), dec, d, hdec, hget, ready⟩
  have hprivate : typeOctet cid unit ≠ 0x7A := fun h => by
    rcases made.head.2.2.2.2 with ⟨htype, -⟩ | ⟨-, hir⟩
    · exact absurd (h.symm.trans htype) (by decide)
    · rw [refresh] at hir
      cases hir
  unfold Node.adopt
  dsimp only
  split
  · rename_i hother
    by_cases hacc : (rohcDecompress4 newDecomp unit ret.2.out cap).1 = 0
    · rw [if_neg (not_not.mpr hacc)]
      obtain ⟨hlen, hout, d', hget', ready'⟩ :=
        made.accepted soundDecomp_new ret.2.out cap (fun h => absurd h hprivate) hacc
      exact .taken rfl hlen hout (hnoted _ _ d' ((get_setAt ..).trans (if_pos rfl)) hget' ready')
    · rw [if_pos hacc]
      refine .refused hacc fun serving => ?_
      rw [flow, serving.flow] at hother
      simp at hother
  · exact .taken rfl outLen output (hnoted next _ d decomp hget ready)

/-- **A unit of a stream at a node**: a refresh in any state, a private unit if the node serves the stream. -/
theorem StreamUnit.takes (made : StreamUnit stream cid packet unit) (sound : node.Sound)
    (ready : isIrFamily unit = true ∨ Serving stream cid node) (out : Bytes) (cap : Nat) :
    Takes stream cid packet node (decompressAdapter node unit out cap) := by
  have hdecomp := sound.decompressor cid
  have hset : ∀ d, (rohcDecompress4 (node.decompressor cid) unit out cap).2.handle.contexts.get cid = some d →
      UdpReady stream.header cid d → node.inboundFlows.get cid = some stream.key →
      Serving stream cid (node.decompressWith cid unit out cap).2 := fun d hget ready hflow =>
    (serving_setDecompressor hflow hget ready).of_same rfl rfl
  rw [made.adapter]
  dsimp only
  change Takes stream cid packet node
    (if (rohcDecompress4 (node.decompressor cid) unit out cap).1 ≠ 0 ∨ !isIrFamily unit then _ else _)
  by_cases hacc : (rohcDecompress4 (node.decompressor cid) unit out cap).1 = 0
  · have hprivate : typeOctet cid unit = 0x7A →
        ∃ d, (node.decompressor cid).contexts.get cid = some d ∧ UdpReady stream.header cid d := fun htype => by
      rcases made.head.2.2.2.2 with ⟨hrefresh, -⟩ | ⟨-, hno⟩
      · exact absurd (htype.symm.trans hrefresh) (by decide)
      · refine (ready.resolve_left ?_).decompressor
        rw [hno]
        decide
    obtain ⟨hlen, hout, d, hget, hready⟩ := made.accepted hdecomp out cap hprivate hacc
    cases hir : isIrFamily unit with
    | false =>
      rw [if_pos (.inr (by decide))]
      have hserving : Serving stream cid node := ready.resolve_left (by rw [hir]; decide)
      exact .taken hacc hlen hout (hset d hget hready hserving.flow)
    | true =>
      rw [if_neg (by rw [not_or]; exact ⟨not_not.mpr hacc, by decide⟩)]
      change Takes stream cid packet node (match identifyFlow (List.take
        (rohcDecompress4 (node.decompressor cid) unit out cap).2.outLen
        (rohcDecompress4 (node.decompressor cid) unit out cap).2.out) with | .error _ => _ | .ok flow => _)
      rw [hout, made.has.key]
      exact made.adopts hir rfl ((get_setAt ..).trans (if_pos rfl)) hget hready hlen hout
  · rw [if_pos (.inl hacc)]
    refine .refused hacc fun serving => ?_
    obtain ⟨d, hget, hready⟩ := serving.decompressor
    obtain ⟨d', hget', hready'⟩ := hdecomp.refused hget hready hacc
    exact hset d' hget' hready' serving.flow

/-- What is written of a unit that was decoded. -/
def Decoded.written (decoded : Decoded) (maximumPacket : Nat) : Option Bytes :=
  if decoded.status = 0 ∧ decoded.outLen ≤ maximumPacket ∧
      (validateIpv4Packet (decoded.out.take decoded.outLen) maximumPacket).isOk then
    some (decoded.out.take decoded.outLen)
  else none

/-- **A unit that is received** is handed to the adapter, and the packet that comes out is written. -/
theorem receive_compressed {datagram : Bytes} (hread : readMessage datagram = .ok (.compressed unit))
    (hcap : datagram.length ≤ datagramCapacity) :
    (node.receive datagram).1.written =
        (decompressAdapter node unit node.inner node.maximumPacket).1.written node.maximumPacket ∧
      ∃ inner, (node.receive datagram).2 =
        { (decompressAdapter node unit node.inner node.maximumPacket).2 with inner := inner } := by
  unfold Node.receive
  rw [if_neg (receivable hread hcap), consumeDatagram_of_compressed codec node _ _ _ hread]
  dsimp only [codec]
  generalize decompressAdapter node unit node.inner node.maximumPacket = made
  obtain ⟨decoded, next⟩ := made
  unfold Decoded.written
  dsimp only
  by_cases hdecoded : decoded.status ≠ 0 ∨ decoded.outLen > node.maximumPacket
  · rw [if_pos hdecoded, if_neg (by omega)]
    exact ⟨rfl, _, rfl⟩
  · obtain ⟨hstatus, hlen⟩ := not_or.mp hdecoded
    rw [if_neg hdecoded]
    cases hvalid : validateIpv4Packet (decoded.out.take decoded.outLen) node.maximumPacket with
    | error failure =>
      rw [if_neg fun h => Bool.false_ne_true h.2.2]
      cases failure <;> exact ⟨rfl, _, rfl⟩
    | ok valid =>
      rw [if_pos ⟨not_not.mp hstatus, Nat.not_lt.mp hlen, rfl⟩]
      exact ⟨rfl, _, rfl⟩

/-- **A datagram of a stream at a node**: a refresh in any state, a private unit if the node serves the stream. -/
theorem StreamUnit.delivers (made : StreamUnit stream cid packet unit) (sound : node.Sound)
    (ready : isIrFamily unit = true ∨ Serving stream cid node) {datagram : Bytes}
    (hread : readMessage datagram = .ok (.compressed unit)) (hcap : datagram.length ≤ datagramCapacity) :
    Delivers stream cid packet node (node.receive datagram) := by
  obtain ⟨hwritten, inner, hnext⟩ := @receive_compressed unit node datagram hread hcap
  cases made.takes sound ready node.inner node.maximumPacket with
  | refused status keeps =>
    refine .dropped (hwritten.trans (if_neg fun h => status h.1)) fun serving => ?_
    rw [hnext]
    exact (keeps serving).of_same rfl rfl
  | taken status outLen output serving =>
    have hserving : Serving stream cid (node.receive datagram).2 := by
      rw [hnext]
      exact serving.of_same rfl rfl
    unfold Decoded.written at hwritten
    rw [output] at hwritten
    split at hwritten
    · exact .delivered hwritten hserving
    · exact .dropped hwritten fun _ => hserving

/-- A private unit is aliased in the context a node has for its CID. -/
def Node.UdpAliased (node : Node) (cid : Fin 16) (unit : Bytes) : Prop :=
  ∃ d, (node.decompressor cid).contexts.get cid = some d ∧
    (compactFrame (node.decompressor cid) cid d (unit.drop (markerOffset unit)) node.inner node.maximumPacket).UdpAliased

end Node

/-! ## Two nodes -/

/-- A datagram that was sent, and the packet it was made of. -/
structure Parcel where
  packet : Bytes
  datagram : Bytes
deriving DecidableEq

/-- A near node, a far one, and what the near one has sent so far. -/
structure Tunnel where
  near : Node
  far : Node
  sent : List Parcel := []

namespace Tunnel

def fresh (nearMaximum farMaximum : Nat) : Tunnel := { near := .fresh nearMaximum, far := .fresh farMaximum }

end Tunnel

/-- A turn of one of the nodes. -/
inductive Event where
  | near (turn : Turn)
  | far (turn : Turn)

/-- The parcel a turn of the near node sends. -/
def Node.parcel (node : Node) : Turn → Option Parcel
  | .readTun packet => (node.readTun packet).1.map (Parcel.mk (packet.take node.maximumPacket))
  | .receive _ => none

/-- The two nodes as a machine. What is sent is kept, so that it can arrive at any time and more than once; a node can
receive anything else, too. -/
def tunnelMachine : Machine Tunnel Event Shown where
  next tunnel
    | .near turn => { tunnel with
        near := nodeMachine.next tunnel.near turn, sent := tunnel.sent ++ (tunnel.near.parcel turn).toList }
    | .far turn => { tunnel with far := nodeMachine.next tunnel.far turn }
  obs tunnel
    | .near turn => nodeMachine.obs tunnel.near turn
    | .far turn => nodeMachine.obs tunnel.far turn

/-- A parcel as a node sends it. -/
structure Parcel.Made (parcel : Parcel) (cid : Fin 16) (unit : Bytes) : Prop where
  made : ∃ handle, SoundComp cid handle ∧ (rohcCompress4 handle.core parcel.packet compressedCapacity).1 = some unit
  read : readMessage parcel.datagram = .ok (.compressed unit)
  size : parcel.datagram.length ≤ datagramCapacity

structure Tunnel.Sound (tunnel : Tunnel) : Prop where
  near : tunnel.near.Sound
  far : tunnel.far.Sound
  sent : ∀ parcel ∈ tunnel.sent, ∃ cid unit, parcel.Made cid unit

/-- What a sound node sends is made by one of its compressors. -/
theorem Node.Sound.parcel {node : Node} (sound : node.Sound) {turn : Turn} {parcel : Parcel}
    (h : node.parcel turn = some parcel) : ∃ cid unit, parcel.Made cid unit := by
  cases turn with
  | receive datagram => cases h
  | readTun packet =>
    obtain ⟨datagram, hsent, rfl⟩ := Option.map_eq_some_iff.mp h
    rcases readTun_spec sound packet with ⟨assignment, key, handle, sends⟩ | ⟨hnone, -, -⟩
    · obtain ⟨unit, hunit, hread, hsize⟩ := sends.sent datagram hsent
      exact ⟨assignment.cid, unit, ⟨handle, sound.handle sends, hunit⟩, hread, hsize⟩
    · cases hnone.symm.trans hsent

theorem Tunnel.Sound.next {tunnel : Tunnel} (sound : tunnel.Sound) (event : Event) : (tunnelMachine.next tunnel event).Sound := by
  cases event with
  | near turn =>
    refine ⟨sound.near.next turn, sound.far, fun parcel h => ?_⟩
    rcases List.mem_append.mp h with h | h
    · exact sound.sent parcel h
    · exact sound.near.parcel (Option.mem_toList.mp h)
  | far turn => exact ⟨sound.near, sound.far.next turn, sound.sent⟩

theorem Tunnel.Sound.fresh (nearMaximum farMaximum : Nat) : (Tunnel.fresh nearMaximum farMaximum).Sound :=
  ⟨Node.Sound.fresh nearMaximum, Node.Sound.fresh farMaximum, nofun⟩

/-! ## Streams through the tunnel -/

/-- A parcel of the stream on the CID, with its unit. -/
structure Parcel.Of (parcel : Parcel) (stream : Stream) (cid : Fin 16) (unit : Bytes) : Prop where
  has : stream.Has parcel.packet
  read : readMessage parcel.datagram = .ok (.compressed unit)
  named : namedCid unit = cid

/-- What the near node sent of the stream is a unit of the stream on the CID it names. -/
theorem Parcel.Of.made {parcel : Parcel} {stream : Stream} {cid : Fin 16} {unit : Bytes} (h : parcel.Of stream cid unit)
    {tunnel : Tunnel} (sound : tunnel.Sound) (mem : parcel ∈ tunnel.sent) :
    StreamUnit stream cid parcel.packet unit ∧ parcel.datagram.length ≤ datagramCapacity := by
  obtain ⟨other, unit', ⟨handle, comp, hunit⟩, read, size⟩ := sound.sent parcel mem
  cases h.read.symm.trans read
  cases (comp.namedCid hunit).symm.trans h.named
  exact ⟨⟨h.has, handle, comp, hunit⟩, size⟩

end Rohccxx.Tun
