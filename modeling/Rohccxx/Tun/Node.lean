import Rohccxx.Refresh
import Rohccxx.Tun.Frames

/-!
# A node of the tunnel

The loop of the program: a packet from the TUN device goes to the compressor of its flow, a datagram from the peer to the
decompressor of the CID its unit names. A node keeps sixteen of each; a compressor is replaced when its CID goes to another
flow, a decompressor when it is refreshed with a packet of another flow.

* `Node.readTun`, `Node.receive` — what one turn of the loop does with a packet and with a datagram.
* `Node.Sound` — what holds of every node that has only taken such turns (`sound_of_reaches`).
* `datagram_stays_on_its_cid` — a datagram has no effect but on the CID its sender gave to the flow.
-/

set_option autoImplicit false

namespace Rohccxx.Tun

open Octets Runs

/-! ## The state of a node -/

theorem lt_sixteen (cid : Fin 16) : cid.val < 16 := cid.isLt

/-- An array with one entry for each CID, one of them replaced. -/
def setAt {α : Type} (v : Vector α 16) (cid : Fin 16) (a : α) : Vector α 16 := v.set cid.val a (lt_sixteen cid)

theorem get_setAt {α : Type} (v : Vector α 16) (i j : Fin 16) (a : α) : (setAt v i a).get j = if i = j then a else v.get j := by
  change (v.set i a)[j] = if i = j then a else v[j]
  by_cases hij : i = j
  · subst hij
    simp
  · rw [if_neg hij]
    have hne : i.val ≠ j.val := fun h => hij (Fin.ext h)
    simp [hne]

/-- What the loop and the codec adapters keep. An inbound flow is there once `inbound_used` is set. -/
structure Node where
  maximumPacket : Nat
  inner : Bytes
  flows : FlowTable := {}
  compressors : Vector (Option CompHandle) 16 := .replicate 16 none
  decompressors : Vector (Option Decompressor) 16 := .replicate 16 none
  inboundFlows : Vector (Option FlowKey) 16 := .replicate 16 none
  selectedComp : Option (Fin 16) := none
  selectedDecomp : Option (Fin 16) := none

/-- `rohc_comp_new2(15U, ROHCCXX_DIRECTION_UPLINK)`. -/
def newComp : CompHandle := .fresh 15 .uplink

/-- `rohc_decomp_new2(15U, ROHCCXX_DIRECTION_UPLINK)`. -/
def newDecomp : Decompressor := (DecompHandle.fresh 15).core

namespace Node

/-- A node that has just been started. -/
def fresh (maximumPacket : Nat) : Node := { maximumPacket := maximumPacket, inner := List.replicate maximumPacket 0 }

def setCompressor (node : Node) (cid : Fin 16) (handle : CompHandle) : Node :=
  { node with compressors := setAt node.compressors cid (some handle) }

def setDecompressor (node : Node) (cid : Fin 16) (decomp : Decompressor) : Node :=
  { node with decompressors := setAt node.decompressors cid (some decomp) }

end Node

/-! ## The adapters -/

/-- The unit starts with an Add-CID octet. -/
def hasAddCid (unit : Bytes) : Bool := u8At unit 0 &&& 0xF0 = 0xE0

theorem nibble_lt (b : UInt8) : (b &&& 0x0F).toNat < 16 := by
  have hle : (b &&& 0x0F).toNat ≤ (0x0F : UInt8).toNat := UInt8.le_iff_toNat_le.mp UInt8.and_le_right
  exact Nat.lt_succ_of_le hle

/-- `in[0] & 0x0f`. -/
def lowNibble (b : UInt8) : Fin 16 := ⟨(b &&& 0x0F).toNat, nibble_lt b⟩

/-- The CID a unit names. -/
def namedCid (unit : Bytes) : Fin 16 := if hasAddCid unit then lowNibble (u8At unit 0) else lowNibble 0

def markerOffset (unit : Bytes) : Nat := (hasAddCid unit).toNat

/-- The octet behind the CID is that of an IR. -/
def isIrFamily (unit : Bytes) : Bool := u8At unit (markerOffset unit) &&& 0xFE = 0xFC

def compressCombinedAdapter (node : Node) (packet : Bytes) (cap : Nat) : Option Bytes × Node :=
  match node.selectedComp with
  | none => (none, node)
  | some cid =>
    match node.compressors.get cid with
    | none => (none, node)
    | some handle =>
      ((rohcCompress4 handle.core packet cap).1, node.setCompressor cid (handle.act (.compress packet cap)))

def feedbackAdapter (node : Node) (cid : UInt32) (type : UInt8) : Node :=
  if h : cid.toNat < 16 then
    let slot : Fin 16 := ⟨cid.toNat, h⟩
    match node.compressors.get slot with
    | none => node
    | some handle =>
      node.setCompressor slot ((CompCall.handleFeedback cid.toNat type).acts.foldl CompHandle.act handle)
  else node

/-- What `rohc_decompress4` leaves, for the caller of the adapter. -/
def decodedOf (ret : Return) : Decoded := ⟨ret.1, ret.2.out, ret.2.outLen⟩

/-- The decompressor of the CID takes the unit. -/
def Node.decompressWith (node : Node) (cid : Fin 16) (unit out : Bytes) (cap : Nat) : Return × Node :=
  let decomp := (node.decompressors.get cid).getD newDecomp
  let ret := rohcDecompress4 decomp unit out cap
  (ret, { node.setDecompressor cid ret.2.handle with selectedDecomp := some cid })

/-- The flow of a refresh is noted. If the CID had another one, a new decompressor takes the unit once more. -/
def Node.adopt (node : Node) (cid : Fin 16) (flow : FlowKey) (unit : Bytes) (ret : Return) (cap : Nat) : Decoded × Node :=
  let noted (node : Node) : Node := { node with inboundFlows := setAt node.inboundFlows cid (some flow) }
  if (node.inboundFlows.get cid).any (· ≠ flow) then
    let again := rohcDecompress4 newDecomp unit ret.2.out cap
    if again.1 ≠ 0 then (decodedOf again, node)
    else ({ decodedOf again with status := 0 }, noted (node.setDecompressor cid again.2.handle))
  else ({ decodedOf ret with status := 0 }, noted node)

def decompressAdapter (node : Node) (unit out : Bytes) (cap : Nat) : Decoded × Node :=
  if unit.length = 0 then (⟨-1, out, cap⟩, node)
  else if hasAddCid unit ∧ unit.length = 1 then (⟨-1, out, cap⟩, node)
  else
    let cid := namedCid unit
    let (ret, node) := node.decompressWith cid unit out cap
    if ret.1 ≠ 0 ∨ !isIrFamily unit then (decodedOf ret, node)
    else
      match identifyFlow (ret.2.out.take ret.2.outLen) with
      | .error _ => ({ decodedOf ret with status := -1 }, node)
      | .ok flow => node.adopt cid flow unit ret cap

def codec : Codec Node := ⟨compressCombinedAdapter, decompressAdapter, feedbackAdapter⟩

/-! ## The loop -/

/-- The sizes of the buffers. -/
def datagramCapacity : Nat := 65507

def compressedCapacity : Nat := 65535

/-- A CID that goes to another flow gets a new compressor. -/
def Node.assign (node : Node) (assignment : FlowAssignment) : Option Node :=
  if assignment.newlyAssigned then
    (newComp.core.setCid assignment.cid).map fun core => node.setCompressor assignment.cid (newComp.withCore core)
  else some node

/-- A packet is read from the TUN device; a datagram is sent, or nothing. -/
def Node.readTun (node : Node) (packet : Bytes) : Option Bytes × Node :=
  let packet := packet.take node.maximumPacket
  if packet.length = 0 then (none, node)
  else
    let node := { node with inner := overwrite node.inner packet }
    let (mapping, flows) := node.flows.select packet
    let node := { node with flows := flows }
    match mapping with
    | .error _ => (none, node)
    | .ok assignment =>
      match node.assign assignment with
      | none => (none, node)
      | some node =>
        let node := { node with selectedComp := some assignment.cid }
        let (result, node) :=
          prepareCompressedDatagram codec node packet node.maximumPacket compressedCapacity datagramCapacity
        (result.toOption, node)

/-- The feedback that goes back when a unit could not be decompressed. -/
def Node.reply (node : Node) : Option Bytes := do
  let cid ← node.selectedDecomp
  let decomp ← node.decompressors.get cid
  if decomp.hasFeedback then
    let payload ← (encodeFeedback (UInt32.ofNat decomp.lastFeedback.cid) decomp.lastFeedback.type.toOctet
      feedbackPayloadSize).toOption
    (encodeFrame .feedback payload datagramCapacity).toOption
  else none

/-- What a turn shows: the datagram that is sent, and the packet that is written to the TUN device. -/
structure Shown where
  sent : Option Bytes := none
  written : Option Bytes := none

/-- A datagram is received. -/
def Node.receive (node : Node) (datagram : Bytes) : Shown × Node :=
  if datagram.length = 0 ∨ datagram.length > datagramCapacity then ({}, node)
  else
    let consumed := consumeDatagram codec node datagram node.maximumPacket node.inner node.maximumPacket
    let node := { consumed.state with inner := consumed.out }
    match consumed.result with
    | .ok .feedback => ({}, node)
    | .ok .compressed => ({ written := some (consumed.out.take consumed.outLen) }, node)
    | .error .codecFailure => ({ sent := node.reply }, node)
    | .error _ => ({}, node)

inductive Turn where
  | readTun (packet : Bytes)
  | receive (datagram : Bytes)

/-- A node as a machine. -/
def nodeMachine : Machine Node Turn Shown where
  next node
    | .readTun packet => (node.readTun packet).2
    | .receive datagram => (node.receive datagram).2
  obs node
    | .readTun packet => { sent := (node.readTun packet).1 }
    | .receive datagram => (node.receive datagram).1

/-! ## What holds of every node -/

/-- A compressor that is set to its CID for good. -/
structure SoundComp (cid : Nat) (handle : CompHandle) : Prop where
  plain : handle.core.Plain
  current : handle.core.currentCid = cid
  space : handle.core.largeCidSpace = false

/-- A decompressor for small CIDs. -/
structure SoundDecomp (decomp : Decompressor) : Prop where
  integrity : decomp.integrity = none
  space : decomp.largeCidSpace = false
  maxCid : decomp.contexts.maxCid = 15

theorem soundDecomp_new : SoundDecomp newDecomp := ⟨rfl, rfl, rfl⟩

theorem SoundDecomp.decompress {decomp : Decompressor} (h : SoundDecomp decomp) (unit out : Bytes) (cap : Nat) :
    SoundDecomp (rohcDecompress4 decomp unit out cap).2.handle := by
  have hsettings := heard_settings decomp unit out cap
  exact ⟨hsettings.integrity.trans h.integrity, hsettings.largeCidSpace.trans h.space,
    (heard_maxCid decomp unit out cap).trans h.maxCid⟩

/-- Without ICV and segments a call leaves nothing but a context. -/
theorem rohcCompress4_plain {comp : Compressor} (plain : comp.Plain) (packet : Bytes) (cap : Nat) :
    (rohcCompress4 comp packet cap).2 = comp ∨ ∃ ctx, (rohcCompress4 comp packet cap).2 = afterBranch comp ctx := by
  have hinner : (compressInner comp packet).2 = comp ∨ ∃ ctx, (compressInner comp packet).2 = afterBranch comp ctx := by
    unfold compressInner
    split
    · exact .inl rfl
    · dsimp only
      split
      · exact .inl rfl
      · split
        · exact .inr ⟨_, rfl⟩
        · exact .inr ⟨_, rfl⟩
  unfold rohcCompress4
  split
  · exact .inl rfl
  · rcases hrun : compressInner comp packet with ⟨_ | unit, comp'⟩
    · rw [hrun] at hinner
      exact hinner
    · rw [hrun] at hinner
      have hplain : comp'.integrity = none ∧ comp'.mrru = 0 := by
        rcases hinner with rfl | ⟨ctx, rfl⟩
        · exact ⟨plain.integrity, plain.mrru⟩
        · exact ⟨plain.integrity, plain.mrru⟩
      dsimp only
      split
      · exact hinner
      · split
        · exact hinner
        · rw [if_pos (.inl hplain.2)]
          exact hinner

namespace SoundComp

variable {cid : Nat} {handle : CompHandle}

theorem compress (h : SoundComp cid handle) (packet : Bytes) (cap : Nat) : SoundComp cid (handle.act (.compress packet cap)) := by
  have hcore : (handle.act (.compress packet cap)).core = (rohcCompress4 handle.core packet cap).2 := rfl
  rcases rohcCompress4_plain h.plain packet cap with he | ⟨ctx, he⟩
  · rw [he] at hcore
    exact ⟨hcore ▸ h.plain, hcore ▸ h.current, hcore ▸ h.space⟩
  · rw [he] at hcore
    refine ⟨?_, ?_, ?_⟩
    · rw [hcore]
      exact ⟨h.plain.integrity, h.plain.mrru⟩
    · rw [hcore]
      exact h.current
    · rw [hcore]
      exact h.space

theorem element (h : SoundComp cid handle) (other : Nat) (type : FeedbackType) (mode : Option Mode) :
    SoundComp cid (handle.act (.element other type mode)) :=
  ⟨⟨h.plain.integrity, h.plain.mrru⟩, h.current, h.space⟩

theorem handleFeedback (h : SoundComp cid handle) (other : Nat) (type : UInt8) :
    SoundComp cid ((CompCall.handleFeedback other type).acts.foldl CompHandle.act handle) := by
  unfold CompCall.acts
  dsimp only
  cases feedbackTypeOf type with
  | none => exact h
  | some type => exact h.element other type none

end SoundComp

/-- Every compressor has its CID, and every CID of a flow has a compressor. -/
structure Node.Sound (node : Node) : Prop where
  comps : ∀ (cid : Fin 16) (handle : CompHandle), node.compressors.get cid = some handle → SoundComp cid handle
  decomps : ∀ (cid : Fin 16) (decomp : Decompressor), node.decompressors.get cid = some decomp → SoundDecomp decomp
  assigned : ∀ cid : Fin 16, (node.flows.held cid).isSome → (node.compressors.get cid).isSome

/-- The receiving half of a node. -/
structure SameDecomps (a b : Node) : Prop where
  decompressors : b.decompressors = a.decompressors
  inboundFlows : b.inboundFlows = a.inboundFlows
  maximumPacket : b.maximumPacket = a.maximumPacket

/-- The sending half of a node. -/
structure SameComps (a b : Node) : Prop where
  compressors : b.compressors = a.compressors
  held : b.flows.held = a.flows.held

/-! ### A packet from the TUN device -/

/-- The compressor a CID starts with. -/
def compFor (cid : Fin 16) : CompHandle := newComp.withCore { newComp.core with currentCid := cid }

theorem soundComp_compFor (cid : Fin 16) : SoundComp cid (compFor cid) := ⟨⟨rfl, rfl⟩, rfl, rfl⟩

theorem setCid_newComp (cid : Fin 16) :
    (newComp.core.setCid cid).map (fun core => newComp.withCore core) = some (compFor cid) := by
  have hle : cid.val ≤ 15 := Nat.le_of_lt_succ cid.isLt
  have hsmall : Cid.isValidForSpace cid newComp.core.largeCidSpace = true := by
    unfold Cid.isValidForSpace
    exact decide_eq_true hle
  unfold Compressor.setCid
  rw [if_neg]
  · rfl
  · rintro (h | h)
    · exact absurd h (Nat.not_lt.mpr hle)
    · rw [hsmall] at h
      cases h

/-- A CID that was assigned has a compressor. -/
theorem Node.assign_spec {node : Node} {assignment : FlowAssignment}
    (hold : assignment.newlyAssigned = false → (node.compressors.get assignment.cid).isSome) :
    ∃ handle compressors, node.assign assignment = some { node with compressors := compressors } ∧
      (handle = compFor assignment.cid ∨ node.compressors.get assignment.cid = some handle) ∧
      compressors.get assignment.cid = some handle ∧
      ∀ x, setAt compressors assignment.cid x = setAt node.compressors assignment.cid x := by
  unfold assign
  by_cases hnew : assignment.newlyAssigned = true
  · rw [if_pos hnew]
    have hmap := congrArg (Option.map (node.setCompressor assignment.cid)) (setCid_newComp assignment.cid)
    rw [Option.map_map] at hmap
    refine ⟨compFor assignment.cid, _, hmap, .inl rfl, ?_, fun x => ?_⟩
    · rw [get_setAt, if_pos rfl]
    · exact Vector.set_set ..
  · rw [if_neg hnew]
    obtain ⟨handle, hhandle⟩ := Option.isSome_iff_exists.mp (hold (Bool.not_eq_true _ ▸ hnew))
    exact ⟨handle, node.compressors, rfl, .inr hhandle, hhandle, fun _ => rfl⟩

/-- A packet that goes to the compressor `handle`. -/
structure Sends (node : Node) (packet : Bytes) (assignment : FlowAssignment) (key : FlowKey) (handle : CompHandle)
    (sent : Option Bytes) (next : Node) : Prop where
  flow : identifyFlow packet = .ok key
  select : (node.flows.select packet).1 = .ok assignment
  old : handle = compFor assignment.cid ∨ node.compressors.get assignment.cid = some handle
  compressors : next.compressors =
    setAt node.compressors assignment.cid (some (handle.act (.compress packet compressedCapacity)))
  held : next.flows.held = Function.update node.flows.held assignment.cid (some key)
  decomps : SameDecomps node next
  sent : ∀ datagram, sent = some datagram → ∃ unit, (rohcCompress4 handle.core packet compressedCapacity).1 = some unit ∧
    readMessage datagram = .ok (.compressed unit) ∧ datagram.length ≤ datagramCapacity

theorem prepareCompressedDatagram_spec {node : Node} {cid : Fin 16} {handle : CompHandle} {packet : Bytes}
    (hvalid : validateIpv4Packet packet node.maximumPacket = .ok ()) (hselected : node.selectedComp = some cid)
    (hcomp : node.compressors.get cid = some handle) (datagramCap : Nat) :
    (prepareCompressedDatagram codec node packet node.maximumPacket compressedCapacity datagramCap).2 =
        node.setCompressor cid (handle.act (.compress packet compressedCapacity)) ∧
      ∀ datagram,
        (prepareCompressedDatagram codec node packet node.maximumPacket compressedCapacity datagramCap).1.toOption =
            some datagram →
          ∃ unit, (rohcCompress4 handle.core packet compressedCapacity).1 = some unit ∧
            readMessage datagram = .ok (.compressed unit) ∧ datagram.length ≤ datagramCap := by
  have hadapter : codec.compress node packet compressedCapacity =
      ((rohcCompress4 handle.core packet compressedCapacity).1,
        node.setCompressor cid (handle.act (.compress packet compressedCapacity))) := by
    change compressCombinedAdapter node packet compressedCapacity = _
    unfold compressCombinedAdapter
    rw [hselected]
    dsimp only
    rw [hcomp]
  unfold prepareCompressedDatagram
  rw [hvalid]
  dsimp only
  rw [hadapter]
  cases hunit : (rohcCompress4 handle.core packet compressedCapacity).1 with
  | none => exact ⟨rfl, nofun⟩
  | some unit =>
    dsimp only
    split
    · exact ⟨rfl, nofun⟩
    · rename_i hlen
      refine ⟨rfl, fun datagram h => ⟨unit, rfl, ?_⟩⟩
      cases hframe : encodeFrame .compressed unit datagramCap with
      | error failure =>
        rw [hframe] at h
        cases h
      | ok made =>
        rw [hframe] at h
        cases h
        have hne : unit ≠ [] := fun he => hlen (.inl (List.length_eq_zero_iff.mpr he))
        obtain ⟨-, hcap, he⟩ := (@encodeFrame_eq_ok ⟨.compressed, unit⟩ _ _).mp hframe
        refine ⟨readMessage_compressed.mpr
          (@decodeFrame_of_encode ⟨.compressed, unit⟩ _ _ hframe (fun _ => hne) nofun), ?_⟩
        rw [he, length_envelope]
        exact hcap

/-- **A packet from the TUN device** goes to the compressor of its flow, or changes nothing the codec knows. -/
theorem readTun_spec {node : Node} (sound : node.Sound) (packet : Bytes) :
    (∃ assignment key handle, Sends node (packet.take node.maximumPacket) assignment key handle (node.readTun packet).1
      (node.readTun packet).2) ∨
    (node.readTun packet).1 = none ∧ SameComps node (node.readTun packet).2 ∧ SameDecomps node (node.readTun packet).2 := by
  have hfits : (packet.take node.maximumPacket).length ≤ node.maximumPacket := List.length_take_le _ _
  unfold Node.readTun
  dsimp only
  generalize packet.take node.maximumPacket = packet at hfits
  split
  · exact .inr ⟨rfl, ⟨rfl, rfl⟩, ⟨rfl, rfl, rfl⟩⟩
  · cases hselect : (node.flows.select packet).1 with
    | error failure =>
      exact .inr ⟨rfl, ⟨rfl, FlowTable.held_of_select_error hselect⟩, ⟨rfl, rfl, rfl⟩⟩
    | ok assignment =>
      obtain ⟨key, hkey, hheld, hold⟩ := FlowTable.held_of_select hselect
      have hvalid := validate_of_identifyFlow hkey hfits
      have hsome : assignment.newlyAssigned = false → (node.compressors.get assignment.cid).isSome := fun hnew =>
        sound.assigned assignment.cid (by rw [hold hnew]; rfl)
      obtain ⟨handle, compressors, hassign, hhandle, hcomp, hset⟩ := @Node.assign_spec
        { node with inner := overwrite node.inner packet, flows := (node.flows.select packet).2 } assignment hsome
      simp only [hassign]
      obtain ⟨hstate, hsent⟩ := @prepareCompressedDatagram_spec
        { node with
          inner := overwrite node.inner packet
          flows := (node.flows.select packet).2
          compressors := compressors
          selectedComp := some assignment.cid } _ _ packet hvalid rfl hcomp datagramCapacity
      refine .inl ⟨assignment, key, handle, hkey, hselect, hhandle, ?_, ?_, ?_, hsent⟩
      · exact (congrArg Node.compressors hstate).trans (hset _)
      · exact (congrArg (·.flows.held) hstate).trans hheld
      · exact ⟨(congrArg Node.decompressors hstate).trans rfl, (congrArg Node.inboundFlows hstate).trans rfl,
          (congrArg Node.maximumPacket hstate).trans rfl⟩

/-! ### A datagram from the peer -/

/-- What a unit can change: the decompressor and the flow of the CID it names. -/
structure Decompresses (node : Node) (cid : Fin 16) (next : Node) : Prop where
  comps : SameComps node next
  maximumPacket : next.maximumPacket = node.maximumPacket
  others : ∀ other, other ≠ cid →
    next.decompressors.get other = node.decompressors.get other ∧ next.inboundFlows.get other = node.inboundFlows.get other
  sound : (∀ decomp, node.decompressors.get cid = some decomp → SoundDecomp decomp) →
    ∀ decomp, next.decompressors.get cid = some decomp → SoundDecomp decomp

namespace Decompresses

variable {node next last : Node} {cid : Fin 16}

theorem refl (node : Node) (cid : Fin 16) : Decompresses node cid node := ⟨⟨rfl, rfl⟩, rfl, fun _ _ => ⟨rfl, rfl⟩, id⟩

theorem trans (h : Decompresses node cid next) (h' : Decompresses next cid last) : Decompresses node cid last :=
  ⟨⟨h'.comps.compressors.trans h.comps.compressors, h'.comps.held.trans h.comps.held⟩, h'.maximumPacket.trans h.maximumPacket,
    fun other hne => ⟨(h'.others other hne).1.trans (h.others other hne).1, (h'.others other hne).2.trans (h.others other hne).2⟩,
    fun hs => h'.sound (h.sound hs)⟩

theorem setDecompressor (node : Node) (cid : Fin 16) (decomp : Decompressor)
    (h : (∀ decomp, node.decompressors.get cid = some decomp → SoundDecomp decomp) → SoundDecomp decomp) :
    Decompresses node cid (node.setDecompressor cid decomp) := by
  refine ⟨⟨rfl, rfl⟩, rfl, fun other hne => ⟨?_, rfl⟩, fun hs other hother => ?_⟩
  · change (setAt node.decompressors cid (some decomp)).get other = _
    rw [get_setAt, if_neg (Ne.symm hne)]
  · change (setAt node.decompressors cid (some decomp)).get cid = _ at hother
    rw [get_setAt, if_pos rfl] at hother
    cases hother
    exact h hs

theorem note (node : Node) (cid : Fin 16) (flow : FlowKey) :
    Decompresses node cid { node with inboundFlows := setAt node.inboundFlows cid (some flow) } := by
  refine ⟨⟨rfl, rfl⟩, rfl, fun other hne => ⟨rfl, ?_⟩, id⟩
  change (setAt node.inboundFlows cid (some flow)).get other = _
  rw [get_setAt, if_neg (Ne.symm hne)]

theorem decompressWith (node : Node) (cid : Fin 16) (unit out : Bytes) (cap : Nat) :
    Decompresses node cid (node.decompressWith cid unit out cap).2 := by
  have hset := setDecompressor node cid (rohcDecompress4 ((node.decompressors.get cid).getD newDecomp) unit out cap).2.handle
    fun hs => by
      cases hd : node.decompressors.get cid with
      | none => exact soundDecomp_new.decompress unit out cap
      | some decomp => exact (hs decomp hd).decompress unit out cap
  exact ⟨⟨hset.comps.compressors, hset.comps.held⟩, hset.maximumPacket, hset.others, hset.sound⟩

theorem adopt (node : Node) (cid : Fin 16) (flow : FlowKey) (unit : Bytes) (ret : Return) (cap : Nat) :
    Decompresses node cid (node.adopt cid flow unit ret cap).2 := by
  unfold Node.adopt
  dsimp only
  split
  · split
    · exact .refl node cid
    · exact (setDecompressor node cid _ fun _ => soundDecomp_new.decompress unit ret.2.out cap).trans (.note _ cid flow)
  · exact .note node cid flow

theorem adapter (node : Node) (unit out : Bytes) (cap : Nat) :
    Decompresses node (namedCid unit) (decompressAdapter node unit out cap).2 := by
  unfold decompressAdapter
  split
  · exact .refl node _
  · split
    · exact .refl node _
    · have hfirst := decompressWith node (namedCid unit) unit out cap
      dsimp only
      split
      · exact hfirst
      · split
        · exact hfirst
        · exact hfirst.trans (.adopt _ _ _ _ _ _)

end Decompresses

/-- Feedback goes to the compressor of its CID, if there is one. -/
theorem feedbackAdapter_eq (node : Node) (cid : UInt32) (type : UInt8) :
    feedbackAdapter node cid type = node ∨
      ∃ (slot : Fin 16) (handle : CompHandle), slot.val = cid.toNat ∧ node.compressors.get slot = some handle ∧
        feedbackAdapter node cid type =
          node.setCompressor slot ((CompCall.handleFeedback cid.toNat type).acts.foldl CompHandle.act handle) := by
  unfold feedbackAdapter
  split
  · rename_i hlt
    dsimp only
    split
    · exact .inl rfl
    · rename_i handle hcomp
      exact .inr ⟨⟨cid.toNat, hlt⟩, handle, rfl, hcomp, rfl⟩
  · exact .inl rfl

/-- A message that fits is not thrown away. -/
theorem receivable {datagram : Bytes} {message : Message} (hread : readMessage datagram = .ok message)
    (hsize : datagram.length ≤ datagramCapacity) : ¬(datagram.length = 0 ∨ datagram.length > datagramCapacity) := by
  rintro (h | h)
  · rw [List.length_eq_zero_iff.mp h] at hread
    cases hread
  · omega

/-- The codec is left as the datagram left it. -/
theorem receive_state (node : Node) (datagram : Bytes) :
    (node.receive datagram).2 = node ∨
      ∃ inner, (node.receive datagram).2 =
        { (consumeDatagram codec node datagram node.maximumPacket node.inner node.maximumPacket).state with inner := inner } := by
  unfold Node.receive
  split
  · exact .inl rfl
  · dsimp only
    generalize consumeDatagram codec node datagram node.maximumPacket node.inner node.maximumPacket = consumed
    split <;> exact .inr ⟨_, rfl⟩

/-- What a datagram does to a node. -/
inductive Receives (node : Node) (datagram : Bytes) (next : Node) : Prop where
  | compressed {unit : Bytes} (read : readMessage datagram = .ok (.compressed unit))
    (step : Decompresses node (namedCid unit) next)
  | feedback {cid : UInt32} {type : UInt8} (read : readMessage datagram = .ok (.feedback cid type))
    (decomps : SameDecomps node next) (flows : next.flows = node.flows)
    (compressors : next.compressors = (feedbackAdapter node cid type).compressors)
  | ignored (comps : SameComps node next) (decomps : SameDecomps node next)

/-- **A datagram** is handed to one decompressor, is feedback for one compressor, or changes nothing the codec knows. -/
theorem receive_spec (node : Node) (datagram : Bytes) : Receives node datagram (node.receive datagram).2 := by
  obtain he | ⟨inner, he⟩ := receive_state node datagram
  · rw [he]
    exact .ignored ⟨rfl, rfl⟩ ⟨rfl, rfl, rfl⟩
  · rw [he]
    cases hread : readMessage datagram with
    | error failure =>
      rw [consumeDatagram_of_error codec node _ _ _ hread]
      exact .ignored ⟨rfl, rfl⟩ ⟨rfl, rfl, rfl⟩
    | ok message =>
      cases message with
      | compressed unit =>
        rw [state_consumeDatagram codec node _ _ _ hread]
        have hstep := Decompresses.adapter node unit node.inner node.maximumPacket
        exact .compressed hread ⟨⟨hstep.comps.compressors, hstep.comps.held⟩, hstep.maximumPacket, hstep.others, hstep.sound⟩
      | feedback cid type =>
        rw [consumeDatagram_of_feedback codec node _ _ _ hread]
        have hsame : SameDecomps node (feedbackAdapter node cid type) ∧ (feedbackAdapter node cid type).flows = node.flows := by
          obtain he | ⟨slot, handle, -, -, he⟩ := feedbackAdapter_eq node cid type
          · rw [he]
            exact ⟨⟨rfl, rfl, rfl⟩, rfl⟩
          · rw [he]
            exact ⟨⟨rfl, rfl, rfl⟩, rfl⟩
        obtain ⟨hdecomps, hflows⟩ := hsame
        exact .feedback hread ⟨hdecomps.decompressors, hdecomps.inboundFlows, hdecomps.maximumPacket⟩ hflows rfl

/-! ### Runs -/

namespace Node.Sound

variable {node next : Node}

theorem fresh (maximumPacket : Nat) : (Node.fresh maximumPacket).Sound := by
  refine ⟨fun cid handle h => ?_, fun cid decomp h => ?_, fun cid h => ?_⟩
  · have hnone : (Node.fresh maximumPacket).compressors.get cid = none := Vector.getElem_replicate ..
    cases hnone.symm.trans h
  · have hnone : (Node.fresh maximumPacket).decompressors.get cid = none := Vector.getElem_replicate ..
    cases hnone.symm.trans h
  · have hnone : ({} : FlowTable).held cid = none := by
      rw [FlowTable.held_eq]
      have hentry : ({} : FlowTable).entries[cid] = {} := Vector.getElem_replicate ..
      rw [hentry]
      rfl
    rw [show (Node.fresh maximumPacket).flows.held cid = none from hnone] at h
    cases h

/-- What only the sending half does leaves the decompressors sound. -/
theorem decomps_of_same (sound : node.Sound) (same : SameDecomps node next) (cid : Fin 16) (decomp : Decompressor)
    (h : next.decompressors.get cid = some decomp) : SoundDecomp decomp := by
  rw [same.decompressors] at h
  exact sound.decomps cid decomp h

theorem of_same (sound : node.Sound) (comps : SameComps node next) (decomps : SameDecomps node next) : next.Sound := by
  refine ⟨fun cid handle h => ?_, sound.decomps_of_same decomps, fun cid h => ?_⟩
  · rw [comps.compressors] at h
    exact sound.comps cid handle h
  · rw [comps.held] at h
    rw [comps.compressors]
    exact sound.assigned cid h

/-- The compressor that gets a packet has its CID. -/
theorem handle (sound : node.Sound) {packet : Bytes} {assignment : FlowAssignment} {key : FlowKey} {handle : CompHandle}
    {sent : Option Bytes} (sends : Sends node packet assignment key handle sent next) : SoundComp assignment.cid handle := by
  rcases sends.old with rfl | h
  · exact soundComp_compFor _
  · exact sound.comps _ _ h

theorem sends (sound : node.Sound) {packet : Bytes} {assignment : FlowAssignment} {key : FlowKey} {handle : CompHandle}
    {sent : Option Bytes} (sends : Sends node packet assignment key handle sent next) : next.Sound := by
  refine ⟨fun cid other h => ?_, sound.decomps_of_same sends.decomps, fun cid h => ?_⟩
  · rw [sends.compressors, get_setAt] at h
    split at h
    · rename_i he
      cases h
      exact he ▸ (sound.handle sends).compress packet compressedCapacity
    · exact sound.comps cid other h
  · rw [sends.compressors, get_setAt]
    split
    · rfl
    · rename_i hne
      have hval : cid.val ≠ assignment.cid.val := fun he => hne (Fin.ext he.symm)
      rw [sends.held, Function.update_of_ne hval] at h
      exact sound.assigned cid h

theorem readTun (sound : node.Sound) (packet : Bytes) : (node.readTun packet).2.Sound := by
  rcases readTun_spec sound packet with ⟨assignment, key, handle, sends⟩ | ⟨-, comps, decomps⟩
  · exact sound.sends sends
  · exact sound.of_same comps decomps

theorem receive (sound : node.Sound) (datagram : Bytes) : (node.receive datagram).2.Sound := by
  cases receive_spec node datagram with
  | @compressed unit read step =>
    refine ⟨fun cid handle h => ?_, fun cid decomp h => ?_, fun cid h => ?_⟩
    · rw [step.comps.compressors] at h
      exact sound.comps cid handle h
    · by_cases hcid : cid = namedCid unit
      · subst hcid
        exact step.sound (sound.decomps _) decomp h
      · rw [(step.others cid hcid).1] at h
        exact sound.decomps cid decomp h
    · rw [step.comps.held] at h
      rw [step.comps.compressors]
      exact sound.assigned cid h
  | @feedback cid type read decomps flows compressors =>
    obtain he | ⟨slot, handle, hslot, hhandle, he⟩ := feedbackAdapter_eq node cid type
    · exact sound.of_same ⟨compressors.trans (congrArg Node.compressors he), congrArg FlowTable.held flows⟩ decomps
    · have hset := compressors.trans (congrArg Node.compressors he)
      refine ⟨fun other made h => ?_, sound.decomps_of_same decomps, fun other h => ?_⟩
      · rw [hset] at h
        change (setAt node.compressors slot _).get other = _ at h
        rw [get_setAt] at h
        split at h
        · rename_i hother
          cases h
          exact hother ▸ (sound.comps slot handle hhandle).handleFeedback cid.toNat type
        · exact sound.comps other made h
      · rw [hset]
        change ((setAt node.compressors slot _).get other).isSome
        rw [get_setAt]
        split
        · rfl
        · rw [flows] at h
          exact sound.assigned other h
  | ignored comps decomps => exact sound.of_same comps decomps

end Node.Sound

theorem Node.Sound.next {node : Node} (sound : node.Sound) (turn : Turn) : (nodeMachine.next node turn).Sound := by
  cases turn with
  | readTun packet => exact sound.readTun packet
  | receive datagram => exact sound.receive datagram

/-- **Every node stays sound**, whatever it reads and receives. -/
theorem sound_of_reaches {maximumPacket : Nat} {turns : List (Turn × Shown)} {node : Node}
    (run : Reaches (nodeMachine.Step fun _ _ => True) (Node.fresh maximumPacket) turns node) : node.Sound := by
  refine run.invariant (P := fun _ node => node.Sound) (Node.Sound.fresh maximumPacket) ?_
  rintro turns node ⟨turn, shown⟩ next sound ⟨-, rfl, -⟩
  exact sound.next turn

/-! ## The CID on the wire -/

theorem namedCid_smallCidOctets {cid : Fin 16} {b : UInt8} (hb : b &&& 0xF0 ≠ 0xE0) (rest : Bytes) :
    namedCid (smallCidOctets cid ++ b :: rest) = cid ∧ markerOffset (smallCidOctets cid ++ b :: rest) = (smallCidOctets cid).length := by
  by_cases h0 : cid = 0
  · subst h0
    have hno : hasAddCid (b :: rest) = false := decide_eq_false hb
    change namedCid (b :: rest) = 0 ∧ markerOffset (b :: rest) = 0
    unfold namedCid markerOffset
    rw [hno]
    exact ⟨rfl, rfl⟩
  · have hoctets : smallCidOctets cid = [0xE0 ||| (UInt8.ofNat cid &&& 0x0F)] :=
      if_pos (Nat.pos_of_ne_zero fun h => h0 (Fin.ext h))
    have hyes : (0xE0 ||| (UInt8.ofNat cid.val &&& 0x0F)) &&& 0xF0 = 0xE0 ∧
        lowNibble (0xE0 ||| (UInt8.ofNat cid.val &&& 0x0F)) = cid := by
      revert cid
      decide
    rw [hoctets]
    have hadd : hasAddCid ([0xE0 ||| (UInt8.ofNat cid &&& 0x0F)] ++ b :: rest) = true := decide_eq_true hyes.1
    unfold namedCid markerOffset
    rw [hadd]
    exact ⟨hyes.2, rfl⟩

/-- A compressor's units name its CID. -/
theorem SoundComp.namedCid {cid : Fin 16} {handle : CompHandle} (h : SoundComp cid handle) {packet unit : Bytes} {cap : Nat}
    (hunit : (rohcCompress4 handle.core packet cap).1 = some unit) : namedCid unit = cid := by
  have ready : Link.Ready ⟨handle, newDecomp⟩ cid :=
    ⟨h.plain, h.current, h.space, rfl, rfl, Nat.le_of_lt_succ cid.isLt⟩
  rcases @Link.Ready.head _ _ ⟨packet, cap, [], 0⟩ _ ready hunit with ⟨rest, rfl⟩ | compact
  · exact (namedCid_smallCidOctets (by decide) rest).1
  · cases compact with
    | of_cons type plain => exact (namedCid_smallCidOctets plain _).1
    | @addCidZero body zero =>
      have hadd : hasAddCid (0xE0 :: body) = true := decide_eq_true (by decide : (0xE0 : UInt8) &&& 0xF0 = 0xE0)
      have hcid : cid = 0 := Fin.ext zero
      unfold Tun.namedCid
      rw [if_pos hadd, hcid, u8At_cons_zero]
      decide

/-- **A datagram stays on the CID of its flow**: what any other node makes of it touches no decompressor, and no inbound
flow, but those of the CID its sender gave to the flow of the packet. -/
theorem datagram_stays_on_its_cid {maximumPacket : Nat} {turns : List (Turn × Shown)} {node : Node}
    (run : Reaches (nodeMachine.Step fun _ _ => True) (Node.fresh maximumPacket) turns node) {packet datagram : Bytes}
    (hsent : (node.readTun packet).1 = some datagram) (peer : Node) :
    ∃ assignment : FlowAssignment, (node.flows.select (packet.take node.maximumPacket)).1 = .ok assignment ∧
      SameComps peer (peer.receive datagram).2 ∧
      ∀ other, other ≠ assignment.cid → (peer.receive datagram).2.decompressors.get other = peer.decompressors.get other ∧
        (peer.receive datagram).2.inboundFlows.get other = peer.inboundFlows.get other := by
  have sound := sound_of_reaches run
  rcases readTun_spec sound packet with ⟨assignment, key, handle, sends⟩ | ⟨hnone, -, -⟩
  · refine ⟨assignment, sends.select, ?_⟩
    obtain ⟨unit, hunit, hread, -⟩ := sends.sent datagram hsent
    have hcid := (sound.handle sends).namedCid hunit
    cases receive_spec peer datagram with
    | compressed read step =>
      cases hread.symm.trans read
      exact ⟨step.comps, hcid ▸ step.others⟩
    | feedback read => cases hread.symm.trans read
    | ignored comps decomps =>
      refine ⟨comps, fun other _ => ⟨?_, ?_⟩⟩
      · rw [decomps.decompressors]
      · rw [decomps.inboundFlows]
  · cases hnone.symm.trans hsent

/-- The datagram with the IR of `shortUdpPacket`. -/
def shortUdpDatagram : Bytes := envelope ⟨.compressed, shortUdpIr⟩

theorem datagram_stays_on_its_cid_shortUdp : ∃ assignment : FlowAssignment,
    ((Node.fresh 100).flows.select (shortUdpPacket.take 100)).1 = .ok assignment ∧
      SameComps (Node.fresh 100) ((Node.fresh 100).receive shortUdpDatagram).2 ∧
      ∀ other, other ≠ assignment.cid →
        ((Node.fresh 100).receive shortUdpDatagram).2.decompressors.get other = (Node.fresh 100).decompressors.get other ∧
        ((Node.fresh 100).receive shortUdpDatagram).2.inboundFlows.get other = (Node.fresh 100).inboundFlows.get other :=
  datagram_stays_on_its_cid .start (by decide +kernel : ((Node.fresh 100).readTun shortUdpPacket).1 = some shortUdpDatagram)
    (Node.fresh 100)

end Rohccxx.Tun
