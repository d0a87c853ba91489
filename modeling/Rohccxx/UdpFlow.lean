import Rohccxx.FixedHeaders
import Rohccxx.PrivateUnits

/-!
# A UDP flow

With a checksum in use the UDP branch sends refreshes and private units, never a PT-0. A private unit holds whatever
changes, but its octets may also authenticate as a PT-0 in the context of the receiver. Then the UDP checksum decides, and
where it cannot, the unit is refused.

* `Frame.UdpAliased` — the units for which it cannot.
* `receive_udpFo` — every other private unit of the flow is delivered, in any context that has the key.
* `udp_flow` — what becomes of the next packet of a flow, however many were lost before it.
-/

set_option autoImplicit false

namespace Rohccxx

open Octets Reader

/-! ## The packets -/

/-- A regular IPv4 packet over UDP with the key, whose checksum is in use and holds. -/
structure KeyedUdpPacket (key : HeaderKey) (packet : Bytes) (view : ParsedIpView) : Prop where
  parsed : parseIpView packet = some view
  choose : chooseProfile packet view = .udp
  ipv4 : view.isIpv6 = false
  key : headerKeyOf packet = key
  regular : RegularPacket packet view .udp
  valid : udpChecksumValid (packet.take 28) [] (packet.drop 28) = true

namespace KeyedUdpPacket

variable {key : HeaderKey} {packet : Bytes} {view : ParsedIpView}

theorem chosen (h : KeyedUdpPacket key packet view) : Chosen packet view .udp := chosen_of_chooseProfile h.parsed h.choose nofun

theorem headerLen (h : KeyedUdpPacket key packet view) : view.headerLen = 20 := (h.chosen.chains rfl).1 h.ipv4

theorem length_ge (h : KeyedUdpPacket key packet view) : 28 ≤ packet.length := by
  have := (h.chosen.fields.1 (.inl rfl)).2
  rw [h.headerLen] at this
  exact this

/-- A checksum of zero is not in use. -/
theorem check_ne (h : KeyedUdpPacket key packet view) : u16At packet 26 ≠ 0 := by
  intro h0
  have hlen := h.length_ge
  have hoctets : u8At (packet.take 28) 26 = 0 ∧ u8At (packet.take 28) 27 = 0 := by
    have hn := congrArg UInt16.toNat h0
    rw [u16At, toNat_ofBe16, UInt16.toNat_zero] at hn
    have h26 : u8At (packet.take 28) 26 = u8At packet 26 := by simp [u8At]
    have h27 : u8At (packet.take 28) 27 = u8At packet (26 + 1) := by simp [u8At]
    rw [h26, h27]
    exact ⟨UInt8.toNat_inj.mp (by rw [UInt8.toNat_zero]; omega), UInt8.toNat_inj.mp (by rw [UInt8.toNat_zero]; omega)⟩
  have hvalid := h.valid
  unfold udpChecksumValid at hvalid
  rw [if_pos hoctets] at hvalid
  cases hvalid

/-- **A context with the key rebuilds the packet**, whole and from its fixed header. -/
theorem rebuilt (h : KeyedUdpPacket key packet view) (hlen : packet.length ≤ 0xFFFF) {cid : Nat} {a : Context}
    (keyed : Keyed key .udp cid a) (hid : a.ipv4Id = u16At packet 4) (hcheck : a.udpCheck = u16At packet 26) :
    (∀ cap, packet.length ≤ cap → Frame.rebuild cap a (packet.drop 28) = some packet) ∧
      (∀ cap, cap < packet.length → Frame.rebuild cap a (packet.drop 28) = none) ∧
      buildFixedUdpIpv4Header a (packet.drop 28).length = some (packet.take 28) := by
  have hge := h.length_ge
  obtain ⟨hip, hudp, hflags⟩ := (h.key ▸ keyed).headers h.parsed h.ipv4 h.headerLen hid hcheck
  obtain ⟨hproto, hfits⟩ := h.chosen.fields.1 (.inl rfl)
  have hupper : HasUpper a packet view .udp (packet.drop 28) := by
    have := HasUpper.udp hudp hfits hproto
    rwa [h.headerLen] at this
  have regular : RegularIp a.ipv4Flags packet view ∧ RegularUpper packet view .udp := by
    obtain ⟨hrip, hrest⟩ := h.regular.resolve_left (by decide)
    rw [if_neg (by simp [h.ipv4])] at hrip
    refine ⟨?_, hrest⟩
    rw [RegularIp, if_neg (by simp [h.ipv4]), hflags]
    exact ⟨hrip.1, (flags_of_whole (h.chosen.whole h.ipv4) (by omega)).1⟩
  have hbuild : ∀ cap, packet.length ≤ cap → Frame.rebuild cap a (packet.drop 28) = some packet := by
    intro cap hcap
    obtain ⟨octets, hbuild, -, hiff⟩ := rebuild_eq_iff keyed.profile hip hupper (fun h => by cases h) hlen hcap
    rw [hbuild, hiff.mpr regular]
  refine ⟨hbuild, fun cap hcap => rebuild_eq_none keyed.profile hip hupper (fun h => by cases h) hlen hcap, ?_⟩
  have hrebuilt : buildUdpPacket packet.length a (packet.drop 28) = some packet := by
    have := hbuild packet.length (le_refl _)
    unfold Frame.rebuild at this
    simpa only [keyed.profile, keyed.version, show ¬(4 : UInt8) = 6 by decide, if_false] using this
  have hsize : (packet.drop 28).length + 28 = packet.length := by
    rw [List.length_drop]
    omega
  obtain ⟨header, hfixed, hheader⟩ : ∃ header, buildFixedUdpIpv4Header a (packet.drop 28).length = some header ∧
      header.length = 28 := by
    unfold buildFixedUdpIpv4Header
    rw [if_neg (by simp [keyed.profile, keyed.version, keyed.options]; omega)]
    exact ⟨_, rfl, by rw [length_fixedIpv4Header keyed.options]; rfl⟩
  have hfront := agrees_udp.front (packet.drop 28) header packet.length hfixed (by omega)
  have heq : header ++ packet.drop 28 = packet := Option.some.inj (hfront.symm.trans hrebuilt)
  rw [hfixed, ← heq, List.take_left' hheader]

end KeyedUdpPacket

/-! ## Private units at the receiver -/

/-- The context a receiver of the flow has. -/
structure UdpReady (key : HeaderKey) (cid : Nat) (d : Context) : Prop extends Keyed key .udp cid d where
  state : d.rohcState = .dynamicEstablished
  used : d.udpChecksumUsed = true

/-- The private unit of the context `c`. -/
def udpFo (c : Context) : Bytes := privateUnit 0x7A privateUdpFoCrc8 (be16 c.ipv4Id ++ be16 c.udpCheck) c

/-- What the reader makes of it in the context `d`, and what the call leaves. -/
def udpFoRead (c d : Context) : Context := finishIrDyn .udp { d with ipv4Id := c.ipv4Id, udpCheck := c.udpCheck }

def udpFoAfter (c d : Context) : Context := { udpFoRead c d with msn := d.msn + 1 }

/-- The unit also authenticates as a PT-0, and the UDP checksum does not tell the readings apart: both packets have a right
one, or a gate keeps the PT-0 from being compared. -/
def Frame.UdpAliased (f : Frame) : Prop :=
  f.livePt0 = true ∧ match f.udpPt0Reading with
    | some r => udpChecksumValid r.header [] r.payload = true
    | none => f.tryFormalPt0.isSome = true

theorem UdpReady.foAfter {key : HeaderKey} {cid : Nat} {d : Context} (h : UdpReady key cid d) (c : Context) :
    UdpReady key cid (udpFoAfter c d) where
  version := h.version
  options := h.options
  key := h.key
  profile := rfl
  labels := h.labels
  state := rfl
  used := h.used

/-- Labels are control data of the receiver. -/
theorem UdpReady.of_keeps {key : HeaderKey} {cid : Nat} {d d' : Context} (h : UdpReady key cid d) (keeps : KeepsContext d d')
    (labels : d'.labels = (cid, false) ∨ d'.labels = d.labels) : UdpReady key cid d' := by
  have e := keeps.fields
  have hstate : d'.rohcState = d.rohcState := by rw [e]
  have hused : d'.udpChecksumUsed = d.udpChecksumUsed := by rw [e]
  exact ⟨h.toKeyed.of_keeps keeps labels, hstate.trans h.state, hused.trans h.used⟩

theorem packetTypeOf_marker {b : UInt8} (rest : Bytes) (h₄ : b >>> 4 ≠ 4) (h₆ : b >>> 4 ≠ 6) :
    packetTypeOf (b :: rest) = detectPacketType b := by
  unfold packetTypeOf
  rw [not_isUncompressedIpPayload rest h₄ h₆, u8At_cons_zero]
  rfl

section Receive

variable {dec : Decompressor} {key : HeaderKey} {cid : Nat} {c d : Context} {packet : Bytes} {view : ParsedIpView}
  (hspace : dec.largeCidSpace = false) (hc : Keyed key .udp cid c) (ready : UdpReady key cid d)
  (keyed : KeyedUdpPacket key packet view) (hlen : packet.length ≤ 0xFFFF) (hid : c.ipv4Id = u16At packet 4)
  (hcheck : c.udpCheck = u16At packet 26) {out : Bytes} {cap : Nat}

/-- The frame of a call with a private unit. -/
def udpFoFrame (dec : Decompressor) (cid : Nat) (c d : Context) (packet out : Bytes) (cap : Nat) : Frame :=
  compactFrame dec cid d (udpFo c ++ packet.drop 28) out cap

theorem type_udpFoFrame : (udpFoFrame dec cid c d packet out cap).parsed.type = .foUdp := by
  change packetTypeOf (0x7A :: _) = _
  rw [packetTypeOf_marker _ (by decide) (by decide)]
  rfl

include hspace ready in
theorem ctx_udpFoFrame : (udpFoFrame dec cid c d packet out cap).ctx = d :=
  @labelContext_eq { dec with hasFeedback := false } _ _
    (ready.labels.trans (congrArg (Prod.mk cid) hspace.symm)) (by rw [ready.state]; decide)

include hc ready in
/-- The private reading. -/
theorem exec_udpFo : exec (decodeUdpFo (udpFo c ++ packet.drop 28)) d = (some 6, udpFoRead c d) :=
  (reads_decodeUdpFo hc ready.toKeyed).exec_eq _

include hc ready in
theorem privateReading_udpFo :
    (udpFoFrame dec cid c d packet out cap).privateReading decodeUdpFo = some (udpFoRead c d, 6) :=
  Frame.privateReading_eq (exec_udpFo hc ready)

theorem payloadAfterHeader_udpFo : payloadAfterHeader (udpFo c ++ packet.drop 28) 6 = some (packet.drop 28) :=
  payloadAfterHeader_append (udpFo c) (packet.drop 28)

include ready in
theorem UdpReady.foRead : Keyed key .udp cid (udpFoRead c d) := ⟨ready.version, ready.options, ready.key, rfl, ready.labels⟩

include ready keyed hlen hid hcheck in
/-- The packet of the private reading has a right UDP checksum. -/
theorem checkedPrivateUdp_udpFo : (udpFoFrame dec cid c d packet out cap).checkedPrivateUdp (udpFoRead c d) 6 =
    some ⟨udpFoAfter c d, packet.take 28, packet.drop 28⟩ := by
  obtain ⟨-, -, hheader⟩ := keyed.rebuilt hlen ready.foRead hid hcheck
  unfold Frame.checkedPrivateUdp
  change (do
    let payload ← payloadAfterHeader (udpFo c ++ packet.drop 28) 6
    let header ← buildFixedUdpIpv4Header (udpFoRead c d) payload.length
    if udpChecksumValid header [] payload then
      some (⟨udpFoAfter c d, header, payload⟩ : Reading) else none) = _
  simp only [payloadAfterHeader_udpFo, hheader, keyed.valid, Option.bind_eq_bind, Option.bind_some, if_true]

/-- The kept gates of a reading. -/
theorem udpChecksumUsed_udpPt0Reading {f : Frame} {r : Reading} (h : f.udpPt0Reading = some r) :
    r.ctx.udpChecksumUsed = f.before.udpChecksumUsed := by
  unfold Frame.udpPt0Reading at h
  obtain ⟨⟨nextMsn, crc⟩, -, h⟩ := Option.bind_eq_some_iff.mp h
  obtain ⟨-, h⟩ := Option.ite_none_left_eq_some.mp h
  obtain ⟨⟨ctx, headerLen⟩, hcheck, h⟩ := Option.bind_eq_some_iff.mp h
  obtain ⟨payload, -, h⟩ := Option.bind_eq_some_iff.mp h
  obtain ⟨header, -, h⟩ := Option.bind_eq_some_iff.mp h
  obtain ⟨-, h⟩ := Option.ite_none_right_eq_some.mp h
  cases h
  unfold readCompactUdpCheck at hcheck
  split at hcheck
  · obtain ⟨-, hcheck⟩ := Option.ite_none_left_eq_some.mp hcheck
    cases hcheck
    rfl
  · cases hcheck
    rfl

include hc ready in
/-- The block of the first octet, where PT-0 is live. -/
theorem udpPt0Crc3_udpFo (hlive : (udpFoFrame dec cid c d packet out cap).livePt0 = true) (live : Live) :
    (udpFoFrame dec cid c d packet out cap).udpPt0Crc3 live =
      match (udpFoFrame dec cid c d packet out cap).udpPt0Reading with
      | none => none
      | some r =>
        match (udpFoFrame dec cid c d packet out cap).checkedPrivateUdp (udpFoRead c d) 6,
            udpChecksumValid r.header [] r.payload with
        | some p, false => some ((udpFoFrame dec cid c d packet out cap).commitReading live p)
        | none, true => some ((udpFoFrame dec cid c d packet out cap).commitReading live r)
        | _, _ => some ((udpFoFrame dec cid c d packet out cap).fail live) := by
  have hprivate : (udpFoFrame dec cid c d packet out cap).udpPrivateReading = some (udpFoRead c d, 6) := by
    unfold Frame.udpPrivateReading
    rw [type_udpFoFrame]
    exact privateReading_udpFo hc ready
  have hshape : (udpFoFrame dec cid c d packet out cap).pt0Shaped = true := by
    have hpos : 0 < (udpFo c ++ packet.drop 28).length := Nat.succ_pos _
    have hbit : u8At (udpFo c ++ packet.drop 28) 0 &&& 0x80 = 0 := by
      change (0x7A : UInt8) &&& 0x80 = 0
      decide
    unfold Frame.pt0Shaped
    change (true && decide (0 < (udpFo c ++ packet.drop 28).length) &&
      decide (u8At (udpFo c ++ packet.drop 28) 0 &&& 0x80 = 0)) = true
    rw [decide_eq_true hpos, decide_eq_true hbit]
    rfl
  unfold Frame.udpPt0Crc3
  rw [if_pos ⟨hshape, ready.profile, ready.options, hlive⟩, hprivate]
  cases hr : (udpFoFrame dec cid c d packet out cap).udpPt0Reading with
  | none => rfl
  | some r =>
    have hused : r.ctx.udpChecksumUsed = true := (udpChecksumUsed_udpPt0Reading hr).trans ready.used
    change (if (!r.ctx.udpChecksumUsed) = true then _ else _) = _
    rw [hused]
    rfl

include hspace hc ready in
/-- Decoded in place, the unit leads to the same context. -/
theorem decodeInPlace_udpFo (live : Live) :
    (udpFoFrame dec cid c d packet out cap).decodeInPlace .foUdp false live =
      (udpFoFrame dec cid c d packet out cap).finishUnit live { ctx := udpFoAfter c d, headerLen := 6 } := by
  have hready : (udpFoFrame dec cid c d packet out cap).privateFoContextReady .udp = true := by
    unfold Frame.privateFoContextReady
    change (decide (d.rohcState ≠ .noContext) && decide (d.profile = .udp)) = true
    rw [ready.state, ready.profile]
    rfl
  have hunit : (udpFoFrame dec cid c d packet out cap).decodeUnit .foUdp false =
      some { ctx := udpFoAfter c d, headerLen := 6 } := by
    have hpacket : (udpFoFrame dec cid c d packet out cap).packet = udpFo c ++ packet.drop 28 := rfl
    unfold Frame.decodeUnit Frame.decodePrivateUnit
    dsimp only
    rw [if_pos hready, ctx_udpFoFrame hspace ready, hpacket, exec_udpFo hc ready]
    rfl
  unfold Frame.decodeInPlace
  rw [hunit]

/-- What authenticates as a PT-0 says so. -/
theorem interpretation_tryFormalPt0 {f : Frame} {meaning : Frame.TentativeMeaning} (h : f.tryFormalPt0 = some meaning) :
    meaning.interpretation = .formalPt0 := by
  unfold Frame.tryFormalPt0 at h
  obtain ⟨formal, -, h⟩ := Option.bind_eq_some_iff.mp h
  obtain ⟨nextMsn, -, h⟩ := Option.bind_eq_some_iff.mp h
  obtain ⟨-, h⟩ := Option.ite_none_left_eq_some.mp h
  obtain ⟨⟨ctx, headerLen⟩, -, h⟩ := Option.bind_eq_some_iff.mp h
  obtain ⟨output, -, h⟩ := Option.bind_eq_some_iff.mp h
  obtain ⟨-, h⟩ := Option.ite_none_left_eq_some.mp h
  cases h
  rfl

include hc ready keyed hlen hid hcheck in
/-- The private meaning is complete. -/
theorem tryPrivateFo_udpFo : ∃ meaning, (udpFoFrame dec cid c d packet out cap).tryPrivateFo = some meaning ∧
    meaning.interpretation = .privateFo := by
  obtain ⟨hbuild, -, -⟩ := keyed.rebuilt hlen ready.foRead hid hcheck
  have houtput : buildUdpPacket maxReconstructedIpPacket (udpFoRead c d) (packet.drop 28) = some packet := by
    have := hbuild maxReconstructedIpPacket (by unfold maxReconstructedIpPacket; omega)
    unfold Frame.rebuild at this
    simpa only [ready.foRead.profile, ready.foRead.version, show ¬(4 : UInt8) = 6 by decide, if_false] using this
  have htentative : (udpFoFrame dec cid c d packet out cap).reconstructTentative (udpFoRead c d) 6 = some packet := by
    unfold Frame.reconstructTentative
    change (do
      let payload ← payloadAfterHeader (udpFo c ++ packet.drop 28) 6
      buildUdpPacket maxReconstructedIpPacket (udpFoRead c d) payload) = _
    rw [payloadAfterHeader_udpFo]
    exact houtput
  refine ⟨⟨.privateFo, udpFoRead c d, packet, 6, .udp, d.cid⟩, ?_, rfl⟩
  unfold Frame.tryPrivateFo
  simp only [type_udpFoFrame, privateReading_udpFo hc ready, Option.bind_eq_bind, Option.bind_some, htentative]
  rfl

include ready keyed hlen hid hcheck in
/-- The end of the unit in place. -/
theorem finishUnit_udpFo (live : Live) :
    (cap < packet.length → ((udpFoFrame dec cid c d packet out cap).finishUnit live
      { ctx := udpFoAfter c d, headerLen := 6 }).1 ≠ 0) ∧
    (packet.length ≤ cap → Delivered live cid (udpFoAfter c d) packet
      ((udpFoFrame dec cid c d packet out cap).finishUnit live { ctx := udpFoAfter c d, headerLen := 6 })) := by
  obtain ⟨hbuild, hnone, -⟩ := keyed.rebuilt hlen (ready.foAfter c).toKeyed hid hcheck
  have hpay : payloadAfterHeader (decoderPacket (udpFoFrame dec cid c d packet out cap).parsed) 6 = some (packet.drop 28) := by
    unfold decoderPacket
    rw [if_neg fun h => by rw [type_udpFoFrame] at h; simp at h]
    exact payloadAfterHeader_udpFo
  refine ⟨fun h => Frame.finishUnit_refused rfl hpay (hnone cap h), fun h => ?_⟩
  exact Frame.finishUnit_delivered (f := udpFoFrame dec cid c d packet out cap)
    (d := ⟨udpFoAfter c d, 6, none⟩) rfl rfl hpay (hbuild cap h)

include hspace hc ready keyed hlen hid hcheck in
/-- **A private unit of the flow**: aliased it is refused; otherwise it is delivered if there is room for its packet. -/
theorem decode_udpFo (again : Live → Bytes → Return) (live : Live) :
    ((udpFoFrame dec cid c d packet out cap).UdpAliased ∨ cap < packet.length →
      ((udpFoFrame dec cid c d packet out cap).decode again live).1 ≠ 0) ∧
    (¬(udpFoFrame dec cid c d packet out cap).UdpAliased → packet.length ≤ cap →
      Delivered live cid (udpFoAfter c d) packet ((udpFoFrame dec cid c d packet out cap).decode again live)) := by
  have hchecked := @checkedPrivateUdp_udpFo dec key cid c d packet view ready keyed hlen hid hcheck out cap
  obtain ⟨privateFo, hprivate, hmeans⟩ :=
    @tryPrivateFo_udpFo dec key cid c d packet view hc ready keyed hlen hid hcheck out cap
  obtain ⟨hfull, hfits⟩ := @finishUnit_udpFo dec key cid c d packet view ready keyed hlen hid hcheck out cap live
  rw [← decodeInPlace_udpFo hspace hc ready] at hfull hfits
  have hpt0 := fun hlive => @udpPt0Crc3_udpFo dec key cid c d packet hc ready out cap hlive live
  have htype := @type_udpFoFrame dec cid c d packet out cap
  have hover : (udpFoFrame dec cid c d packet out cap).livePt0 = true →
      (udpFoFrame dec cid c d packet out cap).privateFoOverlap = true := by
    intro hlive
    have hbit : u8At (udpFoFrame dec cid c d packet out cap).packet 0 &&& 0x80 = 0 := by
      change (0x7A : UInt8) &&& 0x80 = 0
      decide
    have hpos : 0 < (udpFoFrame dec cid c d packet out cap).packet.length := Nat.succ_pos _
    simp [Frame.privateFoOverlap, htype, hpos, hbit, hlive]
  have hbefore : (udpFoFrame dec cid c d packet out cap).before.profile = .udp := ready.profile
  have hsplit : packet.take 28 ++ packet.drop 28 = packet := List.take_append_drop 28 packet
  have hcap : (udpFoFrame dec cid c d packet out cap).cap = cap := rfl
  have hcid : (udpFoFrame dec cid c d packet out cap).cid = cid := rfl
  have hstaged : (udpFoFrame dec cid c d packet out cap).staged = false := rfl
  generalize udpFoFrame dec cid c d packet out cap = f at *
  have hinPlace := Frame.decode_private_inPlace (f := f) again live (.inl htype) (.inl hbefore)
  rw [htype] at hinPlace
  unfold Frame.UdpAliased
  cases hlive : f.livePt0 with
  | false =>
    rw [hinPlace (by simp [Frame.udpPt0Crc3, hlive]) (by simp [hlive])]
    exact ⟨fun h => hfull (h.resolve_left fun h => Bool.false_ne_true h.1), fun _ => hfits⟩
  | true =>
    have hpt0 := hpt0 hlive
    cases hreading : f.udpPt0Reading with
    | none =>
      rw [hreading] at hpt0
      cases hformal : f.tryFormalPt0 with
      | none =>
        rw [hinPlace hpt0 fun _ => by rw [hformal]; rfl]
        exact ⟨fun h => hfull (h.resolve_left fun h => Bool.false_ne_true h.2), fun _ => hfits⟩
      | some formal =>
        refine ⟨fun _ => ?_, fun h => absurd ⟨rfl, rfl⟩ h⟩
        have hdiffer : Frame.sameMeaning formal privateFo = false := by
          simp [Frame.sameMeaning, interpretation_tryFormalPt0 hformal, hmeans]
        have hconflict : f.conflictingMeanings live =
            some (((live.setCtx f.cid f.before).setMode f.modeBefore).failWithFeedback f.cid) := by
          unfold Frame.conflictingMeanings
          rw [if_pos (hover hlive), hformal, hprivate]
          simp only [hdiffer, Bool.false_eq_true, if_false]
        rw [Frame.decode_private again live (.inl htype) (.inl hbefore), hpt0, hconflict]
        simp [Live.failWithFeedback]
    | some r =>
      rw [hreading, hchecked] at hpt0
      dsimp only at hpt0
      have hdecode := Frame.decode_private again live (.inl htype) (.inl hbefore)
      cases hvalid : udpChecksumValid r.header [] r.payload with
      | true =>
        rw [hvalid] at hpt0
        rw [hdecode, hpt0]
        exact ⟨fun _ => Frame.fail_ne_zero _, fun h => absurd ⟨rfl, hvalid⟩ h⟩
      | false =>
        rw [hvalid] at hpt0
        rw [hdecode, hpt0]
        change (_ → (f.commit live (udpFoAfter c d) (packet.take 28 ++ packet.drop 28)).1 ≠ 0) ∧
          (_ → _ → Delivered live cid (udpFoAfter c d) packet
            (f.commit live (udpFoAfter c d) (packet.take 28 ++ packet.drop 28)))
        rw [hsplit]
        refine ⟨fun h => ?_, fun _ hroom => hcid ▸ Frame.commit_delivered hstaged _ (hcap ▸ hroom)⟩
        have hroom : cap < packet.length := h.resolve_left fun h => Bool.false_ne_true (hvalid.symm.trans h.2)
        unfold Frame.commit
        rw [if_pos (by rw [hcap]; exact hroom)]
        exact Frame.fail_ne_zero _

variable (hint : dec.integrity = none) (hsmall : cid ≤ 0x0F) (hget : dec.contexts.get cid = some d)

include hint hspace hsmall hget in
theorem enters_udpFo : Enters dec (smallCidOctets cid ++ (udpFo c ++ packet.drop 28)) out cap
    (udpFoFrame dec cid c d packet out cap) := by
  have htype := @type_udpFoFrame dec cid c d packet out cap
  refine enters_compact hint hspace hsmall hget (List.cons_ne_nil _ _) (show (0x7A : UInt8) < 0xC0 by decide) (fun h => ?_) out cap
  exact absurd (htype.symm.trans h) (by decide)

include hint hspace hsmall hget hc ready keyed hlen hid hcheck in
/-- **A call with a private unit of the flow**: accepted if and only if the unit is not aliased and there is room, and then
the packet comes out. -/
theorem receive_udpFo :
    ((rohcDecompress4 dec (smallCidOctets cid ++ (udpFo c ++ packet.drop 28)) out cap).1 = 0 ↔
      ¬(udpFoFrame dec cid c d packet out cap).UdpAliased ∧ packet.length ≤ cap) ∧
    ((rohcDecompress4 dec (smallCidOctets cid ++ (udpFo c ++ packet.drop 28)) out cap).1 = 0 →
      Delivered ⟨dec, out, cap⟩ cid (udpFoAfter c d) packet
        (rohcDecompress4 dec (smallCidOctets cid ++ (udpFo c ++ packet.drop 28)) out cap)) := by
  have enters := @enters_udpFo dec cid c d packet hspace out cap hint hsmall hget
  have decodes := @decode_udpFo dec key cid c d packet view hspace hc ready keyed hlen hid hcheck out cap
  by_cases htaken : ¬(udpFoFrame dec cid c d packet out cap).UdpAliased ∧ packet.length ≤ cap
  · have delivered := enters.delivered fun again live => (decodes again live).2 htaken.1 htaken.2
    exact ⟨⟨fun _ => htaken, fun _ => delivered.rc⟩, fun _ => delivered⟩
  · have hcode := enters.refused fun again live => (decodes again live).1 (by
      rcases not_and_or.mp htaken with h | h
      · exact .inl (not_not.mp h)
      · exact .inr (Nat.not_le.mp h))
    exact ⟨⟨fun h => absurd h hcode, fun h => absurd h htaken⟩, fun h => absurd h hcode⟩

end Receive

/-! ## The sender -/

/-- What the UDP branch makes of a packet of the flow: `c` is the context it captured. -/
inductive UdpUnit (job : Job) (previous c : Context) (unit : Bytes) : Prop where
  | refresh (type : typeOctet job.cid unit = 0xFD) (payload : Bytes) (sent : SentIr job .udp previous payload c)
    (octets : unit = irUnit .udp c ++ payload)
  | privateFo (octets : unit = smallCidOctets job.cid ++ (udpFo c ++ job.packet.drop 28))

/-- The context the UDP branch captures of a packet of the flow. -/
structure UdpCaptured (key : HeaderKey) (cid : Nat) (packet : Bytes) (c : Context) : Prop extends Keyed key .udp cid c where
  id : c.ipv4Id = u16At packet 4
  check : c.udpCheck = u16At packet 26
  short : packet.length ≤ 0xFFFF

/-- **The units of the UDP branch**: with a checksum in use there is no PT-0. -/
theorem udpUnit_of_compressUdp {job : Job} {key : HeaderKey} {previous after : Context} {unit : Bytes}
    (keyed : KeyedUdpPacket key job.packet job.view) (hcap : job.cap = segmentBufferMax) (hcid : previous.cid = job.cid)
    (hlarge : previous.largeCid = false) (h : job.compressUdp previous = (.ok unit, after)) :
    UdpUnit job previous (job.capturedUdp previous) unit ∧
      UdpCaptured key job.cid job.packet (job.capturedUdp previous) := by
  obtain ⟨header, state, hok, hsend, hfits, rfl, hlen, rfl⟩ := Job.compressUdp_ensures previous unit after h
  have hh := Job.holds_capturedUdp keyed.parsed hok keyed.chosen
  rw [hcap, List.length_append] at hlen
  have hsmall := hh.largeCid.trans hlarge
  have hudp : HasUdp (job.capturedUdp previous) job.packet job.view.headerLen := ⟨rfl, rfl, rfl⟩
  have hpacket : job.packet.length ≤ 0xFFFF := length_le_of_payload hh.ip hh.upper (by omega)
  have hkeyed : Keyed key .udp job.cid (job.capturedUdp previous) :=
    keyed.key ▸ keyed_of_headers keyed.parsed keyed.ipv4 keyed.headerLen hh.ip hudp (hh.flags keyed.ipv4) hh.profile
      (Prod.ext (hh.cid.trans hcid) hsmall)
  have hcheck := hudp.check
  rw [keyed.headerLen] at hcheck
  refine ⟨?_, hkeyed, (hh.ip.v4 keyed.ipv4).id, hcheck, hpacket⟩
  cases hsend with
  | refresh hr =>
    rw [hr.header]
    refine .refresh ?_ _ ⟨rfl, keyed.chosen, hr.sends, hh, nofun, by omega⟩ rfl
    have hfront := Job.irFront_small 0xFD Profile.udp.octet (hh.cid.trans hcid) hsmall
    simp only [irUnit, irSealed, hfront, List.append_assoc, List.cons_append, typeOctet_cons]
  | pt0 compact small reconstructable formed =>
    unfold udpPt0Reconstructable at reconstructable
    simp only [Bool.and_eq_true, decide_eq_true_eq] at reconstructable
    exact absurd (hcheck.symm.trans reconstructable.1.1.2) keyed.check_ne
  | @privateFo made header compact formed unambiguous framed =>
    rw [if_neg (by rw [hsmall]; decide)] at framed
    rw [prependSmallCid_eq framed, keyed.headerLen, List.append_assoc]
    have hmade : made = udpFo ((job.capturedUdp previous).inState .dynamicEstablished) := emitPrivateFo_small formed hsmall
    have hsame : udpFo ((job.capturedUdp previous).inState .dynamicEstablished) = udpFo (job.capturedUdp previous) := rfl
    rw [hmade, hsame]
    exact .privateFo rfl

/-! ## Flows -/

/-- A UDP flow with the key. Nothing is asked of what is lost, and feedback may reach the sender at any time. -/
def udpFlow (key : HeaderKey) : FlowKind where
  packet packet := ∃ view, KeyedUdpPacket key packet view
  compact type := type = 0x7A
  loses _ := True
  near _ _ _ := True
  fed := True

/-- A unit of a flow as the UDP branch made it. -/
structure UdpMade (key : HeaderKey) (link : Link) (cid : Nat) (x : Exchange) (unit : Bytes) (view : ParsedIpView)
    (before c : Context) : Prop where
  keyed : KeyedUdpPacket key x.packet view
  context : link.sender.context cid = some before
  unit : UdpUnit (link.job x view) (link.prepared x view before) c unit
  captured : UdpCaptured key cid x.packet c
  job : (link.job x view).cid = cid

theorem udpMade_of_sent {key : HeaderKey} {link : Link} {cid : Nat} {x : Exchange} {unit : Bytes}
    (sent : FlowSent (udpFlow key) link cid x unit) : ∃ view before c, UdpMade key link cid x unit view before c := by
  obtain ⟨view, before, after, made⟩ := sent.ready.made sent.made
  obtain ⟨view', keyed⟩ := sent.packet
  cases made.parsed.symm.trans keyed.parsed
  obtain ⟨hcid, hlarge, hjob⟩ := sent.ready.labels x view before
  have hcompress := made.compressAs
  rw [keyed.choose] at hcompress
  obtain ⟨hunit, captured⟩ := @udpUnit_of_compressUdp (link.job x view) _ _ _ _ keyed rfl hcid hlarge hcompress
  rw [hjob] at captured
  exact ⟨view, before, _, keyed, made.context, hunit, captured, hjob⟩

/-- A compact unit of the flow is a private one. -/
theorem UdpMade.privateFo {key : HeaderKey} {link : Link} {cid : Nat} {x : Exchange} {unit : Bytes} {view : ParsedIpView}
    {before c : Context} (made : UdpMade key link cid x unit view before c) (type : typeOctet cid unit = 0x7A) :
    unit = smallCidOctets cid ++ (udpFo c ++ x.packet.drop 28) := by
  have h := made.unit
  have hjob := made.job
  cases h with
  | refresh htype =>
    rw [hjob] at htype
    exact absurd (type.symm.trans htype) (by decide)
  | privateFo octets => exact hjob ▸ octets

/-- The receiver has the rest of the packets. -/
theorem udpReady_of_refresh {dec : Decompressor} {key : HeaderKey} {job : Job} {cid : Nat} {previous c : Context} (d : Context)
    {payload : Bytes} (sent : SentIr job .udp previous payload c) (keyed : KeyedUdpPacket key job.packet job.view)
    (captured : UdpCaptured key cid job.packet c) (hspace : dec.largeCidSpace = false) :
    UdpReady key cid (irAfter dec .udp c d) := by
  obtain ⟨carries, -, -⟩ := carriesIpv4_irAfter dec .udp d captured.version
  obtain ⟨hprofile, hstate, hlabels⟩ := control_irAfter dec .udp c d
  obtain ⟨-, -, ht, -⟩ := (irFrame dec .udp c d [] [] 0).irGates_frame .udp (irDecoded .udp c (irBase dec .udp c d))
  have htransport : (irAfter dec .udp c d).toTransportContext = _ := ht.trans (udp_irDecoded (.inl rfl) c _)
  have hflags : (irAfter dec .udp c d).ipv4Flags = c.ipv4Flags := by
    have hwire : c.ipv4Flags = Job.wireFlags job.packet := sent.holds.flags keyed.ipv4
    have hclear := (keyed.regular.resolve_left nofun).1
    rw [if_neg (by simp [keyed.ipv4])] at hclear
    rw [carries.flags, hwire, dfOnly_wireFlags (keyed.chosen.whole keyed.ipv4) (hclear.2 rfl)]
  refine ⟨⟨carries.version, carries.options, ?_, hprofile, ?_⟩, hstate, ?_⟩
  · rw [← captured.key]
    unfold Context.headerKey
    rw [carries.tos, carries.ttl, hflags, carries.protocol, carries.saddr, carries.daddr, htransport]
  · rw [hlabels, hspace]
    exact congrArg (fun l => (l.1, false)) captured.labels
  · rw [htransport]
    exact decide_eq_true (captured.check ▸ keyed.check_ne)

/-- What becomes of the next packet of a flow: the receiver takes a refresh that has one reading, and a private unit that
is not aliased in its context, in both cases given room. -/
inductive UdpNext (link : Link) (cid : Nat) (x : Exchange) (unit : Bytes) (d : Context) : Prop where
  | refresh (type : typeOctet cid unit = 0xFD)
    (accepted : (link.answer x unit).1 = 0 ↔
      (∀ view, parseIpView x.packet = some view → link.IrReadable cid x view) ∧ x.packet.length ≤ x.room)
  | privateFo (type : typeOctet cid unit = 0x7A)
    (accepted : (link.answer x unit).1 = 0 ↔
      ¬(compactFrame link.receiver cid d (unit.drop (smallCidOctets cid).length) x.out x.room).UdpAliased ∧
        x.packet.length ≤ x.room)

section Sent

variable {key : HeaderKey} {link : Link} {cid : Nat} {x : Exchange} {unit : Bytes} {d d' : Context}
  (sent : FlowSent (udpFlow key) link cid x unit)

include sent

/-- **An accepted refresh** gives the receiver what it needs, whatever it had before. -/
theorem udpReady_of_accepted_refresh (type : typeOctet cid unit = 0xFD) (accepted : (link.answer x unit).1 = 0)
    (hd : (link.exchanged x unit).receiver.contexts.get cid = some d') : UdpReady key cid d' := by
  obtain ⟨view, before, c, made⟩ := udpMade_of_sent sent
  obtain ⟨d, hget⟩ := heard_exists hd
  have hcid : c.cid = cid := congrArg Prod.fst made.captured.labels
  cases made.unit with
  | refresh htype payload ir octets =>
    subst octets
    have left := ir.left_of_accepted (by decide) sent.ready.integrity
      (sent.ready.space.trans made.captured.largeCid.symm) (hcid ▸ hget) accepted
    rw [hcid] at left
    cases left.symm.trans hd
    exact udpReady_of_refresh d ir made.keyed made.captured sent.ready.space
  | privateFo octets =>
    rw [octets, made.job] at type
    exact absurd ((typeOctet_cons cid 0x7A _).symm.trans type) (by decide)

/-- An accepted private unit leaves it what it needs. -/
theorem UdpReady.accepted_private (ready : UdpReady key cid d) (hget : link.receiver.contexts.get cid = some d)
    (type : typeOctet cid unit = 0x7A) (accepted : (link.answer x unit).1 = 0)
    (hd : (link.exchanged x unit).receiver.contexts.get cid = some d') : UdpReady key cid d' := by
  obtain ⟨view, before, c, made⟩ := udpMade_of_sent sent
  have octets := made.privateFo type
  subst octets
  obtain ⟨-, delivers⟩ := receive_udpFo sent.ready.space made.captured.toKeyed ready made.keyed made.captured.short
    made.captured.id made.captured.check sent.ready.integrity sent.ready.small hget
  have left := (delivers accepted).contexts
  have hself : (link.exchanged x (smallCidOctets cid ++ (udpFo c ++ x.packet.drop 28))).receiver.contexts.get cid =
      some (udpFoAfter c d) := by
    unfold Link.exchanged Link.answer
    rw [left]
    exact ContextTable.get_set_self (by rw [hget]; rfl)
  cases hself.symm.trans hd
  exact ready.foAfter c

/-- **The next packet** at a receiver that has what private units need. -/
theorem udpNext_of_ready (hget : link.receiver.contexts.get cid = some d)
    (ready : typeOctet cid unit = 0x7A → UdpReady key cid d) :
    UdpNext link cid x unit d ∧ ((link.answer x unit).1 = 0 →
      (link.answer x unit).2.outLen = x.packet.length ∧ link.output x unit = x.packet) := by
  obtain ⟨view, before, c, made⟩ := udpMade_of_sent sent
  cases made.unit with
  | refresh htype payload ir octets =>
    rw [made.job] at htype
    have received := sent.ready.irReceived sent.made made.keyed.parsed htype hget
      fun h => by rw [made.keyed.choose] at h; cases h
    have hreadable : link.IrReadable cid x view ↔ ∀ view, parseIpView x.packet = some view → link.IrReadable cid x view := by
      refine ⟨fun h view' hv => ?_, fun h => h view made.keyed.parsed⟩
      cases made.keyed.parsed.symm.trans hv
      exact h
    refine ⟨.refresh htype (received.accepted_iff.trans (and_congr_left' hreadable)), fun h => ?_⟩
    obtain ⟨ctx, out, delivered, same, -⟩ := received.of_accepted h
    rw [made.keyed.choose] at same
    have hout := same.mpr made.keyed.regular
    exact ⟨delivered.outLen.trans (congrArg List.length hout), delivered.output.trans hout⟩
  | privateFo octets =>
    rw [made.job] at octets
    subst octets
    have htype : typeOctet cid (smallCidOctets cid ++ (udpFo c ++ x.packet.drop 28)) = 0x7A := typeOctet_cons _ _ _
    obtain ⟨haccepted, delivers⟩ := receive_udpFo sent.ready.space made.captured.toKeyed (ready htype) made.keyed
      made.captured.short made.captured.id made.captured.check sent.ready.integrity sent.ready.small hget
    refine ⟨.privateFo htype ?_, fun h => ⟨(delivers h).outLen, (delivers h).output⟩⟩
    rw [List.drop_left]
    exact haccepted

end Sent

end Rohccxx
