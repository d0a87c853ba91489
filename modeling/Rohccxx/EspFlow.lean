import Rohccxx.CompWindow
import Rohccxx.CrcTables
import Rohccxx.FixedHeaders
import Rohccxx.Flow
import Rohccxx.ForwardMsn
import Rohccxx.StandardIr

/-!
# An ESP flow

The ESP branch sends refreshes and PT-0 units with CRC-7, nothing else. A refresh is self-contained; a PT-0 has no more than
six bits of the MSN, and the receiver moves IP-ID and ESP sequence number along with it.

* `EspBehind c d lost` — the receiver's context `d` is the sender's `c`, `lost` packets ago.
* `espFlow` — the flow: its compact units are PT-0, and until feedback reaches the sender its window keeps both ends near.
* `esp_flow` — what becomes of the next packet of the flow.
-/

set_option autoImplicit false

namespace Rohccxx

open Octets

/-! ## PT-0 with CRC-7 on the wire -/

/-- The octets of an ESP PT-0: the tag with five bits of the MSN, the sixth bit with the CRC. -/
structure EspPt0Octets (msn : UInt16) (crcInput : Bytes) (b t : UInt8) : Prop where
  tag : b &&& 0xE0 = 0x80
  base : ∀ rest, readFormalCoBase (b :: t :: rest) 2 .esp .pt0Crc7 =
    some { msn := lsbs msn 6, headerCrc := formalCoHeaderCrc .pt0Crc7 crcInput }

/-- Two octets are enough for the base header. -/
theorem readFormalCoBase_crc7_append (b t : UInt8) (rest : Bytes) :
    readFormalCoBase (b :: t :: rest) 2 .esp .pt0Crc7 = readFormalCoBase [b, t] 2 .esp .pt0Crc7 := by
  have hfront : ∀ i n, i + n ≤ 16 → readBits ([b, t] ++ rest) i n = readBits [b, t] i n :=
    fun i n h => readBits_append (by simpa using h)
  rw [show b :: t :: rest = [b, t] ++ rest from rfl]
  unfold readFormalCoBase
  simp only [hfront 0 3 (by omega), hfront 3 6 (by omega), hfront 9 7 (by omega), isRtpFormalCoProfile,
    Bool.false_eq_true, if_false]

theorem emitFormalCo_pt0Crc7 {cap cid : Nat} {msn : UInt16} {input formal : Bytes}
    (h : emitFormalCo cap .esp .pt0Crc7 cid false { msn := msn } input = some formal) :
    ∃ b t, formal = smallCidOctets cid ++ [b, t] ∧ EspPt0Octets msn input b t := by
  obtain ⟨hvalid, -, b, rest, hwrite, hrest, rfl⟩ := emitFormalCo_eq_some h
  have hlen : formalCoBaseLen .esp .pt0Crc7 = 2 := rfl
  obtain ⟨t, rfl⟩ := List.length_eq_one_iff.mp (hlen ▸ hrest)
  have hread := readFormalCoBase_write hvalid (by decide) (formalCoHeaderCrc_lt _ _) hwrite
  have hread' : readFormalCoBase [b, t] 2 .esp .pt0Crc7 =
      some { msn := lsbs msn 6, headerCrc := formalCoHeaderCrc .pt0Crc7 input } := by
    rw [hlen] at hread
    rw [hread]
    rfl
  refine ⟨b, t, ?_, ?_, fun tail => (readFormalCoBase_crc7_append b t tail).trans hread'⟩
  · simp [formalCoHead, smallCidOctets]
  · rw [readFormalCoBase_crc7 rfl] at hread'
    by_contra htag
    simp [isRtpFormalCoProfile, htag] at hread'

/-! ## PT-0 with CRC-7 at the receiver -/

section Receive

variable {dec : Decompressor} {cid : Nat} {d : Context} {b t : UInt8} {payload : Bytes} (hint : dec.integrity = none)
  (hspace : dec.largeCidSpace = false) (hcid : cid ≤ 0x0F) (hget : dec.contexts.get cid = some d)
  (htag : b &&& 0xE0 = 0x80)

include htag in
theorem espPt0_octet : b < 0xC0 ∧ b &&& 0x80 ≠ 0 ∧ b &&& 0xE0 ≠ 0xA0 ∧ detectPacketType b = .formalCo ∧
    b >>> 4 ≠ 4 ∧ b >>> 4 ≠ 6 :=
  forall_octet (P := fun b => b &&& 0xE0 = 0x80 → b < 0xC0 ∧ b &&& 0x80 ≠ 0 ∧ b &&& 0xE0 ≠ 0xA0 ∧
    detectPacketType b = .formalCo ∧ b >>> 4 ≠ 4 ∧ b >>> 4 ≠ 6) (by decide +kernel) b htag

include htag in
theorem packetTypeOf_espPt0 (rest : Bytes) : packetTypeOf (b :: rest) = .formalCo := by
  obtain ⟨-, -, -, htype, h4, h6⟩ := espPt0_octet htag
  unfold packetTypeOf
  rw [not_isUncompressedIpPayload rest h4 h6, u8At_cons_zero, htype]
  rfl

include hint hspace hcid hget htag in
theorem enters_espPt0 (out : Bytes) (cap : Nat) : Enters dec (smallCidOctets cid ++ b :: t :: payload) out cap
    (compactFrame dec cid d (b :: t :: payload) out cap) := by
  refine enters_compact hint hspace hcid hget (by simp) (by rw [u8At_cons_zero]; exact (espPt0_octet htag).1) (fun h => ?_) out cap
  rw [packetTypeOf_espPt0 htag] at h
  cases h

/-- The gate of a small CID. -/
theorem livePt0_compactFrame (hspace : dec.largeCidSpace = false) (packet out : Bytes) (cap : Nat) :
    (compactFrame dec cid d packet out cap).livePt0 =
      livePt0ContextSupported d false cid (decide (cid ≠ 0)) := by
  unfold Frame.livePt0
  rw [show (compactFrame dec cid d packet out cap).largeCidSpace = false from hspace]
  rfl

include hspace htag in
/-- In an ESP context in which PT-0 is live, the reading with CRC-7 decides. -/
theorem decode_espPt0 (hp : d.profile = .esp) (hopt : d.ipv4OptionsLen = 0)
    (hlive : livePt0ContextSupported d false cid (decide (cid ≠ 0)) = true) (out : Bytes) (cap : Nat)
    (again : Live → Bytes → Return) (live : Live) :
    (compactFrame dec cid d (b :: t :: payload) out cap).decode again live =
      (compactFrame dec cid d (b :: t :: payload) out cap).commitOnly live
        (compactFrame dec cid d (b :: t :: payload) out cap).espPt0Crc7Reading := by
  generalize hf : compactFrame dec cid d (b :: t :: payload) out cap = f
  have htype : f.parsed.type = .formalCo := by
    rw [← hf]
    exact packetTypeOf_espPt0 htag _
  have hpacket : f.packet = b :: t :: payload := by rw [← hf]; rfl
  have hbefore : f.before = d := by rw [← hf]; rfl
  have hlive' : f.livePt0 = true := by rw [← hf, livePt0_compactFrame hspace, hlive]
  have h₁ : f.normalPacket live = none := by simp [Frame.normalPacket, htype]
  have h₂ : f.uncompressedIr live = none := by simp [Frame.uncompressedIr, htype]
  have h₃ : f.rtpPt0Crc7 live = none := by simp [Frame.rtpPt0Crc7, fixedRtpShape, hbefore, hp]
  have h₄ : f.espPt0Crc7 live = some (f.commitOnly live f.espPt0Crc7Reading) := by
    unfold Frame.espPt0Crc7
    rw [if_pos ⟨htype, by simp [hpacket], by rw [hpacket]; exact htag, by rw [hbefore]; exact hp,
      by rw [hbefore]; exact hopt, hlive'⟩]
  unfold Frame.decode
  simp only [h₁, h₂, h₃, h₄, Option.getD_none, Option.getD_some]

include hint hspace hcid hget htag in
/-- **A PT-0 with a reading and room for its packet is delivered**; any other is refused. -/
theorem receive_espPt0 (hp : d.profile = .esp) (hopt : d.ipv4OptionsLen = 0)
    (hlive : livePt0ContextSupported d false cid (decide (cid ≠ 0)) = true) (out : Bytes) (cap : Nat) :
    ((∀ r, (compactFrame dec cid d (b :: t :: payload) out cap).espPt0Crc7Reading = some r →
        cap < (r.header ++ r.payload).length) →
      (rohcDecompress4 dec (smallCidOctets cid ++ b :: t :: payload) out cap).1 ≠ 0) ∧
    ∀ r, (compactFrame dec cid d (b :: t :: payload) out cap).espPt0Crc7Reading = some r →
      (r.header ++ r.payload).length ≤ cap → Delivered ⟨dec, out, cap⟩ cid r.ctx (r.header ++ r.payload)
        (rohcDecompress4 dec (smallCidOctets cid ++ b :: t :: payload) out cap) := by
  have enters := @enters_espPt0 dec cid d b t payload hint hspace hcid hget htag out cap
  have decodes := @decode_espPt0 dec cid d b t payload hspace htag hp hopt hlive out cap
  constructor
  · intro hnone
    refine enters.refused fun again live => ?_
    rw [decodes]
    cases hread : (compactFrame dec cid d (b :: t :: payload) out cap).espPt0Crc7Reading with
    | none => exact Frame.fail_ne_zero _
    | some r =>
      change (Frame.commit _ live r.ctx (r.header ++ r.payload)).1 ≠ 0
      unfold Frame.commit
      rw [if_pos (by exact hnone r hread)]
      exact Frame.fail_ne_zero _
  · intro r hread hcap
    refine enters.delivered fun again live => ?_
    rw [decodes, hread]
    exact Frame.commit_delivered rfl r.ctx hcap

include hint hspace hcid hget htag in
/-- Where PT-0 is not live, it is refused. -/
theorem receive_espPt0_not_live (hlive : livePt0ContextSupported d false cid (decide (cid ≠ 0)) = false) (out : Bytes)
    (cap : Nat) :
    (rohcDecompress4 dec (smallCidOctets cid ++ b :: t :: payload) out cap).1 ≠ 0 := by
  refine (enters_espPt0 hint hspace hcid hget htag out cap).refused fun again live => ?_
  generalize hf : compactFrame dec cid d (b :: t :: payload) out cap = f
  have htype : f.parsed.type = .formalCo := by
    rw [← hf]
    exact packetTypeOf_espPt0 htag _
  have hbit : u8At f.packet 0 &&& 0x80 ≠ 0 := by
    rw [← hf]
    exact (espPt0_octet htag).2.1
  have hlive' : f.livePt0 = false := by rw [← hf, livePt0_compactFrame hspace, hlive]
  have hshape := Frame.pt0Shaped_of_top_bit hbit
  have hc : f.correctedType = .formalCo := by simp [Frame.correctedType, htype]
  have hover : f.privateFoOverlap = false := by simp [Frame.privateFoOverlap, htype]
  have hlast : f.resolveOverlap f.correctedType = .formalCo := by simp [hc, Frame.resolveOverlap, hover]
  have hcand : f.rtpPt0Crc3Candidate f.correctedType = false := by simp [Frame.rtpPt0Crc3Candidate, hshape]
  have h₁ : f.normalPacket live = none := by simp [Frame.normalPacket, htype]
  have h₂ : f.uncompressedIr live = none := by simp [Frame.uncompressedIr, htype]
  have h₃ : f.rtpPt0Crc7 live = none := by simp [Frame.rtpPt0Crc7, hlive']
  have h₄ : f.espPt0Crc7 live = none := by simp [Frame.espPt0Crc7, hlive']
  have h₅ : f.pt1SeqId live = none := by simp [Frame.pt1SeqId, hlive']
  have h₆ : f.udpPt0Crc3 live = none := by simp [Frame.udpPt0Crc3, hshape]
  have h₇ : f.espPt0Crc3 live = none := by simp [Frame.espPt0Crc3, hshape]
  have h₈ : f.ipPt0Crc3 live = none := by simp [Frame.ipPt0Crc3, hshape]
  have h₉ : f.rtpPt0Crc3 f.correctedType live = none := by simp [Frame.rtpPt0Crc3, hcand]
  have h₁₀ : f.conflictingMeanings live = none := by simp [Frame.conflictingMeanings, hover]
  unfold Frame.decode
  simp only [hlast, hcand, h₁, h₂, h₃, h₄, h₅, h₆, h₇, h₈, h₉, h₁₀, Option.getD_none, Bool.false_and, Frame.feedbackUnit,
    Frame.segmentUnit, reduceCtorEq, if_false, ne_eq, not_false_eq_true, if_true]
  exact Frame.failDecode_ne_zero _

end Receive

/-! ## The sender -/

/-- One packet further: what no PT-0 carries is the same, what it counts has moved by one. -/
structure EspStep (a b : Context) : Prop extends SameIpv4 a b where
  spi : b.espSpi = a.espSpi
  msn : b.msn = a.msn + 1
  id : b.ipv4Id = a.ipv4Id + 1
  sequence : b.espSequence = a.espSequence + 1

/-- Only an IP-ID that moved by one is called sequential. -/
theorem updateIpv4IdBehavior_zero {ctx : Context} {had : Bool} {id : UInt16} (hversion : ctx.ipVersion = 4)
    (hzero : (updateIpv4IdBehavior ctx had id).ipv4IdBehavior = 0) :
    (updateIpv4IdBehavior ctx had id).ipv4Id = id + 1 := by
  have hno : ¬ctx.ipVersion ≠ 4 := not_not_intro hversion
  unfold updateIpv4IdBehavior at hzero ⊢
  rw [if_neg hno] at hzero ⊢
  dsimp only at hzero ⊢
  split_ifs at hzero with hhad hdelta
  · rw [← hdelta, UInt16.add_comm, UInt16.sub_add_cancel]
  all_goals exact absurd hzero (by decide)

theorem Job.capturedBehavior_zero {job : Job} {profile : Profile} {previous : Context}
    (hversion : (job.capturedBehavior profile previous).ipVersion = 4)
    (hzero : (job.capturedBehavior profile previous).ipv4IdBehavior = 0) :
    (job.capturedBehavior profile previous).ipv4Id = previous.ipv4Id + 1 := by
  obtain ⟨revision, pending, e, -⟩ := noteBehaviorChange_eq previous
    (decide (previous.ipVersion = 4 ∧ previous.txCount > 0))
    (updateIpv4IdBehavior (job.capturedIp profile previous)
      (decide (previous.ipVersion = 4 ∧ previous.txCount > 0)) previous.ipv4Id)
  obtain ⟨behavior, sequential, e', -⟩ := updateIpv4IdBehavior_eq (job.capturedIp profile previous)
    (decide (previous.ipVersion = 4 ∧ previous.txCount > 0)) previous.ipv4Id
  have hip : (job.capturedBehavior profile previous).toIpv4Context =
      (updateIpv4IdBehavior (job.capturedIp profile previous)
        (decide (previous.ipVersion = 4 ∧ previous.txCount > 0)) previous.ipv4Id).toIpv4Context :=
    Eq.trans (congrArg Context.toIpv4Context e) rfl
  rw [hip] at hversion hzero ⊢
  refine updateIpv4IdBehavior_zero ?_ hzero
  rw [e'] at hversion
  exact hversion

/-- **A PT-0 is one packet further.** -/
theorem espStep_of_reconstructable {job : Job} {previous : Context}
    (h : espPt0Reconstructable previous (job.capturedEsp previous) = true) :
    previous.rohcState = .dynamicEstablished ∧ previous.ipVersion = 4 ∧ EspStep previous (job.capturedEsp previous) := by
  unfold espPt0Reconstructable establishedIpv4 at h
  simp only [Bool.and_eq_true, decide_eq_true_eq] at h
  obtain ⟨⟨⟨⟨⟨⟨⟨⟨⟨⟨-, hstate⟩, hprevious⟩, hversion⟩, hspi⟩, hzero⟩, hsame⟩, hpos⟩, hle⟩, hmsn⟩, hid⟩ := h
  have hnext : (job.capturedEsp previous).ipv4Id = previous.ipv4Id + 1 :=
    @Job.capturedBehavior_zero job .esp previous hversion hzero
  have hone : ((job.capturedEsp previous).espSequence - previous.espSequence).toUInt16 = 1 :=
    (UInt16.add_right_inj previous.ipv4Id).mp (hid.symm.trans hnext)
  have hdelta : (job.capturedEsp previous).espSequence - previous.espSequence = 1 := by
    have hnat := congrArg UInt16.toNat hone
    rw [UInt32.toNat_toUInt16, UInt16.toNat_one] at hnat
    rw [UInt32.le_iff_toNat_le] at hle
    apply UInt32.toNat_inj.mp
    have h15 : (15 : UInt32).toNat = 15 := rfl
    rw [UInt32.toNat_one]
    omega
  refine ⟨hstate, hprevious, sameIpv4_of_sameIpv4Header hsame hversion, hspi, ?_, hnext, ?_⟩
  · rw [hmsn, hone]
  · rw [← hdelta, UInt32.add_comm, UInt32.sub_add_cancel]

/-! ## Both ends -/

/-- The receiver's context `d` is the sender's context `c`, `lost` packets ago. -/
structure EspBehind (c d : Context) (lost : Nat) : Prop extends CarriesIpv4 c d where
  profile : d.profile = .esp
  state : d.rohcState = .dynamicEstablished
  largeCid : d.largeCid = false
  separate : d.legacyEspPayloadIncludesHeader = false
  ratio : d.reorderRatio ≤ 3
  spi : d.espSpi = c.espSpi
  msn : c.msn = d.msn + UInt16.ofNat lost
  id : c.ipv4Id = d.ipv4Id + UInt16.ofNat lost
  sequence : c.espSequence = d.espSequence + UInt32.ofNat lost

namespace EspBehind

variable {c c' d d' : Context} {lost : Nat}

theorem of_sameFlow (h : EspBehind c d lost) (same : SameFlow c c') : EspBehind c' d lost where
  toCarriesIpv4 := h.toCarriesIpv4.of_ipv4 same.ipv4
  profile := h.profile
  state := h.state
  largeCid := h.largeCid
  separate := h.separate
  ratio := h.ratio
  spi := by rw [same.transport]; exact h.spi
  msn := by rw [same.msn]; exact h.msn
  id := by rw [same.ipv4]; exact h.id
  sequence := by rw [same.transport]; exact h.sequence

/-- Labels do not matter, as long as the CID stays a small one. -/
theorem of_keeps (h : EspBehind c d lost) (keeps : KeepsContext d d') (large : d'.largeCid = false) :
    EspBehind c d' lost := by
  have carries := h.toCarriesIpv4.of_keeps keeps
  have e := keeps.fields
  rw [e] at large carries ⊢
  exact { h with toCarriesIpv4 := carries, largeCid := large }

/-- A packet that does not arrive. -/
theorem step (h : EspBehind c d lost) (next : EspStep c c') : EspBehind c' d (lost + 1) where
  toCarriesIpv4 := h.toCarriesIpv4.step next.toSameIpv4
  profile := h.profile
  state := h.state
  largeCid := h.largeCid
  separate := h.separate
  ratio := h.ratio
  spi := h.spi.trans next.spi.symm
  msn := by
    rw [next.msn, h.msn, UInt16.ofNat_add, UInt16.add_assoc]
    rfl
  id := by
    rw [next.id, h.id, UInt16.ofNat_add, UInt16.add_assoc]
    rfl
  sequence := by
    rw [next.sequence, h.sequence, UInt32.ofNat_add, UInt32.add_assoc]
    rfl

/-- The fields a PT-0 moves. -/
theorem delta (h : EspBehind c d lost) : c.msn - d.msn = UInt16.ofNat lost := by
  rw [h.msn, UInt16.add_comm, UInt16.add_sub_cancel]

/-- The MSN of the sender leads the receiver to the sender's context. -/
theorem caughtUp (h : EspBehind c d lost) (hlost : lost < 2 ^ 16) (seen : Bool) :
    EspBehind c { advanceFormalEsp d c.msn with formalPt0Crc7Seen := seen } 0 where
  toCarriesIpv4 := ⟨h.version, h.options, h.tos, h.ttl, h.flags, h.protocol, h.saddr, h.daddr⟩
  profile := h.profile
  state := h.state
  largeCid := h.largeCid
  separate := h.separate
  ratio := h.ratio
  spi := h.spi
  msn := (UInt16.add_zero _).symm
  id := by
    change c.ipv4Id = d.ipv4Id + (c.msn - d.msn) + 0
    rw [h.delta, UInt16.add_zero]
    exact h.id
  sequence := by
    change c.espSequence = d.espSequence + (c.msn - d.msn).toUInt32 + 0
    rw [h.delta, UInt32.add_zero, h.sequence]
    congr 1
    apply UInt32.toNat_inj.mp
    rw [UInt16.toNat_toUInt32, UInt16.toNat_ofNat_of_lt' hlost,
      UInt32.toNat_ofNat_of_lt' (Nat.lt_trans hlost (by decide))]

/-- A context that has caught up holds the headers of the packet. -/
theorem holds {job : Job} {previous : Context} {payload : Bytes} (h : EspBehind c d 0)
    (holds : job.Holds .esp previous payload c) (h4 : c.ipVersion = 4) :
    HasIp d job.packet job.view ∧ HasUpper d job.packet job.view .esp payload ∧ job.view.headerLen = 20 ∧
      payload = job.packet.drop (job.view.headerLen + 8) ∧ job.view.headerLen + 8 ≤ job.packet.length := by
  have h6 := holds.ipv4 h4
  have hid : d.ipv4Id = c.ipv4Id := (h.id.trans (UInt16.add_zero _)).symm
  have hseq : d.espSequence = c.espSequence := (h.sequence.trans (UInt32.add_zero _)).symm
  have hupper := holds.upper
  generalize hprofile : Profile.esp = profile at hupper ⊢
  cases hupper with
  | esp header fits protocol noList noOptions =>
    exact ⟨h.hasIp holds.ip h6 (noOptions h6) hid, .esp ⟨h.spi.trans header.spi, hseq.trans header.sequence⟩ fits
      (h.protocol.trans protocol) noList noOptions, noOptions h6, rfl, fits⟩
  | _ => cases hprofile

end EspBehind

/-- How many packets an ESP context can be moved on by a PT-0. -/
def espPt0Reach (ctx : Context) : Nat := (formalMsnOffset ctx.reorderRatio (2 ^ 6)).elim 0 (2 ^ 6 - 1 - ·)

theorem espPt0Reach_le (ctx : Context) : espPt0Reach ctx ≤ 63 := by
  unfold espPt0Reach
  cases formalMsnOffset ctx.reorderRatio (2 ^ 6) with
  | none => exact Nat.zero_le _
  | some p => exact Nat.sub_le _ _

theorem le_espPt0Reach {ctx : Context} (h : ctx.reorderRatio ≤ 3) : 16 ≤ espPt0Reach ctx := by
  have hall : ∀ ratio : UInt8, ratio ≤ 3 → 16 ≤ (formalMsnOffset ratio (2 ^ 6)).elim 0 (2 ^ 6 - 1 - ·) :=
    forall_octet (P := fun ratio => ratio ≤ 3 → 16 ≤ (formalMsnOffset ratio (2 ^ 6)).elim 0 (2 ^ 6 - 1 - ·))
      (by decide +kernel)
  exact hall ctx.reorderRatio h

/-- **The reading of a PT-0** in a context within its reach. -/
theorem espPt0Crc7Reading_eq {dec : Decompressor} {cid : Nat} {c d : Context} {b t : UInt8} {payload input out : Bytes}
    {cap lost : Nat} (octets : EspPt0Octets c.msn input b t) (behind : EspBehind c d lost) (hpos : 0 < lost)
    (hnear : lost ≤ espPt0Reach d) :
    (compactFrame dec cid d (b :: t :: payload) out cap).espPt0Crc7Reading =
      (buildFixedEspIpv4Header (advanceFormalEsp d c.msn) payload.length).bind fun header =>
        if crc7 header = crc7 input then
          some ⟨{ advanceFormalEsp d c.msn with formalPt0Crc7Seen := true }, header, payload⟩
        else none := by
  have hcrc : formalCoHeaderCrc .pt0Crc7 input = crc7 input := crc7_masked input
  unfold espPt0Reach at hnear
  obtain ⟨p, hp⟩ : ∃ p, formalMsnOffset d.reorderRatio (2 ^ 6) = some p := by
    cases hoff : formalMsnOffset d.reorderRatio (2 ^ 6) with
    | none =>
      rw [hoff] at hnear
      exact absurd hnear (Nat.not_le.mpr hpos)
    | some p => exact ⟨p, rfl⟩
  rw [hp] at hnear
  have hlow : (lsbs c.msn 6).toNat = c.msn.toNat % 2 ^ 6 := by
    unfold lsbs
    rw [UInt16.toNat_ofNat']
    omega
  have hmsn : decodeForwardFormalMsn d (lsbs c.msn 6) 6 = some c.msn :=
    (decodeForwardFormalMsn_iff (by decide) (by decide) hp _ _).mpr ⟨lost, hpos, hnear, behind.msn, hlow⟩
  unfold Frame.espPt0Crc7Reading
  change (do
    let formal ← readFormalCoBase (b :: t :: payload) 2 .esp .pt0Crc7
    let nextMsn ← decodeForwardFormalMsn d formal.msn 6
    let payload ← payloadAfterHeader (b :: t :: payload) 2
    let header ← buildFixedEspIpv4Header (advanceFormalEsp d nextMsn) payload.length
    if crc7 header = formal.headerCrc then
      some (⟨{ advanceFormalEsp d nextMsn with formalPt0Crc7Seen := true }, header, payload⟩ : Reading) else none) = _
  have hpay : payloadAfterHeader (b :: t :: payload) 2 = some payload := by simp [payloadAfterHeader]
  simp only [octets.base, hmsn, hpay, hcrc, Option.bind_eq_bind, Option.bind_some]

/-- **The header of a PT-0**: a receiver that has caught up builds the headers of a regular packet. -/
theorem fixedEspHeader_of_caughtUp {job : Job} {previous c a : Context} {payload : Bytes}
    (hchosen : Chosen job.packet job.view .esp) (holds : job.Holds .esp previous payload c) (h4 : c.ipVersion = 4)
    (behind : EspBehind c a 0) (regular : RegularPacket job.packet job.view .esp)
    (short : payload.length ≤ segmentBufferMax) :
    buildFixedEspIpv4Header a payload.length = some (job.packet.take (job.view.headerLen + 8)) ∧
      job.packet.take (job.view.headerLen + 8) ++ payload = job.packet := by
  have hlen : job.packet.length ≤ 0xFFFF := length_le_of_payload holds.ip holds.upper short
  obtain ⟨hip, hup, h20, hpay, hfits⟩ := behind.holds holds h4
  obtain ⟨octets, hbuild, -, hiff⟩ := rebuild_eq_iff behind.profile hip hup
    (fun _ => behind.separate) hlen (le_refl job.packet.length)
  have hrebuilt : buildEspPacket job.packet.length a payload = some job.packet := by
    rw [hiff.mpr (behind.regular holds hchosen rfl (holds.ipv4 h4) regular)] at hbuild
    unfold Frame.rebuild at hbuild
    simpa only [behind.profile, behind.separate, Bool.false_eq_true, if_false] using hbuild
  have hsize : payload.length + 28 = job.packet.length := by
    rw [hpay, List.length_drop]
    omega
  obtain ⟨header, hfixed, hheader⟩ : ∃ header, buildFixedEspIpv4Header a payload.length = some header ∧
      header.length = job.view.headerLen + 8 := by
    unfold buildFixedEspIpv4Header
    rw [if_neg (by simp [behind.profile, behind.version, behind.options]; omega)]
    exact ⟨_, rfl, by rw [length_fixedIpv4Header behind.options, h20]; rfl⟩
  have hprotocol : a.ipv4Protocol = 50 :=
    behind.protocol.trans (holds.protocol.trans (hchosen.fields.2.2 rfl))
  have hfront := (agrees_esp hprotocol).front payload header job.packet.length hfixed (by omega)
  have heq : header ++ payload = job.packet := Option.some.inj (hfront.symm.trans hrebuilt)
  have htake : job.packet.take (job.view.headerLen + 8) = header := by
    rw [← heq]
    exact List.take_left' hheader
  rw [htake]
  exact ⟨hfixed, heq⟩

/-! ## Units of a link -/

/-- What the ESP branch makes of a packet: `c` is the context it captured, `after` the one it leaves. -/
inductive EspUnit (job : Job) (previous c after : Context) (unit : Bytes) : Prop where
  | refresh (type : typeOctet job.cid unit = 0xFD) (payload : Bytes) (sent : SentIr job .esp previous payload c)
    (octets : unit = irUnit .esp c ++ payload)
  | pt0 {b t : UInt8} (payload : Bytes) (octets : unit = smallCidOctets job.cid ++ b :: t :: payload)
    (wire : EspPt0Octets c.msn (job.packet.take (job.view.headerLen + 8)) b t)
    (state : previous.rohcState = .dynamicEstablished) (version : previous.ipVersion = 4) (next : EspStep previous c)
    (holds : job.Holds .esp previous payload c) (short : payload.length ≤ segmentBufferMax)
    (free : previous.profileReplacementPending = false) (ratio : after.reorderRatio = previous.reorderRatio)
    (counted : after.formalPt0SinceConfirmation = previous.formalPt0SinceConfirmation + 1)

/-- A PT-0 is no IR. -/
theorem typeOctet_pt0 {cid : Nat} {b : UInt8} {rest : Bytes} {msn : UInt16} {input : Bytes} {t : UInt8}
    (wire : EspPt0Octets msn input b t) : typeOctet cid (smallCidOctets cid ++ b :: rest) ≠ 0xFD := by
  rw [typeOctet_cons]
  rintro rfl
  exact absurd wire.tag (by decide)

/-- **The units of the ESP branch.** -/
theorem espUnit_of_compressEsp {job : Job} {previous after : Context} {unit : Bytes}
    (hv : parseIpView job.packet = some job.view) (hchoose : chooseProfile job.packet job.view = .esp)
    (hcap : job.cap = segmentBufferMax) (hcid : previous.cid = job.cid) (hlarge : previous.largeCid = false)
    (h : job.compressEsp previous = (.ok unit, after)) :
    EspUnit job previous (job.capturedEsp previous) after unit ∧ SameFlow (job.capturedEsp previous) after := by
  have hchosen := chosen_of_chooseProfile hv hchoose (by decide)
  obtain ⟨header, state, hok, hsend, hfits, rfl, hlen, rfl⟩ := Job.compressEsp_ensures previous unit after h
  have hh := Job.holds_capturedEsp hv hok hchosen hfits
  rw [hcap, List.length_append] at hlen
  cases hsend with
  | refresh hr =>
    obtain ⟨state, rfl⟩ := hr.after
    refine ⟨?_, (SameFlow.inState _ _).trans (.finishTransmit _)⟩
    rw [hr.header]
    refine .refresh ?_ _ ⟨rfl, hchosen, hr.sends, hh, (fun h => by cases h), by omega⟩ rfl
    have hfront := Job.irFront_small 0xFD Profile.esp.octet (hh.cid.trans hcid) (hh.largeCid.trans hlarge)
    simp only [irUnit, irSealed, hfront, List.append_assoc, List.cons_append, typeOctet_cons]
  | pt0 compact small reconstructable formed =>
    refine ⟨?_, (SameFlow.inState _ _).trans ((SameFlow.countPt0 _).trans (.finishTransmit _))⟩
    obtain ⟨made, hmade, formed⟩ := Option.bind_eq_some_iff.mp formed
    obtain ⟨-, formed⟩ := Option.ite_none_left_eq_some.mp formed
    cases formed
    have hprofile : ((job.capturedEsp previous).inState .dynamicEstablished).profile = .esp := hh.profile
    rw [hprofile] at hmade
    obtain ⟨b, t, rfl, wire⟩ := emitFormalCo_pt0Crc7 hmade
    obtain ⟨hstate, hversion, hnext⟩ := espStep_of_reconstructable reconstructable
    have hcaptured : Captured .esp job.mode previous.toControl (job.capturedEsp previous).toControl :=
      @Job.captured_captured job previous .esp (by decide) (by decide)
    have hfree : previous.profileReplacementPending = false := by
      by_contra hp
      exact absurd (compact.settled.free.symm.trans (hcaptured.pending (by simpa using hp))) (by decide)
    exact .pt0 _ (by simp) wire hstate hversion hnext hh (by omega) hfree
      ((finishTransmit_reorderRatio _).trans hcaptured.reorderRatio) (congrArg (· + 1) hcaptured.count)

section Accepted

variable {dec : Decompressor} {job : Job} {previous c d : Context} {payload out : Bytes} {cap : Nat}

/-- **An accepted refresh** puts the receiver level with the sender. -/
theorem espBehind_of_refresh (sent : SentIr job .esp previous payload c) (hmsn : c.msn = c.espSequence.toUInt16)
    (hlarge : c.largeCid = false) (hint : dec.integrity = none) (hspace : dec.largeCidSpace = false)
    (hget : dec.contexts.get c.cid = some d)
    (hacc : (rohcDecompress4 dec (irUnit .esp c ++ payload) out cap).1 = 0) :
    ∃ d', (rohcDecompress4 dec (irUnit .esp c ++ payload) out cap).2.handle.contexts.get c.cid = some d' ∧
      (c.ipVersion = 4 → EspBehind c d' 0) := by
  refine ⟨irAfter dec .esp c d, sent.left_of_accepted (by decide) hint (hspace.trans hlarge.symm) hget hacc, fun h4 => ?_⟩
  obtain ⟨carries, hid, -⟩ := carriesIpv4_irAfter dec .esp d h4
  obtain ⟨hprofile, hstate, hlabel⟩ := control_irAfter dec .esp c d
  obtain ⟨-, -, ht, -, -, -, hm, hr⟩ :=
    (irFrame dec .esp c d [] [] 0).irGates_frame .esp (irDecoded .esp c (irBase dec .esp c d))
  have htransport : (irAfter dec .esp c d).toTransportContext = _ := ht.trans (esp_irDecoded c _)
  have hafter : (irAfter dec .esp c d).msn = c.espSequence.toUInt16 := hm
  have hratio : (irAfter dec .esp c d).reorderRatio ≤ 3 := by
    rw [show (irAfter dec .esp c d).reorderRatio = c.reorderRatio &&& 0x03 from hr.trans (reorderRatio_irDecoded rfl _ _)]
    exact UInt8.and_le_right
  refine ⟨carries, hprofile, hstate, (congrArg Prod.snd hlabel).trans hspace, ?_, hratio, ?_, ?_, ?_, ?_⟩
  · rw [htransport]
  · rw [htransport]
  · rw [hafter]
    exact hmsn.trans (UInt16.add_zero _).symm
  · rw [hid (sent.holds.honest rfl)]
    exact (UInt16.add_zero _).symm
  · rw [htransport]
    exact (UInt32.add_zero _).symm

variable {cid lost : Nat} {b t : UInt8} (hint : dec.integrity = none) (hspace : dec.largeCidSpace = false)
  (hcid : cid ≤ 0x0F) (hget : dec.contexts.get cid = some d) (behind : EspBehind c d lost) (hpos : 0 < lost)
  (hnear : lost ≤ espPt0Reach d)
  (wire : EspPt0Octets c.msn (job.packet.take (job.view.headerLen + 8)) b t)

include behind hcid in
/-- PT-0 is live in the context of a flow with sequential IP-IDs. -/
theorem livePt0_of_behind : livePt0ContextSupported d false cid (decide (cid ≠ 0)) = decide (d.ipv4IdBehavior = 0) := by
  unfold livePt0ContextSupported
  rw [if_neg (by simp [behind.state, behind.version, behind.largeCid])]
  simp [behind.profile, hcid]

include hint hspace hcid hget behind hpos hnear wire

/-- **An accepted PT-0** puts the receiver level with the sender. -/
theorem espBehind_of_pt0
    (hacc : (rohcDecompress4 dec (smallCidOctets cid ++ b :: t :: payload) out cap).1 = 0) :
    ∃ d', (rohcDecompress4 dec (smallCidOctets cid ++ b :: t :: payload) out cap).2.handle.contexts.get cid = some d' ∧
      EspBehind c d' 0 := by
  have hlive := livePt0_of_behind hcid behind
  by_cases hzero : d.ipv4IdBehavior = 0
  · rw [decide_eq_true hzero] at hlive
    obtain ⟨hrefused, hdelivered⟩ := @receive_espPt0 dec cid d b t payload hint hspace hcid hget wire.tag behind.profile
      behind.options hlive out cap
    obtain ⟨r, hread, hroom⟩ : ∃ r, (compactFrame dec cid d (b :: t :: payload) out cap).espPt0Crc7Reading = some r ∧
        (r.header ++ r.payload).length ≤ cap := by
      by_contra hno
      refine hrefused (fun r hread => ?_) hacc
      exact Nat.lt_of_not_le fun hle => hno ⟨r, hread, hle⟩
    have delivered := hdelivered r hread hroom
    refine ⟨r.ctx, ?_, ?_⟩
    · rw [delivered.contexts]
      exact ContextTable.get_set_self (by rw [hget]; rfl)
    · rw [espPt0Crc7Reading_eq wire behind hpos hnear] at hread
      obtain ⟨header, -, hread⟩ := Option.bind_eq_some_iff.mp hread
      obtain ⟨-, hread⟩ := Option.ite_none_right_eq_some.mp hread
      cases hread
      exact behind.caughtUp (by have := espPt0Reach_le d; omega) true
  · rw [decide_eq_false hzero] at hlive
    exact absurd hacc (receive_espPt0_not_live hint hspace hcid hget wire.tag hlive out cap)

/-- **A PT-0 within reach**: for a regular packet it is accepted if and only if PT-0 is live and there is room, and the
packet comes out as it went in. -/
theorem espPt0_accepted_iff (hchosen : Chosen job.packet job.view .esp) (holds : job.Holds .esp previous payload c)
    (h4 : c.ipVersion = 4) (short : payload.length ≤ segmentBufferMax)
    (regular : RegularPacket job.packet job.view .esp) :
    ((rohcDecompress4 dec (smallCidOctets cid ++ b :: t :: payload) out cap).1 = 0 ↔
        d.ipv4IdBehavior = 0 ∧ job.packet.length ≤ cap) ∧
      ((rohcDecompress4 dec (smallCidOctets cid ++ b :: t :: payload) out cap).1 = 0 →
        (rohcDecompress4 dec (smallCidOctets cid ++ b :: t :: payload) out cap).2.out.take
          (rohcDecompress4 dec (smallCidOctets cid ++ b :: t :: payload) out cap).2.outLen = job.packet) := by
  have hlive := livePt0_of_behind hcid behind
  by_cases hzero : d.ipv4IdBehavior = 0
  · rw [decide_eq_true hzero] at hlive
    obtain ⟨hrefused, hdelivered⟩ := @receive_espPt0 dec cid d b t payload hint hspace hcid hget wire.tag behind.profile
      behind.options hlive out cap
    obtain ⟨hheader, hpacket⟩ := fixedEspHeader_of_caughtUp hchosen holds h4
      (a := advanceFormalEsp d c.msn) (behind.caughtUp (by have := espPt0Reach_le d; omega) d.formalPt0Crc7Seen) regular short
    have hread := @espPt0Crc7Reading_eq dec cid c d b t payload _ out cap lost wire behind hpos hnear
    rw [hheader, Option.bind_some, if_pos rfl] at hread
    by_cases hcap : job.packet.length ≤ cap
    · have delivered := hdelivered _ hread (by rw [hpacket]; exact hcap)
      refine ⟨⟨fun _ => ⟨hzero, hcap⟩, fun _ => delivered.rc⟩, fun _ => ?_⟩
      rw [delivered.output]
      exact hpacket
    · have hcode := hrefused fun r hr => by
        cases hread.symm.trans hr
        rw [hpacket]
        omega
      exact ⟨⟨fun h => absurd h hcode, fun h => absurd h.2 hcap⟩, fun h => absurd h hcode⟩
  · rw [decide_eq_false hzero] at hlive
    have hcode := @receive_espPt0_not_live dec cid d b t payload hint hspace hcid hget wire.tag hlive out cap
    exact ⟨⟨fun h => absurd h hcode, fun h => absurd h.1 hzero⟩, fun h => absurd h hcode⟩

end Accepted

/-! ## Flows -/

/-- A packet the sender takes for ESP. -/
def IsEspPacket (packet : Bytes) : Prop := ∃ view, parseIpView packet = some view ∧ chooseProfile packet view = .esp

/-- An ESP flow. Before feedback has reached the sender nothing is asked of what is lost: it counts its PT-0 units and
refreshes in time, unless its reordering ratio is none. -/
def espFlow (fed : Prop) : FlowKind where
  packet := IsEspPacket
  compact type := type &&& 0xE0 = 0x80
  loses type := type &&& 0xE0 = 0x80
  near link cid lost := link.Relates cid fun c d => fed ∨ 3 < c.reorderRatio → lost < espPt0Reach d
  fed := fed

/-- A unit of a flow as the ESP branch made it: `before` is the sender's context, `c` the captured one, `after` the one
it leaves. -/
structure EspMade (link : Link) (cid : Nat) (x : Exchange) (unit : Bytes) (view : ParsedIpView)
    (before c after : Context) : Prop where
  parsed : parseIpView x.packet = some view
  choose : chooseProfile x.packet view = .esp
  context : link.sender.context cid = some before
  unit : EspUnit (link.job x view) (link.prepared x view before) c after unit
  job : (link.job x view).cid = cid
  msn : c.msn = c.espSequence.toUInt16
  label : c.cid = cid
  small : c.largeCid = false
  left : (link.sent x).sender.context cid = some after
  same : SameFlow c after

theorem espMade_of_sent {fed : Prop} {link : Link} {cid : Nat} {x : Exchange} {unit : Bytes}
    (sent : FlowSent (espFlow fed) link cid x unit) :
    ∃ view before c after, EspMade link cid x unit view before c after := by
  obtain ⟨view, before, c', made⟩ := sent.ready.made sent.made
  obtain ⟨view', hv, hchoose⟩ := sent.packet
  cases made.parsed.symm.trans hv
  obtain ⟨hcid, hlarge, hjob⟩ := sent.ready.labels x view before
  have hcompress := made.compressAs
  rw [hchoose] at hcompress
  obtain ⟨hunit, hsame⟩ := @espUnit_of_compressEsp (link.job x view) _ _ _ hv hchoose rfl hcid hlarge hcompress
  have hholds : ∃ payload, (link.job x view).Holds .esp (link.prepared x view before) payload
      ((link.job x view).capturedEsp (link.prepared x view before)) := by
    cases hunit with
    | refresh type payload sent octets => exact ⟨payload, sent.holds⟩
    | pt0 payload octets wire state version next holds short => exact ⟨payload, holds⟩
  obtain ⟨payload, holds⟩ := hholds
  exact ⟨view, before, (link.job x view).capturedEsp (link.prepared x view before), c', hv, hchoose, made.context, hunit,
    hjob, rfl, holds.cid.trans (hcid.trans hjob), holds.largeCid.trans hlarge, made.left, hsame⟩

/-- What holds of both ends throughout a flow: `lost` packets lie between them, and without feedback the sender has counted
them. -/
structure EspInStep (fed : Prop) (lost : Nat) (c d : Context) : Prop where
  behind : c.ipVersion = 4 → EspBehind c d lost
  counted : ¬fed → c.reorderRatio ≤ 3 → lost ≤ c.formalPt0SinceConfirmation.toNat

/-- A PT-0 of a flow: its octets, and where its sender stands. -/
structure EspMade.Pt0 (link : Link) (cid : Nat) (x : Exchange) (unit : Bytes) (view : ParsedIpView)
    (before c after : Context) : Prop where
  octets : ∃ b t payload, unit = smallCidOctets cid ++ b :: t :: payload ∧
    EspPt0Octets c.msn (x.packet.take (view.headerLen + 8)) b t ∧
    (link.job x view).Holds .esp (link.prepared x view before) payload c ∧ payload.length ≤ segmentBufferMax
  version : c.ipVersion = 4
  since : before.ipVersion = 4
  next : EspStep before c
  ratio : after.reorderRatio = before.reorderRatio
  counted : after.formalPt0SinceConfirmation = before.formalPt0SinceConfirmation + 1
  window : before.reorderRatio ≤ 3 → before.formalPt0SinceConfirmation.toNat < 14

/-- Every ratio that is one leaves the window open for less than 14 units. -/
theorem formalPt0ForwardLimit_bounds {ctx : Context} (h : ctx.reorderRatio ≤ 3) :
    0 < formalPt0ForwardLimit ctx ∧ formalPt0ForwardLimit ctx ≤ 14 := by
  have hall : ∀ ratio : UInt8, ratio ≤ 3 → (0 : UInt8) < (if ratio = 0 then 14 else if ratio = 1 then 12
      else if ratio = 2 then 8 else if ratio = 3 then 4 else 0) ∧ (if ratio = 0 then 14 else if ratio = 1 then 12
      else if ratio = 2 then 8 else if ratio = 3 then 4 else 0 : UInt8) ≤ 14 :=
    forall_octet (P := fun ratio => ratio ≤ 3 → (0 : UInt8) < (if ratio = 0 then 14 else if ratio = 1 then 12
      else if ratio = 2 then 8 else if ratio = 3 then 4 else 0) ∧ (if ratio = 0 then 14 else if ratio = 1 then 12
      else if ratio = 2 then 8 else if ratio = 3 then 4 else 0 : UInt8) ≤ 14) (by decide +kernel)
  exact hall ctx.reorderRatio h

/-- A PT-0 is sent from a context that goes on, before the count has used up the window. -/
theorem EspMade.pt0 {link : Link} {cid : Nat} {x : Exchange} {unit : Bytes} {view : ParsedIpView}
    {before c after : Context} (made : EspMade link cid x unit view before c after)
    (type : typeOctet cid unit &&& 0xE0 = 0x80) : EspMade.Pt0 link cid x unit view before c after := by
  cases made.unit with
  | refresh htype payload sent octets =>
    rw [made.job] at htype
    rw [htype] at type
    exact absurd type (by decide)
  | @pt0 b t payload octets wire state version next holds short free ratio counted =>
    rw [made.job] at octets
    rcases prepareContext_cases link.sender.core before (chooseProfile x.packet view) with continues | restarts
    · have hsame : SameFlow before (link.prepared x view before) := SameFlow.prepareContext _ continues.same
      refine ⟨⟨b, t, payload, octets, wire, holds, short⟩, next.version, ?_, ?_, ratio.trans continues.reorderRatio, ?_,
        fun hratio => ?_⟩
      · rw [hsame.ipv4] at version
        exact version
      · obtain ⟨ip, spi, msn, id, sequence⟩ := next
        rw [hsame.transport] at spi sequence
        rw [hsame.msn] at msn
        rw [hsame.ipv4] at id
        exact { ip.of_ipv4 hsame.ipv4 with spi := spi, msn := msn, id := id, sequence := sequence }
      · rw [counted]
        exact congrArg (· + 1) continues.count
      · obtain ⟨hpos, hle⟩ := formalPt0ForwardLimit_bounds hratio
        by_contra hge
        have hwindow := continues.window (by rw [made.choose]; rfl) hpos
          (UInt8.le_iff_toNat_le.mpr (le_trans (UInt8.le_iff_toNat_le.mp hle) (Nat.not_lt.mp hge)))
        exact absurd free (by rw [show (link.prepared x view before).profileReplacementPending = true from hwindow]; decide)
    · exact absurd (state.symm.trans restarts.state) (by decide)

/-- Within the window the counter does not wrap around. -/
theorem EspMade.Pt0.count {link : Link} {cid : Nat} {x : Exchange} {unit : Bytes} {view : ParsedIpView}
    {before c after : Context} (pt0 : EspMade.Pt0 link cid x unit view before c after) (hratio : before.reorderRatio ≤ 3) :
    after.formalPt0SinceConfirmation.toNat = before.formalPt0SinceConfirmation.toNat + 1 := by
  have hwindow := pt0.window hratio
  rw [pt0.counted, UInt8.toNat_add, UInt8.toNat_one]
  omega

/-- The receiver can read the PT-0 of a flow: without feedback the sender's window keeps it in reach. -/
theorem EspMade.Pt0.near {fed : Prop} {link : Link} {cid lost : Nat} {x : Exchange} {unit : Bytes} {view : ParsedIpView}
    {before c after d : Context} (pt0 : EspMade.Pt0 link cid x unit view before c after)
    (inStep : EspInStep fed lost before d) (near : fed ∨ 3 < before.reorderRatio → lost < espPt0Reach d) :
    lost + 1 ≤ espPt0Reach d := by
  by_cases hfar : fed ∨ 3 < before.reorderRatio
  · exact near hfar
  · obtain ⟨hfed, hratio⟩ := not_or.mp hfar
    have hratio := UInt8.not_lt.mp hratio
    have hcount := inStep.counted hfed hratio
    have hwindow := pt0.window hratio
    have hreach := le_espPt0Reach (inStep.behind pt0.since).ratio
    omega

/-- **Both ends stay in step** as long as the flow goes on. -/
theorem inStep_of_espFlow {fed : Prop} {cid lost : Nat} {link : Link} (flow : Flow (espFlow fed) cid lost link) :
    link.Relates cid (EspInStep fed lost) := by
  refine flow.invariant (R := EspInStep fed) ?_ ?_ ?_ ?_ ?_
  · intro n c c' d inStep same window
    refine ⟨fun h4 => ?_, fun hfed hratio => ?_⟩
    · rw [same.ipv4] at h4
      exact (inStep.behind h4).of_sameFlow same
    · rw [(window hfed).ratio] at hratio
      rw [(window hfed).count]
      exact inStep.counted hfed hratio
  · intro n c d d' inStep keeps labels
    refine ⟨fun h4 => ?_, inStep.counted⟩
    have behind := inStep.behind h4
    refine behind.of_keeps keeps ?_
    rcases labels with e | e
    · exact congrArg Prod.snd e
    · exact (congrArg Prod.snd e).trans behind.largeCid
  · intro link x unit sent type accepted c' d' hc hd
    obtain ⟨view, before, c, after, made⟩ := espMade_of_sent sent
    refine ⟨fun h4 => ?_, fun _ _ => Nat.zero_le _⟩
    cases made.left.symm.trans hc
    cases made.unit with
    | refresh htype payload ir octets =>
      obtain ⟨d, hget⟩ := heard_exists hd
      subst octets
      obtain ⟨after, hafter, hbehind⟩ := espBehind_of_refresh ir made.msn made.small sent.ready.integrity sent.ready.space
        (made.label ▸ hget) accepted
      rw [made.label] at hafter
      cases hafter.symm.trans hd
      rw [made.same.ipv4] at h4
      exact (hbehind h4).of_sameFlow made.same
    | pt0 payload octets wire =>
      rw [made.job] at octets
      rw [octets] at type
      exact absurd type (typeOctet_pt0 wire)
  · intro n link x unit inStep sent type near accepted c' d' hc hd
    obtain ⟨view, before, c, after, made⟩ := espMade_of_sent sent
    refine ⟨fun _ => ?_, fun _ _ => Nat.zero_le _⟩
    cases made.left.symm.trans hc
    obtain ⟨d, hget⟩ := heard_exists hd
    have pt0 := made.pt0 type
    have inStep := inStep before d made.context hget
    obtain ⟨b, t, payload, rfl, wire, -⟩ := pt0.octets
    have wire : EspPt0Octets c.msn ((link.job x view).packet.take ((link.job x view).view.headerLen + 8)) b t := wire
    obtain ⟨d₁, hafter, hbehind⟩ := espBehind_of_pt0 sent.ready.integrity sent.ready.space
      sent.ready.small hget ((inStep.behind pt0.since).step pt0.next) (Nat.succ_pos n)
      (pt0.near inStep (near before d made.context hget)) wire accepted
    cases hafter.symm.trans hd
    exact hbehind.of_sameFlow made.same
  · intro n link x unit inStep sent type c' d hc hd
    obtain ⟨view, before, c, after, made⟩ := espMade_of_sent sent
    cases made.left.symm.trans hc
    have pt0 := made.pt0 type
    have inStep := inStep before d made.context hd
    refine ⟨fun _ => ((inStep.behind pt0.since).step pt0.next).of_sameFlow made.same, fun hfed hratio => ?_⟩
    rw [pt0.ratio] at hratio
    rw [pt0.count hratio]
    exact Nat.succ_le_succ (inStep.counted hfed hratio)

/-- What becomes of the next packet of a flow: the receiver takes a refresh that has one reading, and a PT-0 when the last
refresh called the IP-IDs sequential, in both cases given room. -/
inductive EspNext (link : Link) (cid : Nat) (x : Exchange) (unit : Bytes) (d : Context) : Prop where
  | refresh (type : typeOctet cid unit = 0xFD)
    (accepted : (link.answer x unit).1 = 0 ↔
      (∀ view, parseIpView x.packet = some view → link.IrReadable cid x view) ∧ x.packet.length ≤ x.room)
  | pt0 (type : typeOctet cid unit &&& 0xE0 = 0x80)
    (accepted : (link.answer x unit).1 = 0 ↔ d.ipv4IdBehavior = 0 ∧ x.packet.length ≤ x.room)

/-- Is the packet regular for the profile ESP? -/
def RegularEsp (packet : Bytes) : Prop := ∀ view, parseIpView packet = some view → RegularPacket packet view .esp

/-- **An ESP flow** over a ready link: after an accepted refresh, whatever both ends were before and whatever happens to
the PT-0 units after it, the next regular packet is refused or comes out as it went in, and which of the two is known.
Until feedback reaches the sender this holds however many units in a row are lost; after that, as long as they are fewer
than the reach of the receiver. -/
theorem esp_flow {fed : Prop} {cid lost : Nat} {link : Link} (flow : Flow (espFlow fed) cid lost link) {x : Exchange}
    {unit : Bytes} {d : Context} (sent : FlowSent (espFlow fed) link cid x unit) (regular : RegularEsp x.packet)
    (hget : link.receiver.contexts.get cid = some d) (near : (espFlow fed).near link cid lost) :
    EspNext link cid x unit d ∧ ((link.answer x unit).1 = 0 → link.output x unit = x.packet) := by
  obtain ⟨view, before, c, after, made⟩ := espMade_of_sent sent
  have inStep := inStep_of_espFlow flow before d made.context hget
  have hregular := regular view made.parsed
  cases made.unit with
  | refresh htype payload ir octets =>
    rw [made.job] at htype
    have received := sent.ready.irReceived sent.made made.parsed htype hget
      fun h => by rw [made.choose] at h; cases h
    have hreadable : link.IrReadable cid x view ↔ ∀ view, parseIpView x.packet = some view → link.IrReadable cid x view := by
      refine ⟨fun h view' hv => ?_, fun h => h view made.parsed⟩
      cases made.parsed.symm.trans hv
      exact h
    refine ⟨.refresh htype (received.accepted_iff.trans (and_congr_left' hreadable)), fun h => ?_⟩
    obtain ⟨ctx, out, delivered, same, -⟩ := received.of_accepted h
    rw [made.choose] at same
    unfold Link.output Link.answer
    rw [delivered.output]
    exact same.mpr hregular
  | pt0 payload octets wire state version next holds short =>
    have type : typeOctet cid unit &&& 0xE0 = 0x80 := by
      rw [octets, made.job, typeOctet_cons]
      exact wire.tag
    have pt0 := made.pt0 type
    obtain ⟨b, t, payload, rfl, wire, holds, short⟩ := pt0.octets
    obtain ⟨haccepted, hout⟩ := espPt0_accepted_iff sent.ready.integrity sent.ready.space
      sent.ready.small hget ((inStep.behind pt0.since).step pt0.next) (Nat.succ_pos lost)
      (pt0.near inStep (near before d made.context hget)) wire (chosen_of_chooseProfile made.parsed made.choose nofun) holds
      pt0.version short hregular
    exact ⟨.pt0 type haccepted, hout⟩

/-! ### A lossy flow -/

/-- A packet of one flow: the number, and the octet that makes its checksum right. -/
def numberedEspPacket (n : UInt8) : Bytes :=
  [69, 0, 0, 30, 0, n, 64, 0, 64, 50, 38, 172 - n, 10, 0, 0, 1, 10, 0, 0, 2, 0, 0, 0, 7, 0, 0, 0, n, 170, 187]

def numberedEsp (n : UInt8) : Exchange := ⟨numberedEspPacket n, 100, [], 30⟩

/-- The units of the second to fourth packet. -/
def espRefresh : Bytes :=
  [253, 3, 68, 64, 50, 10, 0, 0, 1, 10, 0, 0, 2, 0, 0, 0, 7, 4, 0, 64, 0, 2, 0, 0, 0, 2, 0, 170, 187]

def espPt0 : UInt8 → Bytes
  | 3 => [129, 129, 170, 187]
  | _ => [130, 10, 170, 187]

/-- The first unit is lost, the second accepted, the third lost. -/
def lossyEsp : Link := ((Link.fresh.sent (numberedEsp 1)).exchanged (numberedEsp 2) espRefresh).sent (numberedEsp 3)

theorem isEspPacket_numberedEsp (n : UInt8) : IsEspPacket (numberedEspPacket n) := by
  have hall : ∀ n : UInt8, (parseIpView (numberedEspPacket n)).map (chooseProfile (numberedEspPacket n)) = some .esp :=
    forall_octet (P := fun n => (parseIpView (numberedEspPacket n)).map (chooseProfile (numberedEspPacket n)) = some .esp)
      (by decide +kernel)
  obtain ⟨view, hv, hp⟩ := Option.map_eq_some_iff.mp (hall n)
  exact ⟨view, hv, hp⟩

theorem flow_lossyEsp : Flow (espFlow False) 0 1 lossyEsp ∧ lossyEsp.Ready 0 := by
  obtain ⟨h₁, h₂, haccepted, h₃⟩ : (Link.fresh.unit (numberedEsp 1)).isSome = true ∧
      (Link.fresh.sent (numberedEsp 1)).unit (numberedEsp 2) = some espRefresh ∧
      ((Link.fresh.sent (numberedEsp 1)).answer (numberedEsp 2) espRefresh).1 = 0 ∧
      ((Link.fresh.sent (numberedEsp 1)).exchanged (numberedEsp 2) espRefresh).unit (numberedEsp 3) =
        some (espPt0 3) := by decide +kernel
  obtain ⟨first, h₁⟩ := Option.isSome_iff_exists.mp h₁
  have ready₁ := Link.ready_fresh.sent h₁
  have ready₂ := ready₁.exchanged h₂
  refine ⟨.missed (.refreshed ⟨ready₁, h₂, isEspPacket_numberedEsp 2⟩ (by decide) haccepted)
    ⟨ready₂, h₃, isEspPacket_numberedEsp 3⟩ (by unfold espFlow; decide), ready₂.sent h₃⟩

/-- The fourth unit is one the receiver can place, although it has not seen the third. -/
theorem esp_flow_lossyEsp : ∃ d, lossyEsp.receiver.contexts.get 0 = some d ∧ d.ipv4IdBehavior = 0 ∧
    EspNext lossyEsp 0 (numberedEsp 4) (espPt0 4) d ∧ (lossyEsp.answer (numberedEsp 4) (espPt0 4)).1 = 0 ∧
    lossyEsp.output (numberedEsp 4) (espPt0 4) = numberedEspPacket 4 := by
  have hbehavior : (lossyEsp.receiver.contexts.get 0).map (·.ipv4IdBehavior) = some 0 := by decide +kernel
  obtain ⟨d, hd, hzero⟩ := Option.map_eq_some_iff.mp hbehavior
  have hratio : (lossyEsp.sender.context 0).map (·.reorderRatio) = some 0 := by decide +kernel
  have sent : FlowSent (espFlow False) lossyEsp 0 (numberedEsp 4) (espPt0 4) :=
    ⟨flow_lossyEsp.2, by decide +kernel, isEspPacket_numberedEsp 4⟩
  have regular : RegularEsp (numberedEspPacket 4) := by
    intro view hv
    have hv' : parseIpView (numberedEspPacket 4) = some _ := rfl
    cases hv'.symm.trans hv
    exact .inr ⟨⟨⟨by decide +kernel, by decide +kernel⟩, fun _ => by unfold ReservedClear; decide +kernel⟩, trivial⟩
  have near : (espFlow False).near lossyEsp 0 1 := by
    rintro c d' hc - (h | h)
    · exact h.elim
    · rw [hc, Option.map_some, Option.some.injEq] at hratio
      rw [hratio] at h
      exact absurd h (by decide)
  obtain ⟨hnext, hout⟩ := esp_flow flow_lossyEsp.1 sent regular hd near
  have haccepted : (lossyEsp.answer (numberedEsp 4) (espPt0 4)).1 = 0 := by
    cases hnext with
    | refresh type => exact absurd type (by decide)
    | pt0 _ accepted => exact accepted.mpr ⟨hzero, by decide⟩
  exact ⟨d, hd, hzero, hnext, haccepted, hout haccepted⟩

end Rohccxx
