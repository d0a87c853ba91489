import Rohccxx.Compact
import Rohccxx.FirstPacket
import Rohccxx.FoReordering
import Rohccxx.FormalPt0
import Rohccxx.Link

/-!
# Refreshes

An IR is self-contained: it is read the same way whatever its sender sent before and whatever its receiver knows, and what
it leaves behind holds every header of its packet.

* `typeOctet` — the octet of a unit behind its CID. No compact unit has that of an IR (`CompactHead`), so a unit with type
  0xFD is an IR of the profile of its packet (`compressAs_ir`).
* `received_ir` — what becomes of an IR at a receiver in any state.
* `refresh_resynchronises` — for both ends of a link.
-/

set_option autoImplicit false

namespace Rohccxx

open Octets

/-! ## Type octets -/

/-- The octet behind the CID of a unit. -/
def typeOctet (cid : Nat) (unit : Bytes) : UInt8 := u8At unit (smallCidOctets cid).length

theorem typeOctet_cons (cid : Nat) (b : UInt8) (rest : Bytes) : typeOctet cid (smallCidOctets cid ++ b :: rest) = b :=
  u8At_append_length _ _ _

/-- The octet behind the CID is not that of an IR, and no second Add-CID octet. Only the private RTP units of CID 0 have
one at all. -/
inductive CompactHead (cid : Nat) : Bytes → Prop where
  | of_cons {b : UInt8} {body : Bytes} (type : b ≠ 0xFD) (plain : b &&& 0xF0 ≠ 0xE0) :
    CompactHead cid (smallCidOctets cid ++ b :: body)
  | addCidZero {body : Bytes} (zero : cid = 0) : CompactHead cid (0xE0 :: body)

theorem CompactHead.append {cid : Nat} {header : Bytes} (h : CompactHead cid header) (rest : Bytes) :
    CompactHead cid (header ++ rest) := by
  cases h with
  | of_cons type plain =>
    rw [List.append_assoc, List.cons_append]
    exact .of_cons type plain
  | addCidZero zero => exact .addCidZero zero

theorem CompactHead.typeOctet_ne {cid : Nat} {unit : Bytes} (h : CompactHead cid unit) : typeOctet cid unit ≠ 0xFD := by
  cases h with
  | of_cons type plain =>
    rw [typeOctet_cons]
    exact type
  | addCidZero zero =>
    subst zero
    change (0xE0 : UInt8) ≠ 0xFD
    decide

/-- The marker stands in front of the private CRC-8 units. -/
theorem emitPrivateFo_head {marker : UInt8} {crc : Bytes → Context → UInt8} {fields : Context → Bytes} {cap : Nat}
    {ctx : Context} {unit : Bytes} (h : emitPrivateFo marker crc fields cap ctx = some unit) :
    ∃ rest, unit = marker :: rest := by
  unfold emitPrivateFo at h
  split at h
  · cases h
  · dsimp only at h
    obtain ⟨-, h⟩ := Option.ite_none_left_eq_some.mp h
    cases h
    rw [Nat.add_comm]
    exact ⟨_, rfl⟩

/-- The octet in front of a unit of a small CID. -/
theorem prependSmallCid_eq {job : Job} {unit header : Bytes} (h : job.prependSmallCid unit = some header) :
    header = smallCidOctets job.cid ++ unit := by
  unfold Job.prependSmallCid at h
  unfold smallCidOctets
  by_cases h0 : job.cid = 0
  · rw [if_pos h0] at h
    cases h
    simp [h0]
  · rw [if_neg h0] at h
    obtain ⟨-, h⟩ := Option.ite_none_left_eq_some.mp h
    cases h
    rw [if_pos (Nat.pos_of_ne_zero h0)]
    rfl

theorem CompactHead.of_privateFo {marker : UInt8} {crc : Bytes → Context → UInt8} {fields : Context → Bytes} {cap : Nat}
    {ctx : Context} {unit header : Bytes} {job : Job} (h : emitPrivateFo marker crc fields cap ctx = some unit)
    (hmarker : marker ≠ 0xFD ∧ marker &&& 0xF0 ≠ 0xE0) (framed : job.prependSmallCid unit = some header) :
    CompactHead job.cid header := by
  obtain ⟨rest, rfl⟩ := emitPrivateFo_head h
  rw [prependSmallCid_eq framed]
  exact .of_cons hmarker.1 hmarker.2

/-- The first bit of a private RTP unit is clear. -/
theorem emitRtpFo_head {cap : Nat} {ctx : Context} {unit : Bytes} (h : emitRtpFo cap ctx = some unit) :
    ∃ b rest, unit = b :: rest ∧ b ≠ 0xFD ∧ b &&& 0xF0 ≠ 0xE0 := by
  obtain ⟨bitpos, made, labelled⟩ := foRtpUnit_emit h
  have hlen := made.length
  match unit, hlen with
  | b :: rest, _ =>
    have hfront : readBits ([b] ++ rest) 0 1 = readBits [b] 0 1 := readBits_append (by simp)
    have hall : ∀ b : UInt8, readBits [b] 0 1 = 0 → b ≠ 0xFD ∧ b &&& 0xF0 ≠ 0xE0 :=
      forall_octet (P := fun b => readBits [b] 0 1 = 0 → b ≠ 0xFD ∧ b &&& 0xF0 ≠ 0xE0) (by decide +kernel)
    exact ⟨b, rest, rfl, hall b (hfront.symm.trans labelled.indicator)⟩

/-- A private RTP unit has an Add-CID octet for CID 0, too. -/
theorem CompactHead.of_privateRtp {job : Job} {ctx : Context} {header : Bytes} (h : job.emitPrivateRtp ctx = some header) :
    CompactHead job.cid header := by
  unfold Job.emitPrivateRtp at h
  obtain ⟨unit, hunit, h⟩ := Option.bind_eq_some_iff.mp h
  obtain ⟨b, rest, rfl, htype, hplain⟩ := emitRtpFo_head hunit
  unfold Job.prependPrivateRtpSmallCid at h
  obtain ⟨hcid, h⟩ := Option.ite_none_left_eq_some.mp h
  cases h
  by_cases h0 : job.cid = 0
  · rw [h0]
    exact .addCidZero rfl
  · have hfront : smallCidOctets job.cid = [0xE0 ||| UInt8.ofNat job.cid] := by
      have hall : ∀ c < 16, 0xE0 ||| (UInt8.ofNat c &&& 0x0F) = 0xE0 ||| UInt8.ofNat c := by decide +kernel
      unfold smallCidOctets
      rw [if_pos (Nat.pos_of_ne_zero h0), ← hall job.cid (by omega)]
    rw [← List.singleton_append, ← hfront]
    exact .of_cons htype hplain

theorem pt0Octet_ne (msn : UInt16) (crc : UInt8) : pt0Octet msn crc ≠ 0xFD ∧ pt0Octet msn crc &&& 0xF0 ≠ 0xE0 := by
  have hsmall : ∀ m < 16, ∀ c < 8, UInt8.ofNat (m * 8 + c) ≠ 0xFD ∧ UInt8.ofNat (m * 8 + c) &&& 0xF0 ≠ 0xE0 := by
    decide +kernel
  exact hsmall _ (Nat.mod_lt msn.toNat (by decide : 16 > 0)) _ (Nat.mod_lt crc.toNat (by decide : 8 > 0))

/-- The tags of the formal PT-0 units. -/
theorem CompactHead.of_pt0Crc3 {cap cid : Nat} {profile : Profile} {msn : UInt16} {input formal : Bytes}
    (h : emitFormalCo cap profile .pt0Crc3 cid false { msn := msn } input = some formal) : CompactHead cid formal := by
  obtain ⟨rfl, -⟩ := emitFormalCo_pt0Crc3 h
  exact .of_cons (pt0Octet_ne _ _).1 (pt0Octet_ne _ _).2

theorem CompactHead.of_pt0Crc7 {cap cid : Nat} {profile : Profile} {fields : FormalCoFields} {input formal : Bytes}
    (h : emitFormalCo cap profile .pt0Crc7 cid false fields input = some formal) : CompactHead cid formal := by
  obtain ⟨hvalid, -, b, rest, hwrite, hrest, rfl⟩ := emitFormalCo_eq_some h
  have hsupported : isSupportedFormalCoProfile profile = true := (Bool.and_eq_true _ _ ▸ hvalid).1
  have hlen : formalCoBaseLen profile .pt0Crc7 = 2 := by simp [formalCoBaseLen, hvalid]
  obtain ⟨t, rfl⟩ := List.length_eq_one_iff.mp (hlen ▸ hrest)
  have hread := readFormalCoBase_write hvalid (by omega) (formalCoHeaderCrc_lt _ _) hwrite
  rw [hlen, readFormalCoBase_crc7 hsupported] at hread
  have hhead : formalCoHead cid false b ++ [t] = smallCidOctets cid ++ [b, t] := by simp [formalCoHead, smallCidOctets]
  rw [hhead]
  have htags : ∀ b : UInt8, b &&& 0xF0 = 0x80 ∨ b &&& 0xE0 = 0x80 → b ≠ 0xFD ∧ b &&& 0xF0 ≠ 0xE0 :=
    forall_octet (P := fun b => b &&& 0xF0 = 0x80 ∨ b &&& 0xE0 = 0x80 → b ≠ 0xFD ∧ b &&& 0xF0 ≠ 0xE0) (by decide +kernel)
  have htag : b &&& 0xF0 = 0x80 ∨ b &&& 0xE0 = 0x80 := by
    by_contra hno
    have hnone : ¬(if isRtpFormalCoProfile profile then b &&& 0xF0 = 0x80 else b &&& 0xE0 = 0x80) := by
      split
      · exact fun h => hno (.inl h)
      · exact fun h => hno (.inr h)
    rw [if_neg hnone] at hread
    cases hread
  exact .of_cons (htags b htag).1 (htags b htag).2

/-! ## The sender -/

namespace Job

variable {job : Job} {before previous ctx : Context} {header : Bytes} {after : Context}

theorem compactHead_pt0Crc3 {headerLen : Nat} (h : job.unambiguousPt0Crc3 ctx headerLen = some header) :
    CompactHead job.cid header := by
  obtain ⟨made, hmade, h⟩ := Option.bind_eq_some_iff.mp h
  obtain ⟨-, h⟩ := Option.ite_none_left_eq_some.mp h
  cases h
  exact .of_pt0Crc3 hmade

theorem compactHead_espPt0 {headerLen : Nat} (h : job.unambiguousEspPt0 previous ctx headerLen = some header) :
    CompactHead job.cid header := by
  obtain ⟨made, hmade, h⟩ := Option.bind_eq_some_iff.mp h
  obtain ⟨-, h⟩ := Option.ite_none_left_eq_some.mp h
  cases h
  exact .of_pt0Crc7 hmade

theorem compactHead_rtpPt0 {msn : UInt16} (h : job.emitRtpPt0SmallCid msn = some header) : CompactHead job.cid header := by
  unfold emitRtpPt0SmallCid at h
  obtain ⟨-, h⟩ := Option.ite_none_left_eq_some.mp h
  exact .of_pt0Crc7 h

/-- The front of a refresh with a small CID. -/
theorem irFront_small (type code : UInt8) (hcid : ctx.cid = job.cid) (hlarge : ctx.largeCid = false) :
    irFront ctx type code = smallCidOctets job.cid ++ [type, code] := by
  simp [irFront, addCidOctets, largeCidOctets, smallCidOctets, hcid, hlarge]

/-- The IR-DYN of the UDP-Lite profiles has a type of its own. -/
theorem compactHead_liteIrDyn (profile : Profile) (bodyLen : Nat) (hcid : ctx.cid = job.cid)
    (hlarge : ctx.largeCid = false) : CompactHead job.cid (liteIrDynUnit profile ctx bodyLen) := by
  unfold liteIrDynUnit irSealed
  rw [irFront_small 0xF8 profile.octet hcid hlarge]
  simp only [List.append_assoc, List.cons_append, List.nil_append]
  exact .of_cons (by decide) (by decide)

/-- **The units of any state of the sender**: an IR with the headers of its packet, or a compact unit. -/
theorem compressAs_unit (job : Job) {profile : Profile} (hv : parseIpView job.packet = some job.view)
    (hchoose : chooseProfile job.packet job.view = profile) (hcid : previous.cid = job.cid)
    (hlarge : previous.largeCid = false) {unit : Bytes}
    (h : job.compressAs before profile previous = (.ok unit, after)) :
    (FirstUnit job previous profile unit ∨ CompactHead job.cid unit) ∧ unit.length ≤ job.cap := by
  have hchosen := chosen_of_chooseProfile hv hchoose
  cases profile with
  | llaRtp => exact absurd hchoose (chooseProfile_ne_llaRtp _ _)
  | uncompressed =>
    obtain ⟨hip, hfits, rfl, hlen, -⟩ := compressUncompressed_ensures previous unit after h
    exact ⟨.inl (.whole hfits hip), hlen⟩
  | udp =>
    obtain ⟨header, state, hok, hsend, hfits, rfl, hlen, -⟩ := compressUdp_ensures previous unit after h
    have hh := holds_capturedUdp hv hok (hchosen (by decide))
    refine ⟨?_, hlen⟩
    cases hsend with
    | refresh hr =>
      rw [hr.header]
      exact .inl (.standard rfl hr.sends hh fun h => by cases h)
    | pt0 compact small reconstructable formed => exact .inr ((compactHead_pt0Crc3 formed).append _)
    | privateFo compact formed unambiguous framed =>
      rw [if_neg (by rw [hh.largeCid, hlarge]; exact Bool.false_ne_true)] at framed
      exact .inr ((CompactHead.of_privateFo formed (by decide) framed).append _)
  | esp =>
    obtain ⟨header, state, hok, hsend, hfits, rfl, hlen, -⟩ := compressEsp_ensures previous unit after h
    have hh := holds_capturedEsp hv hok (hchosen (by decide)) hfits
    refine ⟨?_, hlen⟩
    cases hsend with
    | refresh hr =>
      rw [hr.header]
      exact .inl (.standard rfl hr.sends hh fun h => by cases h)
    | pt0 compact small reconstructable formed => exact .inr ((compactHead_espPt0 formed).append _)
  | ip =>
    obtain ⟨header, state, hok, hsend, hfits, rfl, hlen, -⟩ := compressIp_ensures previous unit after h
    have hh := holds_capturedIpOnly hv hok
    refine ⟨?_, hlen⟩
    cases hsend with
    | refresh hr =>
      rw [hr.header]
      exact .inl (.standard rfl hr.sends hh fun h => by cases h)
    | pt0 compact small reconstructable formed => exact .inr ((compactHead_pt0Crc3 formed).append _)
    | privateFo compact reconstructable formed unambiguous framed =>
      rw [if_neg (by rw [hh.largeCid, hlarge]; exact Bool.false_ne_true)] at framed
      exact .inr ((CompactHead.of_privateFo formed (by decide) framed).append _)
  | rtp =>
    obtain ⟨header, state, view, hok, hview, hsend, rfl, hlen, -⟩ := compressRtp_ensures before previous unit after h
    have hh := holds_capturedRtp_rtp hv hok (hchosen (by decide)) hview
    have hpay : job.rtpPayload view = job.payloadOf previous .rtp := by simp [payloadOf, hview]
    refine ⟨?_, hlen⟩
    cases hsend with
    | refresh hr =>
      rw [hr.header, hpay]
      exact .inl (.standard rfl hr.sends (hpay ▸ hh) fun _ => rtpVersion (hchosen (by decide)) hh.upper)
    | pt0 compact small isSafe reconstructable formed => exact .inr ((compactHead_rtpPt0 formed).append _)
    | privateFo compact small isSafe check formed => exact .inr ((CompactHead.of_privateRtp formed).append _)
  | udpLite =>
    obtain ⟨header, state, hok, hsend, hfits, rfl, hlen, -⟩ := compressUdpLite_ensures previous unit after h
    have hh := holds_capturedUdpLite hv hok (hchosen (by decide))
    refine ⟨?_, hlen⟩
    cases hsend with
    | ir first sends => exact .inl (.lite (Or.inl ⟨rfl, rfl⟩) sends hh)
    | irDyn sends later =>
      exact .inr ((compactHead_liteIrDyn _ _ (hh.cid.trans hcid) (hh.largeCid.trans hlarge)).append _)
    | privateFo compact formed =>
      unfold emitPrivateUdpLite at formed
      obtain ⟨made, hmade, framed⟩ := Option.bind_eq_some_iff.mp formed
      rw [if_neg (by change ¬(job.capturedUdpLite previous).largeCid = true; rw [hh.largeCid, hlarge]; decide)] at framed
      exact .inr ((CompactHead.of_privateFo hmade (by decide) framed).append _)
  | rtpUdpLite =>
    obtain ⟨header, state, view, hok, hview, hsend, rfl, hlen, -⟩ := compressRtpUdpLite_ensures previous unit after h
    have hh := holds_capturedRtp_lite hv hok (hchosen (by decide)) hview
    have hpay : job.rtpPayload view = job.payloadOf previous .rtpUdpLite := by simp [payloadOf, hview]
    refine ⟨?_, hlen⟩
    cases hsend with
    | ir state sends =>
      rw [hpay]
      exact .inl (.lite (Or.inr rfl) sends (hpay ▸ hh))
    | irDyn sends later =>
      exact .inr ((compactHead_liteIrDyn _ _ (hh.cid.trans hcid) (hh.largeCid.trans hlarge)).append _)
    | privateFo compact small isSafe formed => exact .inr ((CompactHead.of_privateRtp formed).append _)

theorem firstUnit_front {profile : Profile} {unit : Bytes} (h : FirstUnit job previous profile unit)
    (hcid : previous.cid = job.cid) (hlarge : previous.largeCid = false) :
    ∃ rest, unit = smallCidOctets job.cid ++ 0xFD :: rest := by
  cases h with
  | standard isStandard sends holds version =>
    unfold irUnit irSealed
    rw [irFront_small 0xFD profile.octet (holds.cid.trans hcid) (holds.largeCid.trans hlarge)]
    simp only [List.append_assoc, List.cons_append, List.nil_append]
    exact ⟨_, rfl⟩
  | lite isLite sends holds =>
    unfold liteIrUnit irSealed
    rw [irFront_small 0xFD profile.octet (holds.cid.trans hcid) (holds.largeCid.trans hlarge)]
    simp only [List.append_assoc, List.cons_append, List.nil_append]
    exact ⟨_, rfl⟩
  | whole fits isWhole =>
    unfold irSealed
    rw [irFront_small 0xFD 0x00 hcid hlarge]
    simp only [List.append_assoc, List.cons_append, List.nil_append]
    exact ⟨_, rfl⟩

/-- **An IR of any state of the sender** holds the headers of its packet. -/
theorem compressAs_ir (job : Job) {profile : Profile} (hv : parseIpView job.packet = some job.view)
    (hchoose : chooseProfile job.packet job.view = profile) (hcid : previous.cid = job.cid)
    (hlarge : previous.largeCid = false) {unit : Bytes}
    (h : job.compressAs before profile previous = (.ok unit, after)) (hir : typeOctet job.cid unit = 0xFD) :
    FirstUnit job previous profile unit ∧ unit.length ≤ job.cap := by
  obtain ⟨hunit, hlen⟩ := compressAs_unit job hv hchoose hcid hlarge h
  rcases hunit with hfirst | hcompact
  · exact ⟨hfirst, hlen⟩
  · exact absurd hir hcompact.typeOctet_ne

end Job

/-! ## The receiver -/

/-- Can a receiver with the context `d` read an IR of the packet? A standard IR must not have a second, legacy reading;
the UDP-Lite profiles need a mode their decoder knows, and the transport right behind the IPv6 header. -/
def Job.IrReadable (job : Job) (dec : Decompressor) (previous d : Context) : Prop :=
  let profile := chooseProfile job.packet job.view
  let c := job.captured previous profile
  match profile with
  | .udpLite | .rtpUdpLite => job.mode ≠ .uncompressed ∧ (job.view.isIpv6 = true → job.view.extensionLen = 0)
  | .uncompressed | .llaRtp => True
  | _ => irAmbiguous profile c (irBase dec profile c d) (job.payloadOf previous profile) = false

/-- The context holds every header of the packet. -/
def HoldsHeaders (ctx : Context) (packet : Bytes) (view : ParsedIpView) (profile : Profile) : Prop :=
  HasIp ctx packet view ∧ ∃ payload, HasUpper ctx packet view profile payload

/-- What becomes of an IR: it is refused, or a packet is delivered and the context holds its headers. -/
inductive IrReceived (dec : Decompressor) (cid : Nat) (packet : Bytes) (view : ParsedIpView) (unit out : Bytes) (cap : Nat)
    (readable : Prop) : Prop where
  | refused (code : (rohcDecompress4 dec unit out cap).1 ≠ 0) (reason : ¬readable ∨ cap < packet.length)
  | delivered {ctx : Context} {octets : Bytes}
    (delivered : Delivered ⟨dec, out, cap⟩ cid ctx octets (rohcDecompress4 dec unit out cap)) (isReadable : readable)
    (room : packet.length ≤ cap) (same : octets = packet ↔ RegularPacket packet view (chooseProfile packet view))
    (holds : chooseProfile packet view ≠ .uncompressed → HoldsHeaders ctx packet view (chooseProfile packet view))

namespace IrReceived

variable {dec : Decompressor} {cid cap : Nat} {packet unit out : Bytes} {view : ParsedIpView} {readable : Prop}
  (h : IrReceived dec cid packet view unit out cap readable)

include h

theorem accepted_iff : (rohcDecompress4 dec unit out cap).1 = 0 ↔ readable ∧ packet.length ≤ cap := by
  cases h with
  | refused code reason =>
    refine ⟨fun h => absurd h code, fun h => ?_⟩
    rcases reason with hn | hn
    · exact absurd h.1 hn
    · exact absurd h.2 (Nat.not_le.mpr hn)
  | delivered delivered isReadable room => exact ⟨fun _ => ⟨isReadable, room⟩, fun _ => delivered.rc⟩

theorem of_accepted (hacc : (rohcDecompress4 dec unit out cap).1 = 0) :
    ∃ ctx octets, Delivered ⟨dec, out, cap⟩ cid ctx octets (rohcDecompress4 dec unit out cap) ∧
      (octets = packet ↔ RegularPacket packet view (chooseProfile packet view)) ∧
      (chooseProfile packet view ≠ .uncompressed → HoldsHeaders ctx packet view (chooseProfile packet view)) := by
  cases h with
  | refused code => exact absurd hacc code
  | delivered delivered isReadable room same holds => exact ⟨_, _, delivered, same, holds⟩

end IrReceived

section Received

variable {dec : Decompressor} {job : Job} {unit : Bytes} {profile : Profile} {previous d : Context}

/-- **An IR at a receiver in any state**. -/
theorem received_ir (job : Job) (hint : dec.integrity = none) (hcid : previous.cid = job.cid)
    (hspace : dec.largeCidSpace = previous.largeCid) (hget : dec.contexts.get job.cid = some d)
    (hchoose : chooseProfile job.packet job.view = profile) (hv : parseIpView job.packet = some job.view)
    (h : job.FirstUnit previous profile unit) (hlen : unit.length ≤ segmentBufferMax)
    (hlists : profile = .rtp → NoLists (irBase dec profile (job.captured previous profile) d).rtp) (out : Bytes)
    (cap : Nat) : IrReceived dec job.cid job.packet job.view unit out cap (job.IrReadable dec previous d) := by
  have hchosen := chosen_of_chooseProfile hv hchoose
  cases h with
  | standard isStandard sends holds version =>
    have hread : job.IrReadable dec previous d ↔ irAmbiguous profile (job.captured previous profile)
        (irBase dec profile (job.captured previous profile) d) (job.payloadOf previous profile) = false := by
      unfold Job.IrReadable
      rw [hchoose]
      cases profile <;> first | exact Iff.rfl | cases isStandard
    rw [List.length_append] at hlen
    generalize job.captured previous profile = c at *
    generalize job.payloadOf previous profile = payload at *
    have hc : c.cid = job.cid := holds.cid.trans hcid
    have hs : dec.largeCidSpace = c.largeCid := hspace.trans holds.largeCid.symm
    have hd : dec.contexts.get c.cid = some d := by rw [hc]; exact hget
    have hsent : SentIr job profile previous payload c :=
      ⟨isStandard, hchosen (by rintro rfl; cases isStandard), sends, holds, version, by omega⟩
    cases hamb : irAmbiguous profile c (irBase dec profile c d) payload with
    | true =>
      exact .refused (hsent.refused_of_ambiguous hint hs hd hamb out cap) (Or.inl (by rw [hread, hamb]; decide))
    | false =>
      by_cases hcap : job.packet.length ≤ cap
      · obtain ⟨octets, hdel, hiff⟩ := hsent.delivered hlists hint hs hd hamb out hcap
        obtain ⟨hi, hu, -⟩ := hsent.holds_irAfter hlists
        rw [hc] at hdel
        exact .delivered hdel (hread.mpr hamb) hcap (by rw [hchoose]; exact hiff) fun _ =>
          ⟨hi, payload, by rw [hchoose]; exact hu⟩
      · exact .refused (hsent.refused_of_no_room hlists hint hs hd hamb out (by omega)) (Or.inr (by omega))
  | lite isLite sends holds =>
    have hread : job.IrReadable dec previous d ↔
        job.mode ≠ .uncompressed ∧ (job.view.isIpv6 = true → job.view.extensionLen = 0) := by
      unfold Job.IrReadable
      rw [hchoose]
      rcases isLite with ⟨rfl, -⟩ | rfl <;> exact Iff.rfl
    rw [List.length_append] at hlen
    generalize job.captured previous profile = c at *
    generalize job.payloadOf previous profile = payload at *
    have hc : c.cid = job.cid := holds.cid.trans hcid
    have hs : dec.largeCidSpace = c.largeCid := hspace.trans holds.largeCid.symm
    have hd : dec.contexts.get c.cid = some d := by rw [hc]; exact hget
    have hsent : SentLiteIr job profile previous payload c _ :=
      ⟨isLite, hchosen (by rintro rfl; rcases isLite with ⟨h, -⟩ | h <;> cases h), sends, holds, by omega⟩
    have hacc : LiteAccepted c ↔ job.IrReadable dec previous d := by
      rw [hread, LiteAccepted, legacyConsistent_iff holds.ip holds.protocol, holds.mode]
      exact and_comm
    by_cases hcap : job.packet.length ≤ cap
    · by_cases hok : LiteAccepted c
      · obtain ⟨octets, hdel, hiff⟩ := hsent.delivered hint hs hd out hok hcap
        obtain ⟨hi, hu, -⟩ := hsent.holds_liteAfter dec d
        rw [hc] at hdel
        exact .delivered hdel (hacc.mp hok) hcap (by rw [hchoose]; exact hiff) fun _ =>
          ⟨hi, payload, by rw [hchoose]; exact hu⟩
      · exact .refused (receive_liteIr_refused hint hs hd isLite sends hsent.protocol payload out cap hok)
          (Or.inl (mt hacc.mpr hok))
    · exact .refused (hsent.refused_of_no_room hint hs hd out (by omega)) (Or.inr (by omega))
  | whole fits isWhole =>
    have hread : job.IrReadable dec previous d := by
      unfold Job.IrReadable
      rw [hchoose]
      trivial
    have hd : dec.contexts.get previous.cid = some d := by rw [hcid]; exact hget
    by_cases hcap : job.packet.length ≤ cap
    · have hdel := receive_whole_delivered hint hspace fits hd isWhole out hcap
      rw [hcid] at hdel
      refine .delivered hdel hread hcap ⟨fun _ => ?_, fun _ => rfl⟩ fun hne => absurd hchoose hne
      rw [hchoose]
      exact Or.inl rfl
    · exact .refused (receive_whole_refused hint hspace fits hd isWhole out (by omega)) (Or.inr (by omega))

end Received

/-! ## IPv4 contexts behind a standard IR -/

/-- The receiver's context `d` has the IPv4 fields of the sender's `c` that no PT-0 changes, as a standard IR carries
them. -/
structure CarriesIpv4 (c d : Context) : Prop where
  version : d.ipVersion = 4
  options : d.ipv4OptionsLen = 0
  tos : d.ipv4Tos = c.ipv4Tos
  ttl : d.ipv4Ttl = c.ipv4Ttl
  flags : d.ipv4Flags = dfOnly c.ipv4Flags
  protocol : d.ipv4Protocol = c.ipv4Protocol
  saddr : d.ipv4Saddr = c.ipv4Saddr
  daddr : d.ipv4Daddr = c.ipv4Daddr

/-- The same fields from one packet to the next. -/
structure SameIpv4 (a b : Context) : Prop where
  version : b.ipVersion = 4
  tos : b.ipv4Tos = a.ipv4Tos
  ttl : b.ipv4Ttl = a.ipv4Ttl
  flags : b.ipv4Flags = a.ipv4Flags
  protocol : b.ipv4Protocol = a.ipv4Protocol
  saddr : b.ipv4Saddr = a.ipv4Saddr
  daddr : b.ipv4Daddr = a.ipv4Daddr

theorem sameIpv4_of_sameIpv4Header {a b : Context} (h : sameIpv4Header a b = true) (h4 : b.ipVersion = 4) :
    SameIpv4 a b := by
  unfold sameIpv4Header at h
  simp only [Bool.and_eq_true, decide_eq_true_eq] at h
  obtain ⟨⟨⟨⟨⟨⟨⟨tos, ttl⟩, flags⟩, protocol⟩, saddr⟩, daddr⟩, -⟩, -⟩ := h
  exact ⟨h4, tos, ttl, flags, protocol, saddr, daddr⟩

theorem SameIpv4.of_ipv4 {a a' b : Context} (h : SameIpv4 a' b) (ha : a'.toIpv4Context = a.toIpv4Context) :
    SameIpv4 a b := by
  obtain ⟨h4, tos, ttl, flags, protocol, saddr, daddr⟩ := h
  rw [ha] at tos ttl flags protocol saddr daddr
  exact ⟨h4, tos, ttl, flags, protocol, saddr, daddr⟩

namespace CarriesIpv4

variable {c c' d d' : Context}

theorem of_ipv4 (h : CarriesIpv4 c d) (hc : c'.toIpv4Context = c.toIpv4Context) : CarriesIpv4 c' d := by
  constructor
  · exact h.version
  · exact h.options
  all_goals rw [hc]
  exacts [h.tos, h.ttl, h.flags, h.protocol, h.saddr, h.daddr]

theorem of_keeps (h : CarriesIpv4 c d) (keeps : KeepsContext d d') : CarriesIpv4 c d' := by
  rw [keeps.fields]
  exact ⟨h.version, h.options, h.tos, h.ttl, h.flags, h.protocol, h.saddr, h.daddr⟩

theorem step (h : CarriesIpv4 c d) (next : SameIpv4 c c') : CarriesIpv4 c' d :=
  ⟨h.version, h.options, h.tos.trans next.tos.symm, h.ttl.trans next.ttl.symm,
    h.flags.trans (congrArg dfOnly next.flags.symm), h.protocol.trans next.protocol.symm, h.saddr.trans next.saddr.symm,
    h.daddr.trans next.daddr.symm⟩

/-- With the same IP-ID the headers of the packet are in both contexts. -/
theorem hasIp (h : CarriesIpv4 c d) {packet : Bytes} {view : ParsedIpView} (hip : HasIp c packet view)
    (h6 : view.isIpv6 = false) (h20 : view.headerLen = 20) (hid : d.ipv4Id = c.ipv4Id) : HasIp d packet view := by
  have hc := hip.v4 h6
  obtain ⟨-, -, hhead, -⟩ := parseIpView_ipv4 hip.parsed h6
  refine ⟨hip.parsed, fun _ => ?_, fun hv => by simp [h6] at hv⟩
  refine ⟨h.version, h.tos.trans hc.tos, hid.trans hc.id, h.ttl.trans hc.ttl, h.protocol.trans hc.protocol,
    h.saddr.trans hc.saddr, h.daddr.trans hc.daddr, ?_, ?_⟩
  · rw [h.options, ← hhead, h20]
  · rw [h.options]
    simp [slice]

end CarriesIpv4

section Captured

variable {job : Job} {profile : Profile} {previous c d : Context} {payload : Bytes}

theorem Job.Holds.ipv4 (holds : job.Holds profile previous payload c) (h4 : c.ipVersion = 4) : job.view.isIpv6 = false := by
  have hver := holds.ip.version
  cases hv : job.view.isIpv6 with
  | false => rfl
  | true =>
    rw [hv, h4] at hver
    exact absurd hver (by decide)

/-- The flags of a regular packet come through. -/
theorem CarriesIpv4.regular (h : CarriesIpv4 c d) (holds : job.Holds profile previous payload c)
    (hchosen : Chosen job.packet job.view profile) (hstd : profileUsesFormalPt0 profile = true)
    (h6 : job.view.isIpv6 = false) (regular : RegularPacket job.packet job.view profile) :
    RegularIp d.ipv4Flags job.packet job.view ∧ RegularUpper job.packet job.view profile := by
  obtain ⟨hs, -⟩ := parseIpView_ipv4 holds.ip.parsed h6
  have hmin := hs.minLen
  have hfit := hs.fits
  obtain ⟨hflags, hrest⟩ := regular.resolve_left (by rintro rfl; cases hstd)
  obtain ⟨-, hclear⟩ := flags_of_whole (hchosen.whole h6) (by omega)
  simp only [h6, Bool.false_eq_true, if_false] at hflags
  refine ⟨?_, hrest⟩
  rw [RegularIp, if_neg (by simp [h6]), h.flags, holds.flags h6]
  exact ⟨hflags.1, hclear.mpr (hflags.2 hstd)⟩

/-- **What a standard IR leaves behind** of an IPv4 flow. -/
theorem carriesIpv4_irAfter (dec : Decompressor) (profile : Profile) (d : Context) (h4 : c.ipVersion = 4) : CarriesIpv4 c (irAfter dec profile c d) ∧
      (IdHonest c → (irAfter dec profile c d).ipv4Id = c.ipv4Id) ∧
      (irAfter dec profile c d).ipv4IdBehavior = c.ipv4IdBehavior &&& 0x03 := by
  have hne : ¬c.ipVersion = 6 := by rw [h4]; decide
  obtain ⟨g₄, -⟩ := (irFrame dec profile c d [] [] 0).irGates_frame profile (irDecoded profile c (irBase dec profile c d))
  obtain ⟨sequential, e, -⟩ := toIpContext_irDecoded profile c (irBase dec profile c d)
  simp only [copyIpDynamic, copyIpStatic, if_neg hne] at e
  have h₄ : (irAfter dec profile c d).toIpv4Context = _ := g₄.trans e
  refine ⟨?_, fun honest => ?_, by rw [h₄]⟩
  · constructor <;> rw [h₄]
  · rw [h₄]
    dsimp only
    split
    · rfl
    · rename_i hb
      exact (honest hne (by simpa using hb)).symm

theorem labels_irDecoded (profile : Profile) (c d : Context) : (irDecoded profile c d).labels = d.labels := by
  have htransport : ∀ previous e : Context, (copyTransportDynamic profile previous c e).labels = e.labels := by
    intro previous e
    cases profile <;> rfl
  have hports : ∀ e : Context, (copyTransportStatic profile c e).labels = e.labels := by
    intro e
    cases profile <;> rfl
  have hdynamic : ∀ e : Context, (copyIpDynamic (profile = .ip) c e).labels = e.labels := fun e =>
    Eq.trans (congrArg (fun k : Control => (k.cid, k.largeCid)) (copyIpDynamic_frame (profile = .ip) c e).2.2) rfl
  have hstatic : (copyIpStatic c d).labels = d.labels :=
    congrArg (fun k : Control => (k.cid, k.largeCid)) (copyIpStatic_frame c d).2.2
  exact (htransport _ _).trans ((hdynamic _).trans ((hports _).trans hstatic))

/-- The labels, the state and the profile an IR leaves behind. -/
theorem control_irAfter (dec : Decompressor) (profile : Profile) (c d : Context) :
    (irAfter dec profile c d).profile = profile ∧ (irAfter dec profile c d).rohcState = .dynamicEstablished ∧
      (irAfter dec profile c d).labels = (c.cid, dec.largeCidSpace) := by
  obtain ⟨-, -, -, -, hp, hs, -⟩ :=
    (irFrame dec profile c d [] [] 0).irGates_frame profile (irDecoded profile c (irBase dec profile c d))
  have hbase : (irBase dec profile c d).labels = (c.cid, dec.largeCidSpace) := by
    unfold irBase Frame.irContext
    split_ifs <;> rfl
  refine ⟨hp, hs, Eq.trans ?_ ((labels_irDecoded profile c _).trans hbase)⟩
  unfold irAfter Frame.irGates
  dsimp only
  split_ifs <;> rfl

/-- **The context an accepted IR leaves behind.** -/
theorem SentIr.left_of_accepted {dec : Decompressor} {out : Bytes} {cap : Nat} (sent : SentIr job profile previous payload c)
    (hne : profile ≠ .rtp) (hint : dec.integrity = none) (hspace : dec.largeCidSpace = c.largeCid)
    (hget : dec.contexts.get c.cid = some d) (hacc : (rohcDecompress4 dec (irUnit profile c ++ payload) out cap).1 = 0) :
    (rohcDecompress4 dec (irUnit profile c ++ payload) out cap).2.handle.contexts.get c.cid =
      some (irAfter dec profile c d) := by
  have hlists : profile = .rtp → NoLists (irBase dec profile c d).rtp := fun h => absurd h hne
  have hamb : irAmbiguous profile c (irBase dec profile c d) payload = false := by
    by_contra h
    exact sent.refused_of_ambiguous hint hspace hget (Bool.not_eq_false _ ▸ h) out cap hacc
  have hcap : job.packet.length ≤ cap := by
    by_contra h
    exact sent.refused_of_no_room hlists hint hspace hget hamb out (by omega) hacc
  obtain ⟨octets, delivered, -⟩ := sent.delivered hlists hint hspace hget hamb out hcap
  rw [delivered.contexts]
  exact ContextTable.get_set_self (by rw [hget]; rfl)

end Captured

/-! ## Both ends -/

namespace Link

/-- What the sender starts from for a packet. -/
def prepared (link : Link) (x : Exchange) (view : ParsedIpView) (before : Context) : Context :=
  Rohccxx.prepared link.sender.core x.packet view before

/-- What the branch of the sender is called with. -/
def job (link : Link) (x : Exchange) (view : ParsedIpView) : Job := link.sender.core.job x.packet view

/-- Can the receiver read an IR of the packet? -/
def IrReadable (link : Link) (cid : Nat) (x : Exchange) (view : ParsedIpView) : Prop :=
  ∀ before d, link.sender.context cid = some before → link.receiver.contexts.get cid = some d →
    (link.job x view).IrReadable link.receiver (link.prepared x view before) d

/-- The lists a receiver keeps while it reads an IR. -/
theorem noLists_irBase (dec : Decompressor) (profile : Profile) (c : Context) {d : Context}
    (h : d.rohcState = .noContext ∨ d.profile = profile → NoLists d.rtp) : NoLists (irBase dec profile c d).rtp := by
  unfold irBase Frame.irContext
  by_cases hnew : d.rohcState ≠ .noContext ∧ d.profile ≠ profile
  · rw [if_pos (by exact hnew)]
    exact ⟨rfl, rfl, rfl⟩
  · have hold : NoLists d.rtp := h (by
      by_cases hstate : d.rohcState = .noContext
      · exact .inl hstate
      · exact .inr (by_contra fun hp => hnew ⟨hstate, hp⟩))
    rw [if_neg (by exact hnew)]
    split
    · exact hold
    · exact hold

variable {link : Link} {cid : Nat} {x : Exchange} {unit : Bytes} {view : ParsedIpView} {d : Context}

/-- The unit as the branch of its packet makes it. -/
theorem Made.compressAs {before c : Context} (made : link.Made cid x unit view before c) :
    (link.job x view).compressAs before (chooseProfile x.packet view) (link.prepared x view before) = (.ok unit, c) := made.run

theorem Ready.labels (ready : link.Ready cid) (x : Exchange) (view : ParsedIpView) (before : Context) :
    (link.prepared x view before).cid = (link.job x view).cid ∧ (link.prepared x view before).largeCid = false ∧
      (link.job x view).cid = cid := by
  obtain ⟨hcid, hlarge⟩ := prepareContext_cid link.sender.core before (chooseProfile x.packet view)
  exact ⟨hcid, hlarge.trans ready.senderSpace, ready.current⟩

/-- The front of a unit: an IR, or a compact one. -/
theorem Ready.head (ready : link.Ready cid) (hunit : link.unit x = some unit) :
    (∃ rest, unit = smallCidOctets cid ++ 0xFD :: rest) ∨ CompactHead cid unit := by
  obtain ⟨view, before, c, made⟩ := ready.made hunit
  obtain ⟨hcid, hlarge, hjob⟩ := ready.labels x view before
  obtain ⟨hhead, -⟩ := Job.compressAs_unit (link.job x view) made.parsed rfl hcid hlarge made.compressAs
  rw [← hjob]
  exact hhead.imp_left fun hfirst => Job.firstUnit_front hfirst hcid hlarge

/-- **An IR between two ends in any state.** -/
theorem Ready.irReceived (ready : link.Ready cid) (hunit : link.unit x = some unit)
    (hview : parseIpView x.packet = some view) (hir : typeOctet cid unit = 0xFD)
    (hget : link.receiver.contexts.get cid = some d)
    (hlists : chooseProfile x.packet view = .rtp → d.rohcState = .noContext ∨ d.profile = .rtp → NoLists d.rtp) :
    IrReceived link.receiver cid x.packet view unit x.out x.room (link.IrReadable cid x view) := by
  obtain ⟨view', before, c, made⟩ := ready.made hunit
  cases hview.symm.trans made.parsed
  obtain ⟨hcid, hlarge, hjob⟩ := ready.labels x view before
  obtain ⟨hfirst, hlen⟩ := Job.compressAs_ir (link.job x view) hview rfl hcid hlarge made.compressAs (by rw [hjob]; exact hir)
  have hread : (link.job x view).IrReadable link.receiver (link.prepared x view before) d ↔ link.IrReadable cid x view := by
    refine ⟨fun h before' d' hb hd => ?_, fun h => h before d made.context hget⟩
    cases made.context.symm.trans hb
    cases hget.symm.trans hd
    exact h
  have hreceived := received_ir (link.job x view) ready.integrity hcid
    (ready.space.trans hlarge.symm) (hjob ▸ hget) rfl hview hfirst hlen
    (fun hp => noLists_irBase link.receiver _ _ (hp ▸ hlists hp)) x.out x.room
  rw [hjob, propext hread] at hreceived
  exact hreceived

/-- A link nobody has used. -/
def fresh : Link := ⟨⟨freshCompressor.setMode .optimistic, .uplink, none⟩, freshDecompressor⟩

theorem ready_fresh : fresh.Ready 0 := ⟨⟨rfl, rfl⟩, rfl, rfl, rfl, rfl, by decide⟩

end Link

end Rohccxx
