import Rohccxx.LiteRoundTrip

/-!
# Reading back the IR-DYN of the UDP-Lite profiles

An IR-DYN decoder works out the length of the header from the list markers, checks the CRC over that length, and only
then reads the chains. On the octets an emitter wrote, the markers give back the length of the unit.
-/

set_option autoImplicit false

namespace Rohccxx

open Octets Reader

/-! ## Lengths read off the markers -/

section Markers

variable {c d : Context} (front rest : Bytes)

theorem getElem?_marker (marker : UInt8) : (front ++ marker :: rest)[front.length]? = some marker := by
  simp

theorem ipv4OptionsExtraLen_options (h : c.ipv4OptionsLen ≤ 40) :
    ipv4OptionsExtraLen (front ++ (writeIpv4OptionsList c ++ rest)) front.length = some c.ipv4OptionsLen := by
  unfold ipv4OptionsExtraLen writeIpv4OptionsList
  by_cases h0 : c.ipv4OptionsLen = 0
  · rw [if_pos h0, List.singleton_append, getElem?_marker, h0]
    rfl
  · obtain ⟨h₁, h₂, h₃⟩ := optionsMarker_fields h h0
    have hlen := length_stored c.ipv4Options h
    rw [if_neg h0, if_neg (by omega), List.cons_append, getElem?_marker]
    simp only [Option.bind_eq_bind, Option.bind_some, h₁, Bool.false_eq_true, if_false, h₂, h₃, ne_eq, not_true]
    rw [if_pos ⟨by omega, h, by simp only [List.length_append, List.length_cons, hlen]; omega⟩]
    rfl

/-- What the list of the IP chain adds to its fixed length. -/
def ipListLen (c : Context) : Nat := if c.ipVersion = 6 then c.ipv6ExtensionLen else c.ipv4OptionsLen

theorem ipDynamicExtraLen_ipv4 (hip : c.ipv4OptionsLen ≤ 40) (h : c.ipVersion ≠ 6) (hv : d.ipVersion = c.ipVersion) :
    ipDynamicExtraLen (front ++ (writeIpDynamic c ++ rest)) front.length d = some (ipListLen c) := by
  have e : front ++ (writeIpDynamic c ++ rest) =
      (front ++ ([c.ipv4Tos, c.ipv4Ttl] ++ be16 c.ipv4Id ++ [c.ipv4Flags])) ++ (writeIpv4OptionsList c ++ rest) := by
    simp [writeIpDynamic, if_neg h, writeIpv4Dynamic]
  have hpos : front.length + 5 = (front ++ ([c.ipv4Tos, c.ipv4Ttl] ++ be16 c.ipv4Id ++ [c.ipv4Flags])).length := by
    simp
  unfold ipDynamicExtraLen ipListLen
  rw [hv, if_neg h, if_neg h, e, hpos]
  exact ipv4OptionsExtraLen_options _ _ hip

theorem ipDynamicExtraLen_ipv6 (hip : c.ipv6ExtensionLen ≤ 127) (h : c.ipVersion = 6) (hv : d.ipVersion = c.ipVersion) :
    ipDynamicExtraLen (front ++ (writeIpDynamic c ++ rest)) front.length d = some (ipListLen c) := by
  obtain ⟨fixed, hfixed, e⟩ : ∃ fixed : Bytes, fixed.length = 6 ∧
      writeIpDynamic c = fixed ++ writeIpv6ExtensionsList c := by
    refine ⟨_, ?_, by rw [writeIpDynamic, if_pos h, writeIpv6Dynamic]⟩
    rfl
  have hpos : front.length + 6 = (front ++ fixed).length := by
    rw [List.length_append, hfixed]
  unfold ipDynamicExtraLen ipListLen
  rw [hv, if_pos h, if_pos h, e, List.append_assoc, ← List.append_assoc front, hpos]
  dsimp only
  unfold writeIpv6ExtensionsList
  by_cases h0 : c.ipv6ExtensionLen = 0
  · rw [if_pos h0, List.singleton_append, getElem?_marker, h0]
    rfl
  · obtain ⟨h₁, h₂, h₃⟩ := extensionsMarker_fields hip
    have hlen := length_stored c.ipv6Extensions (Nat.le_trans hip (by decide))
    rw [if_neg h0, if_neg (by omega), List.cons_append, getElem?_marker]
    simp only [Option.bind_eq_bind, Option.bind_some, h₁, Bool.false_eq_true, if_false, h₂, h₃, ne_eq, not_true]
    rw [if_pos ⟨by omega, hip, by simp only [List.length_append, List.length_cons, hlen]; omega⟩]
    rfl

theorem ipDynamicExtraLen_writeIpDynamic (hip : LegacyIp c) (hv : d.ipVersion = c.ipVersion) :
    ipDynamicExtraLen (front ++ (writeIpDynamic c ++ rest)) front.length d = some (ipListLen c) := by
  rcases hip with ⟨h4, hopt⟩ | ⟨h6, hext⟩
  · exact ipDynamicExtraLen_ipv4 _ _ hopt (by rw [h4]; decide) hv
  · exact ipDynamicExtraLen_ipv6 _ _ hext h6 hv

/-- Behind the marker of an extras list: its length and its body. -/
theorem rtpDynamicExtraLen_extras {rtp : RtpContext} {bodyLen : Nat} (h : ExtrasOk rtp bodyLen) :
    rtpDynamicExtraLen (front ++ (rtpExtrasOctets rtp bodyLen ++ rest)) front.length =
      some ((rtpExtrasOctets rtp bodyLen).length - 1) := by
  unfold rtpDynamicExtraLen rtpExtrasOctets
  by_cases h0 : bodyLen = 0
  · rw [if_pos h0, List.singleton_append, getElem?_marker]
    rfl
  · have hb := h.bodyLen_eq
    have hel := extensionLen_le h.extensionValid
    have hcl := h.csrcLe
    have hpl := h.paddingLe
    have hbody := length_rtpExtrasBody h h0
    have hmax : bodyLen ≤ Cid.largeCidMax := by
      unfold Cid.largeCidMax
      split at hb <;> omega
    have hmin : 5 ≤ bodyLen := by
      split at hb <;> omega
    have hdrop : (front ++ rtpExtrasListMarker :: (Cid.largeOctets bodyLen ++ (rtpExtrasBody rtp ++ rest))).drop
        (front.length + 1) = Cid.largeOctets bodyLen ++ (rtpExtrasBody rtp ++ rest) := by
      simp
    have hread : readSdvl14 (Cid.largeOctets bodyLen ++ (rtpExtrasBody rtp ++ rest)) =
        some (bodyLen, Cid.encodedLen bodyLen) := Cid.readLarge_largeOctets hmax _
    have hmark : isEmptyList rtpExtrasListMarker = false := by decide
    have hlarge := Cid.length_largeOctets bodyLen
    simp only [if_neg h0, List.cons_append, List.nil_append, List.append_assoc, getElem?_marker, Option.bind_eq_bind,
      Option.bind_some, hmark, Bool.false_eq_true, if_false, ne_eq, not_true, hdrop, hread, List.length_cons,
      List.length_append, hbody, hlarge]
    rw [if_neg (by omega)]
    simp

end Markers

/-! ## Fronts and checks -/

/-- The front of an IR-DYN without its length check. -/
def irDynFields (bs : Bytes) (profileId : UInt8) : Proc (Cursor Context) UInt8 := do
  let ctx ← value
  irDynAddCid bs ctx
  let packetType ← u8 bs
  Proc.require (packetType = 0xF8)
  readLargeCidIfPresent bs ctx
  let profile ← u8 bs
  Proc.require (profile = profileId)
  u8 bs

/-- With enough octets the length check passes. -/
theorem irDynHead_eq {bs : Bytes} {minLen : Nat} (h : minLen ≤ bs.length) (profileId : UInt8) (cursor : Cursor Context) :
    irDynHead bs minLen profileId cursor = irDynFields bs profileId cursor := by
  have hlen : decide (bs.length ≥ minLen) = true := decide_eq_true h
  unfold irDynHead irDynFields
  rw [Proc.bind_apply, Proc.bind_apply]
  simp only [value_apply]
  rw [Proc.bind_apply, hlen]
  rfl

theorem reads_irDynHead {k : Bytes → UInt8 → Proc (Cursor Context) Nat} {w : Bytes} {d s' : Context} {a minLen : Nat}
    {code : UInt8} (hlen : minLen ≤ w.length) (h : Reads (fun bs => irDynFields bs code >>= k bs) [] w d a s') :
    Reads (fun bs => irDynHead bs minLen code >>= k bs) [] w d a s' := by
  intro rest
  rw [← h rest]
  change (irDynHead _ minLen code >>= k _) _ = (irDynFields _ code >>= k _) _
  rw [Proc.bind_apply, Proc.bind_apply, irDynHead_eq (by simp only [List.nil_append, List.length_append]; omega)]

theorem irDynCrcIndex_eq (d : Context) : irDynCrcIndex d = 2 + cidOctets d := by
  unfold irDynCrcIndex cidOctets hasSmallCid
  cases d.largeCid with
  | true => simp
  | false => by_cases h0 : d.cid = 0 <;> simp [h0, Nat.pos_of_ne_zero]

section Front

variable {c d : Context} (h : SameCid c d)

include h

theorem reads_irDynFields (code crc : UInt8) :
    Reads (fun bs => irDynFields bs code) [] (irFront c 0xF8 code ++ [crc]) d crc d := by
  have e : irFront c 0xF8 code ++ [crc] = addCidOctets c ++ (0xF8 :: (largeCidOctets c ++ (code :: [crc]))) := by
    simp [irFront]
  rw [e]
  unfold irDynFields
  refine .value ((reads_irDynAddCid h []).bind (.u8 (.require (fun _ => by decide) ?_)))
  refine (reads_readLargeCidIfPresent h _).bind (.u8 (.require (by simp) ?_))
  exact reads_u8 _ _ _

/-- The front of a unit is the two octets of its type and profile and those of the CID. -/
theorem length_irFront_cid (type code : UInt8) : (irFront c type code).length = 2 + cidOctets d :=
  (length_irFront h type code).trans (irDynCrcIndex_eq d)

end Front

/-- The checks of a unit whose markers and CRC are right. -/
theorem reads_irDynCheck {k : Bytes → Nat → Proc (Cursor Context) Nat} {front w : Bytes} {d s' : Context}
    {a n : Nat} {crc : UInt8} (x len : Nat)
    (hx : ∀ rest, ipDynamicExtraLen (front ++ (w ++ rest)) front.length d = some x)
    (hlen : n + (if d.ipVersion = 6 then 1 else 0) + cidOctets d + x = len)
    (hcrc : ∀ rest, crc8ExactMatches (front ++ (w ++ rest)) len (irDynCrcIndex d) crc = true)
    (h : Reads (fun bs => k bs len) front w d a s') :
    Reads (fun bs => irDynCheck bs n crc >>= k bs) front w d a s' := by
  intro rest
  rw [← h rest]
  change (irDynCheck _ n crc >>= k _) _ = _
  refine Proc.bind_of_ok ?_
  have hfit : ¬(front ++ (w ++ rest)).length < front.length := by
    rw [List.length_append]
    omega
  simp only [irDynCheck, Proc.bind_apply, value_apply, pos_apply, Reader.scan, if_neg hfit, hx rest, hlen, hcrc rest,
    Proc.require_true, Proc.pure_apply]

/-- The checks of an RTP unit whose two markers and CRC are right. -/
theorem reads_irDynRtpCheck {k : Bytes → Nat → Proc (Cursor Context) Nat} {front w : Bytes} {d s' : Context}
    {a n m : Nat} {crc : UInt8} (x y len : Nat)
    (hx : ∀ rest, ipDynamicExtraLen (front ++ (w ++ rest)) front.length d = some x)
    (hy : ∀ rest, rtpDynamicExtraLen (front ++ (w ++ rest))
      (front.length + ((if d.ipVersion = 6 then 7 else 6) + x) + m + 8) = some y)
    (hlen : n + cidOctets d + (if d.ipVersion = 6 then 1 else 0) + x + y = len)
    (hcrc : ∀ rest, crc8ExactMatches (front ++ (w ++ rest)) len (irDynCrcIndex d) crc = true)
    (h : Reads (fun bs => k bs len) front w d a s') :
    Reads (fun bs => irDynRtpCheck bs n m crc >>= k bs) front w d a s' := by
  intro rest
  rw [← h rest]
  change (irDynRtpCheck _ n m crc >>= k _) _ = _
  refine Proc.bind_of_ok ?_
  have hfit : ¬(front ++ (w ++ rest)).length < front.length := by
    rw [List.length_append]
    omega
  simp only [irDynRtpCheck, Proc.bind_apply, value_apply, pos_apply, Reader.scan, if_neg hfit, hx rest, hy rest, hlen,
    hcrc rest, Proc.require_true, Proc.pure_apply]

/-! ## UDP-Lite -/

/-- The context after the IR-DYN of a UDP-Lite flow. -/
def udpLiteIrDynDecoded (c d : Context) : Context :=
  finishIrDyn .udpLite { copyLegacyDynamic c d with
    udpLengthOrCoverage := c.udpLengthOrCoverage, udpCheck := c.udpCheck }

/-- What an IR-DYN decoder must know already: the version and, behind IPv6, the next header. -/
structure KnowsIp (c d : Context) : Prop where
  version : d.ipVersion = c.ipVersion
  nextHeader : c.ipVersion = 6 → d.ipv6NextHeader = c.ipv6NextHeader

theorem length_writeIpDynamic_ge {c : Context} (hip : LegacyIp c) : 6 ≤ (writeIpDynamic c).length := by
  rw [length_writeIpDynamic hip]
  split <;> omega

theorem length_liteDynamic_le {profile : Profile} {c : Context} {bodyLen : Nat} (hs : SendsLite profile c bodyLen) :
    (liteDynamic profile c bodyLen).length ≤ 1000 := by
  have h := length_liteBody_le hs
  rw [List.length_append] at h
  omega

/-- The CRC of an IR-DYN holds. -/
theorem crc_liteDyn {profile : Profile} {c : Context} {bodyLen : Nat} (hs : SendsLite profile c bodyLen) (code : UInt8)
    (rest : Bytes) :
    crc8ExactMatches (irSealed (irFront c 0xF8 code) (liteDynamic profile c bodyLen) ++ rest)
      (irSealed (irFront c 0xF8 code) (liteDynamic profile c bodyLen)).length (irFront c 0xF8 code).length
      (crc8 (irFront c 0xF8 code ++ 0 :: liteDynamic profile c bodyLen)) = true := by
  have h₁ := length_liteDynamic_le hs
  have h₂ := length_irFront_le c 0xF8 code
  exact crc8ExactMatches_irSealed _ _ _ (by omega)

section UdpLite

variable {c d : Context} (h : SameCid c d) (hs : SendsLite .udpLite c 0) (hk : KnowsIp c d)

include h hs hk

/-- **The IR-DYN of a UDP-Lite flow is read back.** -/
theorem reads_decodeIrDynUdpLite (hc : LegacyConsistent c) :
    Reads decodeIrDynUdpLite [] (liteIrDynUnit .udpLite c 0) d (liteIrDynUnit .udpLite c 0).length
      (udpLiteIrDynDecoded c d) := by
  have hcrc := crc_liteDyn hs 0x08
  have hfront := length_irFront_cid h 0xF8 0x08
  have hip := length_writeIpDynamic hs.ip
  have hbody : liteDynamic .udpLite c 0 =
      writeIpDynamic c ++ (be16 c.udpLengthOrCoverage ++ (be16 c.udpCheck ++ [])) := by
    simp [liteDynamic, writeUdpLiteDynamic]
  unfold liteIrDynUnit
  rw [octet_udpLite]
  unfold irSealed at hcrc ⊢
  generalize crc8 _ = crc at hcrc ⊢
  rw [hbody] at hcrc ⊢
  generalize hlen : List.length (_ ++ _ ++ _ : Bytes) = len at hcrc ⊢
  simp only [List.length_append, List.length_singleton, List.length_nil, length_be16, hfront, hip] at hlen
  refine .value (reads_irDynHead ?_ ((reads_irDynFields h 0x08 crc).bind ?_))
  · have hge := length_writeIpDynamic_ge hs.ip
    simp only [List.length_append, List.length_singleton, List.length_nil, length_be16, hfront]
    unfold cidOctets
    omega
  refine reads_irDynCheck (ipListLen c) len (fun rest => ?_) ?_ (fun rest => ?_) ?_
  · rw [List.append_assoc (writeIpDynamic c)]
    exact ipDynamicExtraLen_writeIpDynamic _ _ hs.ip hk.version
  · unfold ipListLen
    rw [hk.version, ← hlen]
    split <;> omega
  · have e := hcrc rest
    rw [length_irFront h] at e
    simpa using e
  refine (reads_readLegacyIpDynamicConsistent hs.ip hk.version hk.nextHeader _ hc).bind (.u16 (.u16 (.update ?_)))
  exact reads_pure _ _ _

end UdpLite

/-! ## RTP over UDP-Lite -/

/-- A refresh infers the stride and leaves the rest of the RTP header to its arguments. -/
theorem rtp_refreshIrDynRtp (previous : Context) (seq : UInt16) (ts : UInt32) (ctx : Context) :
    ∃ stride residue, (refreshIrDynRtp previous seq ts ctx).rtp =
      { ctx.rtp with tsStride := stride, tsResidue := residue, lastSeq := seq, lastTs := ts } := by
  unfold refreshIrDynRtp
  dsimp only
  split
  · split <;> exact ⟨_, _, rfl⟩
  · exact ⟨_, _, rfl⟩

/-- The context after the RTP chain of `c`; the octets in front of the lists go first. -/
def copyIrDynRtp (previous c d : Context) : Context :=
  (refreshIrDynRtp previous c.rtp.lastSeq c.rtp.lastTs
    (d.withRtp fun rtp => { rtp with vpxcc := c.rtp.vpxcc, mpt := c.rtp.mpt })).withRtp (copyExtras c.rtp)

/-- The context after the IR-DYN of an RTP/UDP-Lite flow. -/
def rtpUdpLiteIrDynDecoded (c d : Context) : Context :=
  finishIrDynRtp { copyIrDynRtp d c { copyLegacyDynamic c d with
    udpLengthOrCoverage := c.udpLengthOrCoverage, udpCheck := c.udpCheck } with profile := .rtpUdpLite }

/-- The RTP chain of an IR-DYN, fixed octets first. -/
def irDynRtpOctets (c : Context) (bodyLen : Nat) : Bytes :=
  c.rtp.vpxcc :: c.rtp.mpt :: (be16 c.rtp.lastSeq ++ (be32 c.rtp.lastTs ++ (rtpExtrasOctets c.rtp bodyLen ++ [])))

theorem reads_readIrDynRtp {c : Context} {bodyLen len : Nat} (hx : ExtrasOk c.rtp bodyLen) (previous d : Context)
    (front : Bytes) (hlen : len = (front ++ irDynRtpOctets c bodyLen).length) :
    Reads (fun bs => readIrDynRtp bs previous len) front (irDynRtpOctets c bodyLen) d () (copyIrDynRtp previous c d) := by
  unfold readIrDynRtp irDynRtpOctets
  unfold irDynRtpOctets at hlen
  refine .u8 (.u8 (.update (.u16 (.u32 (.update ?_)))))
  obtain ⟨stride, residue, e⟩ := rtp_refreshIrDynRtp previous c.rtp.lastSeq c.rtp.lastTs
    (d.withRtp fun rtp => { rtp with vpxcc := c.rtp.vpxcc, mpt := c.rtp.mpt })
  refine Reads.bind (.within ?_ (reads_readRtpExtrasList hx _ (by rw [e]; rfl) _)) (.pos ?_)
  · rw [hlen]
    simp
  · intro rest
    rw [hlen]
    simp
    rfl

section RtpUdpLite

variable {c d : Context} {bodyLen : Nat} (h : SameCid c d) (hs : SendsLite .rtpUdpLite c bodyLen) (hk : KnowsIp c d)

include h hs hk

/-- **The IR-DYN of an RTP/UDP-Lite flow is read back.** -/
theorem reads_decodeIrDynRtpUdpLite (hc : LegacyConsistent c) :
    Reads decodeIrDynRtpUdpLite [] (liteIrDynUnit .rtpUdpLite c bodyLen) d (liteIrDynUnit .rtpUdpLite c bodyLen).length
      (rtpUdpLiteIrDynDecoded c d) := by
  have hcrc := crc_liteDyn hs 0x07
  have hfront := length_irFront_cid h 0xF8 0x07
  have hip := length_writeIpDynamic hs.ip
  have hx := (rtpExtrasBodyLen_iff _ _).mp (hs.extras rfl)
  have hpos : 1 ≤ (rtpExtrasOctets c.rtp bodyLen).length := by
    unfold rtpExtrasOctets
    split <;> simp
  have hbody : liteDynamic .rtpUdpLite c bodyLen = writeIpDynamic c ++
      (be16 c.udpLengthOrCoverage ++ (be16 c.udpCheck ++ (irDynRtpOctets c bodyLen ++ []))) := by
    simp [liteDynamic, writeUdpLiteDynamic, rtpDynamicFixed_eq, irDynRtpOctets]
  have hrtp : (irDynRtpOctets c bodyLen).length = 8 + (rtpExtrasOctets c.rtp bodyLen).length := by
    simp [irDynRtpOctets]
    omega
  unfold liteIrDynUnit
  rw [octet_rtpUdpLite]
  unfold irSealed at hcrc ⊢
  generalize crc8 _ = crc at hcrc ⊢
  rw [hbody] at hcrc ⊢
  generalize hlen : List.length (_ ++ _ ++ _ : Bytes) = len at hcrc ⊢
  have hlen' := hlen
  simp only [List.length_append, List.length_singleton, List.length_nil, length_be16, hfront, hip, hrtp] at hlen'
  refine .value (reads_irDynHead ?_ ((reads_irDynFields h 0x07 crc).bind ?_))
  · have hge := length_writeIpDynamic_ge hs.ip
    simp only [List.length_append, List.length_singleton, List.length_nil, length_be16, hfront, hrtp]
    omega
  refine reads_irDynRtpCheck (ipListLen c) ((rtpExtrasOctets c.rtp bodyLen).length - 1) len (fun rest => ?_)
    (fun rest => ?_) ?_ (fun rest => ?_) ?_
  · rw [List.append_assoc (writeIpDynamic c)]
    exact ipDynamicExtraLen_writeIpDynamic _ _ hs.ip hk.version
  · have e := rtpDynamicExtraLen_extras ((irFront c 0xF8 0x07 ++ [crc]) ++ (writeIpDynamic c ++
      (be16 c.udpLengthOrCoverage ++ (be16 c.udpCheck ++ (c.rtp.vpxcc :: c.rtp.mpt :: (be16 c.rtp.lastSeq ++
        be32 c.rtp.lastTs)))))) rest hx
    rw [← e]
    congr 1
    · simp [irDynRtpOctets]
    · simp only [List.length_append, List.length_cons, List.length_nil, length_be16, length_be32, hip, ipListLen,
        hk.version]
      split <;> omega
  · unfold ipListLen
    rw [hk.version, ← hlen']
    split <;> omega
  · have e := hcrc rest
    rw [length_irFront h] at e
    simpa using e
  refine (reads_readLegacyIpDynamicConsistent hs.ip hk.version hk.nextHeader _ hc).bind (.u16 (.u16 (.update ?_)))
  refine (reads_readIrDynRtp hx d _ _ ?_).bind (.update (reads_pure _ _ _))
  rw [← hlen]
  simp

end RtpUdpLite

/-! ## What is read back -/

theorem stored_copied {n len : Nat} (v : Vector UInt8 n) (h : len ≤ n) :
    stored (fillCopy n (stored v len)) len = stored v len := by
  have e := @stored_fillCopy n (stored v len) (by rw [length_stored v h]; exact h)
  rwa [length_stored v h] at e

/-- The static fields of a UDP-Lite flow are the same in both contexts. -/
structure SameStatics (profile : Profile) (c r : Context) : Prop where
  version : r.ipVersion = c.ipVersion
  ipv4 : c.ipVersion = 4 → r.ipv4Saddr = c.ipv4Saddr ∧ r.ipv4Daddr = c.ipv4Daddr ∧ r.ipv4Protocol = c.ipv4Protocol
  ipv6 : c.ipVersion = 6 → r.ipv6Saddr = c.ipv6Saddr ∧ r.ipv6Daddr = c.ipv6Daddr ∧ r.ipv6NextHeader = c.ipv6NextHeader
  sport : r.udpSport = c.udpSport
  dport : r.udpDport = c.udpDport
  ssrc : profile = .rtpUdpLite → r.rtp.ssrc = c.rtp.ssrc

/-- The dynamic IPv4 fields are the same, the options as far as the list goes. -/
structure SameIpv4Dynamic (c r : Context) : Prop where
  tos : r.ipv4Tos = c.ipv4Tos
  ttl : r.ipv4Ttl = c.ipv4Ttl
  id : r.ipv4Id = c.ipv4Id
  flags : r.ipv4Flags = c.ipv4Flags
  optionsLen : r.ipv4OptionsLen = c.ipv4OptionsLen
  options : stored r.ipv4Options r.ipv4OptionsLen = stored c.ipv4Options c.ipv4OptionsLen

/-- The dynamic IPv6 fields are the same, the extension headers as far as the list goes. -/
structure SameIpv6Dynamic (c r : Context) : Prop where
  trafficClass : r.ipv6TrafficClass = c.ipv6TrafficClass
  flowLabel : r.ipv6FlowLabel = c.ipv6FlowLabel
  hopLimit : r.ipv6HopLimit = c.ipv6HopLimit
  protocol : r.ipv4Protocol = c.ipv4Protocol
  extensionLen : r.ipv6ExtensionLen = c.ipv6ExtensionLen
  extensions : stored r.ipv6Extensions r.ipv6ExtensionLen = stored c.ipv6Extensions c.ipv6ExtensionLen

/-- The dynamic RTP fields are the same, with the CSRC list, the header extension and the padding. -/
structure SameRtpDynamic (c r : RtpContext) : Prop where
  vpxcc : r.vpxcc = c.vpxcc
  mpt : r.mpt = c.mpt
  lastSeq : r.lastSeq = c.lastSeq
  lastTs : r.lastTs = c.lastTs
  csrcListLen : r.csrcListLen = c.csrcListLen
  csrcList : stored r.csrcList r.csrcListLen = stored c.csrcList c.csrcListLen
  extensionLen : r.extensionLen = c.extensionLen
  extensionBytes : stored r.extensionBytes r.extensionLen = stored c.extensionBytes c.extensionLen
  paddingLen : r.paddingLen = c.paddingLen
  paddingBytes : stored r.paddingBytes r.paddingLen = stored c.paddingBytes c.paddingLen

/-- The dynamic fields of a UDP-Lite flow are the same in both contexts. -/
structure SameDynamics (profile : Profile) (c r : Context) : Prop where
  ipv4 : c.ipVersion = 4 → SameIpv4Dynamic c r
  ipv6 : c.ipVersion = 6 → SameIpv6Dynamic c r
  coverage : r.udpLengthOrCoverage = c.udpLengthOrCoverage
  check : r.udpCheck = c.udpCheck
  rtp : profile = .rtpUdpLite → SameRtpDynamic c.rtp r.rtp

section Dynamics

variable {c : Context} (hip : LegacyIp c)

include hip

theorem sameIpv4Dynamic_copyLegacy (h4 : c.ipVersion = 4) (x : Context) : SameIpv4Dynamic c (copyLegacyDynamic c x) := by
  have hne : ¬c.ipVersion = 6 := by rw [h4]; decide
  have hopt : c.ipv4OptionsLen ≤ 40 := hip.elim And.right fun h => absurd h.1 hne
  unfold copyLegacyDynamic
  rw [if_neg hne]
  exact ⟨rfl, rfl, rfl, rfl, rfl, stored_copied _ hopt⟩

theorem sameIpv6Dynamic_copyLegacy (h6 : c.ipVersion = 6) (hflow : c.ipv6FlowLabel.toNat < 2 ^ 20) (x : Context) :
    SameIpv6Dynamic c (copyLegacyDynamic c x) := by
  have hne : ¬c.ipVersion = 4 := by rw [h6]; decide
  have hext : c.ipv6ExtensionLen ≤ 127 := hip.elim (fun h => absurd h.1 hne) And.right
  have hmask : c.ipv6FlowLabel &&& 0x000FFFFF = c.ipv6FlowLabel := by
    apply UInt32.toNat_inj.mp
    rw [UInt32.toNat_and]
    exact (Nat.and_two_pow_sub_one_eq_mod _ 20).trans (Nat.mod_eq_of_lt hflow)
  unfold copyLegacyDynamic
  rw [if_pos h6]
  exact ⟨rfl, hmask, rfl, rfl, rfl, stored_copied _ (Nat.le_trans hext (by decide))⟩

omit hip in
theorem sameRtpDynamic_copyExtras {a b : RtpContext} {bodyLen : Nat} (hx : ExtrasOk a bodyLen)
    (h : b.vpxcc = a.vpxcc ∧ b.mpt = a.mpt ∧ b.lastSeq = a.lastSeq ∧ b.lastTs = a.lastTs) :
    SameRtpDynamic a (copyExtras a b) := by
  obtain ⟨h₁, h₂, h₃, h₄⟩ := h
  exact ⟨h₁, h₂, h₃, h₄, rfl, stored_copied _ hx.csrcLe, rfl, stored_copied _ (extensionLen_le hx.extensionValid), rfl,
    stored_copied _ hx.paddingLe⟩

omit hip in
theorem sameRtpDynamic_copyIrDynRtp {bodyLen : Nat} (hx : ExtrasOk c.rtp bodyLen) (previous x : Context) :
    SameRtpDynamic c.rtp (copyIrDynRtp previous c x).rtp := by
  obtain ⟨stride, residue, e⟩ := rtp_refreshIrDynRtp previous c.rtp.lastSeq c.rtp.lastTs
    (x.withRtp fun rtp => { rtp with vpxcc := c.rtp.vpxcc, mpt := c.rtp.mpt })
  change SameRtpDynamic c.rtp (copyExtras c.rtp (refreshIrDynRtp _ _ _ _).rtp)
  rw [e]
  exact sameRtpDynamic_copyExtras hx ⟨rfl, rfl, rfl, rfl⟩

end Dynamics

/-! ### The four decoded contexts -/

section Decoded

variable {c : Context} {bodyLen : Nat} (hip : LegacyIp c) (hx : ExtrasOk c.rtp bodyLen)
  (hflow : c.ipVersion = 6 → c.ipv6FlowLabel.toNat < 2 ^ 20) (d : Context)

include hip hflow

theorem sameDynamics_udpLiteIr : SameDynamics .udpLite c (udpLiteIrDecoded c d) where
  ipv4 h4 := { sameIpv4Dynamic_copyLegacy hip h4 (copyPorts c (copyLegacyStatic c d)) with }
  ipv6 h6 := { sameIpv6Dynamic_copyLegacy hip h6 (hflow h6) (copyPorts c (copyLegacyStatic c d)) with }
  coverage := rfl
  check := rfl
  rtp := nofun

theorem sameDynamics_udpLiteIrDyn : SameDynamics .udpLite c (udpLiteIrDynDecoded c d) where
  ipv4 h4 := { sameIpv4Dynamic_copyLegacy hip h4 d with }
  ipv6 h6 := { sameIpv6Dynamic_copyLegacy hip h6 (hflow h6) d with }
  coverage := rfl
  check := rfl
  rtp := nofun

include hx

theorem sameDynamics_rtpUdpLiteIr : SameDynamics .rtpUdpLite c (rtpUdpLiteIrDecoded c d) where
  ipv4 h4 := { sameIpv4Dynamic_copyLegacy hip h4 (copySsrc c (copyPorts c (copyLegacyStatic c d))) with }
  ipv6 h6 := { sameIpv6Dynamic_copyLegacy hip h6 (hflow h6) (copySsrc c (copyPorts c (copyLegacyStatic c d))) with }
  coverage := rfl
  check := rfl
  rtp _ :=
    let x := (copyLegacyDynamic c (copySsrc c (copyPorts c (copyLegacyStatic c d)))).rtp
    { sameRtpDynamic_copyExtras hx (b := { x with
        vpxcc := c.rtp.vpxcc, mpt := c.rtp.mpt, lastSeq := c.rtp.lastSeq, lastTs := c.rtp.lastTs })
      ⟨rfl, rfl, rfl, rfl⟩ with }

theorem sameDynamics_rtpUdpLiteIrDyn : SameDynamics .rtpUdpLite c (rtpUdpLiteIrDynDecoded c d) where
  ipv4 h4 := { sameIpv4Dynamic_copyLegacy hip h4 d with }
  ipv6 h6 := { sameIpv6Dynamic_copyLegacy hip h6 (hflow h6) d with }
  coverage := rfl
  check := rfl
  rtp _ := { sameRtpDynamic_copyIrDynRtp hx d { copyLegacyDynamic c d with
    udpLengthOrCoverage := c.udpLengthOrCoverage, udpCheck := c.udpCheck } with }

end Decoded

section Statics

variable {profile : Profile} {c : Context}

/-- The dynamic IP chain leaves the static fields as they are. -/
theorem SameStatics.copyLegacyDynamic {x : Context} (h : SameStatics profile c x) :
    SameStatics profile c (copyLegacyDynamic c x) := by
  unfold Rohccxx.copyLegacyDynamic
  by_cases h6 : c.ipVersion = 6
  · rw [if_pos h6]
    exact { h with ipv4 := fun h4 => absurd (h6.symm.trans h4) (by decide) }
  · rw [if_neg h6]
    exact { h with }

/-- The static chains carry the static fields. -/
theorem sameStatics_copyPorts (hip : LegacyIp c) (d : Context) :
    SameStatics .udpLite c (copyPorts c (copyLegacyStatic c d)) := by
  unfold copyLegacyStatic
  rcases hip with ⟨h4, -⟩ | ⟨h6, -⟩
  · have hne : ¬c.ipVersion = 6 := by rw [h4]; decide
    rw [if_neg hne]
    exact ⟨h4.symm, fun _ => ⟨rfl, rfl, rfl⟩, fun h6 => absurd h6 hne, rfl, rfl, nofun⟩
  · have hne : ¬c.ipVersion = 4 := by rw [h6]; decide
    rw [if_pos h6]
    exact ⟨h6.symm, fun h4 => absurd h4 hne, fun _ => ⟨rfl, rfl, rfl⟩, rfl, rfl, nofun⟩

theorem sameStatics_udpLiteIr (hip : LegacyIp c) (d : Context) : SameStatics .udpLite c (udpLiteIrDecoded c d) :=
  { (sameStatics_copyPorts hip d).copyLegacyDynamic with }

theorem sameStatics_udpLiteIrDyn {d : Context} (h : SameStatics .udpLite c d) :
    SameStatics .udpLite c (udpLiteIrDynDecoded c d) :=
  { h.copyLegacyDynamic with }

theorem sameStatics_rtpUdpLiteIr (hip : LegacyIp c) (d : Context) :
    SameStatics .rtpUdpLite c (rtpUdpLiteIrDecoded c d) := by
  have h : SameStatics .rtpUdpLite c (copySsrc c (copyPorts c (copyLegacyStatic c d))) :=
    { sameStatics_copyPorts hip d with ssrc := fun _ => rfl }
  exact { h.copyLegacyDynamic with }

theorem sameStatics_rtpUdpLiteIrDyn {d : Context} (h : SameStatics .rtpUdpLite c d) :
    SameStatics .rtpUdpLite c (rtpUdpLiteIrDynDecoded c d) := by
  refine { h.copyLegacyDynamic with ssrc := fun hp => ?_ }
  obtain ⟨stride, residue, e⟩ := rtp_refreshIrDynRtp d c.rtp.lastSeq c.rtp.lastTs
    (Context.withRtp { copyLegacyDynamic c d with
      udpLengthOrCoverage := c.udpLengthOrCoverage, udpCheck := c.udpCheck } fun rtp =>
        { rtp with vpxcc := c.rtp.vpxcc, mpt := c.rtp.mpt })
  exact (congrArg RtpContext.ssrc e).trans (h.copyLegacyDynamic.ssrc hp)

end Statics

/-! ## Both units of both profiles -/

/-- `emit_ir_udp_lite` and `emit_ir_rtp_udp_lite`. -/
def emitLiteIr : Profile → Nat → Context → Option Bytes
  | .udpLite => emitIrUdpLite
  | .rtpUdpLite => emitIrRtpUdpLite
  | _ => fun _ _ => none

/-- `emit_ir_dyn_udp_lite` and `emit_ir_dyn_rtp_udp_lite`. -/
def emitLiteIrDyn : Profile → Nat → Context → Option Bytes
  | .udpLite => emitIrDynUdpLite
  | .rtpUdpLite => emitIrDynRtpUdpLite
  | _ => fun _ _ => none

/-- `decode_ir_udp_lite` and `decode_ir_rtp_udp_lite`. -/
def decodeLiteIr : Profile → Bytes → Context → Option (Context × Nat)
  | .udpLite => decodeIrUdpLite
  | .rtpUdpLite => decodeIrRtpUdpLite
  | _ => fun _ _ => none

/-- `decode_ir_dyn_udp_lite` and `decode_ir_dyn_rtp_udp_lite`. -/
def decodeLiteIrDyn : Profile → Bytes → Proc (Cursor Context) Nat
  | .udpLite => decodeIrDynUdpLite
  | .rtpUdpLite => decodeIrDynRtpUdpLite
  | _ => fun _ => Proc.reject

section RoundTrip

variable {profile : Profile} {cap : Nat} {c d : Context} (h : SameCid c d) (hproto : c.ipv4Protocol = 136)
  (hnext : c.ipVersion = 6 → c.ipv6NextHeader = 136)
  (hflow : c.ipVersion = 6 → c.ipv6FlowLabel.toNat < 2 ^ 20) {unit : Bytes} (payload : Bytes)

include h hproto hnext hflow

/-- The IR, in the modes a decoder knows. -/
theorem liteIr_readBack (hmode : c.mode ≠ .uncompressed) (he : emitLiteIr profile cap c = some unit) :
    ∃ r, decodeLiteIr profile (unit ++ payload) d = some (r, unit.length) ∧ SameStatics profile c r ∧
      SameDynamics profile c r ∧ r.mode = c.mode := by
  have hc : LegacyConsistent c := fun h6 => hproto.trans (hnext h6).symm
  cases profile with
  | udpLite =>
    obtain ⟨hs, rfl⟩ := emitIrUdpLite_eq he
    exact ⟨udpLiteIrDecoded c d, (reads_decodeIrUdpLite h hs hproto hc hmode).run_eq payload,
      sameStatics_udpLiteIr hs.ip d, sameDynamics_udpLiteIr hs.ip hflow d, rfl⟩
  | rtpUdpLite =>
    obtain ⟨bodyLen, hs, rfl⟩ := emitIrRtpUdpLite_eq he
    have hx := (rtpExtrasBodyLen_iff _ _).mp (hs.extras rfl)
    exact ⟨rtpUdpLiteIrDecoded c d, (reads_decodeIrRtpUdpLite h hs hproto hc hmode).run_eq payload,
      sameStatics_rtpUdpLiteIr hs.ip d, sameDynamics_rtpUdpLiteIr hs.ip hx hflow d, rfl⟩
  | uncompressed => cases he
  | llaRtp => cases he
  | rtp => cases he
  | udp => cases he
  | esp => cases he
  | ip => cases he

/-- The IR-DYN, at a decoder that has the static fields. -/
theorem liteIrDyn_readBack (hd : SameStatics profile c d) (he : emitLiteIrDyn profile cap c = some unit) :
    ∃ r, exec (decodeLiteIrDyn profile (unit ++ payload)) d = (some unit.length, r) ∧ SameStatics profile c r ∧
      SameDynamics profile c r := by
  have hc : LegacyConsistent c := fun h6 => hproto.trans (hnext h6).symm
  have hk : KnowsIp c d := ⟨hd.version, fun h6 => (hd.ipv6 h6).2.2⟩
  cases profile with
  | udpLite =>
    obtain ⟨hs, rfl⟩ := emitIrDynUdpLite_eq he
    exact ⟨udpLiteIrDynDecoded c d, (reads_decodeIrDynUdpLite h hs hk hc).exec_eq payload,
      sameStatics_udpLiteIrDyn hd, sameDynamics_udpLiteIrDyn hs.ip hflow d⟩
  | rtpUdpLite =>
    obtain ⟨bodyLen, hs, rfl⟩ := emitIrDynRtpUdpLite_eq he
    have hx := (rtpExtrasBodyLen_iff _ _).mp (hs.extras rfl)
    exact ⟨rtpUdpLiteIrDynDecoded c d, (reads_decodeIrDynRtpUdpLite h hs hk hc).exec_eq payload,
      sameStatics_rtpUdpLiteIrDyn hd, sameDynamics_rtpUdpLiteIrDyn hs.ip hx hflow d⟩
  | uncompressed => cases he
  | llaRtp => cases he
  | rtp => cases he
  | udp => cases he
  | esp => cases he
  | ip => cases he

end RoundTrip

/-- **The units of the UDP-Lite profiles round trip**: the header is accepted, consumed to its last octet and read back
whole, the IR in the modes O and R and the IR-DYN at a decoder that has the static fields. -/
theorem lite_roundTrip {profile : Profile} {cap : Nat} {c d : Context} (h : SameCid c d)
    (hmode : c.mode ≠ .uncompressed) (hproto : c.ipv4Protocol = 136)
    (hnext : c.ipVersion = 6 → c.ipv6NextHeader = 136)
    (hflow : c.ipVersion = 6 → c.ipv6FlowLabel.toNat < 2 ^ 20) (payload : Bytes) :
    (∀ unit, emitLiteIr profile cap c = some unit →
      ∃ r, decodeLiteIr profile (unit ++ payload) d = some (r, unit.length) ∧ SameStatics profile c r ∧
        SameDynamics profile c r ∧ r.mode = c.mode) ∧
    (SameStatics profile c d → ∀ unit, emitLiteIrDyn profile cap c = some unit →
      ∃ r, exec (decodeLiteIrDyn profile (unit ++ payload)) d = (some unit.length, r) ∧ SameStatics profile c r ∧
        SameDynamics profile c r) :=
  ⟨fun _ he => liteIr_readBack h hproto hnext hflow payload hmode he,
    fun hd _ he => liteIrDyn_readBack h hproto hnext hflow payload hd he⟩

/-- An RTP flow with an option and a CSRC under the CID 3. -/
theorem lite_roundTrip_rtp :
    let c : Context :=
      { mode := .optimistic, cid := 3, ipv4Protocol := 136, ipv4OptionsLen := 4, udpLengthOrCoverage := 8
        rtp := { vpxcc := 0x81, csrcListLen := 4 } }
    ∃ r, decodeLiteIr .rtpUdpLite (liteIrUnit .rtpUdpLite c 9 ++ [1]) { cid := 3 } =
      some (r, (liteIrUnit .rtpUdpLite c 9).length) ∧ SameStatics .rtpUdpLite c r ∧ SameDynamics .rtpUdpLite c r ∧
        r.mode = .optimistic :=
  (@lite_roundTrip .rtpUdpLite 128
    { mode := .optimistic, cid := 3, ipv4Protocol := 136, ipv4OptionsLen := 4, udpLengthOrCoverage := 8
      rtp := { vpxcc := 0x81, csrcListLen := 4 } } { cid := 3 } ⟨rfl, rfl, rfl⟩ nofun rfl
    (fun h => absurd h (by decide)) (fun h => absurd h (by decide)) [1]).1 _ (by decide +kernel)

end Rohccxx
