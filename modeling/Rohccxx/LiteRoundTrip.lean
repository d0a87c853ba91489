import Rohccxx.LegacyChains

/-!
# Reading back the units of the UDP-Lite profiles

The UDP-Lite profiles send the legacy grammar with a mode octet behind the CRC. A unit is refused for its mode octet or
for an IPv6 header whose next header is not the transport protocol, and for nothing else.
-/

set_option autoImplicit false

namespace Rohccxx

open Octets Reader

/-! ## Fronts and ends -/

/-- The front of a legacy IR without its length checks. -/
def legacyIrFields (bs : Bytes) (profileId : UInt8) : Proc (Cursor Context) (Nat × UInt8) := do
  let ctx ← value
  irDynAddCid bs ctx
  available bs 1
  let packetType ← u8 bs
  Proc.require (packetType &&& 0xFE = 0xFC)
  readLargeCidIfPresent bs ctx
  available bs 2
  let profile ← u8 bs
  Proc.require (profile = profileId)
  let receivedCrc ← u8 bs
  return (irDynCrcIndex ctx, receivedCrc)

/-- With enough octets the length checks pass. -/
theorem legacyIrHead_eq {bs : Bytes} {minLen : Nat} {profileId : UInt8} {cursor : Cursor Context}
    (h : minLen + (if hasSmallCid cursor.st then 1 else 0) ≤ bs.length) :
    legacyIrHead bs minLen profileId cursor = legacyIrFields bs profileId cursor := by
  have h₁ : decide (bs.length ≥ minLen) = true := by
    simp only [decide_eq_true_eq]
    omega
  have h₂ : readAddCid bs cursor.st minLen = irDynAddCid bs cursor.st := by
    unfold readAddCid irDynAddCid
    change (if hasSmallCid cursor.st = true then _ else _) = _
    split
    · rename_i hc
      rw [if_pos hc] at h
      funext c
      rw [Proc.bind_apply]
      simp [Proc.require, h]
    · rfl
  unfold legacyIrHead legacyIrFields
  rw [Proc.bind_apply, Proc.bind_apply]
  simp only [value_apply]
  rw [Proc.bind_apply, h₁]
  simp only [Proc.require_true]
  rw [h₂]
  rfl

section Head

variable {c d : Context} (h : SameCid c d)

include h

theorem hasSmallCid_eq : hasSmallCid d = (!c.largeCid && decide (c.cid > 0)) := by
  unfold hasSmallCid
  rw [h.cid, h.largeCid]

theorem length_irFront (type code : UInt8) : (irFront c type code).length = irDynCrcIndex d := by
  unfold irFront irDynCrcIndex addCidOctets largeCidOctets
  rw [hasSmallCid_eq h, h.cid, h.largeCid]
  cases hl : c.largeCid with
  | true => simp [Cid.length_largeOctets]; omega
  | false => by_cases h0 : c.cid = 0 <;> simp [h0, Nat.pos_of_ne_zero]

theorem reads_irDynAddCid (front : Bytes) : Reads (fun bs => irDynAddCid bs d) front (addCidOctets c) d () d := by
  unfold irDynAddCid addCidOctets
  rw [hasSmallCid_eq h]
  by_cases hc : (!c.largeCid && decide (c.cid > 0)) = true
  · have hl : c.largeCid = false := by simp only [Bool.and_eq_true, Bool.not_eq_true'] at hc; exact hc.1
    have key : ∀ i : Fin 16, ((0xE0 : UInt8) ||| (UInt8.ofNat i &&& 0x0F)) &&& 0xF0 = 0xE0 ∧
        ((0xE0 : UInt8) ||| (UInt8.ofNat i &&& 0x0F)) &&& 0x0F = UInt8.ofNat i &&& 0x0F := by decide
    have hk := key ⟨c.cid, Nat.lt_succ_of_le (h.fits.small hl)⟩
    simp only [if_pos hc]
    refine .u8 ?_
    intro rest
    rw [h.cid]
    simp [hk]
  · simp only [if_neg hc]
    exact reads_pure _ _ _

theorem reads_readLargeCidIfPresent (front : Bytes) :
    Reads (fun bs => readLargeCidIfPresent bs d) front (largeCidOctets c) d () d := by
  unfold readLargeCidIfPresent largeCidOctets
  rw [h.largeCid]
  cases hl : c.largeCid with
  | false => exact reads_pure _ _ _
  | true =>
    have hlarge := h.fits.large hl
    have hlen := Cid.length_largeOctets c.cid
    simp only [Bool.not_true, Bool.false_eq_true, if_false, if_true]
    refine .available (by rw [hlen]; unfold Cid.encodedLen; split <;> omega) ?_
    refine .scan (fun rest => Cid.readLarge_largeOctets hlarge rest) ?_
    exact .require (by simp [h.cid]) (.take_last hlen (reads_pure _ _ _))

theorem reads_legacyIrFields (code crc : UInt8) :
    Reads (fun bs => legacyIrFields bs code) [] (irFront c 0xFD code ++ [crc]) d
      ((irFront c 0xFD code).length, crc) d := by
  have e : irFront c 0xFD code ++ [crc] = addCidOctets c ++ (0xFD :: (largeCidOctets c ++ [code, crc])) := by
    simp [irFront]
  rw [e, length_irFront h]
  unfold legacyIrFields
  refine .value ((reads_irDynAddCid h []).bind ?_)
  refine .available (by simp) (.u8 (.require (fun _ => by decide) ?_))
  refine (reads_readLargeCidIfPresent h _).bind ?_
  exact .available (by simp) (.u8 (.require (by simp) (.u8 (reads_pure _ _ _))))

end Head

section Tail

variable {front : Bytes} {crc : Nat × UInt8}
  (hcrc : ∀ rest, crc8ExactMatches (front ++ rest) front.length crc.1 crc.2 = true)

include hcrc

/-- The mode octet of the two modes a decoder knows. -/
theorem reads_legacyIrTail {mode : Mode} (hmode : mode ≠ .uncompressed) (d : Context) :
    Reads (fun bs => legacyIrTail bs crc) front [legacyModeOctet mode] d () { d with mode := mode } := by
  unfold legacyIrTail
  refine .pos (.require (fun rest => hcrc _) ?_)
  have hread : ∀ rest, readLegacyMode (front ++ (legacyModeOctet mode :: rest)) ⟨front.length, d⟩ =
      (.ok (), ⟨front.length, { d with mode := mode }⟩) := by
    intro rest
    unfold readLegacyMode
    have ha : Reader.available (front ++ (legacyModeOctet mode :: rest)) 1 (⟨front.length, d⟩ : Cursor Context) =
        (.ok (), ⟨front.length, d⟩) := by
      simp [Reader.available]
    have hp : Reader.peek (front ++ (legacyModeOctet mode :: rest)) (⟨front.length, d⟩ : Cursor Context) =
        (.ok (legacyModeOctet mode), ⟨front.length, d⟩) := by
      simp [Reader.peek]
    rw [Proc.bind_of_ok ha, Proc.bind_of_ok hp]
    cases mode with
    | uncompressed => exact absurd rfl hmode
    | optimistic => rfl
    | reliable => rfl
  intro rest
  refine (Proc.bind_of_ok (hread rest)).trans ?_
  simp [Reader.u8, Proc.bind_apply]

/-- Mode U is on the wire and nobody reads it. -/
theorem refuses_legacyIrTail (d : Context) :
    Refuses (fun bs => legacyIrTail bs crc) front [legacyModeOctet .uncompressed] d := by
  unfold legacyIrTail
  refine .pos (.require (fun rest => hcrc _) (.bind ?_))
  unfold readLegacyMode
  refine .available (by simp) (.peek (.require (fun _ => by decide) (.bind (refuses_require fun _ => ?_))))
  decide

end Tail

/-! ## UDP-Lite -/

/-- The ports of `c` in another context. -/
def copyPorts (c d : Context) : Context := { d with udpSport := c.udpSport, udpDport := c.udpDport }

/-- The context after the IR of a UDP-Lite flow. -/
def udpLiteIrDecoded (c d : Context) : Context :=
  let ip := copyLegacyDynamic c (copyPorts c (copyLegacyStatic c d))
  { ip with
    udpLengthOrCoverage := c.udpLengthOrCoverage, udpCheck := c.udpCheck, mode := c.mode, profile := .udpLite
    rohcState := .staticEstablished }

theorem ipVersion_copyLegacyStatic {c : Context} (hip : LegacyIp c) (d : Context) :
    (copyLegacyStatic c d).ipVersion = c.ipVersion ∧
      (c.ipVersion = 6 → (copyLegacyStatic c d).ipv6NextHeader = c.ipv6NextHeader) := by
  unfold copyLegacyStatic
  by_cases h6 : c.ipVersion = 6
  · simp [h6]
  · rcases hip with ⟨h4, -⟩ | ⟨h, -⟩
    · simp [h4]
    · exact absurd h h6

/-- Both chains agree on the protocol. -/
theorem ipv4Protocol_copyLegacyDynamic {c : Context} (d e : Context)
    (he : e.ipv4Protocol = (copyLegacyStatic c d).ipv4Protocol) :
    (copyLegacyDynamic c e).ipv4Protocol = c.ipv4Protocol := by
  unfold copyLegacyDynamic
  by_cases h6 : c.ipVersion = 6
  · simp [h6, copyExtensions]
  · simp [h6, copyOptions, he, copyLegacyStatic]

theorem length_writeIpStatic (c : Context) (protocol : UInt8) :
    (writeIpStaticWithProtocol c protocol).length = if c.ipVersion = 6 then 34 else 10 := by
  unfold writeIpStaticWithProtocol writeIpv6Static writeIpv4StaticWithProtocol
  split <;> simp

theorem length_writeIpDynamic {c : Context} (hip : LegacyIp c) :
    (writeIpDynamic c).length = if c.ipVersion = 6 then 7 + c.ipv6ExtensionLen else 6 + c.ipv4OptionsLen := by
  unfold writeIpDynamic writeIpv6Dynamic writeIpv4Dynamic
  rcases hip with ⟨h4, h⟩ | ⟨h6, h⟩
  · have hl := length_stored c.ipv4Options h
    rw [if_neg (by rw [h4]; decide), if_neg (by rw [h4]; decide)]
    unfold writeIpv4OptionsList
    split_ifs with h0
    · simp [h0]
    · omega
    · simp [hl]; omega
  · have hl := length_stored c.ipv6Extensions (Nat.le_trans h (by decide))
    rw [if_pos h6, if_pos h6]
    unfold writeIpv6ExtensionsList
    split_ifs with h0
    · simp [h0]
    · omega
    · simp [hl]; omega

/-- The first length check of a legacy decoder on octets of its own. -/
theorem reads_legacyIrHead {k : Bytes → Nat × UInt8 → Proc (Cursor Context) Unit} {w : Bytes} {d s' : Context}
    {minLen : Nat} {code : UInt8} (hlen : minLen + (if hasSmallCid d then 1 else 0) ≤ w.length)
    (h : Reads (fun bs => legacyIrFields bs code >>= k bs) [] w d () s') :
    Reads (fun bs => legacyIrHead bs minLen code >>= k bs) [] w d () s' := by
  intro rest
  rw [← h rest]
  change (legacyIrHead _ minLen code >>= k _) _ = (legacyIrFields _ code >>= k _) _
  rw [Proc.bind_apply, Proc.bind_apply, legacyIrHead_eq (by simp only [List.nil_append, List.length_append]; omega)]

theorem refuses_legacyIrHead {k : Bytes → Nat × UInt8 → Proc (Cursor Context) Unit} {w : Bytes} {d : Context}
    {minLen : Nat} {code : UInt8} (hlen : minLen + (if hasSmallCid d then 1 else 0) ≤ w.length)
    (h : Refuses (fun bs => legacyIrFields bs code >>= k bs) [] w d) :
    Refuses (fun bs => legacyIrHead bs minLen code >>= k bs) [] w d := by
  intro rest
  rw [← h rest]
  change ((legacyIrHead _ minLen code >>= k _) _).1.isOk = ((legacyIrFields _ code >>= k _) _).1.isOk
  rw [Proc.bind_apply, Proc.bind_apply, legacyIrHead_eq (by simp only [List.nil_append, List.length_append]; omega)]

section UdpLite

variable {c d : Context} (h : SameCid c d) (hs : SendsLite .udpLite c 0)

/-- The IR of a UDP-Lite flow, piece by piece. -/
theorem liteIrUnit_udpLite (c : Context) : liteIrUnit .udpLite c 0 =
    (irFront c 0xFD 0x08 ++ [crc8 (irFront c 0xFD 0x08 ++ 0 :: (liteStatic .udpLite c ++ liteDynamic .udpLite c 0))]) ++
      (writeIpStaticWithProtocol c c.ipv4Protocol ++ (writeUdpStatic c ++ (writeIpDynamic c ++
        (be16 c.udpLengthOrCoverage ++ (be16 c.udpCheck ++ [legacyModeOctet c.mode]))))) := by
  unfold liteIrUnit irSealed
  rw [octet_udpLite]
  generalize crc8 _ = crc
  simp [liteStatic, liteDynamic, writeUdpLiteDynamic]

include h in
theorem length_irFront_ge (type code : UInt8) :
    2 + (if hasSmallCid d then 1 else 0) ≤ (irFront c type code).length := by
  unfold irFront addCidOctets
  rw [hasSmallCid_eq h]
  split <;> simp

include h hs

theorem length_liteIrUnit_udpLite_ge : 28 + (if hasSmallCid d then 1 else 0) ≤ (liteIrUnit .udpLite c 0).length := by
  have h₁ := length_irFront_ge h 0xFD 0x08
  have h₂ := length_writeIpStatic c c.ipv4Protocol
  have h₃ := length_writeIpDynamic hs.ip
  rw [liteIrUnit_udpLite]
  simp only [List.length_append, List.length_singleton, length_be16, writeUdpStatic]
  split at h₂ <;> split at h₃ <;> omega

end UdpLite

/-- The chains of a UDP-Lite unit stay far below the CRC limit. -/
theorem length_liteBody_le {profile : Profile} {c : Context} {bodyLen : Nat} (hs : SendsLite profile c bodyLen) :
    (liteStatic profile c ++ liteDynamic profile c bodyLen).length ≤ 1000 := by
  have h₁ := length_writeIpStatic c c.ipv4Protocol
  have h₂ := length_writeIpDynamic hs.ip
  have h₃ : (writeIpStaticWithProtocol c c.ipv4Protocol).length + (writeIpDynamic c).length ≤ 168 := by
    rcases hs.ip with ⟨h4, h⟩ | ⟨h6, h⟩
    · rw [if_neg (by rw [h4]; decide)] at h₁ h₂
      omega
    · rw [if_pos h6] at h₁ h₂
      omega
  unfold liteStatic liteDynamic
  by_cases hp : profile = .rtpUdpLite
  · have hx := (rtpExtrasBodyLen_iff _ _).mp (hs.extras hp)
    have h₄ : (rtpExtrasOctets c.rtp bodyLen).length ≤ 600 := by
      have hel := extensionLen_le hx.extensionValid
      have hcl := hx.csrcLe
      have hpl := hx.paddingLe
      have hb := hx.bodyLen_eq
      have hle : Cid.encodedLen bodyLen ≤ 2 := by
        unfold Cid.encodedLen
        split <;> omega
      unfold rtpExtrasOctets
      split
      · simp
      · rename_i h0
        simp only [List.length_append, List.length_singleton, Cid.length_largeOctets, length_rtpExtrasBody hx h0]
        split at hb <;> omega
    simp only [if_pos hp, List.length_append, writeUdpStatic, writeRtpStatic, writeUdpLiteDynamic, rtpDynamicFixed,
      length_be16, length_be32, List.length_cons, List.length_nil]
    omega
  · simp only [if_neg hp, List.length_append, writeUdpStatic, writeUdpLiteDynamic, length_be16, List.length_nil]
    omega

/-- The CRC of a UDP-Lite IR holds. -/
theorem crc_lite {profile : Profile} {c : Context} {bodyLen : Nat} (hs : SendsLite profile c bodyLen) (code : UInt8)
    (rest : Bytes) :
    crc8ExactMatches
      (irSealed (irFront c 0xFD code) (liteStatic profile c ++ liteDynamic profile c bodyLen) ++ rest)
      (irSealed (irFront c 0xFD code) (liteStatic profile c ++ liteDynamic profile c bodyLen)).length
      (irFront c 0xFD code).length
      (crc8 (irFront c 0xFD code ++ 0 :: (liteStatic profile c ++ liteDynamic profile c bodyLen))) = true := by
  have h₁ := length_liteBody_le hs
  have h₂ := length_irFront_le c 0xFD code
  exact crc8ExactMatches_irSealed _ _ _ (by omega)

section UdpLiteIr

variable {c d : Context} (h : SameCid c d) (hs : SendsLite .udpLite c 0) (hproto : c.ipv4Protocol = 136)

include h hs hproto

/-- **The IR of a UDP-Lite flow is read back** in the modes O and R. -/
theorem reads_decodeIrUdpLite (hc : LegacyConsistent c) (hmode : c.mode ≠ .uncompressed) :
    Reads decodeIrUdpLiteLegacy [] (liteIrUnit .udpLite c 0) d () (udpLiteIrDecoded c d) := by
  have hlen := length_liteIrUnit_udpLite_ge h hs
  have hcrc := crc_lite hs 0x08
  obtain ⟨hver, hnext⟩ := ipVersion_copyLegacyStatic hs.ip d
  rw [liteIrUnit_udpLite] at hlen ⊢
  unfold irSealed at hcrc
  generalize crc8 _ = crc at hlen hcrc ⊢
  refine reads_legacyIrHead hlen ((reads_legacyIrFields h 0x08 crc).bind ?_)
  refine (reads_readIpStaticChain c d _).bind (.available (by simp [writeUdpStatic]; omega) ?_)
  refine (reads_readUdpPorts c _ _).bind ?_
  refine (reads_readLegacyIpDynamicConsistent hs.ip (by exact hver) (by exact hnext) _ hc).bind (.value ?_)
  refine .require (fun _ => ?_) ?_
  · have e := ipv4Protocol_copyLegacyDynamic d (copyPorts c (copyLegacyStatic c d)) rfl
    exact decide_eq_true (e.trans hproto)
  refine .available (by simp) (.u16 (.u16 (.update (.available (by simp) ?_))))
  rw [← List.append_nil [legacyModeOctet c.mode]]
  refine (reads_legacyIrTail (fun rest => ?_) hmode _).bind .update_last
  have e := hcrc rest
  simp only [liteStatic, liteDynamic, writeUdpLiteDynamic, reduceCtorEq, if_false, List.append_nil,
    List.append_assoc, List.nil_append] at e ⊢
  exact e

/-- In mode U the decoder does not get past the last octet. -/
theorem refuses_decodeIrUdpLite_mode (hc : LegacyConsistent c) (hmode : c.mode = .uncompressed) :
    Refuses decodeIrUdpLiteLegacy [] (liteIrUnit .udpLite c 0) d := by
  have hlen := length_liteIrUnit_udpLite_ge h hs
  have hcrc := crc_lite hs 0x08
  obtain ⟨hver, hnext⟩ := ipVersion_copyLegacyStatic hs.ip d
  rw [liteIrUnit_udpLite] at hlen ⊢
  unfold irSealed at hcrc
  generalize crc8 _ = crc at hlen hcrc ⊢
  refine refuses_legacyIrHead hlen ((reads_legacyIrFields h 0x08 crc).bind_refuses ?_)
  refine (reads_readIpStaticChain c d _).bind_refuses (.available (by simp [writeUdpStatic]; omega) ?_)
  refine (reads_readUdpPorts c _ _).bind_refuses ?_
  refine (reads_readLegacyIpDynamicConsistent hs.ip (by exact hver) (by exact hnext) _ hc).bind_refuses (.value ?_)
  refine .require (fun _ => ?_) ?_
  · have e := ipv4Protocol_copyLegacyDynamic d (copyPorts c (copyLegacyStatic c d)) rfl
    exact decide_eq_true (e.trans hproto)
  refine .available (by simp) ((reads_u16 _ _ _).bind_refuses ((reads_u16 _ _ _).bind_refuses ?_))
  refine .update (.available (by simp) (.bind ?_))
  rw [hmode]
  refine refuses_legacyIrTail (fun rest => ?_) _
  have e := hcrc rest
  simp only [liteStatic, liteDynamic, writeUdpLiteDynamic, reduceCtorEq, if_false, List.append_nil,
    List.append_assoc, List.nil_append] at e ⊢
  exact e

omit hproto in
/-- A next header that is not the transport is refused in the dynamic chain. -/
theorem refuses_decodeIrUdpLite_next (hc : ¬LegacyConsistent c) :
    Refuses decodeIrUdpLiteLegacy [] (liteIrUnit .udpLite c 0) d := by
  have hlen := length_liteIrUnit_udpLite_ge h hs
  obtain ⟨hver, hnext⟩ := ipVersion_copyLegacyStatic hs.ip d
  rw [liteIrUnit_udpLite] at hlen ⊢
  generalize crc8 _ = crc at hlen ⊢
  refine refuses_legacyIrHead hlen ((reads_legacyIrFields h 0x08 crc).bind_refuses ?_)
  refine (reads_readIpStaticChain c d _).bind_refuses (.available (by simp [writeUdpStatic]; omega) ?_)
  refine (reads_readUdpPorts c _ _).bind_refuses (.bind ?_)
  exact .append_right (refuses_readLegacyIpDynamicConsistent hs.ip (by exact hver) (by exact hnext) _ hc)

end UdpLiteIr

/-! ## RTP over UDP-Lite -/

/-- Splitting the first octets of an RTP header and joining them again. -/
theorem rtpDynamicFixed_eq (rtp : RtpContext) :
    rtpDynamicFixed rtp = rtp.vpxcc :: rtp.mpt :: (be16 rtp.lastSeq ++ be32 rtp.lastTs) := by
  have h₁ : ∀ v : UInt8, (((v >>> 6) &&& 0x03) <<< 6) ||| (((v >>> 5) &&& 0x01) <<< 5) |||
      (((v >>> 4) &&& 0x01) <<< 4) ||| (v &&& 0x0F) = v :=
    forall_octet (by decide)
  have h₂ : ∀ v : UInt8, (((v >>> 7) &&& 0x01) <<< 7) ||| (v &&& 0x7F) = v := forall_octet (by decide)
  simp only [rtpDynamicFixed, h₁, h₂, List.cons_append, List.nil_append]

/-- The IR of an RTP/UDP-Lite flow, piece by piece. -/
theorem liteIrUnit_rtpUdpLite (c : Context) (bodyLen : Nat) : liteIrUnit .rtpUdpLite c bodyLen =
    (irFront c 0xFD 0x07 ++ [crc8 (irFront c 0xFD 0x07 ++
        0 :: (liteStatic .rtpUdpLite c ++ liteDynamic .rtpUdpLite c bodyLen))]) ++
      (writeIpStaticWithProtocol c c.ipv4Protocol ++ (writeUdpStatic c ++ (be32 c.rtp.ssrc ++ (writeIpDynamic c ++
        (be16 c.udpLengthOrCoverage ++ (be16 c.udpCheck ++ (c.rtp.vpxcc :: c.rtp.mpt :: (be16 c.rtp.lastSeq ++
          (be32 c.rtp.lastTs ++ (rtpExtrasOctets c.rtp bodyLen ++ [legacyModeOctet c.mode])))))))))) := by
  unfold liteIrUnit irSealed
  rw [octet_rtpUdpLite]
  generalize crc8 _ = crc
  simp [liteStatic, liteDynamic, writeUdpLiteDynamic, rtpDynamicFixed_eq, writeRtpStatic]

/-- The RTP header of `c` in another context. -/
def copyRtp (c d : RtpContext) : RtpContext :=
  copyExtras c { d with vpxcc := c.vpxcc, mpt := c.mpt, lastSeq := c.lastSeq, lastTs := c.lastTs }

/-- The SSRC of `c` in another context. -/
def copySsrc (c d : Context) : Context :=
  d.withRtp (fun rtp => { rtp with ssrc := c.rtp.ssrc })

/-- The context after the IR of an RTP/UDP-Lite flow. -/
def rtpUdpLiteIrDecoded (c d : Context) : Context :=
  let ip := { copyLegacyDynamic c (copySsrc c (copyPorts c (copyLegacyStatic c d))) with
    udpLengthOrCoverage := c.udpLengthOrCoverage, udpCheck := c.udpCheck }
  finishLegacyRtp .rtpUdpLite { ip.withRtp (copyRtp c.rtp) with mode := c.mode }

theorem reads_readRtpDynamicChain {c : RtpContext} {bodyLen : Nat} (h : ExtrasOk c bodyLen) (d : Context)
    (front : Bytes) :
    Reads readRtpDynamicChain front
      (c.vpxcc :: c.mpt :: (be16 c.lastSeq ++ (be32 c.lastTs ++ rtpExtrasOctets c bodyLen))) d ()
      (d.withRtp (copyRtp c)) := by
  unfold readRtpDynamicChain
  refine .u8 (.u8 (.u16 (.u32 (.update ?_))))
  exact reads_readRtpExtrasList h _ rfl _

section RtpUdpLiteIr

variable {c d : Context} {bodyLen : Nat} (h : SameCid c d) (hs : SendsLite .rtpUdpLite c bodyLen)
  (hproto : c.ipv4Protocol = 136)

include h hs

theorem length_liteIrUnit_rtpUdpLite_ge :
    41 + (if hasSmallCid d then 1 else 0) ≤ (liteIrUnit .rtpUdpLite c bodyLen).length := by
  have h₁ := length_irFront_ge h 0xFD 0x07
  have h₂ := length_writeIpStatic c c.ipv4Protocol
  have h₃ := length_writeIpDynamic hs.ip
  have h₄ : 1 ≤ (rtpExtrasOctets c.rtp bodyLen).length := by
    unfold rtpExtrasOctets
    split <;> simp
  rw [liteIrUnit_rtpUdpLite]
  simp only [List.length_append, List.length_cons, List.length_nil, length_be16, length_be32, writeUdpStatic]
  split at h₂ <;> split at h₃ <;> omega

include hproto

/-- **The IR of an RTP/UDP-Lite flow is read back** in the modes O and R. -/
theorem reads_decodeIrRtpUdpLite (hc : LegacyConsistent c) (hmode : c.mode ≠ .uncompressed) :
    Reads decodeIrRtpUdpLiteLegacy [] (liteIrUnit .rtpUdpLite c bodyLen) d () (rtpUdpLiteIrDecoded c d) := by
  have hlen := length_liteIrUnit_rtpUdpLite_ge h hs
  have hcrc := crc_lite hs 0x07
  have hextras := (rtpExtrasBodyLen_iff _ _).mp (hs.extras rfl)
  obtain ⟨hver, hnext⟩ := ipVersion_copyLegacyStatic hs.ip d
  rw [liteIrUnit_rtpUdpLite] at hlen ⊢
  unfold irSealed at hcrc
  generalize crc8 _ = crc at hlen hcrc ⊢
  refine reads_legacyIrHead hlen ((reads_legacyIrFields h 0x07 crc).bind ?_)
  refine (reads_readIpStaticChain c d _).bind (.available (by simp [writeUdpStatic]; omega) ?_)
  refine (reads_readUdpPorts c _ _).bind (.u32 (.update ?_))
  refine (reads_readLegacyIpDynamicConsistent hs.ip (by exact hver) (by exact hnext) _ hc).bind (.value ?_)
  refine .require (fun _ => ?_) ?_
  · have e := ipv4Protocol_copyLegacyDynamic d (copySsrc c (copyPorts c (copyLegacyStatic c d))) rfl
    exact decide_eq_true (e.trans hproto)
  refine .available (by simp; omega) (.u16 (.u16 (.update ?_)))
  have e : c.rtp.vpxcc :: c.rtp.mpt :: (be16 c.rtp.lastSeq ++ (be32 c.rtp.lastTs ++
      (rtpExtrasOctets c.rtp bodyLen ++ [legacyModeOctet c.mode]))) =
      (c.rtp.vpxcc :: c.rtp.mpt :: (be16 c.rtp.lastSeq ++ (be32 c.rtp.lastTs ++ rtpExtrasOctets c.rtp bodyLen))) ++
        ([legacyModeOctet c.mode] ++ []) := by simp
  rw [e]
  refine (reads_readRtpDynamicChain hextras _ _).bind (.available (by simp) ?_)
  refine (reads_legacyIrTail (fun rest => ?_) hmode _).bind .update_last
  have e := hcrc rest
  simp only [liteStatic, liteDynamic, writeUdpLiteDynamic, rtpDynamicFixed_eq, writeRtpStatic, if_true,
    List.append_assoc, List.nil_append, List.cons_append] at e ⊢
  exact e

/-- In mode U the decoder does not get past the last octet. -/
theorem refuses_decodeIrRtpUdpLite_mode (hc : LegacyConsistent c) (hmode : c.mode = .uncompressed) :
    Refuses decodeIrRtpUdpLiteLegacy [] (liteIrUnit .rtpUdpLite c bodyLen) d := by
  have hlen := length_liteIrUnit_rtpUdpLite_ge h hs
  have hcrc := crc_lite hs 0x07
  have hextras := (rtpExtrasBodyLen_iff _ _).mp (hs.extras rfl)
  obtain ⟨hver, hnext⟩ := ipVersion_copyLegacyStatic hs.ip d
  rw [liteIrUnit_rtpUdpLite] at hlen ⊢
  unfold irSealed at hcrc
  generalize crc8 _ = crc at hlen hcrc ⊢
  refine refuses_legacyIrHead hlen ((reads_legacyIrFields h 0x07 crc).bind_refuses ?_)
  refine (reads_readIpStaticChain c d _).bind_refuses (.available (by simp [writeUdpStatic]; omega) ?_)
  refine (reads_readUdpPorts c _ _).bind_refuses ((reads_u32 _ _ _).bind_refuses (.update ?_))
  refine (reads_readLegacyIpDynamicConsistent hs.ip (by exact hver) (by exact hnext) _ hc).bind_refuses (.value ?_)
  refine .require (fun _ => ?_) ?_
  · have e := ipv4Protocol_copyLegacyDynamic d (copySsrc c (copyPorts c (copyLegacyStatic c d))) rfl
    exact decide_eq_true (e.trans hproto)
  refine .available (by simp; omega) ((reads_u16 _ _ _).bind_refuses ((reads_u16 _ _ _).bind_refuses (.update ?_)))
  have e : c.rtp.vpxcc :: c.rtp.mpt :: (be16 c.rtp.lastSeq ++ (be32 c.rtp.lastTs ++
      (rtpExtrasOctets c.rtp bodyLen ++ [legacyModeOctet c.mode]))) =
      (c.rtp.vpxcc :: c.rtp.mpt :: (be16 c.rtp.lastSeq ++ (be32 c.rtp.lastTs ++ rtpExtrasOctets c.rtp bodyLen))) ++
        [legacyModeOctet c.mode] := by simp
  rw [e]
  refine (reads_readRtpDynamicChain hextras _ _).bind_refuses (.available (by simp) (.bind ?_))
  rw [hmode]
  refine refuses_legacyIrTail (fun rest => ?_) _
  have e := hcrc rest
  simp only [liteStatic, liteDynamic, writeUdpLiteDynamic, rtpDynamicFixed_eq, writeRtpStatic, if_true,
    List.append_assoc, List.nil_append, List.cons_append] at e ⊢
  exact e

omit hproto in
/-- A next header that is not the transport is refused in the dynamic chain. -/
theorem refuses_decodeIrRtpUdpLite_next (hc : ¬LegacyConsistent c) :
    Refuses decodeIrRtpUdpLiteLegacy [] (liteIrUnit .rtpUdpLite c bodyLen) d := by
  have hlen := length_liteIrUnit_rtpUdpLite_ge h hs
  obtain ⟨hver, hnext⟩ := ipVersion_copyLegacyStatic hs.ip d
  rw [liteIrUnit_rtpUdpLite] at hlen ⊢
  generalize crc8 _ = crc at hlen ⊢
  refine refuses_legacyIrHead hlen ((reads_legacyIrFields h 0x07 crc).bind_refuses ?_)
  refine (reads_readIpStaticChain c d _).bind_refuses (.available (by simp [writeUdpStatic]; omega) ?_)
  refine (reads_readUdpPorts c _ _).bind_refuses ((reads_u32 _ _ _).bind_refuses (.update (.bind ?_)))
  exact .append_right (refuses_readLegacyIpDynamicConsistent hs.ip (by exact hver) (by exact hnext) _ hc)

end RtpUdpLiteIr

end Rohccxx
