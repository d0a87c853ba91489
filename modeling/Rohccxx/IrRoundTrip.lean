import Rohccxx.DecodeIr
import Rohccxx.IrUnits

/-!
# Reading back a standard IR

`decodeIrStandard` on the octets `irSealed` of a context `c` accepts and copies the header fields of `c` into the context
it works on; `irDecoded` says which. A piece of the reader has its own lemma, in the order of the grammar.
-/

set_option autoImplicit false

namespace Rohccxx

open Octets Reader

/-! ## The front -/

theorem CidFits.small {ctx : Context} (h : CidFits ctx) (hl : ctx.largeCid = false) : ctx.cid ≤ 0x0F := by
  unfold CidFits Cid.isValidForSpace at h
  rw [hl] at h
  exact of_decide_eq_true h

theorem CidFits.large {ctx : Context} (h : CidFits ctx) (hl : ctx.largeCid = true) : ctx.cid ≤ Cid.largeCidMax := by
  unfold CidFits Cid.isValidForSpace at h
  rw [hl] at h
  exact of_decide_eq_true h

/-- The decoder's context is labelled with the CID of the unit. -/
structure SameCid (c d : Context) : Prop where
  fits : CidFits c
  cid : d.cid = c.cid
  largeCid : d.largeCid = c.largeCid

section Front

variable {c d : Context} (h : SameCid c d) (front : Bytes)

include h

theorem reads_readStandardAddCid :
    Reads (fun bs => readStandardAddCid bs d) front (addCidOctets c) d () d := by
  unfold readStandardAddCid addCidOctets
  rw [h.cid, h.largeCid]
  by_cases hc : (!c.largeCid && decide (c.cid > 0)) = true
  · rw [if_pos hc]
    simp only [if_pos hc]
    have hs : c.cid ≤ 0x0F := h.fits.small (by simp only [Bool.and_eq_true, Bool.not_eq_true'] at hc; exact hc.1)
    refine .available (by simp) (.u8 ?_)
    intro rest
    rw [addCid_octet hs]
    simp
  · rw [if_neg hc]
    simp only [if_neg hc]
    exact reads_pure _ _ _

theorem reads_readStandardLargeCid :
    Reads (fun bs => readStandardLargeCid bs d) front (largeCidOctets c) d () d := by
  unfold readStandardLargeCid largeCidOctets
  rw [h.cid, h.largeCid]
  by_cases hc : c.largeCid = true
  · rw [if_pos hc]
    simp only [if_pos hc]
    have hlarge := h.fits.large hc
    refine .scan (fun rest => Cid.readLarge_largeOctets hlarge rest) ?_
    refine .require (by simp) ?_
    have e : Cid.largeOctets c.cid = Cid.largeOctets c.cid ++ [] := by simp
    rw [e]
    exact .take (Cid.length_largeOctets _) (reads_pure _ _ _)
  · rw [if_neg hc]
    simp only [if_neg hc]
    exact reads_pure _ _ _

theorem reads_readStandardIrPrefix (code crc : UInt8) :
    Reads (fun bs => readStandardIrPrefix bs d code) [] (irFront c 0xFD code ++ [crc]) d
      ((irFront c 0xFD code).length, crc) d := by
  have e : irFront c 0xFD code ++ [crc] = addCidOctets c ++ (0xFD :: (largeCidOctets c ++ [code, crc])) := by
    simp [irFront]
  have hlen : (irFront c 0xFD code).length =
      ([] ++ addCidOctets c ++ [0xFD] ++ largeCidOctets c ++ [code]).length := by
    simp [irFront]
  rw [e, hlen]
  unfold readStandardIrPrefix
  refine (reads_readStandardAddCid h []).bind ?_
  refine .available (by simp) (.u8 (.require (by simp) ?_))
  refine (reads_readStandardLargeCid h _).bind ?_
  exact .need (by simp) (.u8 (.require (by simp) (.pos (.u8 (reads_pure _ _ _)))))

end Front

/-! ## IP chains -/

/-- The context after the static IP chain of `c`. -/
def copyIpStatic (c d : Context) : Context :=
  if c.ipVersion = 6 then
    { d with
      ipVersion := 6, ipv6FlowLabel := 0, ipv6NextHeader := c.ipv6NextHeader, ipv4Protocol := c.ipv6NextHeader
      ipv6Saddr := c.ipv6Saddr, ipv6Daddr := c.ipv6Daddr
      ipv6ExtensionLen := 0, ipv6Extensions := Vector.replicate 128 0 }
  else
    { d with
      ipVersion := 4, ipv4Protocol := c.ipv4Protocol, ipv4Saddr := c.ipv4Saddr, ipv4Daddr := c.ipv4Daddr
      ipv4OptionsLen := 0, ipv4Options := Vector.replicate 40 0 }

theorem reads_readStandardIpStatic (c d : Context) (front : Bytes) :
    Reads readStandardIpStatic front (standardIpStatic c) d () (copyIpStatic c d) := by
  unfold standardIpStatic copyIpStatic
  by_cases h6 : c.ipVersion = 6
  · rw [if_pos h6, if_pos h6]
    have e : [0xC0, c.ipv6NextHeader] ++ c.ipv6Saddr.toList ++ c.ipv6Daddr.toList =
        0xC0 :: c.ipv6NextHeader :: (c.ipv6Saddr.toList ++ (c.ipv6Daddr.toList ++ [])) := by simp
    rw [e]
    refine .available (by simp) (.u8 (.require (fun _ => by decide) (.ite_neg (by decide) ?_)))
    refine .require (fun _ => by decide) (.need (by simp) (.u8 ?_))
    refine .take (by simp) (.take (by simp) (.update_last_eq ?_))
    rw [fillCopy_toList, fillCopy_toList]
  · rw [if_neg h6, if_neg h6]
    have e : writeIpv4StaticWithProtocol c c.ipv4Protocol =
        0x40 :: c.ipv4Protocol :: (be32 c.ipv4Saddr ++ (be32 c.ipv4Daddr ++ [])) := by
      simp [writeIpv4StaticWithProtocol, ipv4StaticChainTerminal]
    rw [e]
    refine .available (by simp) (.u8 (.require (fun _ => by decide) (.ite_pos (by decide) ?_)))
    refine .require (fun _ => by decide) (.need (by simp) (.u8 ?_))
    exact .u32 (.u32 .update_last)

/-- The flags a standard chain carries: DF only. -/
def dfOnly (flags : UInt8) : UInt8 := ((flags >>> 1) &&& 0x01) <<< 1

/-- The context after the dynamic IP chain of `c`. -/
def copyIpDynamic (endpoint : Bool) (c d : Context) : Context :=
  if c.ipVersion = 6 then
    { d with
      ipv6TrafficClass := c.ipv6TrafficClass, ipv6HopLimit := c.ipv6HopLimit
      reorderRatio := if endpoint then c.reorderRatio &&& 0x03 else d.reorderRatio
      msn := if endpoint then c.msn else d.msn }
  else
    { d with
      ipv4Flags := dfOnly c.ipv4Flags, ipv4IdBehavior := c.ipv4IdBehavior &&& 0x03
      ipv4IdSequential := c.ipv4IdBehavior &&& 0x03 ≤ 1, ipv4Tos := c.ipv4Tos, ipv4Ttl := c.ipv4Ttl
      ipv4Id := if c.ipv4IdBehavior &&& 0x03 ≠ 3 then c.ipv4Id else 0
      reorderRatio := if endpoint then c.reorderRatio &&& 0x03 else d.reorderRatio
      msn := if endpoint then c.msn else d.msn }

/-- The fields of the control octet read back. -/
theorem ipv4Control_fields (endpoint : Bool) (ratio df behavior : UInt8) :
    let control := if endpoint then ((ratio &&& 0x03) <<< 3) ||| ((df &&& 0x01) <<< 2) ||| (behavior &&& 0x03)
      else ((df &&& 0x01) <<< 2) ||| (behavior &&& 0x03)
    (if endpoint then decide (control &&& 0xE0 = 0) else decide (control &&& 0xF8 = 0)) = true ∧
      (control >>> 2) &&& 0x01 = df &&& 0x01 ∧ control &&& 0x03 = behavior &&& 0x03 ∧
      (endpoint = true → (control >>> 3) &&& 0x03 = ratio &&& 0x03) := by
  rcases and_one_cases df with hd | hd <;> rcases and_three_cases behavior with hb | hb | hb | hb <;>
    rcases and_three_cases ratio with hr | hr | hr | hr <;> rw [hd, hb, hr] <;> cases endpoint <;> decide

theorem reads_readStandardIpv4Id (c d : Context) (front : Bytes) (behavior : UInt8) :
    Reads (fun bs => readStandardIpv4Id bs behavior) front (if behavior ≠ 3 then be16 c.ipv4Id else []) d ()
      { d with ipv4Id := if behavior ≠ 3 then c.ipv4Id else 0 } := by
  unfold readStandardIpv4Id
  by_cases hb : behavior ≠ 3
  · simp only [if_pos hb]
    rw [← List.append_nil (be16 c.ipv4Id)]
    exact .need (by simp) (.u16 .update_last)
  · simp only [if_neg hb]
    exact .update_last

theorem reads_readEndpointMsn (c d : Context) (front : Bytes) :
    Reads readEndpointMsn front (be16 c.msn) d () { d with msn := c.msn } := by
  unfold readEndpointMsn
  rw [← List.append_nil (be16 c.msn)]
  exact .need (by simp) (.u16 .update_last)

theorem reads_readStandardIpv4Dynamic (c d : Context) (endpoint : Bool) (front : Bytes) (h6 : c.ipVersion ≠ 6) :
    Reads (fun bs => readStandardIpv4Dynamic bs endpoint) front (standardIpv4Dynamic c endpoint) d ()
      (copyIpDynamic endpoint c d) := by
  obtain ⟨hzero, hdf, hbeh, hratio⟩ := ipv4Control_fields endpoint c.reorderRatio (c.ipv4Flags >>> 1) c.ipv4IdBehavior
  unfold standardIpv4Dynamic copyIpDynamic readStandardIpv4Dynamic
  rw [if_neg h6]
  dsimp only at hzero hdf hbeh hratio ⊢
  generalize (if endpoint = true then _ else _ : UInt8) = control at hzero hdf hbeh hratio ⊢
  simp only [List.cons_append, List.nil_append]
  refine .need (by simp) (.u8 (.require (fun _ => by simpa using hzero) (.update (.u8 (.u8 (.update ?_))))))
  rw [hbeh, hdf]
  refine (reads_readStandardIpv4Id c _ _ _).bind ?_
  cases endpoint with
  | true =>
    simp only [if_true]
    rw [hratio rfl]
    exact reads_readEndpointMsn c _ _
  | false =>
    exact reads_pure _ _ _

/-- The two bits of a reorder ratio in an octet of their own. -/
theorem ratioOctet_fields (ratio : UInt8) :
    (ratio &&& 0x03) &&& 0xFC = 0 ∧ (ratio &&& 0x03) &&& 0x03 = ratio &&& 0x03 := by
  rcases and_three_cases ratio with h | h | h | h <;> rw [h] <;> decide

theorem reads_readStandardIpv6Dynamic (c d : Context) (endpoint : Bool) (front : Bytes) (h6 : c.ipVersion = 6) :
    Reads (fun bs => readStandardIpv6Dynamic bs endpoint) front (standardIpv6Dynamic c endpoint) d ()
      (copyIpDynamic endpoint c d) := by
  obtain ⟨hzero, hratio⟩ := ratioOctet_fields c.reorderRatio
  unfold standardIpv6Dynamic copyIpDynamic readStandardIpv6Dynamic
  rw [if_pos h6]
  cases endpoint with
  | true =>
    simp only [if_true, List.cons_append, List.nil_append]
    refine .need (by simp) (.u8 (.u8 (.update (.u8 (.require (fun _ => by simpa using hzero) ?_)))))
    rw [← List.append_nil (be16 c.msn)]
    exact .u16 (.update_last_eq (by rw [hratio]))
  | false =>
    simp only [Bool.false_eq_true, if_false, List.append_nil]
    exact .need (by simp) (.u8 (.u8 (.update (reads_pure _ _ _))))

theorem reads_readStandardIpDynamic (c d : Context) (endpoint : Bool) (front : Bytes)
    (hd : d.ipVersion = 6 ↔ c.ipVersion = 6) :
    Reads (fun bs => readStandardIpDynamic bs endpoint) front (standardIpDynamic c endpoint) d ()
      (copyIpDynamic endpoint c d) := by
  unfold readStandardIpDynamic standardIpDynamic
  refine .value ?_
  by_cases h6 : c.ipVersion = 6
  · rw [if_pos h6]
    exact .ite_pos (hd.mpr h6) (reads_readStandardIpv6Dynamic c d endpoint front h6)
  · rw [if_neg h6]
    exact .ite_neg (fun h => h6 (hd.mp h)) (reads_readStandardIpv4Dynamic c d endpoint front h6)

/-! ## Transport chains -/

/-- The context after the static transport chain of `c`. -/
def copyTransportStatic (profile : Profile) (c d : Context) : Context :=
  match profile with
  | .udp => { d with udpSport := c.udpSport, udpDport := c.udpDport, udpChecksumUsed := false }
  | .rtp =>
    { d with
      udpSport := c.udpSport, udpDport := c.udpDport, udpChecksumUsed := false
      rtp := { d.rtp with ssrc := c.rtp.ssrc } }
  | .esp => { d with espSpi := c.espSpi }
  | _ => d

theorem reads_readUdpPorts (c d : Context) (front : Bytes) :
    Reads readUdpPorts front (writeUdpStatic c) d () { d with udpSport := c.udpSport, udpDport := c.udpDport } := by
  unfold readUdpPorts writeUdpStatic
  rw [← List.append_nil (be16 c.udpDport)]
  exact .u16 (.u16 .update_last)

theorem reads_readStandardTransportStatic (profile : Profile) (c d : Context) (front : Bytes) :
    Reads (fun bs => readStandardTransportStatic bs profile) front (transportStatic profile c) d ()
      (copyTransportStatic profile c d) := by
  cases profile with
  | udp =>
    have e : writeUdpStatic c = writeUdpStatic c ++ [] := by simp
    simp only [transportStatic]
    rw [e]
    exact .need (by simp [writeUdpStatic]) ((reads_readUdpPorts c d front).bind .update_last)
  | rtp =>
    have e : writeRtpStatic c = be32 c.rtp.ssrc ++ [] := by simp [writeRtpStatic]
    simp only [transportStatic]
    rw [e]
    refine .need (by simp [writeUdpStatic]) ((reads_readUdpPorts c d front).bind (.update ?_))
    exact .need (by simp) (.u32 .update_last)
  | esp =>
    simp only [transportStatic]
    rw [← List.append_nil (be32 c.espSpi)]
    exact .need (by simp) (.u32 .update_last)
  | uncompressed => exact reads_pure _ _ _
  | llaRtp => exact reads_pure _ _ _
  | ip => exact reads_pure _ _ _
  | rtpUdpLite => exact reads_pure _ _ _
  | udpLite => exact reads_pure _ _ _

/-- The context after the dynamic transport chain of `c`; `previous` is the context the unit found. -/
def copyTransportDynamic (profile : Profile) (previous c d : Context) : Context :=
  match profile with
  | .udp =>
    { d with
      udpCheck := c.udpCheck, udpChecksumUsed := c.udpCheck ≠ 0, msn := c.msn
      reorderRatio := c.reorderRatio &&& 0x03 }
  | .esp =>
    { d with
      espSequence := c.espSequence, reorderRatio := c.reorderRatio &&& 0x03, msn := c.espSequence.toUInt16 }
  | .rtp =>
    refreshRtp previous { d with
      udpCheck := c.udpCheck, udpChecksumUsed := c.udpCheck ≠ 0, reorderRatio := c.reorderRatio &&& 0x03
      rtp := { d.rtp with vpxcc := 0x80, mpt := c.rtp.mpt, lastSeq := c.rtp.lastSeq, lastTs := c.rtp.lastTs } }
  | _ => d

/-- The fields of the octet that opens the RTP chain. -/
theorem rtpIndicators_fields (ratio : UInt8) :
    let indicators := (ratio &&& 0x03) <<< 5
    indicators &&& 0x80 = 0 ∧ indicators &&& 0x1C = 0 ∧ (indicators >>> 5) &&& 0x03 = ratio &&& 0x03 ∧
      (0x80 : UInt8) ||| (((indicators &&& 0x03) &&& 0x02) <<< 4) ||| (((indicators &&& 0x03) &&& 0x01) <<< 4) = 0x80 := by
  rcases and_three_cases ratio with h | h | h | h <;> rw [h] <;> decide

theorem reads_readStandardTransportDynamic (profile : Profile) (previous c d : Context) (front : Bytes) :
    Reads (fun bs => readStandardTransportDynamic bs previous profile) front (transportDynamic profile c) d ()
      (copyTransportDynamic profile previous c d) := by
  obtain ⟨hzero, hratio⟩ := ratioOctet_fields c.reorderRatio
  cases profile with
  | udp =>
    simp only [transportDynamic, standardUdpEndpointDynamic, List.append_assoc]
    refine .need (by simp) (.u16 (.u16 (.update (.u8 (.require (fun _ => by simpa using hzero) ?_)))))
    exact .update_last_eq (by rw [hratio]; rfl)
  | esp =>
    simp only [transportDynamic, standardEspDynamic]
    refine .need (by simp) (.u32 (.update (.u8 (.require (fun _ => by simpa using hzero) ?_))))
    exact .update_last_eq (by rw [hratio]; rfl)
  | rtp =>
    obtain ⟨h80, h1c, hr, hv⟩ := rtpIndicators_fields c.reorderRatio
    simp only [transportDynamic, writeUdpDynamic, standardRtpDynamic, List.cons_append, List.nil_append]
    rw [← List.append_nil (be32 c.rtp.lastTs)]
    refine .need (by simp) (.u16 (.update (.u8 (.require (fun _ => by simp [h80, h1c]) (.u8 (.u16 (.u32 ?_)))))))
    exact .update_last_eq (by rw [hr, hv]; rfl)
  | uncompressed => exact reads_pure _ _ _
  | llaRtp => exact reads_pure _ _ _
  | ip => exact reads_pure _ _ _
  | rtpUdpLite => exact reads_pure _ _ _
  | udpLite => exact reads_pure _ _ _

/-! ## The whole unit -/

/-- The context a standard IR of `c` leaves behind in `d`. -/
def irDecoded (profile : Profile) (c d : Context) : Context :=
  let ip := { copyIpStatic c d with legacyEspPayloadIncludesHeader := false }
  let dynamic := copyIpDynamic (profile = .ip) c (copyTransportStatic profile c ip)
  { copyTransportDynamic profile d c dynamic with profile := profile, rohcState := .dynamicEstablished }

/-- The protocol behind the IP header. -/
def terminalProtocol (c : Context) : UInt8 := if c.ipVersion = 6 then c.ipv6NextHeader else c.ipv4Protocol

theorem terminalProtocol_copyIpStatic (c d : Context) : terminalProtocol (copyIpStatic c d) = terminalProtocol c := by
  unfold terminalProtocol copyIpStatic
  by_cases h6 : c.ipVersion = 6
  · simp [h6]
  · simp [h6]

theorem length_irBody_le (profile : Profile) (c : Context) : (irBody profile c).length ≤ 100 := by
  have h₁ : (standardIpStatic c).length ≤ 34 := by
    unfold standardIpStatic
    split <;> simp [writeIpv4StaticWithProtocol]
  have h₂ : (standardIpDynamic c (profile = .ip)).length ≤ 7 := by
    unfold standardIpDynamic standardIpv6Dynamic standardIpv4Dynamic
    dsimp only
    split_ifs <;> simp
  have h₃ : (transportStatic profile c).length ≤ 8 := by
    cases profile <;> simp [transportStatic, writeUdpStatic, writeRtpStatic]
  have h₄ : (transportDynamic profile c).length ≤ 10 := by
    cases profile <;> simp [transportDynamic, standardUdpEndpointDynamic, standardEspDynamic, writeUdpDynamic,
      standardRtpDynamic]
  simp only [irBody, List.length_append]
  omega

theorem length_addCidOctets_le (c : Context) : (addCidOctets c).length ≤ 1 := by
  unfold addCidOctets
  split <;> simp

theorem length_largeCidOctets_le (c : Context) : (largeCidOctets c).length ≤ 2 := by
  unfold largeCidOctets Cid.largeOctets
  split_ifs <;> simp

theorem length_irFront_le (c : Context) (type code : UInt8) : (irFront c type code).length ≤ 5 := by
  have h₁ := length_addCidOctets_le c
  have h₂ := length_largeCidOctets_le c
  simp only [irFront, List.length_append, List.length_singleton]
  omega

/-- The CRC of a sealed unit holds, whatever follows it. -/
theorem crc8ExactMatches_irSealed (front body rest : Bytes) (hlen : front.length + 1 + body.length ≤ 1024) :
    crc8ExactMatches (irSealed front body ++ rest) (irSealed front body).length front.length
      (crc8 (front ++ 0 :: body)) = true := by
  have hl := length_irSealed front body
  unfold crc8ExactMatches
  rw [if_neg (by simp only [List.length_append]; omega), List.take_left]
  simp [irSealed]

theorem reads_decodeIrStandard {c d : Context} (h : SameCid c d) (profile : Profile) (code : UInt8)
    (hproto : terminalProtocol c = (requiredProtocol profile).getD (terminalProtocol c)) :
    Reads (fun bs => decodeIrStandard profile code bs) [] (irSealed (irFront c 0xFD code) (irBody profile c)) d ()
      (irDecoded profile c d) := by
  have hlen : (irFront c 0xFD code).length + 1 + (irBody profile c).length ≤ 1024 := by
    have := length_irFront_le c 0xFD code
    have := length_irBody_le profile c
    omega
  have hcrc := fun rest => crc8ExactMatches_irSealed (irFront c 0xFD code) (irBody profile c) rest hlen
  generalize hx : crc8 (irFront c 0xFD code ++ 0 :: irBody profile c) = crc at hcrc
  have e : irSealed (irFront c 0xFD code) (irBody profile c) =
      (irFront c 0xFD code ++ [crc]) ++ (standardIpStatic c ++ (transportStatic profile c ++
        (standardIpDynamic c (profile = .ip) ++ (transportDynamic profile c ++ [])))) := by
    rw [irSealed, hx]
    simp [irBody]
  rw [e] at hcrc ⊢
  unfold decodeIrStandard
  refine .value ((reads_readStandardIrPrefix h code crc).bind ?_)
  refine (reads_readStandardIpStatic c d _).bind (.value ?_)
  refine .require (fun _ => ?_) (.update ?_)
  · have ht := terminalProtocol_copyIpStatic c d
    unfold terminalProtocol at ht hproto
    simp only [ht]
    exact decide_eq_true hproto
  refine (reads_readStandardTransportStatic profile c _ _).bind ?_
  refine (reads_readStandardIpDynamic c _ _ _ ?_).bind ?_
  · have hv : (copyIpStatic c d).ipVersion = 6 ↔ c.ipVersion = 6 := by
      unfold copyIpStatic
      by_cases h6 : c.ipVersion = 6 <;> simp [h6]
    cases profile <;> exact hv
  refine (reads_readStandardTransportDynamic profile d c _ _).bind (.pos ?_)
  refine .require (fun rest => ?_) .update_last
  have := hcrc rest
  simpa using this

/-! ## Both grammars -/

/-- The legacy decoder of a profile that has both grammars. -/
def legacyDecoder : Profile → Bytes → Proc (Cursor Context) Unit
  | .rtp => decodeIrRtpLegacy
  | .udp => decodeIrUdpLegacy
  | .esp => decodeIrEspLegacy
  | _ => decodeIrIpLegacy

/-- Does the legacy grammar read the octets too, and differently? -/
def legacyConflict (profile : Profile) (bs : Bytes) (ctx : Context) (standard : Context × Nat) : Bool :=
  match run (legacyDecoder profile bs) ctx with
  | some (legacyCtx, legacyLen) => standard.2 ≠ legacyLen || !standardContextEqual standard.1 legacyCtx
  | none => false

theorem decodeIrCompatible_of_standard {profile : Profile} {code : UInt8} {bs : Bytes} {ctx : Context}
    {standard : Context × Nat} (h : run (decodeIrStandard profile code bs) ctx = some standard) :
    decodeIrCompatible profile code (legacyDecoder profile) bs ctx =
      if legacyConflict profile bs ctx standard then none else some standard := by
  unfold decodeIrCompatible legacyConflict
  rw [h]
  cases hl : run (legacyDecoder profile bs) ctx with
  | none => rfl
  | some r =>
    obtain ⟨legacyCtx, legacyLen⟩ := r
    simp only [Bool.or_eq_true, decide_eq_true_eq]

/-- The octets of a standard IR. -/
def irUnit (profile : Profile) (c : Context) : Bytes := irSealed (irFront c 0xFD profile.octet) (irBody profile c)

/-- The IR of `c`, followed by `payload`, has a second reading in `d`. -/
def irAmbiguous (profile : Profile) (c d : Context) (payload : Bytes) : Bool :=
  legacyConflict profile (irUnit profile c ++ payload) d (irDecoded profile c d, (irUnit profile c).length)

/-- **A standard IR is read back**, unless the legacy grammar reads something else into it. -/
theorem decodeIrCompatible_irUnit {c d : Context} (h : SameCid c d) (profile : Profile)
    (hproto : terminalProtocol c = (requiredProtocol profile).getD (terminalProtocol c)) (payload : Bytes) :
    decodeIrCompatible profile profile.octet (legacyDecoder profile) (irUnit profile c ++ payload) d =
      if irAmbiguous profile c d payload then none else some (irDecoded profile c d, (irUnit profile c).length) :=
  decodeIrCompatible_of_standard ((reads_decodeIrStandard h profile _ hproto).run_eq payload)

end Rohccxx
