import Rohccxx.Headers
import Rohccxx.LiteRoundTrip
import Rohccxx.Untouched

/-!
# The standard IR between its two ends

The four emitters of standard IRs as one family, what a decoder makes of their octets field by field, and what becomes of
them in a decoder that knows the legacy grammar too. The chains hold two bits of the identification's behaviour and of the
reorder ratio, and the reader insists on the protocol of its profile, which the writer does not look at.
-/

set_option autoImplicit false

namespace Rohccxx

open Octets Reader

/-! ## The emitters succeed -/

/-- The profiles whose IR is that of RFC 5225. -/
def hasStandardIr : Profile → Bool
  | .rtp | .udp | .esp | .ip => true
  | _ => false

/-- `emit_ir_udp`, `emit_ir_ip`, `emit_ir_esp` and `emit_ir_rtp`. -/
def emitStandardIr : Profile → Nat → Context → Option Bytes
  | .rtp => emitIrRtp
  | .udp => emitIrUdp
  | .esp => emitIrEsp
  | .ip => emitIrIp
  | _ => fun _ _ => none

theorem emitStandardIr_sends {profile : Profile} {cap : Nat} {c : Context} {unit : Bytes}
    (h : emitStandardIr profile cap c = some unit) :
    hasStandardIr profile = true ∧ SendsIr profile c ∧ unit = irUnit profile c := by
  cases profile with
  | rtp => exact ⟨rfl, Job.emitIrRtp_sends h⟩
  | udp => exact ⟨rfl, Job.emitIrUdp_sends h⟩
  | esp => exact ⟨rfl, Job.emitIrEsp_sends h⟩
  | ip => exact ⟨rfl, Job.emitIrIp_sends h⟩
  | uncompressed => cases h
  | llaRtp => cases h
  | rtpUdpLite => cases h
  | udpLite => cases h

section Succeeds

variable {c : Context}

theorem emitAddCidIfNeeded_of_fits (h : CidFits c) {cap : Nat} (hcap : 1 ≤ cap) :
    emitAddCidIfNeeded cap c [] = some (addCidOctets c) := by
  unfold emitAddCidIfNeeded addCidOctets
  have hsmall : (!c.largeCid && !Cid.isSmall c.cid) = false := by
    cases hl : c.largeCid with
    | true => rfl
    | false =>
      have hs : Cid.isSmall c.cid = true := decide_eq_true (h.small hl)
      simp [hs]
  rw [if_neg (by rw [hsmall]; decide)]
  split
  · exact put_of_le (by simpa using hcap)
  · rfl

/-- A writer appends `chain` wherever there is room for it. -/
def Appends (cap : Nat) (write : Bytes → Option Bytes) (chain : Bytes) : Prop :=
  ∀ out : Bytes, out.length + chain.length ≤ cap → write out = some (out ++ chain)

theorem appends_put (cap : Nat) (bs : Bytes) : Appends cap (put cap bs) bs := fun _ h => put_of_le h

theorem Appends.bind {cap : Nat} {f g : Bytes → Option Bytes} {x y : Bytes} (hf : Appends cap f x)
    (hg : Appends cap g y) : Appends cap (fun out => f out >>= g) (x ++ y) := by
  intro out h
  simp only [List.length_append] at h
  simp only [Option.bind_eq_bind, hf out (by omega), Option.bind_some]
  rw [hg (out ++ x) (by simp only [List.length_append]; omega), List.append_assoc]

theorem appends_writeLargeCidIfNeeded (h : CidFits c) (cap : Nat) :
    Appends cap (writeLargeCidIfNeeded cap c) (largeCidOctets c) := by
  intro out hcap
  unfold largeCidOctets at hcap ⊢
  unfold writeLargeCidIfNeeded
  cases hl : c.largeCid with
  | false => simp
  | true =>
    have hmax := h.large hl
    rw [hl, if_pos rfl] at hcap
    rw [if_pos rfl, if_pos rfl, Cid.writeLarge, if_neg (by omega)]
    exact put_of_le hcap

theorem emitIrPrefix_of_fits (h : CidFits c) (profile : UInt8) :
    emitIrPrefix irScratchLen c profile = some (irFront c 0xFD profile ++ [0], (irFront c 0xFD profile).length) := by
  have h₁ := length_addCidOctets_le c
  have h₂ := length_largeCidOctets_le c
  have e₁ : put irScratchLen [0xFD] (addCidOctets c) = some (addCidOctets c ++ [0xFD]) :=
    put_of_le (by simp only [irScratchLen, List.length_singleton]; omega)
  have e₂ := appends_writeLargeCidIfNeeded h irScratchLen (addCidOctets c ++ [0xFD])
    (by simp only [irScratchLen, List.length_append, List.length_singleton]; omega)
  have e₃ : put irScratchLen [profile, 0x00] (addCidOctets c ++ [0xFD] ++ largeCidOctets c) =
      some (addCidOctets c ++ [0xFD] ++ largeCidOctets c ++ [profile, 0x00]) :=
    put_of_le (by simp only [irScratchLen, List.length_append, List.length_cons, List.length_nil]; omega)
  unfold emitIrPrefix
  rw [emitAddCidIfNeeded_of_fits h (by decide)]
  simp only [Option.bind_eq_bind, Option.bind_some, e₁, e₂, e₃, Option.pure_def]
  simp [irFront]

theorem appends_writeStandardIpStatic (h : StandardIp c) (cap : Nat) :
    Appends cap (writeStandardIpStatic cap c) (standardIpStatic c) := by
  intro out hcap
  unfold writeStandardIpStatic
  unfold standardIpStatic at hcap ⊢
  rcases h with ⟨h4, hopt⟩ | ⟨h6, hext, hflow⟩
  · have hne : ¬c.ipVersion = 6 := by rw [h4]; decide
    rw [if_neg hne] at hcap ⊢
    rw [if_pos h4, if_neg (by simpa using hopt)]
    exact put_of_le hcap
  · have hne : ¬c.ipVersion = 4 := by rw [h6]; decide
    rw [if_pos h6] at hcap ⊢
    rw [if_neg hne, if_neg (by simp [h6, hext, hflow])]
    exact put_of_le hcap

theorem appends_writeStandardIpDynamic (h : StandardIp c) (cap : Nat) (endpoint : Bool) :
    Appends cap (writeStandardIpDynamic cap c endpoint) (standardIpDynamic c endpoint) := by
  intro out hcap
  unfold writeStandardIpDynamic
  unfold standardIpDynamic at hcap ⊢
  rcases h with ⟨h4, hopt⟩ | ⟨h6, hext, -⟩
  · have hne : ¬c.ipVersion = 6 := by rw [h4]; decide
    rw [if_neg hne] at hcap
    rw [if_neg hne, if_neg hne, if_neg (by simp [h4, hopt])]
    exact put_of_le hcap
  · rw [if_pos h6] at hcap
    rw [if_pos h6, if_pos h6, if_neg (by simpa using hext)]
    exact put_of_le hcap

/-- The UDP checksum in front of the RTP chain is written without looking at the room left. -/
theorem appends_writeStandardRtpDynamic (h : PlainRtp c.rtp) (cap : Nat) :
    Appends cap (fun out => writeStandardRtpDynamic cap c (out ++ writeUdpDynamic c))
      (writeUdpDynamic c ++ standardRtpDynamic c) := by
  intro out hcap
  obtain ⟨h₁, h₂, h₃, h₄, h₅, h₆⟩ := h
  simp only [List.length_append] at hcap
  unfold writeStandardRtpDynamic
  dsimp only
  rw [if_neg (by simp [h₁, h₂, h₃, h₄, h₅, h₆]), ← List.append_assoc]
  exact put_of_le (by simp only [List.length_append]; omega)

/-- An emitter is its front, its chains and the CRC octet filled in. -/
theorem sealed_of_appends (h : CidFits c) {profile : Profile} {code : UInt8} (hcode : profile.octet = code)
    {write : Bytes → Option Bytes} (hw : Appends irScratchLen write (irBody profile c)) :
    (do
      let (out, crcPos) ← emitIrPrefix irScratchLen c code
      let out ← write out
      return fillCrc8 crcPos out) = some (irUnit profile c) := by
  subst hcode
  have hfront := length_irFront_le c 0xFD profile.octet
  have hbody := length_irBody_le profile c
  have e := hw (irFront c 0xFD profile.octet ++ [0])
    (by simp only [irScratchLen, List.length_append, List.length_singleton]; omega)
  simp only [emitIrPrefix_of_fits h, Option.bind_eq_bind, Option.bind_some, e, Option.pure_def, Option.some.injEq]
  unfold irUnit
  rw [← fillCrc8_eq]
  simp

theorem emitIrAtomically_of {emitter : Nat → Context → Option Bytes} {unit : Bytes}
    (h : emitter irScratchLen c = some unit) (cap : Nat) :
    emitIrAtomically emitter cap c = if unit.length ≤ cap then some unit else none := by
  unfold emitIrAtomically
  simp only [h, Option.bind_eq_bind, Option.bind_some]
  by_cases hl : unit.length ≤ cap
  · rw [if_neg (by omega), if_pos hl]
    rfl
  · rw [if_pos (by omega), if_neg hl]

/-- **A context the chains can carry is sent**, whenever its unit fits the buffer. -/
theorem emitStandardIr_of_sends {profile : Profile} (hp : hasStandardIr profile = true) (h : SendsIr profile c)
    (cap : Nat) :
    emitStandardIr profile cap c = if (irUnit profile c).length ≤ cap then some (irUnit profile c) else none := by
  have hs := appends_writeStandardIpStatic h.ip irScratchLen
  have hd := appends_writeStandardIpDynamic h.ip irScratchLen
  cases profile with
  | udp =>
    have hw := ((hs.bind (appends_put _ (writeUdpStatic c))).bind (hd false)).bind
      (appends_put _ (standardUdpEndpointDynamic c))
    refine emitIrAtomically_of (Eq.trans ?_ (sealed_of_appends h.fits (show Profile.udp.octet = 0x02 from rfl) hw)) cap
    simp [emitIrUdpInto, writeStandardUdpEndpointDynamic, Option.bind_assoc]
  | esp =>
    have hw := ((hs.bind (appends_put _ (be32 c.espSpi))).bind (hd false)).bind (appends_put _ (standardEspDynamic c))
    refine emitIrAtomically_of (Eq.trans ?_ (sealed_of_appends h.fits (show Profile.esp.octet = 0x03 from rfl) hw)) cap
    simp [emitIrEspInto, writeStandardEspStatic, writeStandardEspDynamic, Option.bind_assoc]
  | ip =>
    have hbody : irBody .ip c = standardIpStatic c ++ standardIpDynamic c true := by
      simp [irBody, transportStatic, transportDynamic]
    have hw := hs.bind (hd true)
    rw [← hbody] at hw
    refine emitIrAtomically_of (Eq.trans ?_ (sealed_of_appends h.fits (show Profile.ip.octet = 0x04 from rfl) hw)) cap
    simp [emitIrIpInto, Option.bind_assoc]
  | rtp =>
    have hw := ((hs.bind (appends_put _ (writeUdpStatic c ++ writeRtpStatic c))).bind (hd false)).bind
      (appends_writeStandardRtpDynamic (h.rtp rfl) irScratchLen)
    refine emitIrAtomically_of (Eq.trans ?_ (sealed_of_appends h.fits (show Profile.rtp.octet = 0x01 from rfl) hw)) cap
    simp [emitIrRtpInto, Option.bind_assoc]
  | uncompressed => cases hp
  | llaRtp => cases hp
  | rtpUdpLite => cases hp
  | udpLite => cases hp

end Succeeds

/-! ## What is read back -/

/-- The IPv4 fields of a standard IR in the context `r` read from it. -/
structure ReadsBackIpv4 (c r : Context) : Prop where
  saddr : r.ipv4Saddr = c.ipv4Saddr
  daddr : r.ipv4Daddr = c.ipv4Daddr
  protocol : r.ipv4Protocol = c.ipv4Protocol
  tos : r.ipv4Tos = c.ipv4Tos
  ttl : r.ipv4Ttl = c.ipv4Ttl
  flags : r.ipv4Flags = c.ipv4Flags
  id : r.ipv4Id = c.ipv4Id
  behavior : r.ipv4IdBehavior = c.ipv4IdBehavior &&& 0x03
  options : r.ipv4OptionsLen = c.ipv4OptionsLen

/-- The IPv6 fields of a standard IR in the context `r` read from it. -/
structure ReadsBackIpv6 (c r : Context) : Prop where
  saddr : r.ipv6Saddr = c.ipv6Saddr
  daddr : r.ipv6Daddr = c.ipv6Daddr
  nextHeader : r.ipv6NextHeader = c.ipv6NextHeader
  trafficClass : r.ipv6TrafficClass = c.ipv6TrafficClass
  hopLimit : r.ipv6HopLimit = c.ipv6HopLimit
  flowLabel : r.ipv6FlowLabel = c.ipv6FlowLabel
  extensions : r.ipv6ExtensionLen = c.ipv6ExtensionLen

/-- The UDP fields in front of an RTP header. -/
structure ReadsBackUdp (c r : Context) : Prop where
  sport : r.udpSport = c.udpSport
  dport : r.udpDport = c.udpDport
  check : r.udpCheck = c.udpCheck

/-- The RTP fields; the unit has no octet for the version, which is always 2. -/
structure ReadsBackRtp (c r : Context) : Prop where
  ssrc : r.rtp.ssrc = c.rtp.ssrc
  vpxcc : r.rtp.vpxcc = c.rtp.vpxcc
  mpt : r.rtp.mpt = c.rtp.mpt
  lastSeq : r.rtp.lastSeq = c.rtp.lastSeq
  lastTs : r.rtp.lastTs = c.rtp.lastTs

/-- The transport fields of a profile; an RTP or ESP unit has its MSN in the sequence number. -/
def ReadsBackTransport (profile : Profile) (c r : Context) : Prop :=
  match profile with
  | .udp => ReadsBackUdp c r ∧ r.msn = c.msn
  | .rtp => ReadsBackUdp c r ∧ ReadsBackRtp c r ∧ r.msn = c.rtp.lastSeq
  | .esp => r.espSpi = c.espSpi ∧ r.espSequence = c.espSequence ∧ r.msn = c.espSequence.toUInt16
  | _ => r.msn = c.msn

/-- The fields of a standard IR of `c` in the context `r` read from it. -/
structure IrReadsBack (profile : Profile) (c r : Context) : Prop where
  owner : r.profile = profile
  state : r.rohcState = .dynamicEstablished
  version : r.ipVersion = c.ipVersion
  ipv4 : c.ipVersion = 4 → ReadsBackIpv4 c r
  ipv6 : c.ipVersion = 6 → ReadsBackIpv6 c r
  transport : ReadsBackTransport profile c r
  reorderRatio : r.reorderRatio = c.reorderRatio &&& 0x03

/-- What the chains of `c` leave out is empty: flags other than DF, an identification the behaviour says is zero, and an
RTP version other than 2. -/
structure Carries (profile : Profile) (c : Context) : Prop where
  flags : c.ipVersion = 4 → c.ipv4Flags &&& 0xFD = 0
  zeroId : c.ipVersion = 4 → c.ipv4IdBehavior &&& 0x03 = 3 → c.ipv4Id = 0
  version : profile = .rtp → c.rtp.vpxcc = 0x80

theorem dfOnly_of {flags : UInt8} (h : flags &&& 0xFD = 0) : dfOnly flags = flags :=
  forall_octet (P := fun flags => flags &&& 0xFD = 0 → dfOnly flags = flags) (by decide) flags h

theorem readsBackIpv4_irDecoded {profile : Profile} {c : Context} (hc : Carries profile c) (h : StandardIp c)
    (h4 : c.ipVersion = 4) (d : Context) : ReadsBackIpv4 c (irDecoded profile c d) := by
  have hne : ¬c.ipVersion = 6 := by rw [h4]; decide
  have hopt : c.ipv4OptionsLen = 0 := h.elim And.right fun h6 => absurd h6.1 hne
  obtain ⟨sequential, e, -⟩ := toIpContext_irDecoded profile c d
  simp only [copyIpDynamic, copyIpStatic, if_neg hne] at e
  have hid : (if c.ipv4IdBehavior &&& 0x03 ≠ 3 then c.ipv4Id else 0) = c.ipv4Id := by
    by_cases hb : c.ipv4IdBehavior &&& 0x03 = 3
    · rw [if_neg (by simpa using hb), hc.zeroId h4 hb]
    · rw [if_pos hb]
  constructor <;> rw [e]
  · exact dfOnly_of (hc.flags h4)
  · exact hid
  · exact hopt.symm

theorem readsBackIpv6_irDecoded {profile : Profile} {c : Context} (h : StandardIp c) (h6 : c.ipVersion = 6)
    (d : Context) : ReadsBackIpv6 c (irDecoded profile c d) := by
  have hne : ¬c.ipVersion = 4 := by rw [h6]; decide
  obtain ⟨-, hext, hflow⟩ := h.elim (fun h4 => absurd h4.1 hne) id
  obtain ⟨-, -, e⟩ := toIpContext_irDecoded profile c d
  simp only [copyIpDynamic, copyIpStatic, if_pos h6] at e
  constructor <;> rw [e]
  · exact hflow.symm
  · exact hext.symm

theorem ipVersion_irDecoded {profile : Profile} {c : Context} (h : StandardIp c) (d : Context) :
    (irDecoded profile c d).ipVersion = c.ipVersion := by
  obtain ⟨sequential, e, -⟩ := toIpContext_irDecoded profile c d
  rw [e]
  rcases h with ⟨h4, -⟩ | ⟨h6, -⟩
  · have hne : ¬c.ipVersion = 6 := by rw [h4]; decide
    simp only [copyIpDynamic, copyIpStatic, if_neg hne]
    exact h4.symm
  · simp only [copyIpDynamic, copyIpStatic, if_pos h6]
    exact h6.symm

theorem reorderRatio_irDecoded {profile : Profile} (hp : hasStandardIr profile = true) (c d : Context) :
    (irDecoded profile c d).reorderRatio = c.reorderRatio &&& 0x03 := by
  cases profile with
  | udp => rfl
  | rtp => rfl
  | esp => rfl
  | ip => exact congrArg Control.reorderRatio (copyIpDynamic_frame true c _).2.2
  | uncompressed => cases hp
  | llaRtp => cases hp
  | rtpUdpLite => cases hp
  | udpLite => cases hp

theorem readsBackUdp_irDecoded {profile : Profile} (hp : profile = .udp ∨ profile = .rtp) (c d : Context) :
    ReadsBackUdp c (irDecoded profile c d) := by
  constructor <;> rw [udp_irDecoded hp]

/-- IP-only has the MSN in its IP chain. -/
theorem msn_irDecoded_ip (c d : Context) : (irDecoded .ip c d).msn = c.msn := by
  have e := (copyIpDynamic_frame true c { copyIpStatic c d with legacyEspPayloadIncludesHeader := false }).2.2
  have hm := congrArg Control.msn e
  simpa [irDecoded, copyTransportDynamic, copyTransportStatic] using hm

theorem readsBackTransport_irDecoded {profile : Profile} {c : Context} (hp : hasStandardIr profile = true)
    (hc : Carries profile c) (d : Context) : ReadsBackTransport profile c (irDecoded profile c d) := by
  cases profile with
  | udp => exact ⟨readsBackUdp_irDecoded (Or.inl rfl) c d, rfl⟩
  | rtp =>
    obtain ⟨stride, residue, e⟩ := rtp_irDecoded c d
    refine ⟨readsBackUdp_irDecoded (Or.inr rfl) c d, ?_, rfl⟩
    constructor <;> rw [e]
    exact (hc.version rfl).symm
  | esp =>
    refine ⟨?_, ?_, rfl⟩ <;> rw [esp_irDecoded]
  | ip => exact msn_irDecoded_ip c d
  | uncompressed => cases hp
  | llaRtp => cases hp
  | rtpUdpLite => cases hp
  | udpLite => cases hp

/-- **A standard IR holds every field its chains have room for.** -/
theorem readsBack_irDecoded {profile : Profile} {c : Context} (hp : hasStandardIr profile = true)
    (hs : SendsIr profile c) (hc : Carries profile c) (d : Context) : IrReadsBack profile c (irDecoded profile c d) where
  owner := rfl
  state := rfl
  version := ipVersion_irDecoded hs.ip d
  ipv4 h4 := readsBackIpv4_irDecoded hc hs.ip h4 d
  ipv6 h6 := readsBackIpv6_irDecoded hs.ip h6 d
  transport := readsBackTransport_irDecoded hp hc d
  reorderRatio := reorderRatio_irDecoded hp c d

/-- **Standard IRs round trip**: a context the chains can carry, with the protocol of its profile, is sent whenever the
unit fits, and the decoder takes exactly the unit and has its fields back, whatever follows and whatever it knew. -/
theorem standardIr_roundTrip {profile : Profile} {c d : Context} (hp : hasStandardIr profile = true) (h : SameCid c d)
    (hip : StandardIp c) (hrtp : profile = .rtp → PlainRtp c.rtp) (hc : Carries profile c)
    (hproto : terminalProtocol c = (requiredProtocol profile).getD (terminalProtocol c)) :
    ∃ unit, (∀ cap, emitStandardIr profile cap c = if unit.length ≤ cap then some unit else none) ∧
      ∀ payload, ∃ r, run (decodeIrStandard profile profile.octet (unit ++ payload)) d = some (r, unit.length) ∧
        IrReadsBack profile c r := by
  have hs : SendsIr profile c := ⟨h.fits, hip, hrtp⟩
  refine ⟨irUnit profile c, emitStandardIr_of_sends hp hs, fun payload => ?_⟩
  exact ⟨irDecoded profile c d, (reads_decodeIrStandard h profile _ hproto).run_eq payload,
    readsBack_irDecoded hp hs hc d⟩

/-- An RTP flow under the CID 3 of the small space. -/
theorem standardIr_roundTrip_rtp :
    let c : Context := { ipv4Protocol := 17, ipv4Flags := 2, cid := 3, rtp := { vpxcc := 0x80, lastSeq := 7 } }
    ∃ unit, (∀ cap, emitStandardIr .rtp cap c = if unit.length ≤ cap then some unit else none) ∧
      ∀ payload, ∃ r, run (decodeIrStandard .rtp Profile.rtp.octet (unit ++ payload)) { cid := 3 } =
        some (r, unit.length) ∧ IrReadsBack .rtp c r :=
  standardIr_roundTrip rfl ⟨rfl, rfl, rfl⟩ (Or.inl ⟨rfl, rfl⟩) (fun _ => ⟨rfl, rfl, rfl, rfl, rfl, rfl⟩)
    ⟨fun _ => rfl, fun _ h => absurd h (by decide), fun _ => rfl⟩ rfl

/-- A UDP context with the protocol of TCP is sent and not taken back; of a reorder ratio of 4 and of the behaviour 7 of
an identification two bits arrive, and with them the identification is lost. -/
theorem standardIr_loses :
    (emitStandardIr .udp 64 { ipv4Protocol := 6 }).map
        (fun unit => run (decodeIrStandard .udp Profile.udp.octet unit) {}) = some none ∧
      (emitStandardIr .udp 64 { ipv4Protocol := 17, reorderRatio := 4 }).map
        (fun unit => (run (decodeIrStandard .udp Profile.udp.octet unit) {}).map fun r => r.1.reorderRatio) =
          some (some 0) ∧
      (emitStandardIr .udp 64 { ipv4Protocol := 17, ipv4IdBehavior := 7, ipv4Id := 1 }).map
        (fun unit => (run (decodeIrStandard .udp Profile.udp.octet unit) {}).map
          fun r => (r.1.ipv4IdBehavior, r.1.ipv4Id)) = some (some (3, 0)) := by
  decide +kernel

/-! ## Two grammars -/

/-- `decode_ir_rtp`, `decode_ir_udp`, `decode_ir_esp` and `decode_ir_ip`. -/
def decodeStandardIr : Profile → Bytes → Context → Option (Context × Nat)
  | .rtp => decodeIrRtp
  | .udp => decodeIrUdp
  | .esp => decodeIrEsp
  | .ip => decodeIrIp
  | _ => fun _ _ => none

theorem decodeStandardIr_eq {profile : Profile} (hp : hasStandardIr profile = true) :
    decodeStandardIr profile = decodeIrCompatible profile profile.octet (legacyDecoder profile) := by
  cases profile with
  | udp => rfl
  | rtp => rfl
  | esp => rfl
  | ip => rfl
  | uncompressed => cases hp
  | llaRtp => cases hp
  | rtpUdpLite => cases hp
  | udpLite => cases hp

/-- The legacy decoders begin alike: the front, then the static IP chain. -/
theorem legacyDecoder_eq {profile : Profile} (hp : hasStandardIr profile = true) :
    ∃ (minLen : Nat) (k : Bytes → Nat × UInt8 → Unit → Proc (Cursor Context) Unit), ∀ bs, legacyDecoder profile bs =
      legacyIrHead bs minLen profile.octet >>= fun crc => readIpStaticChain bs >>= k bs crc := by
  cases profile with
  | udp => exact ⟨26, _, fun _ => rfl⟩
  | rtp => exact ⟨4, _, fun _ => rfl⟩
  | esp => exact ⟨20, _, fun _ => rfl⟩
  | ip => exact ⟨20, _, fun _ => rfl⟩
  | uncompressed => cases hp
  | llaRtp => cases hp
  | rtpUdpLite => cases hp
  | udpLite => cases hp

/-- A front that passes has passed the length checks. -/
theorem legacyIrFields_of_head {bs : Bytes} {minLen : Nat} {code : UInt8} {c c' : Cursor Context} {crc : Nat × UInt8}
    (h : legacyIrHead bs minLen code c = (.ok crc, c')) : legacyIrFields bs code c = (.ok crc, c') := by
  rw [← legacyIrHead_eq ?_]
  · exact h
  obtain ⟨ctx, c₁, h₁, h⟩ := Proc.bind_eq_ok h
  cases h₁
  obtain ⟨_, c₂, h₂, h⟩ := Proc.bind_eq_ok h
  obtain ⟨hmin, rfl⟩ := Proc.require_eq_ok h₂
  obtain ⟨_, c₃, h₃, -⟩ := Proc.bind_eq_ok h
  have hlen := of_decide_eq_true hmin
  unfold readAddCid at h₃
  unfold hasSmallCid
  split at h₃
  · rename_i hc
    rw [if_pos hc]
    obtain ⟨_, c₄, h₄, -⟩ := Proc.bind_eq_ok h₃
    exact of_decide_eq_true (Proc.require_eq_ok h₄).1
  · rename_i hc
    rw [if_neg hc]
    exact hlen

section Unit

variable {profile : Profile} {c d : Context}

/-- The octets of a unit: what the front reads, the static IP chain, the rest. -/
theorem irUnit_front (profile : Profile) (c : Context) (payload : Bytes) : ∃ (octet : UInt8) (rest : Bytes),
    irUnit profile c ++ payload = (irFront c 0xFD profile.octet ++ [octet]) ++ (standardIpStatic c ++ rest) := by
  refine ⟨crc8 (irFront c 0xFD profile.octet ++ 0 :: irBody profile c),
    transportStatic profile c ++ standardIpDynamic c (profile = .ip) ++ transportDynamic profile c ++ payload, ?_⟩
  simp only [irUnit, irSealed, irBody, List.append_assoc]

/-- Behind the front the legacy grammar stands where the standard one does, in the context it was given. -/
theorem legacy_after_front (h : SameCid c d) {minLen : Nat} {code octet : UInt8} {rest : Bytes}
    {k : Nat × UInt8 → Proc (Cursor Context) Unit} {c' : Cursor Context} {u : Unit}
    (e : (legacyIrHead (irFront c 0xFD code ++ [octet] ++ rest) minLen code >>= k) ⟨0, d⟩ = (.ok u, c')) :
    ∃ crc, k crc ⟨(irFront c 0xFD code ++ [octet]).length, d⟩ = (.ok u, c') := by
  obtain ⟨crc, c₁, h₁, e⟩ := Proc.bind_eq_ok e
  have hf := legacyIrFields_of_head h₁
  have hr := reads_legacyIrFields h code octet rest
  rw [List.nil_append] at hr
  change legacyIrFields _ code ⟨0, d⟩ = _ at hr
  rw [hr] at hf
  cases hf
  exact ⟨_, e⟩

theorem readIpStaticChain_refuses (front rest : Bytes) (d : Context) :
    (readIpStaticChain (front ++ 0xC0 :: rest) ⟨front.length, d⟩).1 = .reject := by
  have ha : Reader.available (front ++ 0xC0 :: rest) 1 (⟨front.length, d⟩ : Cursor Context) =
      (.ok (), ⟨front.length, d⟩) := by
    simp [Reader.available]
  have hu : Reader.u8 (front ++ 0xC0 :: rest) (⟨front.length, d⟩ : Cursor Context) =
      (.ok 0xC0, ⟨front.length + 1, d⟩) := by
    simp [Reader.u8]
  unfold readIpStaticChain
  rw [Proc.bind_of_ok ha, Proc.bind_of_ok hu, if_neg (by decide), if_neg (by decide)]
  rfl

theorem exists_of_run {m : Proc (Cursor Context) Unit} {r : Context × Nat} (h : run m d = some r) :
    m ⟨0, d⟩ = (.ok (), ⟨r.2, r.1⟩) := by
  unfold run at h
  split at h
  · rename_i hm
    cases h
    exact hm
  · cases h

/-- The legacy grammar has no IPv6 chain that opens like a standard one. -/
theorem legacy_refuses_ipv6 (hp : hasStandardIr profile = true) (h : SameCid c d) (h6 : c.ipVersion = 6)
    (payload : Bytes) : run (legacyDecoder profile (irUnit profile c ++ payload)) d = none := by
  obtain ⟨minLen, k, hk⟩ := legacyDecoder_eq hp
  obtain ⟨octet, rest, hunit⟩ := irUnit_front profile c payload
  cases hr : run (legacyDecoder profile (irUnit profile c ++ payload)) d with
  | none => rfl
  | some r =>
    have hc' := exists_of_run hr
    rw [hk, hunit] at hc'
    obtain ⟨crc, e⟩ := legacy_after_front h hc'
    obtain ⟨u, c₁, h₁, -⟩ := Proc.bind_eq_ok e
    unfold standardIpStatic at h₁
    rw [if_pos h6] at h₁
    have hno := readIpStaticChain_refuses (irFront c 0xFD profile.octet ++ [octet])
      (c.ipv6NextHeader :: (c.ipv6Saddr.toList ++ (c.ipv6Daddr.toList ++ rest))) d
    simp only [List.cons_append, List.nil_append, List.append_assoc] at h₁ hno
    rw [h₁] at hno
    cases hno

/-! ### How far the legacy RTP decoder reads -/

theorem advances_readIpStaticChain (bs : Bytes) : Advances 10 (readIpStaticChain bs) := by
  refine .bind .available fun _ => .bind .u8 fun _ => .ite ?_ (.ite ?_ .reject)
  · exact .bind .update fun _ => .bind .available fun _ => .bind .u8 fun _ => .bind .update fun _ =>
      .bind .need fun _ => .bind .u32 fun _ => .bind .u32 fun _ => .of_moves .update (by decide)
  · exact .bind .update fun _ => .bind .need fun _ => .bind .u8 fun _ => .bind .take fun _ => .bind .take fun _ =>
      .of_moves .update (by decide)

theorem advances_readIpv4OptionsList (bs : Bytes) : Advances 1 (readIpv4OptionsList bs) :=
  .bind .available fun _ => .bind .u8 fun _ => .bind .update fun _ => .ite (.of_moves .pure (by decide))
    (.bind .require fun _ => .bind .require fun _ => .bind .need fun _ => .bind .take fun _ =>
      .of_moves .update (Nat.le_of_eq (by omega)))

theorem advances_readIpv6ExtensionsList (bs : Bytes) : Advances 1 (readIpv6ExtensionsList bs) :=
  .bind .available fun _ => .bind .u8 fun _ => .bind .update fun _ => .ite (.of_moves .pure (by decide))
    (.bind .require fun _ => .bind .require fun _ => .bind .need fun _ => .bind .take fun _ =>
      .of_moves .update (Nat.le_of_eq (by omega)))

theorem advances_readIpDynamicChain (bs : Bytes) : Advances 6 (readIpDynamicChain bs) := by
  refine .bind .value fun _ => .ite ?_ ?_
  · exact .bind .need fun _ => .bind .u8 fun _ => .bind .u8 fun _ => .bind .u8 fun _ => .bind .u8 fun _ =>
      .bind .u8 fun _ => .bind .u8 fun _ => .bind .update fun _ =>
        .mono (advances_readIpv6ExtensionsList bs) (by decide)
  · exact .bind .need fun _ => .bind .u8 fun _ => .bind .u8 fun _ => .bind .u16 fun _ => .bind .u8 fun _ =>
      .bind .update fun _ => advances_readIpv4OptionsList bs

theorem advances_legacyIpDynamic (bs : Bytes) : Advances 6 (readLegacyIpDynamicConsistent bs) :=
  .bind .value fun _ => .seq (advances_readIpDynamicChain bs) fun _ => .bind .value fun _ =>
    .of_moves .require (by decide)

theorem advances_readRtpDynamicChain (bs : Bytes) : Advances 9 (readRtpDynamicChain bs) := by
  refine .bind .u8 fun _ => .bind .u8 fun _ => .bind .u16 fun _ => .bind .u32 fun _ => .bind .update fun _ =>
    .bind .update fun _ => .bind .available fun _ => .bind .u8 fun _ => .ite (.of_moves .update (by decide)) ?_
  exact .bind .require fun _ => .bind .scan fun _ => .bind .require fun _ => .bind .take fun _ => .bind .need fun _ =>
    .bind .u8 fun _ => .bind .require fun _ => .bind .u8 fun _ => .bind .u16 fun _ => .bind .u8 fun _ =>
      .bind .value fun _ => .bind .require fun _ => .bind .take fun _ => .bind .take fun _ => .bind .take fun _ =>
        .bind .update fun _ => .bind .value fun _ => .of_moves .require (Nat.le_of_eq (by omega))

theorem advances_legacyIrTail (bs : Bytes) (crc : Nat × UInt8) : Advances 1 (legacyIrTail bs crc) := by
  have hmode : Moves 0 (readLegacyMode bs) :=
    .stay .available fun _ => .stay .peek fun _ => .stay .require fun _ => .stay .require fun _ => .update
  exact .bind .pos fun _ => .bind .require fun _ => .bind hmode fun _ => .bind .u8 fun _ =>
    .of_moves .pure (by decide)

/-- Behind the front the legacy RTP decoder takes 36 octets at least. -/
theorem advances_decodeIrRtpLegacy (bs : Bytes) : ∃ k : Nat × UInt8 → Proc (Cursor Context) Unit,
    decodeIrRtpLegacy bs = legacyIrHead bs 4 0x01 >>= k ∧ ∀ crc, Advances 36 (k crc) := by
  have hports : Moves 4 (readUdpPorts bs) := .bind .u16 fun _ => .bind .u16 fun _ => .update
  exact ⟨_, rfl, fun crc => .seq (advances_readIpStaticChain bs) fun _ => .bind .available fun _ => .bind hports fun _ =>
    .bind .u32 fun _ => .bind .update fun _ => .seq (advances_legacyIpDynamic bs) fun _ => .bind .value fun _ =>
      .bind .require fun _ => .bind .available fun _ => .bind .u16 fun _ => .bind .update fun _ =>
        .seq (advances_readRtpDynamicChain bs) fun _ => .bind .available fun _ =>
          .seq (advances_legacyIrTail bs crc) fun _ => .of_moves .update (by decide)⟩

/-- The standard RTP chains of an IPv4 packet are 33 octets at most. -/
theorem length_irBody_rtp (hip : c.ipVersion ≠ 6) : (irBody .rtp c).length ≤ 33 := by
  simp only [irBody, standardIpStatic, standardIpDynamic, if_neg hip, transportStatic, transportDynamic,
    List.length_append]
  have : (standardIpv4Dynamic c false).length ≤ 5 := by
    simp only [standardIpv4Dynamic, Bool.false_eq_true, if_false]
    split <;> simp
  simp [writeIpv4StaticWithProtocol, writeUdpStatic, writeRtpStatic, writeUdpDynamic, standardRtpDynamic]
  omega

/-- A legacy reading of an RTP unit is longer than the unit. -/
theorem legacyRtp_length (h : SameCid c d) (hip : c.ipVersion ≠ 6) {payload : Bytes} {r : Context × Nat}
    (hr : run (decodeIrRtpLegacy (irUnit .rtp c ++ payload)) d = some r) : (irUnit .rtp c).length < r.2 := by
  obtain ⟨octet, rest, hunit⟩ := irUnit_front .rtp c payload
  obtain ⟨k, hk, hadv⟩ := advances_decodeIrRtpLegacy (irUnit .rtp c ++ payload)
  have e := exists_of_run hr
  rw [hk, hunit] at e
  obtain ⟨crc, e⟩ := legacy_after_front h e
  have hpos := hadv crc _ _ _ e
  have hbody := length_irBody_rtp hip
  simp only [List.length_append, List.length_singleton] at hpos
  simp only [irUnit, length_irSealed]
  have hoct : (irFront c 0xFD Profile.rtp.octet).length = (irFront c 0xFD 0x01).length := rfl
  omega

/-- Three of the legacy decoders leave the context in another state than the standard ones. -/
theorem legacy_state {profile : Profile} (hp : profile = .udp ∨ profile = .esp ∨ profile = .ip) {bs : Bytes}
    {r : Context × Nat} (hr : run (legacyDecoder profile bs) d = some r) : r.1.rohcState = .staticEstablished := by
  rcases hp with rfl | rfl | rfl
  · exact congrArg Control.rohcState ((decodeIrUdpLegacy_turns bs).run_eq hr)
  · exact congrArg Control.rohcState ((decodeIrEspLegacy_turns bs).run_eq hr)
  · exact congrArg Control.rohcState ((decodeIrIpLegacy_turns bs).run_eq hr)

theorem standardContextEqual_of_state {a b : Context} (h : a.rohcState ≠ b.rohcState) :
    standardContextEqual a b = false := by
  have hc : a.toControl ≠ b.toControl := fun e => h (congrArg Control.rohcState e)
  simp [standardContextEqual, hc]

/-- **Two readings never agree**: a unit the legacy decoder takes as well is ambiguous. -/
theorem irAmbiguous_eq (hp : hasStandardIr profile = true) (h : SameCid c d) (payload : Bytes) :
    irAmbiguous profile c d payload = (run (legacyDecoder profile (irUnit profile c ++ payload)) d).isSome := by
  unfold irAmbiguous legacyConflict
  cases hr : run (legacyDecoder profile (irUnit profile c ++ payload)) d with
  | none => rfl
  | some r =>
    have hstate : (profile = .udp ∨ profile = .esp ∨ profile = .ip) →
        standardContextEqual (irDecoded profile c d) r.1 = false := by
      intro hthree
      exact standardContextEqual_of_state (by rw [legacy_state hthree hr]; exact nofun)
    have hip : c.ipVersion ≠ 6 := by
      intro h6
      rw [legacy_refuses_ipv6 hp h h6] at hr
      cases hr
    simp only [Option.isSome_some, Bool.or_eq_true, decide_eq_true_eq, Bool.not_eq_true']
    cases profile with
    | udp => exact Or.inr (hstate (Or.inl rfl))
    | esp => exact Or.inr (hstate (Or.inr (Or.inl rfl)))
    | ip => exact Or.inr (hstate (Or.inr (Or.inr rfl)))
    | rtp => exact Or.inl (Nat.ne_of_lt (legacyRtp_length h hip hr))
    | uncompressed => cases hp
    | llaRtp => cases hp
    | rtpUdpLite => cases hp
    | udpLite => cases hp

end Unit

/-- **A compatible decoder fails closed**: with the protocol of its profile an emitted unit always has its standard
reading, and that is the answer unless the legacy decoder takes the octets too, which it never does behind IPv6. -/
theorem decodeStandardIr_emitted {profile : Profile} {c d : Context} {cap : Nat} {unit : Bytes} (h : SameCid c d)
    (hproto : terminalProtocol c = (requiredProtocol profile).getD (terminalProtocol c))
    (he : emitStandardIr profile cap c = some unit) (payload : Bytes) :
    ∃ standard, run (decodeIrStandard profile profile.octet (unit ++ payload)) d = some standard ∧
      decodeStandardIr profile (unit ++ payload) d =
        (if (run (legacyDecoder profile (unit ++ payload)) d).isSome then none else some standard) ∧
      (c.ipVersion = 6 → run (legacyDecoder profile (unit ++ payload)) d = none) := by
  obtain ⟨hp, hs, rfl⟩ := emitStandardIr_sends he
  refine ⟨_, (reads_decodeIrStandard h profile profile.octet hproto).run_eq payload, ?_, fun h6 =>
    legacy_refuses_ipv6 hp h h6 payload⟩
  rw [decodeStandardIr_eq hp, decodeIrCompatible_irUnit h profile hproto payload, irAmbiguous_eq hp h payload]
  rfl

theorem decodeStandardIr_emitted_esp :
    let c : Context := { ipv4Protocol := 50, espSpi := 7, cid := 3 }
    let unit := irUnit .esp c
    ∃ standard, run (decodeIrStandard .esp Profile.esp.octet (unit ++ [1])) { cid := 3 } = some standard ∧
      decodeStandardIr .esp (unit ++ [1]) { cid := 3 } =
        (if (run (legacyDecoder .esp (unit ++ [1])) { cid := 3 }).isSome then none else some standard) ∧
      ((4 : UInt8) = 6 → run (legacyDecoder .esp (unit ++ [1])) { cid := 3 } = none) :=
  @decodeStandardIr_emitted .esp { ipv4Protocol := 50, espSpi := 7, cid := 3 } { cid := 3 } 64 _ ⟨rfl, rfl, rfl⟩ rfl
    (by decide +kernel) [1]

/-- The MSN of this packet reads as a list of one option, so that both CRCs cover the same octets, and its payload opens
like a mode octet. A UDP context with the protocol of TCP has no reading at all. -/
theorem decodeStandardIr_ambiguous :
    (emitStandardIr .ip 64
        { ipv4Protocol := 1, ipv4Ttl := 64, ipv4Id := 1, ipv4IdBehavior := 2, ipv4Saddr := 0x0A000001
          ipv4Daddr := 0x0A000002, msn := 0x4100 }).map
        (fun unit => ((run (decodeIrStandard .ip Profile.ip.octet (unit ++ [4])) {}).isSome,
          decodeStandardIr .ip (unit ++ [4]) {})) = some (true, none) ∧
      (emitStandardIr .udp 64 { ipv4Protocol := 6 }).map (fun unit => decodeStandardIr .udp unit {}) = some none := by
  decide +kernel

end Rohccxx
