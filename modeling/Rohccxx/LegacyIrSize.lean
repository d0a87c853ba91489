import Rohccxx.RtpExtrasCodec

/-!
# The size of a legacy IR

The emitters of the UDP-Lite profiles advance a pointer without asking for room: `legacy_ir_capacity_ok` adds up the
lengths of all parts before. The sum is the length of the unit, for either IP version, with options, extension headers
and RTP extras of any length, so a context that passes the check is sent, in exactly as many octets as were asked for
(`EmitsRequired`).
-/

set_option autoImplicit false

namespace Rohccxx

open Octets

/-! ## What the check asks for -/

/-- `required` of `legacy_ir_capacity_ok`, for a context it does not refuse outright. -/
def legacyIrRequired (ctx : Context) (dynamicOnly withRtp : Bool) (transportStaticLen transportDynamicLen : Nat)
    (trailingMode : Bool) : Option Nat :=
  if (ctx.largeCid && ctx.cid > Cid.largeCidMax) || (!ctx.largeCid && !Cid.isSmall ctx.cid) then none
  else
    (legacyIrLengths ctx withRtp transportStaticLen transportDynamicLen).map fun (staticLen, dynamicLen) =>
      (if ctx.largeCid then Cid.encodedLen ctx.cid else if ctx.cid > 0 then 1 else 0) + 3 +
        (if dynamicOnly then 0 else staticLen) + dynamicLen + (if trailingMode then 1 else 0)

theorem legacyIrCapacityOk_iff {cap : Nat} {ctx : Context} {dyn rtp : Bool} {s d : Nat} {mode : Bool} :
    legacyIrCapacityOk cap ctx dyn rtp s d mode = true ↔
      ∃ required, legacyIrRequired ctx dyn rtp s d mode = some required ∧ required ≤ cap := by
  unfold legacyIrCapacityOk legacyIrRequired
  split
  · simp
  · cases legacyIrLengths ctx rtp s d with
    | none => simp
    | some lens => simp

/-! ## The parts -/

theorem length_irFront_parts (ctx : Context) (type profile : UInt8) :
    (irFront ctx type profile).length =
      (if ctx.largeCid then Cid.encodedLen ctx.cid else if ctx.cid > 0 then 1 else 0) + 2 := by
  unfold irFront addCidOctets largeCidOctets
  cases ctx.largeCid with
  | true => simp [Cid.length_largeOctets]
  | false =>
    by_cases hpos : ctx.cid > 0
    · simp [hpos]
    · simp [hpos]

theorem length_rtpExtrasOctets {rtp : RtpContext} {bodyLen : Nat} (h : rtpExtrasBodyLen rtp = some bodyLen) :
    (rtpExtrasOctets rtp bodyLen).length = if bodyLen = 0 then 1 else 1 + Cid.encodedLen bodyLen + bodyLen := by
  unfold rtpExtrasOctets
  split
  · rfl
  · rename_i h0
    simp only [List.length_append, List.length_singleton, Cid.length_largeOctets,
      length_rtpExtrasBody ((rtpExtrasBodyLen_iff rtp bodyLen).mp h) h0]

/-- The lengths of the two chains, for IP headers the chains can carry. -/
theorem legacyIrLengths_eq {ctx : Context} (hip : LegacyIp ctx) (rtp : Bool) (s d : Nat) (protocol : UInt8) :
    legacyIrLengths ctx rtp s d =
      if rtp then (rtpExtrasBodyLen ctx.rtp).map fun bodyLen =>
        ((writeIpStaticWithProtocol ctx protocol).length + s,
          (writeIpDynamic ctx).length + d + 8 +
            (if bodyLen = 0 then 1 else 1 + Cid.encodedLen bodyLen + bodyLen))
      else some ((writeIpStaticWithProtocol ctx protocol).length + s, (writeIpDynamic ctx).length + d) := by
  rw [length_writeIpStatic, length_writeIpDynamic hip]
  unfold legacyIrLengths
  rcases hip with ⟨h4, hlen⟩ | ⟨h6, hlen⟩
  · have h6 : ctx.ipVersion ≠ 6 := by
      rw [h4]
      decide
    rw [if_pos h4, if_neg (Nat.not_lt.mpr hlen), if_neg h6, if_neg h6]
    cases rtp <;> cases rtpExtrasBodyLen ctx.rtp <;> rfl
  · have h4 : ctx.ipVersion ≠ 4 := by
      rw [h6]
      decide
    rw [if_neg h4, if_pos h6, if_neg (Nat.not_lt.mpr hlen), if_pos h6, if_pos h6]
    cases rtp <;> cases rtpExtrasBodyLen ctx.rtp <;> rfl

/-- What an accepted context is, and what its length is made of. -/
theorem legacyIrRequired_parts {ctx : Context} {dyn rtp : Bool} {s d required : Nat} {mode : Bool}
    (h : legacyIrRequired ctx dyn rtp s d mode = some required) (type profile protocol : UInt8) :
    CidFits ctx ∧ LegacyIp ctx ∧
      ∃ bodyLen, (rtp = true → rtpExtrasBodyLen ctx.rtp = some bodyLen) ∧
        required = (irFront ctx type profile).length + 1 +
          (if dyn then 0 else (writeIpStaticWithProtocol ctx protocol).length + s) +
          ((writeIpDynamic ctx).length + d + (if rtp then 8 + (rtpExtrasOctets ctx.rtp bodyLen).length else 0)) +
          (if mode then 1 else 0) := by
  unfold legacyIrRequired at h
  split at h
  · cases h
  · rename_i hcid
    obtain ⟨⟨staticLen, dynamicLen⟩, hlens, rfl⟩ := Option.map_eq_some_iff.mp h
    have hfits : CidFits ctx := by
      unfold CidFits Cid.isValidForSpace
      cases hl : ctx.largeCid with
      | true => simpa [hl] using hcid
      | false => simpa [hl] using hcid
    have hip := legacyIp_of_lengths hlens
    rw [legacyIrLengths_eq hip rtp s d protocol] at hlens
    refine ⟨hfits, hip, ?_⟩
    rw [length_irFront_parts]
    cases rtp with
    | false =>
      rw [if_neg Bool.false_ne_true, Option.some.injEq, Prod.mk.injEq] at hlens
      obtain ⟨rfl, rfl⟩ := hlens
      exact ⟨0, fun hr => Bool.noConfusion hr, by simp⟩
    | true =>
      rw [if_pos rfl, Option.map_eq_some_iff] at hlens
      obtain ⟨bodyLen, hbody, hpair⟩ := hlens
      obtain ⟨rfl, rfl⟩ := Prod.mk.inj hpair
      refine ⟨bodyLen, fun _ => hbody, ?_⟩
      rw [length_rtpExtrasOctets hbody, if_pos rfl]
      dsimp only
      omega

/-! ## The writers find their room -/

theorem legacyIrPrefix_of_fits {cap : Nat} {ctx : Context} (h : CidFits ctx) {type profile : UInt8}
    (hcap : (irFront ctx type profile).length + 1 ≤ cap) :
    legacyIrPrefix cap ctx type profile =
      some (irFront ctx type profile ++ [0], (irFront ctx type profile).length) := by
  simp only [irFront, List.length_append, List.length_singleton] at hcap
  have hlarge := appends_writeLargeCidIfNeeded h cap (addCidOctets ctx ++ [type])
    (by rw [List.length_append, List.length_singleton]; omega)
  unfold legacyIrPrefix
  rw [emitAddCidIfNeeded_of_fits h (by omega)]
  simp only [Option.bind_eq_bind, Option.bind_some, hlarge]
  simp [irFront]

theorem appends_writeRtpDynamic {rtp : RtpContext} {bodyLen : Nat} (h : rtpExtrasBodyLen rtp = some bodyLen)
    (cap : Nat) : Appends cap (writeRtpDynamic cap rtp) (rtpDynamicFixed rtp ++ rtpExtrasOctets rtp bodyLen) :=
  (appends_put cap _).bind (appends_writeRtpExtrasList h cap)

/-! ## The four emitters -/

/-- The emitter sends every context that the check accepts, in exactly as many octets as the check asked for. -/
def EmitsRequired (emitter : Nat → Context → Option Bytes) (dynamicOnly withRtp : Bool)
    (transportStaticLen transportDynamicLen : Nat) (trailingMode : Bool) : Prop :=
  ∀ cap ctx, legacyIrCapacityOk cap ctx dynamicOnly withRtp transportStaticLen transportDynamicLen trailingMode = true →
    ∃ unit, emitter cap ctx = some unit ∧
      legacyIrRequired ctx dynamicOnly withRtp transportStaticLen transportDynamicLen trailingMode = some unit.length ∧
      unit.length ≤ cap

theorem length_liteStatic (profile : Profile) (ctx : Context) :
    (liteStatic profile ctx).length =
      (writeIpStaticWithProtocol ctx ctx.ipv4Protocol).length + (if profile = .rtpUdpLite then 8 else 4) := by
  unfold liteStatic
  split <;> simp [writeUdpStatic, writeRtpStatic]

theorem length_liteDynamic (profile : Profile) (ctx : Context) (bodyLen : Nat) :
    (liteDynamic profile ctx bodyLen).length =
      (writeIpDynamic ctx).length + 4 +
        (if profile = .rtpUdpLite then 8 + (rtpExtrasOctets ctx.rtp bodyLen).length else 0) := by
  have hfixed : (rtpDynamicFixed ctx.rtp).length = 8 := rfl
  unfold liteDynamic
  split
  · simp [writeUdpLiteDynamic, hfixed]
    omega
  · simp [writeUdpLiteDynamic]

/-- The length asked for is made of the parts of the unit. -/
theorem sendsLite_of_required {profile : Profile} {ctx : Context} {dyn rtp mode : Bool} {s required : Nat}
    (h : legacyIrRequired ctx dyn rtp s 4 mode = some required) (hrtp : rtp = true ↔ profile = .rtpUdpLite)
    (type : UInt8) :
    ∃ bodyLen, SendsLite profile ctx bodyLen ∧
      required = (irFront ctx type profile.octet).length + 1 +
        (if dyn then 0 else (writeIpStaticWithProtocol ctx ctx.ipv4Protocol).length + s) +
        (liteDynamic profile ctx bodyLen).length + (if mode then 1 else 0) := by
  obtain ⟨hfits, hip, bodyLen, hbody, hparts⟩ := legacyIrRequired_parts h type profile.octet ctx.ipv4Protocol
  refine ⟨bodyLen, ⟨hfits, hip, fun hp => hbody (hrtp.mpr hp)⟩, ?_⟩
  rw [hparts, length_liteDynamic]
  simp only [hrtp]

theorem emitIrUdpLiteInto_required : EmitsRequired emitIrUdpLiteInto false false 4 4 true := by
  intro cap ctx hok
  obtain ⟨required, hreq, hcap⟩ := legacyIrCapacityOk_iff.mp hok
  obtain ⟨bodyLen, hs, hparts⟩ := @sendsLite_of_required .udpLite _ _ _ _ _ _ hreq (by decide) 0xFD
  have hlen : (liteIrUnit .udpLite ctx bodyLen).length = required := by
    rw [hparts]
    simp [liteIrUnit, length_irSealed, length_liteStatic]
    omega
  refine ⟨liteIrUnit .udpLite ctx bodyLen, ?_, by rw [hlen, hreq], by omega⟩
  have hfront : legacyIrPrefix cap ctx 0xFD 0x08 = some (irFront ctx 0xFD 0x08 ++ [0], (irFront ctx 0xFD 0x08).length) :=
    legacyIrPrefix_of_fits hs.fits (by rw [octet_udpLite] at hparts; omega)
  unfold emitIrUdpLiteInto liteIrUnit
  rw [hok, octet_udpLite, ← fillCrc8_eq]
  simp [hfront, liteStatic, liteDynamic]

theorem emitIrDynUdpLiteInto_required : EmitsRequired emitIrDynUdpLiteInto true false 0 4 false := by
  intro cap ctx hok
  obtain ⟨required, hreq, hcap⟩ := legacyIrCapacityOk_iff.mp hok
  obtain ⟨bodyLen, hs, hparts⟩ := @sendsLite_of_required .udpLite _ _ _ _ _ _ hreq (by decide) 0xF8
  have hlen : (liteIrDynUnit .udpLite ctx bodyLen).length = required := by
    rw [hparts]
    simp [liteIrDynUnit, length_irSealed]
  refine ⟨liteIrDynUnit .udpLite ctx bodyLen, ?_, by rw [hlen, hreq], by omega⟩
  have hfront : legacyIrPrefix cap ctx 0xF8 0x08 = some (irFront ctx 0xF8 0x08 ++ [0], (irFront ctx 0xF8 0x08).length) :=
    legacyIrPrefix_of_fits hs.fits (by rw [octet_udpLite] at hparts; omega)
  unfold emitIrDynUdpLiteInto liteIrDynUnit
  rw [hok, octet_udpLite, ← fillCrc8_eq]
  simp [hfront, liteDynamic]

theorem emitIrRtpUdpLiteInto_required : EmitsRequired emitIrRtpUdpLiteInto false true 8 4 true := by
  intro cap ctx hok
  obtain ⟨required, hreq, hcap⟩ := legacyIrCapacityOk_iff.mp hok
  obtain ⟨bodyLen, hs, hparts⟩ := @sendsLite_of_required .rtpUdpLite _ _ _ _ _ _ hreq (by decide) 0xFD
  have hlen : (liteIrUnit .rtpUdpLite ctx bodyLen).length = required := by
    rw [hparts]
    simp [liteIrUnit, length_irSealed, length_liteStatic]
    omega
  refine ⟨liteIrUnit .rtpUdpLite ctx bodyLen, ?_, by rw [hlen, hreq], by omega⟩
  have hfront : legacyIrPrefix cap ctx 0xFD 0x07 = some (irFront ctx 0xFD 0x07 ++ [0], (irFront ctx 0xFD 0x07).length) :=
    legacyIrPrefix_of_fits hs.fits (by rw [octet_rtpUdpLite] at hparts; omega)
  have hdynamic := length_liteDynamic .rtpUdpLite ctx bodyLen
  have hrtp := appends_writeRtpDynamic (hs.extras rfl) cap
    (irFront ctx 0xFD 0x07 ++ [0] ++ writeIpStaticWithProtocol ctx ctx.ipv4Protocol ++ writeUdpStatic ctx ++
      writeRtpStatic ctx ++ writeIpDynamic ctx ++ writeUdpLiteDynamic ctx)
    (by
      rw [octet_rtpUdpLite] at hparts
      simp [writeUdpStatic, writeRtpStatic, writeUdpLiteDynamic, rtpDynamicFixed] at hparts hdynamic ⊢
      omega)
  unfold emitIrRtpUdpLiteInto liteIrUnit
  rw [hok, octet_rtpUdpLite, ← fillCrc8_eq]
  simp only [Bool.not_true, Bool.false_eq_true, if_false, hfront, Option.bind_eq_bind, Option.bind_some, hrtp]
  simp [liteStatic, liteDynamic]

theorem emitIrDynRtpUdpLiteInto_required : EmitsRequired emitIrDynRtpUdpLiteInto true true 0 4 false := by
  intro cap ctx hok
  obtain ⟨required, hreq, hcap⟩ := legacyIrCapacityOk_iff.mp hok
  obtain ⟨bodyLen, hs, hparts⟩ := @sendsLite_of_required .rtpUdpLite _ _ _ _ _ _ hreq (by decide) 0xF8
  have hlen : (liteIrDynUnit .rtpUdpLite ctx bodyLen).length = required := by
    rw [hparts]
    simp [liteIrDynUnit, length_irSealed]
  refine ⟨liteIrDynUnit .rtpUdpLite ctx bodyLen, ?_, by rw [hlen, hreq], by omega⟩
  have hfront : legacyIrPrefix cap ctx 0xF8 0x07 = some (irFront ctx 0xF8 0x07 ++ [0], (irFront ctx 0xF8 0x07).length) :=
    legacyIrPrefix_of_fits hs.fits (by rw [octet_rtpUdpLite] at hparts; omega)
  have hdynamic := length_liteDynamic .rtpUdpLite ctx bodyLen
  have hrtp := appends_writeRtpDynamic (hs.extras rfl) cap
    (irFront ctx 0xF8 0x07 ++ [0] ++ writeIpDynamic ctx ++ writeUdpLiteDynamic ctx)
    (by
      rw [octet_rtpUdpLite] at hparts
      simp [writeUdpLiteDynamic, rtpDynamicFixed] at hparts hdynamic ⊢
      omega)
  unfold emitIrDynRtpUdpLiteInto liteIrDynUnit
  rw [hok, octet_rtpUdpLite, ← fillCrc8_eq]
  simp only [Bool.not_true, Bool.false_eq_true, if_false, hfront, Option.bind_eq_bind, Option.bind_some, hrtp]
  simp [liteDynamic]

/-- **Every context that `legacy_ir_capacity_ok` accepts is sent by each of the four emitters, in exactly as many octets as
the check added up, so within the capacity, down to a capacity of just that many octets.** The emitters only ever append
and then fill in the CRC octet, so no write goes beyond the length of the unit. -/
theorem legacy_ir_size_exact :
    EmitsRequired emitIrUdpLiteInto false false 4 4 true ∧ EmitsRequired emitIrRtpUdpLiteInto false true 8 4 true ∧
      EmitsRequired emitIrDynUdpLiteInto true false 0 4 false ∧ EmitsRequired emitIrDynRtpUdpLiteInto true true 0 4 false ∧
      ∀ cap ctx dyn rtp s d mode, legacyIrCapacityOk cap ctx dyn rtp s d mode = true ↔
        ∃ required, legacyIrRequired ctx dyn rtp s d mode = some required ∧ required ≤ cap :=
  ⟨emitIrUdpLiteInto_required, emitIrRtpUdpLiteInto_required, emitIrDynUdpLiteInto_required,
    emitIrDynRtpUdpLiteInto_required, fun _ _ _ _ _ _ _ => legacyIrCapacityOk_iff⟩

/-- A UDP-Lite context on CID 5. -/
def liteContext : Context :=
  { ({} : Context) with profile := .udpLite, cid := 5, ipv4Protocol := 136, mode := .optimistic }

theorem legacy_ir_size_exact_lite :
    (∃ unit, emitIrUdpLiteInto 29 liteContext = some unit ∧ unit.length = 29) ∧
      (∃ unit, emitIrDynUdpLiteInto 14 liteContext = some unit ∧ unit.length = 14) ∧
      legacyIrCapacityOk 28 liteContext false false 4 4 true = false := by
  obtain ⟨hir, -, hdyn, -, hok⟩ := legacy_ir_size_exact
  have hrequired : legacyIrRequired liteContext false false 4 4 true = some 29 := by decide +kernel
  have hrequiredDyn : legacyIrRequired liteContext true false 0 4 false = some 14 := by decide +kernel
  obtain ⟨unit, hunit, hlen, -⟩ := hir 29 liteContext ((hok _ _ _ _ _ _ _).mpr ⟨29, hrequired, Nat.le_refl _⟩)
  obtain ⟨dyn, hdynUnit, hdynLen, -⟩ := hdyn 14 liteContext ((hok _ _ _ _ _ _ _).mpr ⟨14, hrequiredDyn, Nat.le_refl _⟩)
  rw [hrequired, Option.some.injEq] at hlen
  rw [hrequiredDyn, Option.some.injEq] at hdynLen
  refine ⟨⟨unit, hunit, hlen.symm⟩, ⟨dyn, hdynUnit, hdynLen.symm⟩, ?_⟩
  rw [Bool.eq_false_iff, ne_eq, hok]
  rintro ⟨required, h, hle⟩
  rw [hrequired, Option.some.injEq] at h
  omega

end Rohccxx
