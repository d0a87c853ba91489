import Rohccxx.Accepted
import Rohccxx.IrRoundTrip

/-!
# A unit at the decompressor

How a unit of each kind goes through the blocks of `rohc_decompress4` without integrity and without feedback in front:
which block answers, and with what. `Delivered` is the outcome of an accepted unit; a refused one keeps everything
(`rohcDecompress4_transactional`).
-/

set_option autoImplicit false

namespace Rohccxx

open Octets Reader

/-! ## Units without ICV -/

namespace Frame

variable {f : Frame} {live : Live}

/-- The common end of an accepted unit without ICV. -/
theorem finish_delivered (live : Live) (hs : f.staged = false) (staged : Bool) (ctx : Context) (mode : Mode)
    (octets : Bytes) :
    Delivered live f.cid ctx octets (f.finishDecoding staged octets
      (f.verifyIcv ((writeReconstruction staged (live.setCtx f.cid ctx) octets).setMode mode) octets)) := by
  rw [verifyIcv_of_not_staged hs]
  unfold finishDecoding
  rw [if_neg (by simp)]
  apply acknowledgeRefresh_delivered
  unfold writeReconstruction
  cases staged with
  | true => exact ⟨rfl, rfl, rfl, rfl, ⟨rfl, rfl, rfl, rfl⟩⟩
  | false => exact ⟨rfl, rfl, rfl, rfl, ⟨rfl, rfl, rfl, rfl⟩⟩

/-- A reading with room for its packet is delivered. -/
theorem commit_delivered (hs : f.staged = false) (ctx : Context) {octets : Bytes} (hcap : octets.length ≤ f.cap) :
    Delivered live f.cid ctx octets (f.commit live ctx octets) := by
  unfold commit
  rw [if_neg (by omega)]
  have h := finish_delivered live hs f.staged ctx ctx.mode octets
  have he : (writeReconstruction f.staged (live.setCtx f.cid ctx) octets).setMode ctx.mode =
      writeReconstruction f.staged ((live.setCtx f.cid ctx).setMode ctx.mode) octets := by
    unfold writeReconstruction
    split <;> rfl
  rw [he] at h
  exact h

/-! ## Units of type IR and IR-DYN -/

/-- IR and IR-DYN units go to the last block, profile-0 IRs apart. -/
theorem decode_of_refresh (again : Live → Bytes → Return) (live : Live) (hbit : u8At f.packet 0 &&& 0x80 ≠ 0)
    (htype : f.parsed.type = .ir ∧ f.parsed.profileId ≠ 0 ∨ f.parsed.type = .irDyn) :
    f.decode again live = f.decodeInPlace f.parsed.type false live := by
  have h₁ : f.feedbackUnit f.parsed.type live = none := by
    rcases htype with ⟨h, -⟩ | h <;> simp [feedbackUnit, h]
  have h₂ : f.segmentUnit f.parsed.type again live = none := by
    rcases htype with ⟨h, -⟩ | h <;> simp [segmentUnit, h]
  rw [decode_of_top_bit again live hbit, h₁, h₂, Option.getD_none, Option.getD_none]
  · rcases htype with ⟨h, -⟩ | h <;> simp [h]
  · rcases htype with ⟨h, -⟩ | h <;> simp [h]
  · rcases htype with ⟨-, h⟩ | h <;> simp [h]

/-- A unit decoded in place whose packet can be rebuilt. -/
theorem finishUnit_delivered (hs : f.staged = false) {d : Decoded} (hcrc : d.crc = none) {payload octets : Bytes}
    (hpay : payloadAfterHeader (decoderPacket f.parsed) d.headerLen = some payload)
    (hbuild : rebuild f.cap d.ctx payload = some octets) :
    Delivered live f.cid d.ctx octets (f.finishUnit live d) := by
  unfold finishUnit
  simp only [hpay, hcrc, Option.isSome_none, Bool.false_eq_true, false_and, if_false, hbuild, Bool.or_false, crcHolds,
    Bool.not_true]
  exact finish_delivered live hs f.staged d.ctx d.ctx.mode octets

theorem finishUnit_refused {d : Decoded} (hcrc : d.crc = none) {payload : Bytes}
    (hpay : payloadAfterHeader (decoderPacket f.parsed) d.headerLen = some payload)
    (hbuild : rebuild f.cap d.ctx payload = none) : (f.finishUnit live d).1 ≠ 0 := by
  unfold finishUnit
  simp only [hpay, hcrc, Option.isSome_none, Bool.false_eq_true, false_and, if_false, hbuild]
  exact failDecode_ne_zero _

end Frame

/-! ## Entering a call -/

/-- What a call without integrity fixes for the unit `parsed`. -/
def callFrame (dec : Decompressor) (out : Bytes) (cap : Nat) (parsed : ParsedRohcPacket) (cid : Nat)
    (before : Context) : Frame :=
  openFrame ⟨{ dec with hasFeedback := false }, out, cap⟩ (if dec.hasFeedback then some dec.lastFeedback else none)
    parsed cid before []

/-- A call that gets as far as the blocks of `f`. -/
structure Enters (dec : Decompressor) (input out : Bytes) (cap : Nat) (f : Frame) : Prop where
  decodes : ∃ (again : Live → Bytes → Return) (handle : Decompressor),
    handle.contexts = dec.contexts ∧ SameSettings dec handle ∧
      rohcDecompress4 dec input out cap =
        guardLength (f.decode again ((⟨handle, out, cap⟩ : Live).setCtx f.cid f.ctx))

theorem decompressUnit_of_parsed {again : Live → Bytes → Return} {live : Live} {unit : Bytes}
    {parsed : ParsedRohcPacket} (pending : Option Feedback) (hint : live.handle.integrity = none)
    (hparse : parseRohcPacket unit live.handle.largeCidSpace = some parsed) :
    decompressUnit again live pending unit = decompressParsed again live pending parsed [] := by
  unfold decompressUnit
  simp only [hparse, hint]

namespace Enters

variable {dec : Decompressor} {input out : Bytes} {cap : Nat} {f : Frame}

theorem of_parsed {parsed : ParsedRohcPacket} {parsedCid cid : Nat} {before : Context}
    (hint : dec.integrity = none) (hfb : isFeedbackPacketStart (u8At input 0) = false)
    (hparse : parseRohcPacket input dec.largeCidSpace = some parsed) (hsel : selectCid dec parsed = (parsedCid, cid))
    (hget : dec.contexts.get cid = some before) :
    Enters dec input out cap (callFrame dec out cap { parsed with cid := parsedCid } cid before) := by
  refine ⟨fun live input => rohcDecompress4 live.handle input live.out live.outLen, { dec with hasFeedback := false },
    rfl, ⟨rfl, rfl, rfl, rfl⟩, ?_⟩
  rw [rohcDecompress4_unfold]
  have hne : input ≠ [] := by
    rintro rfl
    simp [parseRohcPacket] at hparse
  obtain ⟨b, rest, rfl⟩ := List.exists_cons_of_ne_nil hne
  unfold decompressCall
  simp only [if_neg hne, skipFeedback_of_not_start _ hfb]
  rw [decompressUnit_of_parsed _ hint hparse]
  exact congrArg guardLength (decompressParsed_eq _ _ hsel hget)

theorem delivered (h : Enters dec input out cap f) {ctx : Context} {octets : Bytes}
    (hd : ∀ again live, Delivered live f.cid ctx octets (f.decode again live)) :
    Delivered ⟨dec, out, cap⟩ f.cid ctx octets (rohcDecompress4 dec input out cap) := by
  obtain ⟨again, handle, hctx, hset, e⟩ := h.decodes
  rw [e]
  have h₁ := (hd again ((⟨handle, out, cap⟩ : Live).setCtx f.cid f.ctx)).of_setCtx.guardLength
  exact ⟨h₁.rc, h₁.outLen, h₁.out, by rw [h₁.contexts, hctx], hset.trans h₁.settings⟩

theorem refused (h : Enters dec input out cap f) (hd : ∀ again live, (f.decode again live).1 ≠ 0) :
    (rohcDecompress4 dec input out cap).1 ≠ 0 := by
  obtain ⟨again, handle, -, -, e⟩ := h.decodes
  rw [e, guardLength]
  have hne := hd again ((⟨handle, out, cap⟩ : Live).setCtx f.cid f.ctx)
  rw [if_neg hne]
  exact hne

end Enters

/-! ## IR and IR-DYN units on the wire -/

/-- The type octets of a refresh. -/
def refreshType (type : UInt8) : RohcPacketType := if type = 0xFD then .ir else .irDyn

/-- How a refresh of the context `c` is parsed. -/
def refreshParsed (c : Context) (type code : UInt8) (rest : Bytes) : ParsedRohcPacket where
  wire := irFront c type code ++ rest
  packet := type :: (largeCidOctets c ++ code :: rest)
  cid := c.cid
  hasAddCid := !c.largeCid && decide (c.cid > 0)
  hasLargeCid := c.largeCid
  cidLen := if c.largeCid then Cid.encodedLen c.cid else 0
  type := refreshType type
  profileId := code

theorem not_isUncompressedIpPayload {b : UInt8} (rest : Bytes) (h₄ : b >>> 4 ≠ 4) (h₆ : b >>> 4 ≠ 6) :
    isUncompressedIpPayload (b :: rest) = false := by
  unfold isUncompressedIpPayload
  simp [u8At, h₄, h₆]

theorem readPacketCid_refresh {c : Context} (h : CidFits c) (type code : UInt8) (rest : Bytes)
    (t : RohcPacketType) (ht : t ≠ .uncompressed) :
    readPacketCid (type :: (largeCidOctets c ++ code :: rest)) t
        (if (!c.largeCid && decide (c.cid > 0)) = true then some c.cid else none) c.largeCid =
      some (c.cid, (if c.largeCid then Cid.encodedLen c.cid else 0), c.largeCid) := by
  unfold readPacketCid
  cases hl : c.largeCid with
  | true =>
    have hread := Cid.readLarge_largeOctets (h.large hl) (code :: rest)
    rw [if_pos ⟨rfl, ht⟩, if_neg (by simp only [List.length_cons, List.length_append]; omega)]
    simp [largeCidOctets, hl, hread]
  | false =>
    by_cases h0 : c.cid = 0
    · simp [h0]
    · simp [Nat.pos_of_ne_zero h0]

/-- A refresh is parsed as what it is. -/
theorem parseRohcPacketBody_refresh {c : Context} (h : CidFits c) {type : UInt8} (ht : type = 0xFD ∨ type = 0xF8)
    (code : UInt8) (rest : Bytes) :
    parseRohcPacketBody (irFront c type code ++ rest) (type :: (largeCidOctets c ++ code :: rest))
        (if (!c.largeCid && decide (c.cid > 0)) = true then some c.cid else none) c.largeCid =
      some (refreshParsed c type code rest) := by
  have hdet : packetTypeOf (type :: (largeCidOctets c ++ code :: rest)) = refreshType type := by
    unfold packetTypeOf
    rcases ht with rfl | rfl
    · rw [not_isUncompressedIpPayload _ (by decide) (by decide), u8At_cons_zero]
      decide
    · rw [not_isUncompressedIpPayload _ (by decide) (by decide), u8At_cons_zero]
      decide
  have hir : refreshType type = .ir ∨ refreshType type = .irDyn := by
    unfold refreshType
    split
    · exact Or.inl rfl
    · exact Or.inr rfl
  have hcid := readPacketCid_refresh h type code rest (refreshType type) (by rcases hir with h | h <;> simp [h])
  have hlen : (largeCidOctets c).length = if c.largeCid then Cid.encodedLen c.cid else 0 := by
    unfold largeCidOctets
    split
    · exact Cid.length_largeOctets _
    · rfl
  have hpos : (if c.largeCid = true then 1 + (if c.largeCid then Cid.encodedLen c.cid else 0) else 1) =
      (type :: largeCidOctets c).length := by
    rw [List.length_cons, hlen]
    split <;> omega
  unfold parseRohcPacketBody
  rw [if_neg (by simp)]
  simp only [hdet, hcid, Option.bind_eq_bind, Option.bind_some, if_pos hir, hpos]
  rw [if_neg (by simp)]
  have hcode : u8At (type :: (largeCidOctets c ++ code :: rest)) (type :: largeCidOctets c).length = code :=
    u8At_append_length (type :: largeCidOctets c) code rest
  rw [hcode]
  cases hl : c.largeCid <;> by_cases h0 : c.cid = 0 <;> simp [refreshParsed, hl, h0, Nat.pos_of_ne_zero]

theorem refreshType_top_bit {type : UInt8} (ht : type = 0xFD ∨ type = 0xF8) :
    type &&& 0x80 ≠ 0 ∧ type &&& 0xF0 ≠ 0xE0 ∧ isFeedbackPacketStart type = false := by
  rcases ht with rfl | rfl <;> decide

/-- The Add-CID octet names the CID and cannot be mistaken. -/
theorem addCid_octet_fields {cid : Nat} (h : cid ≤ 0x0F) :
    ((0xE0 : UInt8) ||| (UInt8.ofNat cid &&& 0x0F)) &&& 0xF0 = 0xE0 ∧
      (((0xE0 : UInt8) ||| (UInt8.ofNat cid &&& 0x0F)) &&& 0x0F).toNat = cid ∧
      isFeedbackPacketStart ((0xE0 : UInt8) ||| (UInt8.ofNat cid &&& 0x0F)) = false := by
  have key : ∀ i : Fin 16, ((0xE0 : UInt8) ||| (UInt8.ofNat i &&& 0x0F)) &&& 0xF0 = 0xE0 ∧
      (((0xE0 : UInt8) ||| (UInt8.ofNat i &&& 0x0F)) &&& 0x0F).toNat = i ∧
      isFeedbackPacketStart ((0xE0 : UInt8) ||| (UInt8.ofNat i &&& 0x0F)) = false := by decide
  exact key ⟨cid, by omega⟩

theorem parseRohcPacket_refresh {c : Context} (h : CidFits c) {type : UInt8} (ht : type = 0xFD ∨ type = 0xF8)
    (code : UInt8) (rest : Bytes) :
    parseRohcPacket (irFront c type code ++ rest) c.largeCid = some (refreshParsed c type code rest) := by
  have hbody := parseRohcPacketBody_refresh h ht code rest
  obtain ⟨-, hadd, -⟩ := refreshType_top_bit ht
  by_cases hc : (!c.largeCid && decide (c.cid > 0)) = true
  · have hl : c.largeCid = false := by simp only [Bool.and_eq_true, Bool.not_eq_true'] at hc; exact hc.1
    obtain ⟨h₁, h₂, -⟩ := addCid_octet_fields (h.small hl)
    have e : irFront c type code ++ rest =
        (0xE0 ||| (UInt8.ofNat c.cid &&& 0x0F)) :: type :: (largeCidOctets c ++ code :: rest) := by
      simp [irFront, addCidOctets, hc]
    rw [if_pos hc, e] at hbody
    rw [e]
    unfold parseRohcPacket
    rw [if_neg (by simp), if_pos ⟨by simp [hl], h₁⟩, if_neg (by simp)]
    rw [u8At_cons_zero, h₂]
    exact hbody
  · have e : irFront c type code ++ rest = type :: (largeCidOctets c ++ code :: rest) := by
      simp [irFront, addCidOctets, hc]
    rw [if_neg hc, e] at hbody
    rw [e]
    unfold parseRohcPacket
    rw [if_neg (by simp), if_neg (fun hh => hadd hh.2)]
    exact hbody

theorem not_feedback_refresh {c : Context} (h : CidFits c) {type : UInt8} (ht : type = 0xFD ∨ type = 0xF8)
    (code : UInt8) (rest : Bytes) : isFeedbackPacketStart (u8At (irFront c type code ++ rest) 0) = false := by
  unfold irFront addCidOctets
  by_cases hc : (!c.largeCid && decide (c.cid > 0)) = true
  · have hl : c.largeCid = false := by simp only [Bool.and_eq_true, Bool.not_eq_true'] at hc; exact hc.1
    rw [if_pos hc]
    exact (addCid_octet_fields (h.small hl)).2.2
  · rw [if_neg hc]
    exact (refreshType_top_bit ht).2.2

/-- A call with a refresh goes to the context of its CID. -/
theorem enters_refresh {dec : Decompressor} {c d : Context} (hint : dec.integrity = none)
    (hspace : dec.largeCidSpace = c.largeCid) (h : CidFits c) (hget : dec.contexts.get c.cid = some d) {type : UInt8}
    (ht : type = 0xFD ∨ type = 0xF8) (code : UInt8) (rest out : Bytes) (cap : Nat) :
    Enters dec (irFront c type code ++ rest) out cap
      (callFrame dec out cap (refreshParsed c type code rest) c.cid d) := by
  have hparse := parseRohcPacket_refresh h ht code rest
  rw [← hspace] at hparse
  refine Enters.of_parsed hint (not_feedback_refresh h ht code rest) hparse ?_ hget
  have hbit : u8At (refreshParsed c type code rest).packet 0 &&& 0x80 ≠ 0 := (refreshType_top_bit ht).1
  have hfo : (refreshParsed c type code rest).type ≠ .foRtp := by
    change refreshType type ≠ .foRtp
    unfold refreshType
    split <;> simp
  unfold selectCid
  simp [hbit, hfo]
  rfl

/-- The decoders of refreshes see the whole unit. -/
theorem decoderPacket_refreshParsed (c : Context) (type code : UInt8) (rest : Bytes) :
    decoderPacket (refreshParsed c type code rest) = irFront c type code ++ rest := by
  have hir : refreshType type = .ir ∨ refreshType type = .irDyn := by
    unfold refreshType
    split
    · exact Or.inl rfl
    · exact Or.inr rfl
  unfold decoderPacket
  split
  · rfl
  · rename_i hn
    have hadd : (!c.largeCid && decide (c.cid > 0)) = false := by
      by_contra hc
      exact hn ⟨by simpa [refreshParsed, Nat.pos_iff_ne_zero] using hc, hir⟩
    simp [refreshParsed, irFront, addCidOctets, hadd]

/-! ## Standard IRs -/

theorem incomingProfile_octet {profile : Profile} (hp : profileUsesFormalPt0 profile = true) :
    Frame.incomingProfile profile.octet = some profile := by
  cases profile <;> first | rfl | cases hp

theorem decodeIrOf_standard {profile : Profile} (hp : profileUsesFormalPt0 profile = true) :
    Frame.decodeIrOf profile = decodeIrCompatible profile profile.octet (legacyDecoder profile) := by
  cases profile <;> first | rfl | cases hp

/-- The gates are control fields. -/
theorem Frame.irGates_frame (f : Frame) (incoming : Profile) (ctx : Context) :
    (f.irGates incoming ctx).toIpv4Context = ctx.toIpv4Context ∧
      (f.irGates incoming ctx).toIpv6Context = ctx.toIpv6Context ∧
      (f.irGates incoming ctx).toTransportContext = ctx.toTransportContext ∧ (f.irGates incoming ctx).rtp = ctx.rtp ∧
      (f.irGates incoming ctx).profile = ctx.profile ∧ (f.irGates incoming ctx).rohcState = ctx.rohcState ∧
      (f.irGates incoming ctx).msn = ctx.msn ∧ (f.irGates incoming ctx).reorderRatio = ctx.reorderRatio := by
  unfold Frame.irGates
  dsimp only
  split_ifs <;> exact ⟨rfl, rfl, rfl, rfl, rfl, rfl, rfl, rfl⟩

/-- What the IR decoder makes of a standard IR of `c`. -/
theorem Frame.decodeIrUnit_standard {f : Frame} {profile : Profile} {c : Context} {payload : Bytes}
    (hp : profileUsesFormalPt0 profile = true) (hid : f.parsed.profileId = profile.octet)
    (hpkt : decoderPacket f.parsed = irUnit profile c ++ payload) (hsame : SameCid c (f.irContext profile))
    (hproto : terminalProtocol c = (requiredProtocol profile).getD (terminalProtocol c)) :
    f.decodeIrUnit = if irAmbiguous profile c (f.irContext profile) payload then none
      else some { ctx := f.irGates profile (irDecoded profile c (f.irContext profile))
                  headerLen := (irUnit profile c).length } := by
  unfold decodeIrUnit
  rw [hid, incomingProfile_octet hp]
  simp only [Option.bind_eq_bind, Option.bind_some, decodeIrOf_standard hp, hpkt,
    decodeIrCompatible_irUnit hsame profile hproto payload]
  split <;> rfl

section ReceiveIr

variable {dec : Decompressor} {profile : Profile} {c d : Context}

/-- The frame of a call with the standard IR of `c` and a payload. -/
def irFrame (dec : Decompressor) (profile : Profile) (c d : Context) (payload out : Bytes) (cap : Nat) : Frame :=
  callFrame dec out cap (refreshParsed c 0xFD profile.octet
    (crc8 (irFront c 0xFD profile.octet ++ 0 :: irBody profile c) :: (irBody profile c ++ payload))) c.cid d

/-- The context a standard IR is decoded into. -/
def irBase (dec : Decompressor) (profile : Profile) (c d : Context) : Context :=
  (irFrame dec profile c d [] [] 0).irContext profile

/-- The context a standard IR leaves behind. -/
def irAfter (dec : Decompressor) (profile : Profile) (c d : Context) : Context :=
  (irFrame dec profile c d [] [] 0).irGates profile (irDecoded profile c (irBase dec profile c d))

theorem irUnit_append (profile : Profile) (c : Context) (payload : Bytes) :
    irUnit profile c ++ payload = irFront c 0xFD profile.octet ++
      crc8 (irFront c 0xFD profile.octet ++ 0 :: irBody profile c) :: (irBody profile c ++ payload) := by
  simp [irUnit, irSealed]

theorem sameCid_irBase (profile : Profile) (d : Context) (hspace : dec.largeCidSpace = c.largeCid) (h : CidFits c) :
    SameCid c (irBase dec profile c d) := by
  refine ⟨h, ?_, ?_⟩
  · unfold irBase Frame.irContext
    split
    · rfl
    · split <;> rfl
  · rw [← hspace]
    unfold irBase Frame.irContext
    split
    · rfl
    · split <;> rfl

theorem payloadAfterHeader_append (unit payload : Bytes) : payloadAfterHeader (unit ++ payload) unit.length = some payload := by
  simp [payloadAfterHeader]

theorem decoderPacket_irFrame (payload out : Bytes) (cap : Nat) :
    decoderPacket (irFrame dec profile c d payload out cap).parsed = irUnit profile c ++ payload :=
  (decoderPacket_refreshParsed c _ _ _).trans (irUnit_append profile c payload).symm

theorem payloadAfterHeader_irFrame (payload out : Bytes) (cap : Nat) :
    payloadAfterHeader (decoderPacket (irFrame dec profile c d payload out cap).parsed) (irUnit profile c).length =
      some payload := by
  rw [decoderPacket_irFrame, payloadAfterHeader_append]

variable (hint : dec.integrity = none) (hspace : dec.largeCidSpace = c.largeCid) (hfits : CidFits c)
  (hget : dec.contexts.get c.cid = some d) (hp : profileUsesFormalPt0 profile = true)
  (hproto : terminalProtocol c = (requiredProtocol profile).getD (terminalProtocol c)) (payload out : Bytes) (cap : Nat)

include hint hspace hfits hget hp hproto

/-- A standard IR is decoded in place. -/
theorem enters_ir : Enters dec (irUnit profile c ++ payload) out cap (irFrame dec profile c d payload out cap) ∧
    ∀ again live, (irFrame dec profile c d payload out cap).decode again live =
      if irAmbiguous profile c (irBase dec profile c d) payload then
        (irFrame dec profile c d payload out cap).failDecode live
      else (irFrame dec profile c d payload out cap).finishUnit live
        { ctx := irAfter dec profile c d, headerLen := (irUnit profile c).length } := by
  have hoct : profile.octet ≠ 0 := by cases profile <;> first | decide | cases hp
  refine ⟨?_, fun again live => ?_⟩
  · rw [irUnit_append]
    exact enters_refresh hint hspace hfits hget (Or.inl rfl) _ _ out cap
  · have hbit : u8At (irFrame dec profile c d payload out cap).packet 0 &&& 0x80 ≠ 0 := by
      change (0xFD : UInt8) &&& 0x80 ≠ 0
      decide
    have hd := Frame.decode_of_refresh again live hbit (Or.inl ⟨rfl, hoct⟩)
    have hu := Frame.decodeIrUnit_standard (f := irFrame dec profile c d payload out cap) hp rfl
      (decoderPacket_irFrame payload out cap) (sameCid_irBase profile d hspace hfits) hproto
    rw [hd]
    change Frame.decodeInPlace _ .ir false live = _
    unfold Frame.decodeInPlace Frame.decodeUnit
    have hbase : (irFrame dec profile c d payload out cap).irContext profile = irBase dec profile c d := rfl
    simp only [hu, hbase]
    cases irAmbiguous profile c (irBase dec profile c d) payload <;> rfl

/-- An IR with two meanings is refused. -/
theorem receive_ir_ambiguous (hamb : irAmbiguous profile c (irBase dec profile c d) payload = true) :
    (rohcDecompress4 dec (irUnit profile c ++ payload) out cap).1 ≠ 0 := by
  obtain ⟨he, hd⟩ := enters_ir hint hspace hfits hget hp hproto payload out cap
  refine he.refused fun again live => ?_
  rw [hd, if_pos hamb]
  exact Frame.failDecode_ne_zero _

/-- **A standard IR with one meaning is delivered** when its packet can be rebuilt. -/
theorem receive_ir_delivered (hamb : irAmbiguous profile c (irBase dec profile c d) payload = false) {octets : Bytes}
    (hbuild : Frame.rebuild cap (irAfter dec profile c d) payload = some octets) :
    Delivered ⟨dec, out, cap⟩ c.cid (irAfter dec profile c d) octets
      (rohcDecompress4 dec (irUnit profile c ++ payload) out cap) := by
  obtain ⟨he, hd⟩ := enters_ir hint hspace hfits hget hp hproto payload out cap
  refine he.delivered fun again live => ?_
  rw [hd, hamb, if_neg Bool.false_ne_true]
  exact Frame.finishUnit_delivered (f := irFrame dec profile c d payload out cap)
    (d := ⟨irAfter dec profile c d, (irUnit profile c).length, none⟩) rfl rfl
    (payloadAfterHeader_irFrame payload out cap) hbuild

theorem receive_ir_refused (hamb : irAmbiguous profile c (irBase dec profile c d) payload = false)
    (hbuild : Frame.rebuild cap (irAfter dec profile c d) payload = none) :
    (rohcDecompress4 dec (irUnit profile c ++ payload) out cap).1 ≠ 0 := by
  obtain ⟨he, hd⟩ := enters_ir hint hspace hfits hget hp hproto payload out cap
  refine he.refused fun again live => ?_
  rw [hd, hamb, if_neg Bool.false_ne_true]
  exact Frame.finishUnit_refused rfl (payloadAfterHeader_irFrame payload out cap) hbuild

end ReceiveIr

/-! ## IRs of the Uncompressed profile -/

section ReceiveWhole

variable {dec : Decompressor} {c d : Context}

/-- The frame of a call with a profile-0 IR. -/
def wholeFrame (dec : Decompressor) (c d : Context) (packet out : Bytes) (cap : Nat) : Frame :=
  callFrame dec out cap
    (refreshParsed c 0xFD 0x00 (crc8 (irFront c 0xFD 0x00 ++ [0]) :: packet)) c.cid d

theorem uncompressedIrHeaderLen_wholeFrame (dec : Decompressor) (c d : Context) (packet out : Bytes) (cap : Nat) :
    (wholeFrame dec c d packet out cap).uncompressedIrHeaderLen = (irFront c 0xFD 0x00).length + 1 ∧
      (irFront c 0xFD 0x00).length ≤ 4 := by
  have hle := Cid.encodedLen_le c.cid
  unfold Frame.uncompressedIrHeaderLen irFront addCidOctets largeCidOctets
  change (!c.largeCid && decide (c.cid > 0)).toNat + 3 +
    (if c.largeCid = true then (if c.largeCid = true then Cid.encodedLen c.cid else 0) else 0) = _ ∧ _
  cases hl : c.largeCid with
  | true =>
    simp [Cid.length_largeOctets]
    omega
  | false => by_cases h0 : c.cid = 0 <;> simp [h0, Nat.pos_of_ne_zero]

variable (hint : dec.integrity = none) (hspace : dec.largeCidSpace = c.largeCid) (hfits : CidFits c)
  (hget : dec.contexts.get c.cid = some d) {packet : Bytes} (hip : isUncompressedIpPayload packet = true) (out : Bytes)

include hint hspace hfits hget hip

/-- A profile-0 IR goes to its own block. -/
theorem enters_whole (cap : Nat) :
    Enters dec (irSealed (irFront c 0xFD 0x00) [] ++ packet) out cap (wholeFrame dec c d packet out cap) ∧
    ∀ again live, (wholeFrame dec c d packet out cap).decode again live =
      (wholeFrame dec c d packet out cap).commit live (wholeFrame dec c d packet out cap).uncompressedReplacement
        packet := by
  have e : irSealed (irFront c 0xFD 0x00) [] ++ packet =
      irFront c 0xFD 0x00 ++ crc8 (irFront c 0xFD 0x00 ++ [0]) :: packet := by
    simp [irSealed]
  obtain ⟨hlen, hle⟩ := uncompressedIrHeaderLen_wholeFrame dec c d packet out cap
  have hne : packet ≠ [] := by
    rintro rfl
    simp [isUncompressedIpPayload] at hip
  have hpos := List.length_pos_iff.mpr hne
  rw [e]
  refine ⟨enters_refresh hint hspace hfits hget (Or.inl rfl) _ _ out cap, fun again live => ?_⟩
  have hnormal : (wholeFrame dec c d packet out cap).normalPacket live = none := by
    unfold Frame.normalPacket
    rw [if_neg]
    rintro ⟨h, -⟩
    cases h
  have hwire : (wholeFrame dec c d packet out cap).parsed.wire =
      (irFront c 0xFD 0x00 ++ [crc8 (irFront c 0xFD 0x00 ++ [0])]) ++ packet := by
    change irFront c 0xFD 0x00 ++ crc8 (irFront c 0xFD 0x00 ++ [0]) :: packet = _
    simp
  have hir : (wholeFrame dec c d packet out cap).uncompressedIr live =
      some ((wholeFrame dec c d packet out cap).commit live
        (wholeFrame dec c d packet out cap).uncompressedReplacement packet) := by
    unfold Frame.uncompressedIr
    rw [if_pos ⟨rfl, rfl⟩]
    dsimp only
    rw [hlen, hwire, List.take_left' (by simp), List.drop_left' (by simp),
      if_neg (by simp only [List.length_append, List.length_singleton]; omega), Nat.add_sub_cancel, u8At_append_length]
    simp only [hip, Bool.not_true, Bool.false_eq_true, false_or]
    rw [show crc8 ((irFront c 0xFD 0x00 ++ [crc8 (irFront c 0xFD 0x00 ++ [0])]).set (irFront c 0xFD 0x00).length 0) =
      crc8 (irFront c 0xFD 0x00 ++ [0]) by simp]
    simp only [ne_eq, not_true_eq_false, false_or]
    split
    · rename_i hroom
      rw [Frame.commit, if_pos hroom]
    · rfl
  unfold Frame.decode
  simp only [hnormal, hir, Option.getD_none, Option.getD_some]

/-- **A profile-0 IR is delivered** as it is. -/
theorem receive_whole_delivered {cap : Nat} (hcap : packet.length ≤ cap) :
    Delivered ⟨dec, out, cap⟩ c.cid (wholeFrame dec c d packet out cap).uncompressedReplacement packet
      (rohcDecompress4 dec (irSealed (irFront c 0xFD 0x00) [] ++ packet) out cap) := by
  obtain ⟨he, hd⟩ := enters_whole hint hspace hfits hget hip out cap
  refine he.delivered fun again live => ?_
  rw [hd]
  exact Frame.commit_delivered rfl _ hcap

theorem receive_whole_refused {cap : Nat} (hcap : cap < packet.length) :
    (rohcDecompress4 dec (irSealed (irFront c 0xFD 0x00) [] ++ packet) out cap).1 ≠ 0 := by
  obtain ⟨he, hd⟩ := enters_whole hint hspace hfits hget hip out cap
  refine he.refused fun again live => ?_
  rw [hd, Frame.commit, if_pos (by exact hcap)]
  exact Frame.fail_ne_zero _

end ReceiveWhole

end Rohccxx
