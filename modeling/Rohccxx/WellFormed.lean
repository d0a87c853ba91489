import Rohccxx.OptionWords
import Rohccxx.Rebuild

/-!
# Well-formed output

What `rohc_decompress4` hands out is an IP packet whose length fields agree with its size, and an IPv4 packet it rebuilt
has a header checksum that adds up (`WellFormed`). The builders take care of this for every context within its bounds whose
IPv4 options are whole words; the options are as long as a legacy IR or an IR-DYN says, which the readers do not ask to be
whole words (`outputs_wellFormed`, `output_of_ragged_options`).
-/

set_option autoImplicit false

namespace Rohccxx

open Octets Reader Runs

/-! ## The checksum adds up -/

/-- The one's-complement sum of an octet string. -/
def onesSum (bs : Bytes) : UInt16 := (foldCarry (wordSum bs)).toUInt16

/-- One round of carries. -/
theorem toNat_carryRound (s : UInt32) :
    (if s >>> 16 ≠ 0 then (s &&& (0xFFFF : UInt32)) + (s >>> 16) else s).toNat =
      s.toNat % 65536 + s.toNat / 65536 := by
  have hs := s.toNat_lt
  have hand : (s &&& (0xFFFF : UInt32)).toNat = s.toNat % 65536 := by
    rw [UInt32.toNat_and]
    exact Nat.and_two_pow_sub_one_eq_mod s.toNat 16
  have hshift : (s >>> 16).toNat = s.toNat / 65536 := by
    rw [UInt32.toNat_shiftRight]
    exact Nat.shiftRight_eq_div_pow _ 16
  split
  · rw [UInt32.toNat_add, hand, hshift]
    omega
  · rename_i h
    rw [not_not] at h
    have := congrArg UInt32.toNat h
    rw [hshift] at this
    simp only [UInt32.reduceToNat] at this
    omega

/-- Folding the carries leaves the remainder modulo 0xFFFF, with 0xFFFF for the multiples that are not zero. -/
theorem toNat_foldCarry (s : UInt32) :
    (foldCarry s).toNat = if s.toNat = 0 then 0 else (s.toNat - 1) % 65535 + 1 := by
  have hs := s.toNat_lt
  unfold foldCarry
  dsimp only
  rw [toNat_carryRound, toNat_carryRound]
  split
  · omega
  · omega

theorem wordSum_append {front : Bytes} (h : front.length % 2 = 0) (rest : Bytes) :
    wordSum (front ++ rest) = wordSum front + wordSum rest := by
  induction front using wordSum.induct with
  | case1 => simp [wordSum]
  | case2 hi => simp at h
  | case3 hi lo front ih =>
    have he : front.length % 2 = 0 := by
      simp only [List.length_cons] at h
      omega
    simp only [List.cons_append, wordSum, ih he, UInt32.add_assoc]

/-- The sum of a header does not overflow. -/
theorem toNat_wordSum_le (bs : Bytes) (h : bs.length ≤ 1000) : (wordSum bs).toNat ≤ 65535 * bs.length := by
  induction bs using wordSum.induct with
  | case1 => simp [wordSum]
  | case2 hi =>
    have := (ofBe16 hi 0).toNat_lt
    simp only [wordSum, UInt16.toNat_toUInt32, List.length_cons, List.length_nil]
    omega
  | case3 hi lo rest ih =>
    have := (ofBe16 hi lo).toNat_lt
    simp only [List.length_cons] at h ⊢
    have := ih (by omega)
    simp only [wordSum, UInt32.toNat_add, UInt16.toNat_toUInt32]
    omega

theorem fillChecksum_append {front : Bytes} (hf : front.length = 10) (rest : Bytes) :
    fillChecksum (front ++ 0 :: 0 :: rest) =
      front ++ ((ipv4Checksum (front ++ 0 :: 0 :: rest) >>> 8).toUInt8 ::
        (ipv4Checksum (front ++ 0 :: 0 :: rest)).toUInt8 :: rest) := by
  unfold fillChecksum
  simp [hf]

/-- **A header with its checksum filled in adds up.** -/
theorem onesSum_fillChecksum {front rest : Bytes} (hf : front.length = 10) (hr : rest.length ≤ 900) :
    onesSum (fillChecksum (front ++ 0 :: 0 :: rest)) = 0xFFFF := by
  have hbound := toNat_wordSum_le (front ++ 0 :: 0 :: rest) (by simp; omega)
  generalize hsum : wordSum (front ++ 0 :: 0 :: rest) = s at hbound
  have hcheck : ipv4Checksum (front ++ 0 :: 0 :: rest) = ~~~(foldCarry s).toUInt16 := by rw [ipv4Checksum, hsum]
  rw [fillChecksum_append hf, hcheck]
  generalize hc : ~~~(foldCarry s).toUInt16 = checksum
  have hnew : wordSum (front ++ ((checksum >>> 8).toUInt8 :: checksum.toUInt8 :: rest)) = s + checksum.toUInt32 := by
    rw [← hsum, wordSum_append (by omega), wordSum_append (by omega)]
    simp only [wordSum, ofBe16_be16]
    have hz : (ofBe16 0 0).toUInt32 = 0 := by decide
    rw [hz, UInt32.zero_add, UInt32.add_comm checksum.toUInt32, UInt32.add_assoc]
  have hfold := toNat_foldCarry s
  have hlen : (front ++ 0 :: 0 :: rest).length ≤ 912 := by
    simp only [List.length_append, List.length_cons]
    omega
  have hcn : checksum.toNat = 65535 - (foldCarry s).toNat := by
    rw [← hc, UInt16.toNat_not, UInt32.toNat_toUInt16, hfold]
    simp only [UInt16.size]
    split <;> omega
  unfold onesSum
  rw [hnew]
  apply UInt16.toNat_inj.mp
  rw [UInt32.toNat_toUInt16, toNat_foldCarry, UInt32.toNat_add, UInt16.toNat_toUInt32, hcn, hfold]
  change _ = 65535
  by_cases h0 : s.toNat = 0
  · rw [if_pos h0, if_neg (by omega)]
    omega
  · have hmod := Nat.div_add_mod (s.toNat - 1) 65535
    have hlt := Nat.mod_lt (s.toNat - 1) (show 65535 > 0 by decide)
    rw [if_neg h0, if_neg (by omega)]
    generalize (s.toNat - 1) % 65535 = r at hmod hlt ⊢
    have hs : (s.toNat + (65535 - (r + 1))) % 2 ^ 32 - 1 = 65535 * ((s.toNat - 1) / 65535) + 65534 := by omega
    rw [hs, Nat.mul_add_mod]

/-! ## The builders -/

/-- What the decompressor may hand out: the length fields agree with the size, and an IPv4 header adds up. -/
def WellFormed (octets : Bytes) : Prop :=
  isUncompressedIpPayload octets = true ∧
    (u8At octets 0 >>> 4 = 4 → onesSum (octets.take ((u8At octets 0 &&& 0x0F).toNat * 4)) = 0xFFFF)

/-- The first octet of an IPv4 header of `n` words. -/
theorem versionIhl {n : Nat} (hn : n ≤ 15) :
    ((0x40 : UInt8) ||| UInt8.ofNat n) >>> 4 = 4 ∧ (((0x40 : UInt8) ||| UInt8.ofNat n) &&& 0x0F).toNat = n :=
  have key : ∀ i : Fin 16, ((0x40 : UInt8) ||| UInt8.ofNat i) >>> 4 = 4 ∧
      (((0x40 : UInt8) ||| UInt8.ofNat i) &&& 0x0F).toNat = i := by decide
  key ⟨n, by omega⟩

section Ipv4

variable {n total : Nat} {tos : UInt8} {six rest upper : Bytes} (hn : n ≤ 15) (hsix : six.length = 6)

/-- The octets of a header of `n` words, its checksum filled in. -/
def filledIpv4 (n total : Nat) (tos : UInt8) (six rest : Bytes) : Bytes :=
  fillChecksum ((((0x40 : UInt8) ||| UInt8.ofNat n) :: tos :: (be16 (UInt16.ofNat total) ++ six)) ++ 0 :: 0 :: rest)

include hn hsix

theorem isUncompressedIpPayload_filledIpv4 (h5 : 5 ≤ n) (hfit : n * 4 ≤ total) (htotal : total ≤ 0xFFFF)
    (hlen : 12 + rest.length + upper.length = total) :
    isUncompressedIpPayload (filledIpv4 n total tos six rest ++ upper) = true := by
  obtain ⟨hv, hi⟩ := versionIhl hn
  unfold filledIpv4
  rw [fillChecksum_append (by simp [hsix])]
  simp only [be16, List.cons_append, List.nil_append]
  generalize (0x40 : UInt8) ||| UInt8.ofNat n = b at hv hi
  unfold isUncompressedIpPayload
  have h16 : (UInt16.ofNat total).toNat = total := UInt16.toNat_ofNat_of_lt' (by
    change total < 65536
    omega)
  generalize UInt16.ofNat total = w at h16
  simp [u8At, u16At, hv, hi, ofBe16_be16, h16, hsix]
  omega

theorem wellFormed_filledIpv4 (hwords : 12 + rest.length = n * 4) (h5 : 5 ≤ n) (htotal : total ≤ 0xFFFF)
    (hlen : 12 + rest.length + upper.length = total) : WellFormed (filledIpv4 n total tos six rest ++ upper) := by
  refine ⟨isUncompressedIpPayload_filledIpv4 hn hsix h5 (by omega) htotal hlen, fun _ => ?_⟩
  have hfirst : u8At (filledIpv4 n total tos six rest ++ upper) 0 = (0x40 : UInt8) ||| UInt8.ofNat n := by
    unfold filledIpv4
    rw [fillChecksum_append (by simp [hsix])]
    rfl
  have hl : (filledIpv4 n total tos six rest).length = n * 4 := by
    unfold filledIpv4
    rw [length_fillChecksum]
    simp [hsix]
    omega
  rw [hfirst, (versionIhl hn).2, ← hl, List.take_left]
  exact onesSum_fillChecksum (by simp [hsix]) (by omega)

end Ipv4

/-- The IPv4 builder: the lengths always agree, and with whole words of options the header adds up. -/
theorem emitIpv4_spec {cap : Nat} {ctx : Context} {protocol : UInt8} {upper octets : Bytes} (hfit : ctx.Fits)
    (h : emitIpv4 cap ctx protocol upper = some octets) :
    isUncompressedIpPayload octets = true ∧ (ctx.ipv4OptionsLen % 4 = 0 → WellFormed octets) := by
  have hopt : ctx.ipv4OptionsLen ≤ 40 := hfit.options
  have hstored := length_stored ctx.ipv4Options hopt
  unfold emitIpv4 at h
  dsimp only at h
  obtain ⟨hroom, h⟩ := Option.ite_none_left_eq_some.mp h
  cases h
  have heq : ipv4Header ctx protocol (20 + ctx.ipv4OptionsLen + upper.length) =
      filledIpv4 ((20 + ctx.ipv4OptionsLen) / 4) (20 + ctx.ipv4OptionsLen + upper.length) ctx.ipv4Tos
        (be16 ctx.ipv4Id ++ [ctx.ipv4Flags <<< 5, 0, ctx.ipv4Ttl, protocol])
        (be32 ctx.ipv4Saddr ++ be32 ctx.ipv4Daddr ++ stored ctx.ipv4Options ctx.ipv4OptionsLen) := by
    simp only [ipv4Header, ipv4HeaderRaw, filledIpv4, List.cons_append, List.nil_append, List.append_assoc]
  have hrest : (be32 ctx.ipv4Saddr ++ be32 ctx.ipv4Daddr ++ stored ctx.ipv4Options ctx.ipv4OptionsLen).length =
      8 + ctx.ipv4OptionsLen := by
    simp only [List.length_append, length_be32, hstored]
  rw [heq]
  constructor
  · exact isUncompressedIpPayload_filledIpv4 (by omega) rfl (by omega) (by omega) (by omega) (by omega)
  · intro hwords
    exact wellFormed_filledIpv4 (by omega) rfl (by omega) (by omega) (by omega) (by omega)

/-- Version, traffic class and flow label start with a 6. -/
theorem versionOctet (tc : UInt8) (flow : UInt32) :
    (((0x60000000 : UInt32) ||| (tc.toUInt32 <<< 20) ||| (flow &&& 0x000FFFFF)) >>> 24).toUInt8 >>> 4 = 6 := by
  apply UInt8.toBitVec_inj.mp
  apply BitVec.eq_of_getLsbD_eq
  intro i hi
  simp only [UInt8.toBitVec_shiftRight, UInt32.toBitVec_toUInt8, UInt32.toBitVec_shiftRight, UInt32.toBitVec_or,
    UInt32.toBitVec_shiftLeft, UInt32.toBitVec_and]
  have : i = 0 ∨ i = 1 ∨ i = 2 ∨ i = 3 ∨ i = 4 ∨ i = 5 ∨ i = 6 ∨ i = 7 := by omega
  rcases this with rfl | rfl | rfl | rfl | rfl | rfl | rfl | rfl <;> simp

theorem emitIpv6_wellFormed {cap : Nat} {ctx : Context} {upper octets : Bytes} (hfit : ctx.Fits)
    (h : emitIpv6 cap ctx upper = some octets) : WellFormed octets := by
  have hext : ctx.ipv6ExtensionLen ≤ 128 := hfit.extensions
  unfold emitIpv6 at h
  dsimp only at h
  obtain ⟨hroom, h⟩ := Option.ite_none_left_eq_some.mp h
  cases h
  have hl := length_ipv6Header hext (ctx.ipv6ExtensionLen + upper.length)
  have hv := versionOctet ctx.ipv6TrafficClass ctx.ipv6FlowLabel
  have h16 : (UInt16.ofNat (ctx.ipv6ExtensionLen + upper.length)).toNat = ctx.ipv6ExtensionLen + upper.length :=
    UInt16.toNat_ofNat_of_lt' (by
      change _ < 65536
      omega)
  have hlen : (ipv6Header ctx (ctx.ipv6ExtensionLen + upper.length) ++ upper).length =
      40 + (ctx.ipv6ExtensionLen + upper.length) := by
    rw [List.length_append, hl]
    omega
  have h0 : u8At (ipv6Header ctx (ctx.ipv6ExtensionLen + upper.length) ++ upper) 0 >>> 4 = 6 := hv
  have h4 : u16At (ipv6Header ctx (ctx.ipv6ExtensionLen + upper.length) ++ upper) 4 =
      UInt16.ofNat (ctx.ipv6ExtensionLen + upper.length) := ofBe16_be16 _
  have hne : ipv6Header ctx (ctx.ipv6ExtensionLen + upper.length) ++ upper ≠ [] := by
    intro he
    rw [he, List.length_nil] at hlen
    omega
  constructor
  · unfold isUncompressedIpPayload
    dsimp only
    rw [if_neg hne, h0, if_neg (by decide), if_pos rfl, if_neg (by omega), h4, h16, hlen]
    simp only [decide_eq_true_eq]
    omega
  · rw [h0]
    intro h
    exact absurd h (by decide)

/-- One of the two IP builders made the packet. -/
inductive BuiltIp (cap : Nat) (ctx : Context) (octets : Bytes) : Prop where
  | v4 {protocol : UInt8} {upper : Bytes} (h : emitIpv4 cap ctx protocol upper = some octets)
  | v6 {upper : Bytes} (h : emitIpv6 cap ctx upper = some octets)

/-- A builder for each version. -/
theorem BuiltIp.of_ite {cap : Nat} {ctx : Context} {octets : Bytes} {a b : Option Bytes}
    (h : (if ctx.ipVersion = 6 then a else b) = some octets) (ha : a = some octets → BuiltIp cap ctx octets)
    (hb : b = some octets → BuiltIp cap ctx octets) : BuiltIp cap ctx octets := by
  split at h
  · exact ha h
  · exact hb h

/-- Every builder of the last block is one of the two IP builders. -/
theorem builtIp_of_rebuild {cap : Nat} {ctx : Context} {payload octets : Bytes}
    (h : Frame.rebuild cap ctx payload = some octets) : BuiltIp cap ctx octets := by
  unfold Frame.rebuild at h
  dsimp only at h
  split at h
  · exact .of_ite h .v6 .v4
  · exact .of_ite h .v6 .v4
  · split at h
    · exact .of_ite h .v6 .v4
    · unfold buildEspPacket at h
      dsimp only at h
      exact .of_ite (Option.ite_none_left_eq_some.mp h).2 .v6 .v4
  · exact .of_ite h .v6 .v4
  · refine .of_ite h (fun h => ?_) fun h => ?_
    · simp only [buildIpv6RtpPacket, Option.bind_eq_bind, Option.bind_eq_some_iff] at h
      obtain ⟨_, -, h⟩ := h
      exact .v6 h
    · simp only [buildRtpPacket, Option.bind_eq_bind, Option.bind_eq_some_iff] at h
      obtain ⟨_, -, h⟩ := h
      exact .v4 h

theorem rebuild_spec {cap : Nat} {ctx : Context} {payload octets : Bytes} (hfit : ctx.Fits)
    (h : Frame.rebuild cap ctx payload = some octets) :
    isUncompressedIpPayload octets = true ∧ (ctx.ipv4OptionsLen % 4 = 0 → WellFormed octets) := by
  cases builtIp_of_rebuild h with
  | v4 h => exact emitIpv4_spec hfit h
  | v6 h => exact ⟨(emitIpv6_wellFormed hfit h).1, fun _ => emitIpv6_wellFormed hfit h⟩

/-! ### The fixed headers -/

/-- A fixed header with what it was made for behind it. -/
theorem fixedIpv4Header_wellFormed (ctx : Context) (protocol : UInt8) {total : Nat} {transport payload : Bytes}
    (hlen : 20 + transport.length + payload.length = total) (htotal : total ≤ 0xFFFF) :
    WellFormed (fixedIpv4Header ctx protocol total transport ++ payload) := by
  have heq : fixedIpv4Header ctx protocol total transport =
      filledIpv4 5 total ctx.ipv4Tos (be16 ctx.ipv4Id ++ [ctx.ipv4Flags <<< 5, 0, ctx.ipv4Ttl, protocol])
        (be32 ctx.ipv4Saddr ++ be32 ctx.ipv4Daddr) ++ transport := by
    have hb : (0x40 : UInt8) ||| UInt8.ofNat 5 = 0x45 := by decide
    simp only [fixedIpv4Header, filledIpv4, hb, List.cons_append, List.nil_append, List.append_assoc]
  rw [heq, List.append_assoc]
  exact wellFormed_filledIpv4 (by decide) rfl rfl (by decide) htotal (by
    simp only [List.length_append, length_be32]
    omega)

section Fixed

variable {ctx : Context} {header payload : Bytes}

theorem buildFixedRtpIpv4Header_wellFormed (h : buildFixedRtpIpv4Header ctx payload.length = some header) :
    WellFormed (header ++ payload) := by
  unfold buildFixedRtpIpv4Header at h
  obtain ⟨hok, h⟩ := Option.ite_none_left_eq_some.mp h
  cases h
  refine fixedIpv4Header_wellFormed ctx 17 ?_ (by omega)
  simp only [List.length_append, length_udpHeader, length_be16, length_be32, List.length_cons, List.length_nil]

theorem buildFixedUdpIpv4Header_wellFormed (h : buildFixedUdpIpv4Header ctx payload.length = some header) :
    WellFormed (header ++ payload) := by
  unfold buildFixedUdpIpv4Header at h
  obtain ⟨hok, h⟩ := Option.ite_none_left_eq_some.mp h
  cases h
  exact fixedIpv4Header_wellFormed ctx 17 (by rw [length_udpHeader]) (by omega)

theorem buildFixedEspIpv4Header_wellFormed (h : buildFixedEspIpv4Header ctx payload.length = some header) :
    WellFormed (header ++ payload) := by
  unfold buildFixedEspIpv4Header at h
  obtain ⟨hok, h⟩ := Option.ite_none_left_eq_some.mp h
  cases h
  refine fixedIpv4Header_wellFormed ctx 50 ?_ (by omega)
  simp only [List.length_append, length_be32]

theorem buildFixedIpIpv4Header_wellFormed (h : buildFixedIpIpv4Header ctx payload.length = some header) :
    WellFormed (header ++ payload) := by
  unfold buildFixedIpIpv4Header at h
  obtain ⟨hok, h⟩ := Option.ite_none_left_eq_some.mp h
  cases h
  exact fixedIpv4Header_wellFormed ctx ctx.ipv4Protocol rfl (by omega)

end Fixed

/-! ## What a unit hands out -/

namespace Frame

variable {f : Frame} {live : Live}

/-- Where a packet that is handed out comes from, given the context it left. -/
inductive Source (ctx : Context) (octets : Bytes) : Prop where
  | whole (profile : ctx.profile = .uncompressed) (h : isUncompressedIpPayload octets = true)
  | fixedHeader (h : WellFormed octets)
  | rebuilt {cap : Nat} {payload : Bytes} (h : rebuild cap ctx payload = some octets)

/-- A return of 0 hands out a packet with a source. -/
def Makes (f : Frame) (live : Live) (ret : Return) : Prop :=
  ret.1 = 0 → ∃ ctx octets, Source ctx octets ∧ Delivered live f.cid ctx octets ret

/-- Every answer of a block does. -/
def BlockMakes (f : Frame) (live : Live) (block : Option Return) : Prop := ∀ ret, block = some ret → f.Makes live ret

theorem BlockMakes.none : f.BlockMakes live none := fun _ h => nomatch h

theorem BlockMakes.some {ret : Return} (h : f.Makes live ret) : f.BlockMakes live (some ret) :=
  fun _ e => Option.some.inj e ▸ h

theorem BlockMakes.getD {block : Option Return} {rest : Return} (h : f.BlockMakes live block)
    (hrest : f.Makes live rest) : f.Makes live (block.getD rest) := by
  cases block with
  | none => exact hrest
  | some ret => exact h ret rfl

theorem fail_makes : f.Makes live (f.fail live) := fun h => absurd h (fail_ne_zero live)

theorem failDecode_makes {live' : Live} : f.Makes live (f.failDecode live') := fun h => absurd h (failDecode_ne_zero live')

theorem commit_makes {ctx : Context} {octets : Bytes} (h : Source ctx octets) : f.Makes live (f.commit live ctx octets) :=
  fun h0 => ⟨ctx, octets, h, (commit_zero h0).2⟩

/-- A reading with one of the fixed headers. -/
theorem commitReading_makes {r : Reading} (h : WellFormed (r.header ++ r.payload)) :
    f.Makes live (f.commitReading live r) := commit_makes (.fixedHeader h)

theorem commitOnly_makes {reading : Option Reading}
    (h : ∀ r, reading = some r → WellFormed (r.header ++ r.payload)) : f.Makes live (f.commitOnly live reading) := by
  cases reading with
  | none => exact fail_makes
  | some r => exact commitReading_makes (h r rfl)

theorem normalPacket_makes (hreg : f.Regular) : f.BlockMakes live (f.normalPacket live) := by
  unfold normalPacket
  split
  · rename_i hg
    split
    · exact .some fail_makes
    · refine .some fun h0 => ⟨_, _, .whole ?_ ?_, (deliver_zero h0).2⟩
      · obtain ⟨mode, hctx⟩ := hreg.ctx
        rw [hctx]
        exact hg.2.2
      · have hne : detectPacketType (u8At f.packet 0) ≠ .uncompressed :=
          forall_octet (P := fun b => detectPacketType b ≠ .uncompressed) (by decide) _
        have htype := hreg.type.symm.trans hg.1
        unfold packetTypeOf at htype
        by_contra hn
        rw [if_neg hn] at htype
        exact hne htype
  · exact .none

theorem uncompressedIr_makes : f.BlockMakes live (f.uncompressedIr live) := by
  unfold uncompressedIr
  split
  · dsimp only
    split
    · exact .some fail_makes
    · split
      · exact .some fail_makes
      · rename_i hok
        simp only [not_or, Bool.not_eq_true', Bool.not_eq_false] at hok
        exact .some (commit_makes (.whole rfl hok.2.1))
  · exact .none

/-! ### The readings -/

section Readings

variable {r : Reading}

theorem rtpPt0Crc7Reading_wellFormed (h : f.rtpPt0Crc7Reading = some r) : WellFormed (r.header ++ r.payload) := by
  unfold rtpPt0Crc7Reading at h
  split at h
  · cases h
  · simp only [Option.bind_eq_bind, Option.bind_eq_some_iff, Option.ite_none_right_eq_some] at h
    obtain ⟨_, -, _, -, _, -, _, hb, -, h⟩ := h
    cases h
    exact buildFixedRtpIpv4Header_wellFormed hb

theorem espPt0Crc7Reading_wellFormed (h : f.espPt0Crc7Reading = some r) : WellFormed (r.header ++ r.payload) := by
  simp only [espPt0Crc7Reading, Option.bind_eq_bind, Option.bind_eq_some_iff, Option.ite_none_right_eq_some] at h
  obtain ⟨_, -, _, -, _, -, _, hb, -, h⟩ := h
  cases h
  exact buildFixedEspIpv4Header_wellFormed hb

/-- The checksum of a compact unit does not change the profile. -/
theorem readCompactUdpCheck_profile {ctx ctx' : Context} {packet : Bytes} {n m : Nat}
    (h : readCompactUdpCheck ctx packet n = some (ctx', m)) : ctx'.profile = ctx.profile := by
  unfold readCompactUdpCheck at h
  split at h
  · split at h
    · cases h
    · cases h
      rfl
  · cases h
    rfl

theorem pt1SeqIdReading_wellFormed
    (hprofile : f.before.profile = .udp ∨ f.before.profile = .esp ∨ f.before.profile = .ip)
    (h : f.pt1SeqIdReading = some r) : WellFormed (r.header ++ r.payload) := by
  simp only [pt1SeqIdReading, Option.bind_eq_bind, Option.bind_eq_some_iff, Option.ite_none_right_eq_some] at h
  obtain ⟨_, -, _, -, _, -, ⟨ctx, n⟩, hc, _, -, _, hb, -, h⟩ := h
  cases h
  have hp : ctx.profile = f.before.profile := (readCompactUdpCheck_profile hc).trans rfl
  dsimp only [buildFixedNonRtpHeader] at hb
  rcases hprofile with e | e | e
  · rw [hp, e] at hb
    exact buildFixedUdpIpv4Header_wellFormed hb
  · rw [hp, e] at hb
    exact buildFixedEspIpv4Header_wellFormed hb
  · rw [hp, e] at hb
    exact buildFixedIpIpv4Header_wellFormed hb

theorem udpPt0Reading_wellFormed (h : f.udpPt0Reading = some r) : WellFormed (r.header ++ r.payload) := by
  simp only [udpPt0Reading, Option.bind_eq_bind, Option.bind_eq_some_iff] at h
  obtain ⟨⟨msn, crc⟩, -, h⟩ := h
  dsimp only at h
  obtain ⟨-, h⟩ := Option.ite_none_left_eq_some.mp h
  simp only [Option.bind_eq_some_iff, Option.ite_none_right_eq_some] at h
  obtain ⟨_, -, _, -, _, hb, -, h⟩ := h
  cases h
  exact buildFixedUdpIpv4Header_wellFormed hb

theorem checkedPrivateUdp_wellFormed {ctx : Context} {n : Nat} (h : f.checkedPrivateUdp ctx n = some r) :
    WellFormed (r.header ++ r.payload) := by
  simp only [checkedPrivateUdp, Option.bind_eq_bind, Option.bind_eq_some_iff, Option.ite_none_right_eq_some] at h
  obtain ⟨_, -, _, hb, -, h⟩ := h
  cases h
  exact buildFixedUdpIpv4Header_wellFormed hb

theorem espPt0Reading_wellFormed {first : UInt8} (h : f.espPt0Reading first = some r) :
    WellFormed (r.header ++ r.payload) := by
  unfold espPt0Reading at h
  split at h
  · cases h
  · simp only [Option.bind_eq_bind, Option.bind_eq_some_iff, Option.ite_none_right_eq_some] at h
    obtain ⟨_, -, _, -, _, hb, -, h⟩ := h
    cases h
    exact buildFixedEspIpv4Header_wellFormed hb

theorem ipPt0Reading_wellFormed (h : f.ipPt0Reading = some r) : WellFormed (r.header ++ r.payload) := by
  simp only [ipPt0Reading, Option.bind_eq_bind, Option.bind_eq_some_iff, Option.ite_none_right_eq_some] at h
  obtain ⟨_, -, _, -, _, hb, -, h⟩ := h
  cases h
  exact buildFixedIpIpv4Header_wellFormed hb

theorem rtpPt0Reading_wellFormed (h : f.rtpPt0Reading = some r) : WellFormed (r.header ++ r.payload) := by
  unfold rtpPt0Reading at h
  split at h
  · cases h
  · simp only [Option.bind_eq_bind, Option.bind_eq_some_iff, Option.ite_none_right_eq_some] at h
    obtain ⟨_, -, _, -, _, hb, -, h⟩ := h
    cases h
    exact buildFixedRtpIpv4Header_wellFormed hb

end Readings

/-! ### The blocks -/

theorem rtpPt0Crc7_makes : f.BlockMakes live (f.rtpPt0Crc7 live) := by
  unfold rtpPt0Crc7
  split
  · exact .some (commitOnly_makes fun _ => rtpPt0Crc7Reading_wellFormed)
  · exact .none

theorem espPt0Crc7_makes : f.BlockMakes live (f.espPt0Crc7 live) := by
  unfold espPt0Crc7
  split
  · exact .some (commitOnly_makes fun _ => espPt0Crc7Reading_wellFormed)
  · exact .none

theorem pt1SeqId_makes : f.BlockMakes live (f.pt1SeqId live) := by
  unfold pt1SeqId
  split
  · rename_i hg
    exact .some (commitOnly_makes fun _ => pt1SeqIdReading_wellFormed hg.2.2.2.1)
  · exact .none

theorem udpPt0Crc3_makes : f.BlockMakes live (f.udpPt0Crc3 live) := by
  unfold udpPt0Crc3
  split
  · split
    · rename_i r hr _
      split
      · exact .some fail_makes
      · exact .some (commitReading_makes (udpPt0Reading_wellFormed hr))
    · rename_i r ctx headerLen hr _
      split
      · exact .some fail_makes
      · split
        · rename_i p hc _
          exact .some (commitReading_makes (checkedPrivateUdp_wellFormed hc))
        · exact .some (commitReading_makes (udpPt0Reading_wellFormed hr))
        · exact .some fail_makes
    · exact .some fail_makes
    · exact .none
  · exact .none

theorem espPt0Crc3_makes : f.BlockMakes live (f.espPt0Crc3 live) := by
  unfold espPt0Crc3
  split
  · dsimp only
    split
    · exact .some fail_makes
    · split
      · exact .some fail_makes
      · split
        · rename_i r hr
          exact .some (commitReading_makes (espPt0Reading_wellFormed hr))
        · split
          · exact .none
          · exact .some fail_makes
  · exact .none

theorem ipPt0Crc3_makes : f.BlockMakes live (f.ipPt0Crc3 live) := by
  unfold ipPt0Crc3
  split
  · dsimp only
    split
    · rename_i r hr
      split
      · exact .some fail_makes
      · exact .some (commitReading_makes (ipPt0Reading_wellFormed hr))
    · split
      · exact .none
      · exact .some fail_makes
  · exact .none

theorem rtpPt0Crc3_makes (type : RohcPacketType) : f.BlockMakes live (f.rtpPt0Crc3 type live) := by
  unfold rtpPt0Crc3
  split
  · split
    · exact .some fail_makes
    · rename_i r hr _
      exact .some (commitReading_makes (rtpPt0Reading_wellFormed hr))
    · exact .none
    · exact .some fail_makes
  · exact .none

theorem decodeInPlace_makes (type : RohcPacketType) (preferPrivate : Bool) :
    f.Makes live (f.decodeInPlace type preferPrivate live) := by
  unfold decodeInPlace
  split
  · exact failDecode_makes
  · rename_i d _
    unfold finishUnit
    dsimp only
    split
    · exact failDecode_makes
    · split
      · exact failDecode_makes
      · rename_i octets hbuild
        split
        · exact failDecode_makes
        · exact fun h0 => ⟨d.ctx, octets, .rebuilt hbuild, (finish_zero h0).2⟩

/-- **Every unit that is accepted hands out a packet with a source**, the last segment of another unit apart. -/
theorem decode_makes (hreg : f.Regular) (htype : f.parsed.type ≠ .segment) (again : Live → Bytes → Return) :
    f.Makes live (f.decode again live) := by
  unfold decode
  refine (normalPacket_makes hreg).getD ?_
  refine uncompressedIr_makes.getD ?_
  refine rtpPt0Crc7_makes.getD ?_
  refine espPt0Crc7_makes.getD ?_
  refine pt1SeqId_makes.getD ?_
  refine udpPt0Crc3_makes.getD ?_
  refine espPt0Crc3_makes.getD ?_
  refine ipPt0Crc3_makes.getD ?_
  refine (rtpPt0Crc3_makes _).getD ?_
  refine BlockMakes.getD (fun _ h h0 => absurd h0 (conflictingMeanings_ne_zero h)) ?_
  refine BlockMakes.getD (fun _ h h0 => absurd h0 (feedbackUnit_ne_zero h)) ?_
  refine BlockMakes.getD (fun ret h h0 => ?_) (decodeInPlace_makes _ _)
  have hlast : f.lastType = .segment := (segmentUnit_zero h h0).1
  rcases f.lastType_eq with e | e
  · rw [e] at hlast
    cases hlast
  · exact absurd (e.symm.trans hlast) htype

end Frame

/-! ## Runs -/

/-- The packet a call hands out, its source and the context it left. By induction on the segments. -/
theorem decompressNested_source {fuel : Nat} {live : Live} {input : Bytes}
    (h : (decompressNested fuel live input).1 = 0) :
    ∃ unit f mid ctx octets, decodes fuel live input = some (unit, f, mid) ∧ Frame.Source ctx octets ∧
      Delivered (mid.setCtx f.cid f.ctx) f.cid ctx octets (decompressNested fuel live input) := by
  induction fuel generalizing live input with
  | zero => cases h
  | succ fuel ih =>
    obtain ⟨unit, f, henter, e⟩ := decompressCall_zero h
    rw [decompressNested] at h ⊢
    rw [e] at h ⊢
    have hreg := (enter_meets henter).regular
    by_cases ht : f.parsed.type = .segment
    · have ea := (Frame.decode_zero hreg h).resolve_left fun hn => hn.1 ht
      rw [ea.2] at h ⊢
      obtain ⟨unit', f', mid, ctx, octets, hd, hsource, hdel⟩ := ih h
      refine ⟨unit', f', mid, ctx, octets, ?_, hsource, hdel⟩
      simp only [decodes, henter, Option.bind_eq_bind, Option.bind_some, if_pos ht]
      exact hd
    · obtain ⟨ctx, octets, hsource, hdel⟩ := Frame.decode_makes hreg ht _ h
      refine ⟨unit, f, live.clearFeedback, ctx, octets, ?_, hsource, hdel⟩
      simp only [decodes, henter, Option.bind_eq_bind, Option.bind_some, if_neg ht, Option.pure_def]

/-- What `rohc_decompress4` hands out, and the context that is left for it. -/
theorem rohcDecompress4_source {decomp : Decompressor} {input out : Bytes} {cap : Nat}
    (h : (rohcDecompress4 decomp input out cap).1 = 0) :
    ∃ a, accepted decomp input out cap = some a ∧
      (rohcDecompress4 decomp input out cap).2.handle.contexts.get a.cid = some a.ctx ∧
      Frame.Source a.ctx ((rohcDecompress4 decomp input out cap).2.out.take
        (rohcDecompress4 decomp input out cap).2.outLen) := by
  obtain ⟨unit, f, mid, ctx, octets, d, hget, hacc⟩ := accepted_of_zero h
  obtain ⟨unit', f', mid', ctx', octets', hd, hsource, hdel⟩ := decompressNested_source h
  have he : some (unit, f, mid) = some (unit', f', mid') := d.decoded.symm.trans hd
  cases he
  have hctx : ctx' = ctx := by
    have hlive : (mid.handle.contexts.get f.cid).isSome := by rw [d.meets.context]; rfl
    have hget' := hdel.of_setCtx.contexts
    rw [rohcDecompress4, hget', ContextTable.get_set_self hlive] at hget
    exact Option.some.inj hget
  refine ⟨_, hacc, hget, ?_⟩
  have hout : (rohcDecompress4 decomp input out cap).2.out.take (rohcDecompress4 decomp input out cap).2.outLen = octets' :=
    hdel.output
  rw [hout]
  exact hctx ▸ hsource

/-- What is said of a packet that is handed out: the lengths agree, and an IPv4 header that was rebuilt adds up. -/
structure GoodOutput (ctx : Context) (octets : Bytes) : Prop where
  isIp : isUncompressedIpPayload octets = true
  sum : ctx.profile ≠ .uncompressed → u8At octets 0 >>> 4 = 4 →
    onesSum (octets.take ((u8At octets 0 &&& 0x0F).toNat * 4)) = 0xFFFF

theorem Frame.Source.goodOutput {ctx : Context} {octets : Bytes} (hfit : ctx.Fits) (hw : ctx.WholeWords)
    (h : Source ctx octets) : GoodOutput ctx octets := by
  cases h with
  | whole profile h => exact ⟨h, fun hne => absurd profile hne⟩
  | fixedHeader h => exact ⟨h.1, fun _ => h.2⟩
  | rebuilt h =>
    have hgood := (rebuild_spec hfit h).2 hw
    exact ⟨hgood.1, fun _ => hgood.2⟩

/-- The lengths agree in every run, whatever the options are. -/
theorem outputs_areIp {ok : DecompHandle → DecompCall → Prop} {maxCid : Nat} {handle : DecompHandle}
    {labels : List (DecompCall × Option Acceptance)} (run : Reaches (decompMachine.Step ok) (.fresh maxCid) labels handle)
    {input out : Bytes} {cap : Nat} (h : (rohcDecompress4 handle.core input out cap).1 = 0) :
    isUncompressedIpPayload ((rohcDecompress4 handle.core input out cap).2.out.take
      (rohcDecompress4 handle.core input out cap).2.outLen) = true := by
  obtain ⟨a, -, hget, hsource⟩ := rohcDecompress4_source h
  have hfit : (handle.call (.decompress input out cap)).core.contexts.All Context.Fits :=
    fits_callKeeps.call (fun _ _ hb hctx hacc => hacc.fits hb hctx) (decomp_fits run)
  cases hsource with
  | whole _ h => exact h
  | fixedHeader h => exact h.1
  | rebuilt h => exact (rebuild_spec (hfit a.cid a.ctx hget) h).1

/-- **Every packet that is handed out is well formed**, in every run in which all IPv4 options are whole words. -/
theorem outputs_wellFormed {maxCid : Nat} {handle : DecompHandle} {labels : List (DecompCall × Option Acceptance)}
    (run : Reaches (decompMachine.Step DecompHandle.OptionsWhole) (.fresh maxCid) labels handle)
    {input out : Bytes} {cap : Nat} (hwhole : handle.OptionsWhole (.decompress input out cap))
    (h : (rohcDecompress4 handle.core input out cap).1 = 0) :
    ∃ a, handle.accepts (.decompress input out cap) = some a ∧
      GoodOutput a.ctx ((rohcDecompress4 handle.core input out cap).2.out.take
        (rohcDecompress4 handle.core input out cap).2.outLen) := by
  obtain ⟨a, hacc, hget, hsource⟩ := rohcDecompress4_source h
  have hfit : (handle.call (.decompress input out cap)).core.contexts.All Context.Fits :=
    fits_callKeeps.call (fun _ _ hb hctx hacc => hacc.fits hb hctx) (decomp_fits run)
  have hwords : (handle.call (.decompress input out cap)).core.contexts.All Context.WholeWords :=
    wholeWords_callKeeps.call (fun hf _ hb hctx hacc => hacc.wholeWords (hwhole _ hf) hb hctx) (decomp_wholeWords run)
  exact ⟨a, hacc, hsource.goodOutput (hfit a.cid a.ctx hget) (hwords a.cid a.ctx hget)⟩

/-- Two IRs with four octets of options, one after the other. -/
theorem outputs_wellFormed_options :
    ∃ a, (decompMachine.after (.fresh 15) [receive optionsIrUnit]).accepts (.decompress optionsIrUnit [] 100) = some a ∧
      GoodOutput a.ctx ((rohcDecompress4 (decompMachine.after (.fresh 15) [receive optionsIrUnit]).core
        optionsIrUnit [] 100).2.out.take (rohcDecompress4 (decompMachine.after (.fresh 15)
          [receive optionsIrUnit]).core optionsIrUnit [] 100).2.outLen) :=
  outputs_wellFormed (Machine.reaches_trace (show decompMachine.Allowed DecompHandle.OptionsWhole (.fresh 15)
    [receive optionsIrUnit] from ⟨by decide +kernel, trivial⟩)) (by decide +kernel) (by decide +kernel)

/-- An IR of an IP-only flow with three octets of IPv4 options. -/
def raggedIrUnit : Bytes := [0xFD, 0x04, 39, 0x40, 59, 0, 0, 0, 1, 0, 0, 0, 2, 0, 64, 0, 1, 0, 0x43, 1, 1, 1, 0x04, 7]

/-- It is accepted by a fresh decompressor, and the header of the packet does not add up. -/
theorem output_of_ragged_options :
    ¬∀ {maxCid : Nat} {handle : DecompHandle} {labels : List (DecompCall × Option Acceptance)},
      Reaches (decompMachine.Step fun _ _ => True) (.fresh maxCid) labels handle →
      ∀ (input out : Bytes) (cap : Nat), (rohcDecompress4 handle.core input out cap).1 = 0 →
        ∃ a, handle.accepts (.decompress input out cap) = some a ∧
          GoodOutput a.ctx ((rohcDecompress4 handle.core input out cap).2.out.take
            (rohcDecompress4 handle.core input out cap).2.outLen) := by
  intro h
  obtain ⟨a, hacc, hgood⟩ := @h 15 _ _ .start raggedIrUnit [] 100 (by decide +kernel)
  have hprofile : (DecompHandle.accepts (.fresh 15) (.decompress raggedIrUnit [] 100)).map (·.ctx.profile) =
      some .ip := by decide +kernel
  rw [hacc, Option.map_some, Option.some.injEq] at hprofile
  have hsum := hgood.sum (by rw [hprofile]; decide) (by decide +kernel)
  revert hsum
  decide +kernel

end Rohccxx
