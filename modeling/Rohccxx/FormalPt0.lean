import Rohccxx.FormalUnits

/-!
# The PT-0 codec

`core/formal_co.hpp` has a second codec for the two PT-0 formats, written with shifts and masks where `emit_formal_co`
and `decode_formal_co` go through a table of layouts.

* The emitters write the same octets (`emitFormalCoPt0_eq`).
* A decoder's answer is the prefix it read and one of two formats (`decodeFormalCo_pt0Crc3`, `decodeFormalCo_pt0Crc7`,
  `decodeFormalCoPt0_eq_some`); the prefixes differ in an Add-CID octet that holds CID 0 (`readFormalPrefix_eq_some`).
* PT-0-CRC7 refuses such an octet and PT-0-CRC3 does not, which is all that keeps the decoders apart
  (`pt0_codecs_agree_iff`).
-/

set_option autoImplicit false

namespace Rohccxx

open Octets

/-! ## Definitions -/

def formalCoPt0BaseLen (variant : FormalCoVariant) : Nat := if variant = .pt0Crc3 then 1 else 2

/-- The first octet of a PT-0 and the one behind the CID, if there is one. -/
def formalCoPt0Octets (profile : Profile) (variant : FormalCoVariant) (msn : UInt16) (crc : UInt8) : UInt8 × Bytes :=
  if variant = .pt0Crc3 then ((((msn &&& 0x0F) <<< 3) ||| (crc &&& 0x07).toUInt16).toUInt8, [])
  else if isRtpFormalCoProfile profile then
    let msnLsb := (msn &&& 0x1F).toUInt8
    ((0x80 : UInt8) ||| ((msnLsb >>> 1) &&& 0x0F), [((msnLsb &&& 0x01) <<< 7) ||| (crc &&& 0x7F)])
  else
    let msnLsb := (msn &&& 0x3F).toUInt8
    ((0x80 : UInt8) ||| ((msnLsb >>> 1) &&& 0x1F), [((msnLsb &&& 0x01) <<< 7) ||| (crc &&& 0x7F)])

/-- `emit_formal_co_pt0` -/
def emitFormalCoPt0 (cap : Nat) (profile : Profile) (variant : FormalCoVariant) (cidValue : Nat) (largeCidSpace : Bool)
    (msn : UInt16) (crcInput : Bytes) : Option Bytes :=
  if !isSupportedFormalCoProfile profile ∨ !Cid.isValidForSpace cidValue largeCidSpace then none
  else
    let addCid := !largeCidSpace && cidValue > 0
    let cidLen := if largeCidSpace then Cid.encodedLen cidValue else 0
    let requiredLen := (if addCid then 1 else 0) + 1 + cidLen + (formalCoPt0BaseLen variant - 1)
    if cap < requiredLen then none
    else
      let octets := formalCoPt0Octets profile variant msn (formalCoHeaderCrc variant crcInput)
      some (frameFormalCo cidValue largeCidSpace octets.1 octets.2)

/-- The head of `decode_formal_co_pt0`: as `readFormalPrefix`, but an Add-CID octet may hold CID 0. The flag says
whether there was one. -/
def readFormalPt0Prefix (input : Bytes) (largeCidSpace : Bool) : Option (FormalPrefix × Bool) :=
  if input.length = 0 then none
  else if !largeCidSpace && u8At input 0 &&& 0xF0 == 0xE0 then
    if input.length < 2 then none else some (⟨(u8At input 0 &&& 0x0F).toNat, u8At input 1, 0, 2⟩, true)
  else if largeCidSpace then
    match Cid.readLarge (input.drop 1) with
    | some (cid, cidLen) => some (⟨cid, u8At input 0, cidLen, 1 + cidLen⟩, false)
    | none => none
  else some (⟨0, u8At input 0, 0, 1⟩, false)

/-- The MSN bits of a PT-0-CRC7: those behind the tag of the first octet, and the highest bit of the second. -/
def pt0Crc7Msn (mask first tail : UInt8) : UInt16 := (((first &&& mask) <<< 1) ||| ((tail >>> 7) &&& 0x01)).toUInt16

/-- `decode_formal_co_pt0`, with the position it stops at. -/
def decodeFormalCoPt0 (input : Bytes) (profile : Profile) (largeCidSpace : Bool) (crcInput : Bytes)
    (wantConsumed : Bool) : Option (FormalCoPacket × Nat) :=
  if !isSupportedFormalCoProfile profile then none
  else do
    let (head, hasAddCid) ← readFormalPt0Prefix input largeCidSpace
    let packet : FormalCoPacket :=
      { profile := profile, cid := head.cid, largeCid := largeCidSpace, cidLen := head.cidLen }
    if head.first &&& 0x80 = 0 then
      guard (head.first &&& 0x07 = formalCoHeaderCrc .pt0Crc3 crcInput)
      guard (wantConsumed ∨ head.pos = input.length)
      return ({ packet with variant := .pt0Crc3, msn := ((head.first >>> 3) &&& 0x0F).toUInt16,
                            headerCrc := head.first &&& 0x07 }, head.pos)
    else
      guard (head.pos < input.length)
      let tail := u8At input head.pos
      let rtp := isRtpFormalCoProfile profile
      guard (if rtp then head.first &&& 0xF0 = 0x80 else head.first &&& 0xE0 = 0x80)
      guard (tail &&& 0x7F = formalCoHeaderCrc .pt0Crc7 crcInput)
      -- The branch above has no such check.
      guard (¬ (hasAddCid ∧ head.cid = 0))
      guard (wantConsumed ∨ head.pos + 1 = input.length)
      return ({ packet with variant := .pt0Crc7,
                            msn := pt0Crc7Msn (if rtp then 0x0F else 0x1F) head.first tail,
                            headerCrc := tail &&& 0x7F }, head.pos + 1)

/-! ## Base headers of one and two octets -/

section Base

variable {profile : Profile}

theorem bitAt_cons (b : UInt8) (rest : Bytes) (i : Nat) : bitAt (b :: rest) (8 + i) = bitAt rest i := by
  have hdiv : (8 + i) / 8 = i / 8 + 1 := by omega
  have hmod : (8 + i) % 8 = i % 8 := by omega
  simp only [bitAt, hdiv, hmod, List.getD_cons_succ]

/-- Bits behind the first octet. -/
theorem readBits_cons (b : UInt8) (rest : Bytes) (i n : Nat) : readBits (b :: rest) (8 + i) n = readBits rest i n := by
  induction n with
  | zero => rfl
  | succ n ih => rw [readBits, readBits, ih, Nat.add_assoc, bitAt_cons]

/-- The bit fields of one octet as shifts and masks. -/
theorem readBits_octet (b : UInt8) :
    readBits [b] 0 1 = (b >>> 7).toNat ∧ readBits [b] 1 4 = ((b >>> 3) &&& 0x0F).toNat ∧
      readBits [b] 5 3 = (b &&& 0x07).toNat ∧ readBits [b] 0 4 = (b >>> 4).toNat ∧ readBits [b] 0 3 = (b >>> 5).toNat ∧
      readBits [b] 4 4 = (b &&& 0x0F).toNat ∧ readBits [b] 3 5 = (b &&& 0x1F).toNat ∧
      readBits [b] 1 7 = (b &&& 0x7F).toNat ∧ (bitAt [b] 0).toNat = (b >>> 7).toNat :=
  forall_octet (P := fun b => readBits [b] 0 1 = (b >>> 7).toNat ∧ readBits [b] 1 4 = ((b >>> 3) &&& 0x0F).toNat ∧
    readBits [b] 5 3 = (b &&& 0x07).toNat ∧ readBits [b] 0 4 = (b >>> 4).toNat ∧ readBits [b] 0 3 = (b >>> 5).toNat ∧
    readBits [b] 4 4 = (b &&& 0x0F).toNat ∧ readBits [b] 3 5 = (b &&& 0x1F).toNat ∧
    readBits [b] 1 7 = (b &&& 0x7F).toNat ∧ (bitAt [b] 0).toNat = (b >>> 7).toNat) (by decide) b

/-- Bits that run from the first octet into the highest bit of the second. -/
theorem readBits_across (b t : UInt8) {i n : Nat} (h : i + n = 8) :
    readBits [b, t] i (n + 1) = readBits [b] i n * 2 + (t >>> 7).toNat := by
  have hfront : readBits ([b] ++ [t]) i n = readBits [b] i n := readBits_append (by simp [h])
  have hbit : bitAt [b, t] (8 + 0) = bitAt [t] 0 := bitAt_cons b [t] 0
  rw [readBits, h, hbit, (readBits_octet t).2.2.2.2.2.2.2.2]
  exact congrArg (· * 2 + (t >>> 7).toNat) hfront

/-- The MSN of a PT-0-CRC7 in both spellings. -/
theorem pt0Crc7Msn_eq (b t : UInt8) :
    UInt16.ofNat ((b &&& 0x0F).toNat * 2 + (t >>> 7).toNat) = pt0Crc7Msn 0x0F b t ∧
      UInt16.ofNat ((b &&& 0x1F).toNat * 2 + (t >>> 7).toNat) = pt0Crc7Msn 0x1F b t := by
  have hbit : (t >>> 7) = 0 ∨ (t >>> 7) = 1 :=
    forall_octet (P := fun t => (t >>> 7) = 0 ∨ (t >>> 7) = 1) (by decide) t
  unfold pt0Crc7Msn
  rcases hbit with h | h <;> rw [h]
  · exact forall_octet (P := fun b => UInt16.ofNat ((b &&& 0x0F).toNat * 2 + (0 : UInt8).toNat) =
      (((b &&& 0x0F) <<< 1) ||| ((0 : UInt8) &&& 0x01)).toUInt16 ∧
      UInt16.ofNat ((b &&& 0x1F).toNat * 2 + (0 : UInt8).toNat) =
      (((b &&& 0x1F) <<< 1) ||| ((0 : UInt8) &&& 0x01)).toUInt16) (by decide) b
  · exact forall_octet (P := fun b => UInt16.ofNat ((b &&& 0x0F).toNat * 2 + (1 : UInt8).toNat) =
      (((b &&& 0x0F) <<< 1) ||| ((1 : UInt8) &&& 0x01)).toUInt16 ∧
      UInt16.ofNat ((b &&& 0x1F).toNat * 2 + (1 : UInt8).toNat) =
      (((b &&& 0x1F) <<< 1) ||| ((1 : UInt8) &&& 0x01)).toUInt16) (by decide) b

/-- The tags of the PT-0 formats as masks. -/
theorem pt0_tags (b : UInt8) :
    ((b >>> 7).toNat = 0 ↔ b &&& 0x80 = 0) ∧ ((b >>> 4).toNat = 0x08 ↔ b &&& 0xF0 = 0x80) ∧
      ((b >>> 5).toNat = 0x04 ↔ b &&& 0xE0 = 0x80) :=
  forall_octet (P := fun b => ((b >>> 7).toNat = 0 ↔ b &&& 0x80 = 0) ∧ ((b >>> 4).toNat = 0x08 ↔ b &&& 0xF0 = 0x80) ∧
    ((b >>> 5).toNat = 0x04 ↔ b &&& 0xE0 = 0x80)) (by decide) b

theorem pt0_valid (hsupported : isSupportedFormalCoProfile profile = true) :
    formalCoVariantValidForProfile profile .pt0Crc3 = true ∧
      formalCoVariantValidForProfile profile .pt0Crc7 = true := by
  simp [formalCoVariantValidForProfile, hsupported]

/-- The base header of a PT-0-CRC3. -/
theorem readFormalCoBase_crc3 (hsupported : isSupportedFormalCoProfile profile = true) (b : UInt8) :
    readFormalCoBase [b] 1 profile .pt0Crc3 =
      if b &&& 0x80 = 0 then some { msn := ((b >>> 3) &&& 0x0F).toUInt16, headerCrc := b &&& 0x07 } else none := by
  obtain ⟨h1, h4, h3, -⟩ := readBits_octet b
  unfold readFormalCoBase
  simp only [(pt0_valid hsupported).1, h1, h4, h3, ne_eq, (pt0_tags b).1, UInt16.ofNat_uInt8ToNat,
    UInt8.ofNat_toNat]
  by_cases htag : b &&& 0x80 = 0 <;> simp [htag]

/-- The base header of a PT-0-CRC7, its tag and width by the kind of profile. -/
theorem readFormalCoBase_crc7 (hsupported : isSupportedFormalCoProfile profile = true) (b t : UInt8) :
    readFormalCoBase [b, t] 2 profile .pt0Crc7 =
      if (if isRtpFormalCoProfile profile then b &&& 0xF0 = 0x80 else b &&& 0xE0 = 0x80) then
        some { msn := pt0Crc7Msn (if isRtpFormalCoProfile profile then 0x0F else 0x1F) b t, headerCrc := t &&& 0x7F }
      else none := by
  obtain ⟨-, -, -, h4, h3, hm4, hm5, -⟩ := readBits_octet b
  have htail : readBits [b, t] (8 + 1) 7 = (t &&& 0x7F).toNat :=
    (readBits_cons b [t] 1 7).trans (readBits_octet t).2.2.2.2.2.2.2.1
  have hmsn4 : readBits [b, t] 4 5 = (b &&& 0x0F).toNat * 2 + (t >>> 7).toNat := by
    rw [← hm4]; exact readBits_across b t rfl
  have hmsn5 : readBits [b, t] 3 6 = (b &&& 0x1F).toNat * 2 + (t >>> 7).toNat := by
    rw [← hm5]; exact readBits_across b t rfl
  have htag4 : readBits [b, t] 0 4 = (b >>> 4).toNat := h4 ▸ @readBits_append [b] [t] 0 4 (Nat.le_add_right 4 4)
  have htag3 : readBits [b, t] 0 3 = (b >>> 5).toNat := h3 ▸ @readBits_append [b] [t] 0 3 (Nat.le_add_right 3 5)
  unfold readFormalCoBase
  simp only [(pt0_valid hsupported).2, htail, hmsn4, hmsn5, htag4, htag3, (pt0Crc7Msn_eq b t).1, (pt0Crc7Msn_eq b t).2,
    ne_eq, (pt0_tags b).2.1, (pt0_tags b).2.2, UInt8.ofNat_toNat]
  cases hrtp : isRtpFormalCoProfile profile with
  | true => by_cases htag : b &&& 0xF0 = 0x80 <;> simp [htag]
  | false => by_cases htag : b &&& 0xE0 = 0x80 <;> simp [htag]

end Base

/-! ## Decoders -/

section Decoders

variable {input crcInput : Bytes} {profile : Profile} {largeCidSpace wantConsumed : Bool} {packet : FormalCoPacket}
  {n : Nat} {head : FormalPrefix}

/-- The decoders read the same prefix, but for an Add-CID octet that holds CID 0. -/
theorem readFormalPrefix_eq_some : readFormalPrefix input largeCidSpace = some head ↔
    ∃ hasAddCid, readFormalPt0Prefix input largeCidSpace = some (head, hasAddCid) ∧
      ¬ (hasAddCid = true ∧ head.cid = 0) := by
  unfold readFormalPrefix readFormalPt0Prefix
  split
  · simp
  split
  · dsimp only
    by_cases hlen : input.length < 2
    · simp [hlen]
    · simp only [hlen, or_false, if_false, Option.some.injEq, Prod.mk.injEq]
      constructor
      · intro h
        split at h
        · cases h
        · rename_i hne
          obtain rfl := Option.some.inj h
          exact ⟨true, ⟨rfl, rfl⟩, fun h => hne h.2⟩
      · rintro ⟨hasAddCid, ⟨rfl, rfl⟩, hne⟩
        rw [if_neg fun h => hne ⟨rfl, h⟩]
  split
  · cases Cid.readLarge (input.drop 1) with
    | none => simp
    | some pair => simp
  · simp

/-- What a PT-0-CRC3 with this prefix decodes to. -/
def pt0Crc3Packet (profile : Profile) (largeCidSpace : Bool) (head : FormalPrefix) : FormalCoPacket :=
  { profile := profile, variant := .pt0Crc3, cid := head.cid, largeCid := largeCidSpace, cidLen := head.cidLen,
    msn := ((head.first >>> 3) &&& 0x0F).toUInt16, headerCrc := head.first &&& 0x07 }

/-- What a PT-0-CRC7 with this prefix and this octet behind it decodes to. -/
def pt0Crc7Packet (profile : Profile) (largeCidSpace : Bool) (head : FormalPrefix) (tail : UInt8) : FormalCoPacket :=
  { profile := profile, variant := .pt0Crc7, cid := head.cid, largeCid := largeCidSpace, cidLen := head.cidLen,
    msn := pt0Crc7Msn (if isRtpFormalCoProfile profile then 0x0F else 0x1F) head.first tail, headerCrc := tail &&& 0x7F }

/-- A prefix that continues as a PT-0-CRC3 of this CRC input. -/
def IsPt0Crc3 (input crcInput : Bytes) (wantConsumed : Bool) (head : FormalPrefix) : Prop :=
  head.first &&& 0x80 = 0 ∧ head.first &&& 0x07 = formalCoHeaderCrc .pt0Crc3 crcInput ∧
    (wantConsumed = true ∨ head.pos = input.length)

/-- A prefix that continues as a PT-0-CRC7 of this CRC input. -/
def IsPt0Crc7 (input crcInput : Bytes) (profile : Profile) (wantConsumed : Bool) (head : FormalPrefix) : Prop :=
  head.pos < input.length ∧
    (if isRtpFormalCoProfile profile then head.first &&& 0xF0 = 0x80 else head.first &&& 0xE0 = 0x80) ∧
    u8At input head.pos &&& 0x7F = formalCoHeaderCrc .pt0Crc7 crcInput ∧
    (wantConsumed = true ∨ head.pos + 1 = input.length)

theorem decodeFormalCo_pt0Crc3 (hsupported : isSupportedFormalCoProfile profile = true) :
    decodeFormalCo input profile .pt0Crc3 largeCidSpace crcInput wantConsumed = some (packet, n) ↔
      ∃ head, readFormalPrefix input largeCidSpace = some head ∧ IsPt0Crc3 input crcInput wantConsumed head ∧
        packet = pt0Crc3Packet profile largeCidSpace head ∧ n = head.pos := by
  have hlen : formalCoBaseLen profile .pt0Crc3 = 1 := by simp [formalCoBaseLen, (pt0_valid hsupported).1]
  unfold decodeFormalCo
  simp only [hlen, (pt0_valid hsupported).1]
  cases hfront : readFormalPrefix input largeCidSpace with
  | none => simp
  | some head =>
    have hslice : slice input head.pos 0 = [] := by simp [slice]
    have hok : ¬ ((!true) = true ∨ 1 = 0 ∨ 1 > 4) := by decide
    simp only [Nat.sub_self, Option.some.injEq, exists_eq_left', if_neg hok]
    rw [Option.bind_eq_bind, Option.bind_some, guard_bind_eq_some, hslice, readFormalCoBase_crc3 hsupported]
    unfold IsPt0Crc3
    by_cases htag : head.first &&& 0x80 = 0
    · rw [if_pos htag, Option.bind_eq_bind, Option.bind_some, guard_bind_eq_some, guard_bind_eq_some]
      simp only [Option.pure_def, Option.some.injEq, Prod.mk.injEq, htag, true_and, Nat.not_lt_zero, not_false_eq_true,
        and_assoc]
      exact and_congr_right fun _ => and_congr_right fun _ => and_congr eq_comm eq_comm
    · rw [if_neg htag]
      simp [htag]

theorem decodeFormalCo_pt0Crc7 (hsupported : isSupportedFormalCoProfile profile = true) :
    decodeFormalCo input profile .pt0Crc7 largeCidSpace crcInput wantConsumed = some (packet, n) ↔
      ∃ head, readFormalPrefix input largeCidSpace = some head ∧ IsPt0Crc7 input crcInput profile wantConsumed head ∧
        packet = pt0Crc7Packet profile largeCidSpace head (u8At input head.pos) ∧ n = head.pos + 1 := by
  have hlen : formalCoBaseLen profile .pt0Crc7 = 2 := by simp [formalCoBaseLen, (pt0_valid hsupported).2]
  unfold decodeFormalCo
  simp only [hlen, (pt0_valid hsupported).2]
  cases hfront : readFormalPrefix input largeCidSpace with
  | none => simp
  | some head =>
    have hok : ¬ ((!true) = true ∨ 2 = 0 ∨ 2 > 4) := by decide
    simp only [Option.some.injEq, exists_eq_left', if_neg hok]
    rw [Option.bind_eq_bind, Option.bind_some, guard_bind_eq_some]
    unfold IsPt0Crc7
    by_cases hroom : head.pos < input.length
    · have hslice : slice input head.pos (2 - 1) = [u8At input head.pos] := slice_one hroom
      rw [hslice, readFormalCoBase_crc7 hsupported]
      by_cases htag : if isRtpFormalCoProfile profile then head.first &&& 0xF0 = 0x80 else head.first &&& 0xE0 = 0x80
      · rw [if_pos htag, Option.bind_eq_bind, Option.bind_some, guard_bind_eq_some, guard_bind_eq_some]
        have hlt : ¬ input.length - head.pos < 2 - 1 := by omega
        simp only [Option.pure_def, Option.some.injEq, Prod.mk.injEq, htag, true_and, hlt, not_false_eq_true, hroom,
          and_assoc]
        exact and_congr_right fun _ => and_congr_right fun _ => and_congr eq_comm eq_comm
      · rw [if_neg htag]
        simp only [htag, Option.bind_eq_bind, Option.bind_none, false_and, and_false, reduceCtorEq]
    · have hlt : input.length - head.pos < 2 - 1 := by omega
      simp only [hlt, not_true_eq_false, false_and, hroom]

theorem decodeFormalCoPt0_eq_some (hsupported : isSupportedFormalCoProfile profile = true) :
    decodeFormalCoPt0 input profile largeCidSpace crcInput wantConsumed = some (packet, n) ↔
      ∃ head hasAddCid, readFormalPt0Prefix input largeCidSpace = some (head, hasAddCid) ∧
        (IsPt0Crc3 input crcInput wantConsumed head ∧ packet = pt0Crc3Packet profile largeCidSpace head ∧ n = head.pos ∨
          ¬ (hasAddCid = true ∧ head.cid = 0) ∧ head.first &&& 0x80 ≠ 0 ∧
            IsPt0Crc7 input crcInput profile wantConsumed head ∧
            packet = pt0Crc7Packet profile largeCidSpace head (u8At input head.pos) ∧ n = head.pos + 1) := by
  unfold decodeFormalCoPt0
  simp only [hsupported, Bool.not_true, Bool.false_eq_true, if_false]
  cases hfront : readFormalPt0Prefix input largeCidSpace with
  | none => simp
  | some pair =>
    obtain ⟨head, hasAddCid⟩ := pair
    rw [Option.bind_eq_bind, Option.bind_some]
    simp only [Option.some.injEq, Prod.mk.injEq]
    have hone : ∀ P : FormalPrefix → Bool → Prop,
        (∃ head' hasAddCid', (head = head' ∧ hasAddCid = hasAddCid') ∧ P head' hasAddCid') ↔ P head hasAddCid :=
      fun P => ⟨by rintro ⟨_, _, ⟨rfl, rfl⟩, h⟩; exact h, fun h => ⟨_, _, ⟨rfl, rfl⟩, h⟩⟩
    rw [hone]
    unfold IsPt0Crc3 IsPt0Crc7
    by_cases htag : head.first &&& 0x80 = 0
    · rw [if_pos htag, guard_bind_eq_some, guard_bind_eq_some]
      simp only [Option.pure_def, Option.some.injEq, Prod.mk.injEq, htag, true_and, ne_eq, not_true_eq_false, false_and,
        and_false, or_false, and_assoc]
      exact and_congr_right fun _ => and_congr_right fun _ => and_congr eq_comm eq_comm
    · rw [if_neg htag]
      simp only [guard_bind_eq_some, Option.pure_def, Option.some.injEq, Prod.mk.injEq, htag, false_and, false_or,
        ne_eq, not_false_eq_true, true_and]
      constructor
      · rintro ⟨h1, h2, h3, h4, h5, h6, h7⟩
        exact ⟨h4, ⟨h1, h2, h3, h5⟩, h6.symm, h7.symm⟩
      · rintro ⟨h4, ⟨h1, h2, h3, h5⟩, h6, h7⟩
        exact ⟨h1, h2, h3, h4, h5, h6.symm, h7.symm⟩

end Decoders

/-! ## Emitters -/

section Emitters

variable {profile : Profile} {fields : FormalCoFields} {crc : UInt8}

/-- A first octet without its highest bit is its MSN and its CRC. -/
theorem pt0Crc3_octet {b : UInt8} {msn : UInt16} (htag : b &&& 0x80 = 0)
    (hmsn : ((b >>> 3) &&& 0x0F).toUInt16 = msn &&& 0x0F) :
    (((msn &&& 0x0F) <<< 3) ||| ((b &&& 0x07) &&& 0x07).toUInt16).toUInt8 = b := by
  rw [← hmsn]
  exact forall_octet (P := fun b => b &&& 0x80 = 0 →
    (((((b >>> 3) &&& 0x0F).toUInt16) <<< 3) ||| ((b &&& 0x07) &&& 0x07).toUInt16).toUInt8 = b) (by decide) b htag

/-- The MSN of a PT-0-CRC7 taken apart again. -/
theorem pt0Crc7Msn_parts (b t : UInt8) {mask : UInt8} (hmask : mask = 0x0F ∨ mask = 0x1F) :
    ((pt0Crc7Msn mask b t).toUInt8 >>> 1) &&& mask = b &&& mask ∧
      (pt0Crc7Msn mask b t).toUInt8 &&& (0x01 : UInt8) = (t >>> 7) &&& (0x01 : UInt8) := by
  have hbit : (t >>> 7) &&& (0x01 : UInt8) = ((0x00 : UInt8) >>> 7) &&& (0x01 : UInt8) ∨ (t >>> 7) &&& (0x01 : UInt8) = ((0x80 : UInt8) >>> 7) &&& (0x01 : UInt8) :=
    forall_octet (P := fun t => (t >>> 7) &&& (0x01 : UInt8) = ((0x00 : UInt8) >>> 7) &&& (0x01 : UInt8) ∨
      (t >>> 7) &&& (0x01 : UInt8) = ((0x80 : UInt8) >>> 7) &&& (0x01 : UInt8)) (by decide) t
  have hparts : ∀ x, x = (0x00 : UInt8) ∨ x = 0x80 → ((pt0Crc7Msn mask b x).toUInt8 >>> 1) &&& mask = b &&& mask ∧
      (pt0Crc7Msn mask b x).toUInt8 &&& (0x01 : UInt8) = (x >>> 7) &&& (0x01 : UInt8) := by
    rintro x (rfl | rfl)
    · rcases hmask with rfl | rfl
      · exact forall_octet (P := fun b => ((pt0Crc7Msn 0x0F b 0x00).toUInt8 >>> 1) &&& 0x0F = b &&& 0x0F ∧
          (pt0Crc7Msn 0x0F b 0x00).toUInt8 &&& (0x01 : UInt8) = ((0x00 : UInt8) >>> 7) &&& (0x01 : UInt8)) (by decide) b
      · exact forall_octet (P := fun b => ((pt0Crc7Msn 0x1F b 0x00).toUInt8 >>> 1) &&& 0x1F = b &&& 0x1F ∧
          (pt0Crc7Msn 0x1F b 0x00).toUInt8 &&& (0x01 : UInt8) = ((0x00 : UInt8) >>> 7) &&& (0x01 : UInt8)) (by decide) b
    · rcases hmask with rfl | rfl
      · exact forall_octet (P := fun b => ((pt0Crc7Msn 0x0F b 0x80).toUInt8 >>> 1) &&& 0x0F = b &&& 0x0F ∧
          (pt0Crc7Msn 0x0F b 0x80).toUInt8 &&& (0x01 : UInt8) = ((0x80 : UInt8) >>> 7) &&& (0x01 : UInt8)) (by decide) b
      · exact forall_octet (P := fun b => ((pt0Crc7Msn 0x1F b 0x80).toUInt8 >>> 1) &&& 0x1F = b &&& 0x1F ∧
          (pt0Crc7Msn 0x1F b 0x80).toUInt8 &&& (0x01 : UInt8) = ((0x80 : UInt8) >>> 7) &&& (0x01 : UInt8)) (by decide) b
  rcases hbit with hx | hx
  · have heq : pt0Crc7Msn mask b t = pt0Crc7Msn mask b 0x00 := by unfold pt0Crc7Msn; rw [hx]
    rw [heq, hx]
    exact hparts 0x00 (.inl rfl)
  · have heq : pt0Crc7Msn mask b t = pt0Crc7Msn mask b 0x80 := by unfold pt0Crc7Msn; rw [hx]
    rw [heq, hx]
    exact hparts 0x80 (.inr rfl)

/-- The two octets of a PT-0-CRC7 are their tag, MSN and CRC. -/
theorem pt0Crc7_octets {b t mask tag : UInt8} (hmask : mask = 0x0F ∧ tag = 0xF0 ∨ mask = 0x1F ∧ tag = 0xE0)
    (htag : b &&& tag = 0x80) :
    (0x80 : UInt8) ||| (((pt0Crc7Msn mask b t).toUInt8 >>> 1) &&& mask) = b ∧
      (((pt0Crc7Msn mask b t).toUInt8 &&& (0x01 : UInt8)) <<< 7) ||| ((t &&& 0x7F) &&& 0x7F) = t := by
  obtain ⟨hfirst, hsecond⟩ := pt0Crc7Msn_parts b t (hmask.imp And.left And.left)
  have htail : ∀ t : UInt8, (((t >>> 7) &&& (0x01 : UInt8)) <<< 7) ||| ((t &&& 0x7F) &&& 0x7F) = t := forall_octet (by decide)
  rw [hfirst, hsecond]
  refine ⟨?_, htail t⟩
  rcases hmask with ⟨rfl, rfl⟩ | ⟨rfl, rfl⟩
  · exact forall_octet (P := fun b => b &&& 0xF0 = 0x80 → (0x80 : UInt8) ||| (b &&& 0x0F) = b) (by decide) b htag
  · exact forall_octet (P := fun b => b &&& 0xE0 = 0x80 → (0x80 : UInt8) ||| (b &&& 0x1F) = b) (by decide) b htag

theorem lsbs_eq_and (v : UInt16) : lsbs v 4 = v &&& 0x0F ∧ lsbs v 5 = v &&& 0x1F ∧ lsbs v 6 = v &&& 0x3F := by
  have hmod : ∀ n : Nat, n < 16 → lsbs v n = v &&& UInt16.ofNat (2 ^ n - 1) := fun n hn => by
    apply UInt16.toNat_inj.mp
    have hpow : 2 ^ n ≤ 2 ^ 15 := Nat.pow_le_pow_right (by omega) (by omega)
    have hpos : 0 < 2 ^ n := Nat.two_pow_pos n
    have hlt := Nat.mod_lt v.toNat hpos
    rw [lsbs, UInt16.toNat_and, UInt16.toNat_ofNat', UInt16.toNat_ofNat', Nat.mod_eq_of_lt (a := 2 ^ n - 1) (by omega),
      Nat.and_two_pow_sub_one_eq_mod]
    exact Nat.mod_eq_of_lt (by omega)
  exact ⟨hmod 4 (by omega), hmod 5 (by omega), hmod 6 (by omega)⟩

/-- The base header of a PT-0 by shifts and by fields. -/
theorem writeFormalCoBase_pt0 (hsupported : isSupportedFormalCoProfile profile = true) {variant : FormalCoVariant}
    (hvariant : variant = .pt0Crc3 ∨ variant = .pt0Crc7)
    (hcrc : crc < if formalCoVariantUsesCrc3 variant then 8 else 128) :
    writeFormalCoBase (formalCoBaseLen profile variant) profile variant fields crc =
      some ((formalCoPt0Octets profile variant fields.msn crc).1 ::
        (formalCoPt0Octets profile variant fields.msn crc).2) := by
  have hvalid : formalCoVariantValidForProfile profile variant = true := by
    rcases hvariant with rfl | rfl
    · exact (pt0_valid hsupported).1
    · exact (pt0_valid hsupported).2
  have hne : formalCoBaseLen profile variant ≠ 0 := by
    rcases hvariant with rfl | rfl <;> simp [formalCoBaseLen, hvalid]
  obtain ⟨base, hwrite⟩ : ∃ base,
      writeFormalCoBase (formalCoBaseLen profile variant) profile variant fields crc = some base :=
    ⟨_, writeFormalCoBase_eq hvalid hne⟩
  have hread := readFormalCoBase_write hvalid hne hcrc hwrite
  obtain ⟨-, -, first, rest, rfl, hrest⟩ := writeFormalCoBase_cons hvalid hwrite
  rw [hwrite]
  obtain ⟨hlsb4, hlsb5, hlsb6⟩ := lsbs_eq_and fields.msn
  rcases hvariant with rfl | rfl
  · have hlen : formalCoBaseLen profile .pt0Crc3 = 1 := by simp [formalCoBaseLen, hvalid]
    rw [hlen] at hread hrest
    obtain rfl : rest = [] := List.eq_nil_of_length_eq_zero hrest
    rw [readFormalCoBase_crc3 hsupported] at hread
    split at hread
    · rename_i htag
      have hbase := Option.some.inj hread
      have hmsn : ((first >>> 3) &&& 0x0F).toUInt16 = lsbs fields.msn 4 := by
        have := congrArg FormalCoBase.msn hbase
        simpa [formalCoBaseOf, formalCoMsnLsbBits, hvalid] using this
      have hc : first &&& 0x07 = crc := congrArg FormalCoBase.headerCrc hbase
      rw [hlsb4] at hmsn
      have hoctet := pt0Crc3_octet htag hmsn
      rw [hc] at hoctet
      simp only [formalCoPt0Octets, if_true, hoctet]
    · cases hread
  · have hlen : formalCoBaseLen profile .pt0Crc7 = 2 := by simp [formalCoBaseLen, hvalid]
    rw [hlen] at hread hrest
    obtain ⟨tail, rfl⟩ := List.length_eq_one_iff.mp hrest
    rw [readFormalCoBase_crc7 hsupported] at hread
    cases hrtp : isRtpFormalCoProfile profile with
    | true =>
      simp only [hrtp, if_true] at hread
      split at hread
      · rename_i htag
        have hbase := Option.some.inj hread
        have hmsn : pt0Crc7Msn 0x0F first tail = lsbs fields.msn 5 := by
          have := congrArg FormalCoBase.msn hbase
          simpa [formalCoBaseOf, formalCoMsnLsbBits, hvalid, hrtp] using this
        have hc : tail &&& 0x7F = crc := congrArg FormalCoBase.headerCrc hbase
        obtain ⟨hfirst, htail⟩ := pt0Crc7_octets (.inl ⟨rfl, rfl⟩) htag
        rw [hmsn, hlsb5] at hfirst htail
        rw [hc] at htail
        simp only [formalCoPt0Octets, reduceCtorEq, if_false, hrtp, if_true, hfirst, htail]
      · cases hread
    | false =>
      simp only [hrtp, Bool.false_eq_true, if_false] at hread
      split at hread
      · rename_i htag
        have hbase := Option.some.inj hread
        have hmsn : pt0Crc7Msn 0x1F first tail = lsbs fields.msn 6 := by
          have := congrArg FormalCoBase.msn hbase
          simpa [formalCoBaseOf, formalCoMsnLsbBits, hvalid, hrtp] using this
        have hc : tail &&& 0x7F = crc := congrArg FormalCoBase.headerCrc hbase
        obtain ⟨hfirst, htail⟩ := pt0Crc7_octets (.inr ⟨rfl, rfl⟩) htag
        rw [hmsn, hlsb6] at hfirst htail
        rw [hc] at htail
        simp only [formalCoPt0Octets, reduceCtorEq, if_false, hrtp, Bool.false_eq_true, hfirst, htail]
      · cases hread

/-- **The emitters write the same octets.** -/
theorem emitFormalCoPt0_eq (cap : Nat) {variant : FormalCoVariant} (hvariant : variant = .pt0Crc3 ∨ variant = .pt0Crc7)
    (cidValue : Nat) (largeCidSpace : Bool) (crcInput : Bytes) :
    emitFormalCoPt0 cap profile variant cidValue largeCidSpace fields.msn crcInput =
      emitFormalCo cap profile variant cidValue largeCidSpace fields crcInput := by
  have hvalid : formalCoVariantValidForProfile profile variant = isSupportedFormalCoProfile profile := by
    rcases hvariant with rfl | rfl <;> simp [formalCoVariantValidForProfile]
  unfold emitFormalCoPt0 emitFormalCo
  rw [hvalid]
  split
  · rfl
  · rename_i hok
    simp only [not_or, Bool.not_eq_true', Bool.not_eq_false] at hok
    rw [writeFormalCoBase_pt0 hok.1 hvariant (formalCoHeaderCrc_lt variant crcInput)]
    have hlen : (formalCoPt0Octets profile variant fields.msn (formalCoHeaderCrc variant crcInput)).2.length =
        formalCoPt0BaseLen variant - 1 := by
      unfold formalCoPt0Octets formalCoPt0BaseLen
      rcases hvariant with rfl | rfl
      · rfl
      · cases isRtpFormalCoProfile profile <;> rfl
    generalize formalCoPt0Octets profile variant fields.msn (formalCoHeaderCrc variant crcInput) = octets at hlen ⊢
    obtain ⟨first, rest⟩ := octets
    simp only [Option.bind_eq_bind, Option.bind_some, frameFormalCo]
    dsimp only at hlen
    have hsize : (frameFormalCo cidValue largeCidSpace first rest).length =
        (if (!largeCidSpace && decide (cidValue > 0)) = true then 1 else 0) + 1 +
          (if largeCidSpace then Cid.encodedLen cidValue else 0) + (formalCoPt0BaseLen variant - 1) := by
      unfold frameFormalCo
      simp only [List.length_append, hlen, List.length_singleton]
      congr 2
      · split <;> rfl
      · split
        · exact Cid.length_largeOctets cidValue
        · rfl
    have hwhole : ∀ addCid cid : Bytes,
        addCid ++ List.take 1 (first :: rest) ++ cid ++ List.drop 1 (first :: rest) = addCid ++ [first] ++ cid ++ rest :=
      fun _ _ => rfl
    rw [hwhole, ← hsize]
    rfl

end Emitters

/-! ## Both codecs -/

section Codecs

/-- The second emitter writes what the first one writes, with these values and for both formats, in any room. -/
def Pt0EmittersAgree (profile : Profile) (largeCidSpace : Bool) (crcInput : Bytes) : Prop :=
  ∀ (cap : Nat) (variant : FormalCoVariant) (cidValue : Nat) (fields : FormalCoFields),
    variant = .pt0Crc3 ∨ variant = .pt0Crc7 →
    emitFormalCoPt0 cap profile variant cidValue largeCidSpace fields.msn crcInput =
      emitFormalCo cap profile variant cidValue largeCidSpace fields crcInput

/-- The second decoder reads an input as the first one reads it for one of the two formats. -/
def Pt0DecodersAgree (profile : Profile) (largeCidSpace : Bool) (crcInput : Bytes) (wantConsumed : Bool) (input : Bytes) :
    Prop :=
  ∀ (packet : FormalCoPacket) (consumed : Nat),
    decodeFormalCoPt0 input profile largeCidSpace crcInput wantConsumed = some (packet, consumed) ↔
      decodeFormalCo input profile .pt0Crc3 largeCidSpace crcInput wantConsumed = some (packet, consumed) ∨
        decodeFormalCo input profile .pt0Crc7 largeCidSpace crcInput wantConsumed = some (packet, consumed)

/-- A PT-0-CRC3 with the right CRC behind an Add-CID octet that holds CID 0, and nothing behind it unless the caller
asks how much was consumed. -/
def ZeroAddCidPt0 (profile : Profile) (largeCidSpace : Bool) (crcInput : Bytes) (wantConsumed : Bool) (input : Bytes) :
    Prop :=
  isSupportedFormalCoProfile profile = true ∧ largeCidSpace = false ∧ 2 ≤ input.length ∧ u8At input 0 = 0xE0 ∧
    u8At input 1 &&& 0x80 = 0 ∧ u8At input 1 &&& 0x07 = formalCoHeaderCrc .pt0Crc3 crcInput ∧
    (wantConsumed = true ∨ input.length = 2)

variable {profile : Profile} {largeCidSpace wantConsumed : Bool} {crcInput input : Bytes}

/-- The prefixes that only the second decoder takes. -/
theorem zeroAddCid_front {head : FormalPrefix} {hasAddCid : Bool} :
    readFormalPt0Prefix input largeCidSpace = some (head, hasAddCid) ∧ hasAddCid = true ∧ head.cid = 0 ↔
      (largeCidSpace = false ∧ 2 ≤ input.length ∧ u8At input 0 = 0xE0) ∧ hasAddCid = true ∧
        head = ⟨0, u8At input 1, 0, 2⟩ := by
  have hzero : ∀ b : UInt8, b = 0xE0 ↔ (b &&& 0xF0 == 0xE0) = true ∧ (b &&& 0x0F).toNat = 0 := forall_octet (by decide)
  rw [hzero]
  unfold readFormalPt0Prefix
  split
  · rename_i hlen
    simp [hlen]
  split
  · rename_i htag
    simp only [Bool.and_eq_true, Bool.not_eq_true'] at htag
    by_cases hlen : input.length < 2
    · simp [hlen, Nat.not_le.mpr hlen]
    · simp only [hlen, if_false, Option.some.injEq, Prod.mk.injEq, htag, true_and, Nat.not_lt.mp hlen]
      constructor
      · rintro ⟨⟨rfl, rfl⟩, -, hcid⟩
        exact ⟨hcid, rfl, congrArg (fun cid => FormalPrefix.mk cid (u8At input 1) 0 2) hcid⟩
      · rintro ⟨hcid, rfl, rfl⟩
        exact ⟨⟨by rw [hcid], rfl⟩, rfl, rfl⟩
  · rename_i htag
    have hnot : ¬ (largeCidSpace = false ∧ 2 ≤ input.length ∧ (u8At input 0 &&& 0xF0 == 0xE0) = true ∧
        (u8At input 0 &&& 0x0F).toNat = 0) := fun h => htag (by rw [h.1, h.2.2.1]; rfl)
    refine iff_of_false ?_ fun h => hnot h.1
    rintro ⟨h, htrue, -⟩
    split at h
    · split at h
      · have := (Prod.mk.inj (Option.some.inj h)).2
        rw [htrue] at this
        cases this
      · cases h
    · have := (Prod.mk.inj (Option.some.inj h)).2
      rw [htrue] at this
      cases this

theorem pt0DecodersAgree_iff :
    Pt0DecodersAgree profile largeCidSpace crcInput wantConsumed input ↔
      ¬ ZeroAddCidPt0 profile largeCidSpace crcInput wantConsumed input := by
  cases hsupported : isSupportedFormalCoProfile profile with
  | false =>
    have hvalid : ∀ variant, formalCoVariantValidForProfile profile variant = false := fun variant => by
      simp [formalCoVariantValidForProfile, hsupported]
    refine iff_of_true (fun packet consumed => ?_) fun h => ?_
    · simp [decodeFormalCoPt0, decodeFormalCo, hsupported, hvalid]
    · have htrue := h.1
      rw [hsupported] at htrue
      cases htrue
  | true =>
    have hread : ∀ {head : FormalPrefix}, readFormalPrefix input largeCidSpace = some head → ∃ hasAddCid,
        readFormalPt0Prefix input largeCidSpace = some (head, hasAddCid) ∧ ¬ (hasAddCid = true ∧ head.cid = 0) :=
      readFormalPrefix_eq_some.mp
    constructor
    · rintro hagree ⟨-, hlarge, hlen, hfirst, htag, hcrc, hend⟩
      obtain ⟨hfront, -, -⟩ := (@zeroAddCid_front largeCidSpace input _ _).mpr ⟨⟨hlarge, hlen, hfirst⟩, rfl, rfl⟩
      have haccept := (@decodeFormalCoPt0_eq_some input crcInput _ largeCidSpace wantConsumed _ _ hsupported).mpr
        ⟨_, _, hfront, .inl ⟨⟨htag, hcrc, hend.imp_right Eq.symm⟩, rfl, rfl⟩⟩
      -- Either format of the first decoder would need the same prefix.
      have hrefused : ∀ head, readFormalPrefix input largeCidSpace ≠ some head := fun head h => by
        obtain ⟨hasAddCid, hpt0, hne⟩ := hread h
        obtain ⟨rfl, rfl⟩ := Prod.mk.inj (Option.some.inj (hfront.symm.trans hpt0))
        exact hne ⟨rfl, rfl⟩
      rcases (hagree _ _).mp haccept with h | h
      · obtain ⟨head, hhead, -⟩ := (decodeFormalCo_pt0Crc3 hsupported).mp h
        exact hrefused head hhead
      · obtain ⟨head, hhead, -⟩ := (decodeFormalCo_pt0Crc7 hsupported).mp h
        exact hrefused head hhead
    · intro hnot packet consumed
      rw [decodeFormalCoPt0_eq_some hsupported, decodeFormalCo_pt0Crc3 hsupported, decodeFormalCo_pt0Crc7 hsupported]
      constructor
      · rintro ⟨head, hasAddCid, hfront, hcrc3 | ⟨hcid, -, hcrc7⟩⟩
        · refine .inl ⟨head, readFormalPrefix_eq_some.mpr ⟨hasAddCid, hfront, fun hzero => hnot ?_⟩, hcrc3⟩
          obtain ⟨⟨hlarge, hlen, hfirst⟩, -, rfl⟩ := zeroAddCid_front.mp ⟨hfront, hzero⟩
          exact ⟨hsupported, hlarge, hlen, hfirst, hcrc3.1.1, hcrc3.1.2.1, hcrc3.1.2.2.imp_right Eq.symm⟩
        · exact .inr ⟨head, readFormalPrefix_eq_some.mpr ⟨hasAddCid, hfront, hcid⟩, hcrc7⟩
      · rintro (⟨head, hhead, hcrc3⟩ | ⟨head, hhead, hcrc7⟩)
        · obtain ⟨hasAddCid, hfront, -⟩ := hread hhead
          exact ⟨head, hasAddCid, hfront, .inl hcrc3⟩
        · obtain ⟨hasAddCid, hfront, hcid⟩ := hread hhead
          refine ⟨head, hasAddCid, hfront, .inr ⟨hcid, ?_, hcrc7⟩⟩
          have htop : ∀ b : UInt8, b &&& 0xF0 = 0x80 ∨ b &&& 0xE0 = 0x80 → b &&& 0x80 ≠ 0 := forall_octet (by decide)
          refine htop _ ?_
          have htag := hcrc7.1.2.1
          split at htag
          · exact .inl htag
          · exact .inr htag

/-- **The two PT-0 codecs agree** on every input that is not a PT-0-CRC3 with an explicit CID 0, and only there. -/
theorem pt0_codecs_agree_iff (profile : Profile) (largeCidSpace : Bool) (crcInput : Bytes) (wantConsumed : Bool)
    (input : Bytes) :
    Pt0EmittersAgree profile largeCidSpace crcInput ∧
        Pt0DecodersAgree profile largeCidSpace crcInput wantConsumed input ↔
      ¬ ZeroAddCidPt0 profile largeCidSpace crcInput wantConsumed input := by
  rw [pt0DecodersAgree_iff, and_iff_right]
  exact fun cap variant cidValue fields hvariant => emitFormalCoPt0_eq cap hvariant cidValue largeCidSpace crcInput

/-- The octets E0 07 for the CRC input of no octets, whose CRC-3 is 7: the second decoder reads CID 0 and MSN 0, the
first one reads neither format. -/
theorem pt0_codecs_disagree :
    decodeFormalCoPt0 [0xE0, 0x07] .rtp false [] false =
        some ({ profile := .rtp, variant := .pt0Crc3, headerCrc := 7 }, 2) ∧
      decodeFormalCo [0xE0, 0x07] .rtp .pt0Crc3 false [] false = none ∧
      decodeFormalCo [0xE0, 0x07] .rtp .pt0Crc7 false [] false = none ∧
      ¬ Pt0DecodersAgree .rtp false [] false [0xE0, 0x07] := by
  refine ⟨by decide, by decide, by decide, fun h => ?_⟩
  have h := h { profile := .rtp, variant := .pt0Crc3, headerCrc := 7 } 2
  revert h
  decide

end Codecs

end Rohccxx
