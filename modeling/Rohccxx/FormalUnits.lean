import Mathlib.Data.Option.Basic
import Rohccxx.FormalCo
import Rohccxx.Protocols

/-!
# Whole formal units

The decoders of `core/formal_co.hpp` and the two formats with a variable part, `co_common` and `co_repair`. All units
share the framing: an Add-CID octet in front (small CIDs), or a large CID behind the first octet.

- a base header that was written is read back (`readFormalCoBase_write`), one layout at a time;
- no first octet of a base header looks like an Add-CID octet (`first_of_readFormalCoBase`);
- so the framing is undone (`readFormalPrefix_frame`) and every unit decodes to its fields (`formal_co_round_trip`).
-/

set_option autoImplicit false

namespace Rohccxx

open Octets

/-! ## Definitions -/

def formalCoTsScaledLsbBits (profile : Profile) (variant : FormalCoVariant) : Nat :=
  if !formalCoVariantValidForProfile profile variant then 0
  else
    match variant with
    | .pt1Rnd | .pt1SeqTs | .pt2SeqTs => 5
    | .pt2Rnd => 6
    | .pt2SeqBoth => 7
    | _ => 0

def formalCoVariantHasMarker : FormalCoVariant → Bool
  | .pt1Rnd | .pt1SeqTs | .pt2Rnd | .pt2SeqBoth | .pt2SeqTs => true
  | _ => false

def formalCoControlCrc (controlCrcInput : Bytes) : UInt8 := crc3 controlCrcInput &&& 0x07

structure FormalCoCommonFields where
  marker : Bool := false
  flags1Indicator : Bool := false
  flags2Indicator : Bool := false
  tscIndicator : Bool := false
  tssIndicator : Bool := false
  ipIdIndicator : Bool := false
  flagsIndicator : Bool := false
  ttlHoplIndicator : Bool := false
  tosTcIndicator : Bool := false
  reorderRatio : UInt8 := 0
  variablePart : Bytes := []
deriving DecidableEq, Repr

structure FormalCoPacket where
  profile : Profile := .uncompressed
  variant : FormalCoVariant := .pt0Crc3
  cid : Nat := 0
  largeCid : Bool := false
  cidLen : Nat := 0
  msn : UInt16 := 0
  ipId : UInt16 := 0
  tsScaled : UInt16 := 0
  marker : Bool := false
  headerCrc : UInt8 := 0
  controlCrc3 : UInt8 := 0
  flags1Indicator : Bool := false
  flags2Indicator : Bool := false
  tscIndicator : Bool := false
  tssIndicator : Bool := false
  ipIdIndicator : Bool := false
  flagsIndicator : Bool := false
  ttlHoplIndicator : Bool := false
  tosTcIndicator : Bool := false
  reorderRatio : UInt8 := 0
  variableOffset : Nat := 0
  variableLen : Nat := 0
deriving DecidableEq, Repr

/-- What every emitter puts around its octets: the Add-CID octet in front, or the large CID behind the first octet. -/
def frameFormalCo (cidValue : Nat) (largeCidSpace : Bool) (first : UInt8) (rest : Bytes) : Bytes :=
  let addCid := if !largeCidSpace && cidValue > 0 then [0xE0 ||| (UInt8.ofNat cidValue &&& 0x0F)] else []
  let cid := if largeCidSpace then Cid.largeOctets cidValue else []
  addCid ++ [first] ++ cid ++ rest

/-- Where a decoder stands once it has read the CID. -/
structure FormalPrefix where
  cid : Nat
  first : UInt8
  cidLen : Nat
  pos : Nat
deriving DecidableEq, Repr

/-- The common head of the three decoders: the CID and the first octet of the unit. -/
def readFormalPrefix (input : Bytes) (largeCidSpace : Bool) : Option FormalPrefix :=
  if input.length = 0 then none
  else if !largeCidSpace && u8At input 0 &&& 0xF0 == 0xE0 then
    let cid := (u8At input 0 &&& 0x0F).toNat
    if cid = 0 ∨ input.length < 2 then none else some ⟨cid, u8At input 1, 0, 2⟩
  else if largeCidSpace then
    match Cid.readLarge (input.drop 1) with
    | some (cid, cidLen) => some ⟨cid, u8At input 0, cidLen, 1 + cidLen⟩
    | none => none
  else some ⟨0, u8At input 0, 0, 1⟩

/-- `decode_formal_co`, with the position it stops at. Without `wantConsumed` the unit must be the whole input. -/
def decodeFormalCo (input : Bytes) (profile : Profile) (variant : FormalCoVariant) (largeCidSpace : Bool)
    (crcInput : Bytes) (wantConsumed : Bool) : Option (FormalCoPacket × Nat) :=
  let baseLen := formalCoBaseLen profile variant
  if !formalCoVariantValidForProfile profile variant ∨ baseLen = 0 ∨ baseLen > 4 then none
  else do
    let head ← readFormalPrefix input largeCidSpace
    guard (¬ input.length - head.pos < baseLen - 1)
    let base := head.first :: slice input head.pos (baseLen - 1)
    let pos := head.pos + (baseLen - 1)
    let read ← readFormalCoBase base baseLen profile variant
    guard (read.headerCrc = formalCoHeaderCrc variant crcInput)
    guard (wantConsumed ∨ pos = input.length)
    return ({ profile := profile, variant := variant, cid := head.cid, largeCid := largeCidSpace,
              cidLen := head.cidLen, msn := read.msn, ipId := read.ipId, tsScaled := read.tsScaled,
              marker := read.marker, headerCrc := read.headerCrc }, pos)

def flag (b : Bool) (mask : UInt8) : UInt8 := if b then mask else 0

/-- The CRC octet and the control octet of a `co_common`. -/
def formalCoCommonOctets (profile : Profile) (fields : FormalCoCommonFields) (headerCrc controlCrc : UInt8) :
    UInt8 × UInt8 :=
  if isRtpFormalCoProfile profile then
    (flag fields.marker 0x80 ||| (headerCrc &&& 0x7F),
      flag fields.flags1Indicator 0x80 ||| flag fields.flags2Indicator 0x40 ||| flag fields.tscIndicator 0x20 |||
        flag fields.tssIndicator 0x10 ||| flag fields.ipIdIndicator 0x08 ||| (controlCrc &&& 0x07))
  else
    (flag fields.ipIdIndicator 0x80 ||| (headerCrc &&& 0x7F),
      flag fields.flagsIndicator 0x80 ||| flag fields.ttlHoplIndicator 0x40 ||| flag fields.tosTcIndicator 0x20 |||
        ((fields.reorderRatio &&& 0x03) <<< 3) ||| (controlCrc &&& 0x07))

def emitFormalCoCommon (cap : Nat) (profile : Profile) (cidValue : Nat) (largeCidSpace : Bool)
    (fields : FormalCoCommonFields) (headerCrcInput controlCrcInput : Bytes) : Option Bytes :=
  if !formalCoVariantValidForProfile profile .coCommon ∨ !Cid.isValidForSpace cidValue largeCidSpace ∨
      fields.reorderRatio > 3 then
    none
  else
    let octets := formalCoCommonOctets profile fields (formalCoHeaderCrc .coCommon headerCrcInput)
      (formalCoControlCrc controlCrcInput)
    let out := frameFormalCo cidValue largeCidSpace 0xFA ([octets.1, octets.2] ++ fields.variablePart)
    if cap < out.length then none else some out

def decodeFormalCoCommon (input : Bytes) (profile : Profile) (largeCidSpace : Bool)
    (headerCrcInput controlCrcInput : Bytes) : Option (FormalCoPacket × Nat) :=
  if !formalCoVariantValidForProfile profile .coCommon then none
  else do
    let head ← readFormalPrefix input largeCidSpace
    guard (head.first = 0xFA)
    guard (¬ input.length - head.pos < 2)
    let crcOctet := u8At input head.pos
    let controlOctet := u8At input (head.pos + 1)
    let common : FormalCoPacket :=
      { profile := profile, variant := .coCommon, cid := head.cid, largeCid := largeCidSpace, cidLen := head.cidLen,
        headerCrc := crcOctet &&& 0x7F, controlCrc3 := controlOctet &&& 0x07 }
    let packet :=
      if isRtpFormalCoProfile profile then
        { common with
          marker := crcOctet &&& 0x80 != 0
          flags1Indicator := controlOctet &&& 0x80 != 0
          flags2Indicator := controlOctet &&& 0x40 != 0
          tscIndicator := controlOctet &&& 0x20 != 0
          tssIndicator := controlOctet &&& 0x10 != 0
          ipIdIndicator := controlOctet &&& 0x08 != 0 }
      else
        { common with
          ipIdIndicator := crcOctet &&& 0x80 != 0
          flagsIndicator := controlOctet &&& 0x80 != 0
          ttlHoplIndicator := controlOctet &&& 0x40 != 0
          tosTcIndicator := controlOctet &&& 0x20 != 0
          reorderRatio := (controlOctet >>> 3) &&& 0x03 }
    guard (packet.headerCrc = formalCoHeaderCrc .coCommon headerCrcInput)
    guard (packet.controlCrc3 = formalCoControlCrc controlCrcInput)
    return ({ packet with variableOffset := head.pos + 2, variableLen := input.length - (head.pos + 2) }, input.length)

def emitFormalCoRepair (cap : Nat) (profile : Profile) (cidValue : Nat) (largeCidSpace : Bool) (dynamicChain : Bytes)
    (headerCrcInput controlCrcInput : Bytes) : Option Bytes :=
  if !formalCoVariantValidForProfile profile .coRepair ∨ !Cid.isValidForSpace cidValue largeCidSpace then none
  else
    let out := frameFormalCo cidValue largeCidSpace 0xFB
      ([formalCoHeaderCrc .coRepair headerCrcInput, formalCoControlCrc controlCrcInput] ++ dynamicChain)
    if cap < out.length then none else some out

def decodeFormalCoRepair (input : Bytes) (profile : Profile) (largeCidSpace : Bool)
    (headerCrcInput controlCrcInput : Bytes) : Option (FormalCoPacket × Nat) :=
  if !formalCoVariantValidForProfile profile .coRepair then none
  else do
    let head ← readFormalPrefix input largeCidSpace
    guard (head.first = 0xFB)
    guard (¬ input.length - head.pos < 2)
    let crcOctet := u8At input head.pos
    let controlOctet := u8At input (head.pos + 1)
    guard (¬ (crcOctet &&& 0x80 ≠ 0 ∨ controlOctet &&& 0xF8 ≠ 0))
    guard (crcOctet &&& 0x7F = formalCoHeaderCrc .coRepair headerCrcInput)
    guard (controlOctet &&& 0x07 = formalCoControlCrc controlCrcInput)
    return ({ profile := profile, variant := .coRepair, cid := head.cid, largeCid := largeCidSpace,
              cidLen := head.cidLen, headerCrc := crcOctet &&& 0x7F, controlCrc3 := controlOctet &&& 0x07,
              variableOffset := head.pos + 2, variableLen := input.length - (head.pos + 2) }, input.length)

/-! ## CRC widths -/

theorem and_0x07_lt (b : UInt8) : b &&& 0x07 < 8 :=
  forall_octet (P := fun b => b &&& 0x07 < 8) (by decide) b

/-- Every entry of the table is masked to three bits. -/
theorem crcLookup_crcTable3_lt (i : UInt8) : crcLookup crcTable3 i < 8 := by
  have hentry : crcLookup crcTable3 i = crc3Transition (UInt8.ofNat i.toNat) := Vector.getElem_ofFn _
  rw [hentry]
  exact and_0x07_lt _

theorem foldl_crcTable3_lt (data : Bytes) {crc : UInt8} (h : crc < 8) :
    data.foldl (fun crc b => crcLookup crcTable3 (crc ^^^ b)) crc < 8 := by
  induction data generalizing crc with
  | nil => exact h
  | cons b data ih =>
    rw [List.foldl_cons]
    exact ih (crcLookup_crcTable3_lt (crc ^^^ b))

theorem crc3_lt (data : Bytes) : crc3 data < 8 := foldl_crcTable3_lt data (by decide)

theorem and_0x7F_lt (b : UInt8) : b &&& 0x7F < 128 :=
  forall_octet (P := fun b => b &&& 0x7F < 128) (by decide) b

theorem formalCoHeaderCrc_lt (variant : FormalCoVariant) (crcInput : Bytes) :
    formalCoHeaderCrc variant crcInput < if formalCoVariantUsesCrc3 variant then 8 else 128 := by
  unfold formalCoHeaderCrc
  split
  · exact crc3_lt crcInput
  · exact and_0x7F_lt _

/-! ## Base headers -/

/-- What the reader gives back: of every number the bits its field has room for. -/
def lsbs (value : UInt16) (width : Nat) : UInt16 := UInt16.ofNat (value.toNat % 2 ^ width)

def formalCoBaseOf (profile : Profile) (variant : FormalCoVariant) (fields : FormalCoFields) (crc : UInt8) :
    FormalCoBase where
  msn := lsbs fields.msn (formalCoMsnLsbBits profile variant)
  ipId := lsbs fields.ipId (formalCoIpIdLsbBits profile variant)
  tsScaled := lsbs fields.tsScaled (formalCoTsScaledLsbBits profile variant)
  marker := formalCoVariantHasMarker variant && fields.marker
  headerCrc := crc

open BitWriter in
/-- A layout that fills its octets is read back from a cleared buffer. -/
theorem readFields_layout {n : Nat} (layout : List (Nat × Nat)) (h : fieldBits layout = 8 * n) :
    readFields ((⟨List.replicate n 0, 0⟩ : BitWriter).writeFields layout).buf 0 (layout.map Prod.snd) =
      layout.map fun f => f.1 % 2 ^ f.2 :=
  readFields_writeFields (w := ⟨List.replicate n 0, 0⟩) layout (fun j _ => bitAt_replicate_zero n j)
    (by change 0 + fieldBits layout ≤ 8 * (List.replicate n (0 : UInt8)).length
        rw [h, List.length_replicate]
        omega)

variable {profile : Profile} {variant : FormalCoVariant} {fields : FormalCoFields} {crc : UInt8} {base : Bytes}

/-- The fields of a base header with their widths, in the order they are written. -/
def formalCoLayout (profile : Profile) (variant : FormalCoVariant) (fields : FormalCoFields) (crc : UInt8) :
    List (Nat × Nat) :=
  let rtp := isRtpFormalCoProfile profile
  let msn := fields.msn.toNat
  let ipId := fields.ipId.toNat
  let ts := fields.tsScaled.toNat
  let marker := fields.marker.toNat
  let crc := crc.toNat
  match variant with
  | .pt0Crc3 => [(0, 1), (msn % 16, 4), (crc % 8, 3)]
  | .pt0Crc7 =>
    if rtp then [(0x08, 4), (msn % 32, 5), (crc % 128, 7)] else [(0x04, 3), (msn % 64, 6), (crc % 128, 7)]
  | .pt1Rnd | .pt1SeqTs => [(0x05, 3), (marker, 1), (msn % 16, 4), (ts % 32, 5), (crc % 8, 3)]
  | .pt1SeqId =>
    if rtp then [(0x09, 4), (ipId % 16, 4), (msn % 32, 5), (crc % 8, 3)]
    else [(0x05, 3), (crc % 8, 3), (msn % 64, 6), (ipId % 16, 4)]
  | .pt2Rnd => [(0x06, 3), (msn % 128, 7), (ts % 64, 6), (marker, 1), (crc % 128, 7)]
  | .pt2SeqId =>
    if rtp then [(0x18, 5), (msn % 128, 7), (ipId % 32, 5), (crc % 128, 7)]
    else [(0x06, 3), (ipId % 64, 6), (crc % 128, 7), (msn % 256, 8)]
  | .pt2SeqBoth => [(0x19, 5), (msn % 128, 7), (ipId % 32, 5), (crc % 128, 7), (ts % 128, 7), (marker, 1)]
  | .pt2SeqTs => [(0x0D, 4), (msn % 128, 7), (ts % 32, 5), (marker, 1), (crc % 128, 7)]
  | .coCommon | .coRepair => []

theorem fieldBits_formalCoLayout (hvalid : formalCoVariantValidForProfile profile variant = true) :
    BitWriter.fieldBits (formalCoLayout profile variant fields crc) = 8 * formalCoBaseLen profile variant := by
  unfold formalCoLayout formalCoBaseLen
  rw [hvalid]
  cases variant <;> first | rfl | (simp only; split <;> rfl)

/-- The writer is its layout. -/
theorem writeFormalCoBase_eq (hvalid : formalCoVariantValidForProfile profile variant = true)
    (hlen : formalCoBaseLen profile variant ≠ 0) :
    writeFormalCoBase (formalCoBaseLen profile variant) profile variant fields crc =
      some ((⟨List.replicate (formalCoBaseLen profile variant) 0, 0⟩ : BitWriter).writeFields
        (formalCoLayout profile variant fields crc)).buf := by
  unfold writeFormalCoBase formalCoLayout formalCoBaseLen
  unfold formalCoBaseLen at hlen
  rw [hvalid] at hlen ⊢
  unfold formalCoVariantValidForProfile at hvalid
  cases variant <;> cases hrtp : isRtpFormalCoProfile profile <;>
    simp [hrtp, BitWriter.writeFields] at hlen hvalid ⊢

/-- A CRC within the width of its field is kept by it. -/
theorem crc_of_lt (h : crc < if formalCoVariantUsesCrc3 variant then 8 else 128) :
    UInt8.ofNat (crc.toNat % if formalCoVariantUsesCrc3 variant then 8 else 128) = crc := by
  have hlt : crc.toNat < if formalCoVariantUsesCrc3 variant then 8 else 128 := by
    cases hv : formalCoVariantUsesCrc3 variant <;> rw [hv] at h <;> exact h
  rw [Nat.mod_eq_of_lt hlt, UInt8.ofNat_toNat]

/-- The reader reads its layout. -/
theorem readFormalCoBase_of_layout (hvalid : formalCoVariantValidForProfile profile variant = true)
    (hlen : formalCoBaseLen profile variant ≠ 0)
    (hcrc : crc < if formalCoVariantUsesCrc3 variant then 8 else 128)
    (hread : BitWriter.readFields base 0 ((formalCoLayout profile variant fields crc).map Prod.snd) =
      (formalCoLayout profile variant fields crc).map fun f => f.1 % 2 ^ f.2) :
    readFormalCoBase base (formalCoBaseLen profile variant) profile variant =
      some (formalCoBaseOf profile variant fields crc) := by
  have hc := crc_of_lt hcrc
  have hm : decide (fields.marker.toNat % 2 = 1) = fields.marker := by cases fields.marker <;> rfl
  unfold readFormalCoBase formalCoBaseOf formalCoMsnLsbBits formalCoIpIdLsbBits formalCoTsScaledLsbBits formalCoBaseLen
  unfold formalCoBaseLen at hlen
  unfold formalCoLayout at hread
  rw [hvalid] at hlen ⊢
  unfold formalCoVariantValidForProfile at hvalid
  cases variant <;> cases hrtp : isRtpFormalCoProfile profile <;>
    simp [hrtp, BitWriter.readFields, formalCoVariantUsesCrc3] at hlen hvalid hread hc <;>
    simp [hread, lsbs, formalCoVariantHasMarker, hc, hm, Nat.mod_one]

/-- **A base header reads back.** -/
theorem readFormalCoBase_write (hvalid : formalCoVariantValidForProfile profile variant = true)
    (hlen : formalCoBaseLen profile variant ≠ 0)
    (hcrc : crc < if formalCoVariantUsesCrc3 variant then 8 else 128)
    (h : writeFormalCoBase (formalCoBaseLen profile variant) profile variant fields crc = some base) :
    readFormalCoBase base (formalCoBaseLen profile variant) profile variant =
      some (formalCoBaseOf profile variant fields crc) := by
  rw [writeFormalCoBase_eq hvalid hlen] at h
  refine readFormalCoBase_of_layout hvalid hlen hcrc ?_
  rw [← Option.some.inj h]
  exact readFields_layout _ (fieldBits_formalCoLayout hvalid)

/-- The tags an Add-CID octet would be taken for. -/
theorem readBits_addCid {b : UInt8} (h : b &&& 0xF0 = 0xE0) :
    readBits [b] 0 1 = 1 ∧ readBits [b] 0 3 = 7 ∧ readBits [b] 0 4 = 14 ∧ 28 ≤ readBits [b] 0 5 :=
  forall_octet (P := fun b => b &&& 0xF0 = 0xE0 →
    readBits [b] 0 1 = 1 ∧ readBits [b] 0 3 = 7 ∧ readBits [b] 0 4 = 14 ∧ 28 ≤ readBits [b] 0 5)
    (by decide) b h

/-- No base header starts like an Add-CID octet. -/
theorem first_of_readFormalCoBase {b : UInt8} {rest : Bytes} {n : Nat} {read : FormalCoBase}
    (h : readFormalCoBase (b :: rest) n profile variant = some read) : b &&& 0xF0 ≠ 0xE0 := by
  intro hb
  obtain ⟨h1, h3, h4, h5⟩ := readBits_addCid hb
  have hbits : ∀ k, k ≤ 8 → readBits (b :: rest) 0 k = readBits [b] 0 k := fun k hk =>
    @readBits_append [b] rest 0 k (by simpa using hk)
  rw [← hbits 1 (by decide)] at h1
  rw [← hbits 3 (by decide)] at h3
  rw [← hbits 4 (by decide)] at h4
  rw [← hbits 5 (by decide)] at h5
  have h18 : readBits (b :: rest) 0 5 ≠ 0x18 := by omega
  have h19 : readBits (b :: rest) 0 5 ≠ 0x19 := by omega
  unfold readFormalCoBase at h
  split at h
  · cases h
  · cases variant <;> cases hrtp : isRtpFormalCoProfile profile <;> simp [hrtp, h1, h3, h4, h18, h19] at h

/-! ## Framing -/

/-- The octets up to the end of the CID. -/
def formalCoHead (cidValue : Nat) (largeCidSpace : Bool) (first : UInt8) : Bytes :=
  (if !largeCidSpace && cidValue > 0 then [0xE0 ||| (UInt8.ofNat cidValue &&& 0x0F)] else []) ++ [first] ++
    if largeCidSpace then Cid.largeOctets cidValue else []

def formalCoCidLen (cidValue : Nat) (largeCidSpace : Bool) : Nat :=
  if largeCidSpace then Cid.encodedLen cidValue else 0

theorem addCidOctet {cidValue : Nat} (h : cidValue ≤ 15) :
    ((0xE0 : UInt8) ||| (UInt8.ofNat cidValue &&& 0x0F)) &&& 0xF0 = 0xE0 ∧
      (((0xE0 : UInt8) ||| (UInt8.ofNat cidValue &&& 0x0F)) &&& 0x0F).toNat = cidValue := by
  have key : ∀ m : Fin 16, ((0xE0 : UInt8) ||| (UInt8.ofNat m &&& 0x0F)) &&& 0xF0 = 0xE0 ∧
      (((0xE0 : UInt8) ||| (UInt8.ofNat m &&& 0x0F)) &&& 0x0F).toNat = m := by decide
  exact key ⟨cidValue, by omega⟩

/-- **The framing is undone**, whatever follows. -/
theorem readFormalPrefix_frame {cidValue : Nat} {largeCidSpace : Bool} {first : UInt8}
    (hcid : Cid.isValidForSpace cidValue largeCidSpace = true) (hfirst : first &&& 0xF0 ≠ 0xE0) (rest : Bytes) :
    readFormalPrefix (formalCoHead cidValue largeCidSpace first ++ rest) largeCidSpace =
      some ⟨cidValue, first, formalCoCidLen cidValue largeCidSpace,
        (formalCoHead cidValue largeCidSpace first).length⟩ := by
  have hne : (first &&& 0xF0 == 0xE0) = false := beq_false_of_ne hfirst
  cases largeCidSpace with
  | true =>
    have hle : cidValue ≤ Cid.largeCidMax := by simpa [Cid.isValidForSpace] using hcid
    have hread := Cid.readLarge_largeOctets hle rest
    simp [readFormalPrefix, formalCoHead, formalCoCidLen, hread, Cid.length_largeOctets]
    omega
  | false =>
    have hle : cidValue ≤ 15 := of_decide_eq_true hcid
    by_cases hzero : cidValue = 0
    · subst hzero
      simp [readFormalPrefix, formalCoHead, formalCoCidLen, u8At, hne]
    · obtain ⟨htag, hvalue⟩ := addCidOctet hle
      have hpos : 0 < cidValue := Nat.pos_of_ne_zero hzero
      simp [readFormalPrefix, formalCoHead, formalCoCidLen, u8At, hpos, htag, hvalue, hzero]

/-! ## Round trips -/

variable {cidValue : Nat} {largeCidSpace : Bool} {out : Bytes}

/-- What a unit of one of the nine base formats decodes to. -/
def formalCoPacketOf (profile : Profile) (variant : FormalCoVariant) (cidValue : Nat) (largeCidSpace : Bool)
    (fields : FormalCoFields) (crcInput : Bytes) : FormalCoPacket where
  profile := profile
  variant := variant
  cid := cidValue
  largeCid := largeCidSpace
  cidLen := formalCoCidLen cidValue largeCidSpace
  msn := lsbs fields.msn (formalCoMsnLsbBits profile variant)
  ipId := lsbs fields.ipId (formalCoIpIdLsbBits profile variant)
  tsScaled := lsbs fields.tsScaled (formalCoTsScaledLsbBits profile variant)
  marker := formalCoVariantHasMarker variant && fields.marker
  headerCrc := formalCoHeaderCrc variant crcInput

/-- A written base header has octets, one for each of its length. -/
theorem writeFormalCoBase_cons (hvalid : formalCoVariantValidForProfile profile variant = true)
    (h : writeFormalCoBase (formalCoBaseLen profile variant) profile variant fields crc = some base) :
    formalCoBaseLen profile variant ≠ 0 ∧ formalCoBaseLen profile variant ≤ 4 ∧
      ∃ first rest, base = first :: rest ∧ rest.length = formalCoBaseLen profile variant - 1 := by
  have hlen : formalCoBaseLen profile variant ≠ 0 ∧ formalCoBaseLen profile variant ≤ 4 := by
    unfold writeFormalCoBase at h
    split at h
    · cases h
    case isFalse hn =>
      simp only [not_or] at hn
      exact ⟨hn.1, Nat.not_lt.mp hn.2.1⟩
  refine ⟨hlen.1, hlen.2, ?_⟩
  rw [writeFormalCoBase_eq hvalid hlen.1] at h
  have hbase : base.length = formalCoBaseLen profile variant := by
    rw [← Option.some.inj h, BitWriter.length_writeFields, List.length_replicate]
  cases base with
  | nil => exact absurd hbase.symm hlen.1
  | cons first rest => exact ⟨first, rest, rfl, by rw [← hbase]; rfl⟩

theorem emitFormalCo_eq_some {cap : Nat} {crcInput : Bytes}
    (h : emitFormalCo cap profile variant cidValue largeCidSpace fields crcInput = some out) :
    formalCoVariantValidForProfile profile variant = true ∧ Cid.isValidForSpace cidValue largeCidSpace = true ∧
      ∃ first rest, writeFormalCoBase (formalCoBaseLen profile variant) profile variant fields
          (formalCoHeaderCrc variant crcInput) = some (first :: rest) ∧
        rest.length = formalCoBaseLen profile variant - 1 ∧ out = formalCoHead cidValue largeCidSpace first ++ rest := by
  unfold emitFormalCo at h
  split at h
  · cases h
  case isFalse hok =>
    simp only [not_or, Bool.not_eq_true', Bool.not_eq_false] at hok
    obtain ⟨base, hwrite, hout⟩ := Option.bind_eq_some_iff.mp h
    obtain ⟨-, -, first, rest, rfl, hrest⟩ := writeFormalCoBase_cons hok.1 hwrite
    refine ⟨hok.1, hok.2, first, rest, hwrite, hrest, ?_⟩
    change (if cap < (formalCoHead cidValue largeCidSpace first ++ rest).length then none
      else some (formalCoHead cidValue largeCidSpace first ++ rest)) = some out at hout
    split at hout
    · cases hout
    · exact (Option.some.inj hout).symm

/-- A unit of a base format decodes to its fields. The octets that follow it are left to a caller that asks how many
were consumed. -/
theorem decodeFormalCo_emit {cap : Nat} {crcInput : Bytes}
    (h : emitFormalCo cap profile variant cidValue largeCidSpace fields crcInput = some out) {rest : Bytes}
    {wantConsumed : Bool} (hwhole : wantConsumed = true ∨ rest = []) :
    decodeFormalCo (out ++ rest) profile variant largeCidSpace crcInput wantConsumed =
      some (formalCoPacketOf profile variant cidValue largeCidSpace fields crcInput, out.length) := by
  obtain ⟨hvalid, hcid, first, tail, hwrite, htail, rfl⟩ := emitFormalCo_eq_some h
  obtain ⟨hne, hle, -⟩ := writeFormalCoBase_cons hvalid hwrite
  have hread := readFormalCoBase_write hvalid hne (formalCoHeaderCrc_lt variant crcInput) hwrite
  have hprefix := readFormalPrefix_frame hcid (first_of_readFormalCoBase hread) (tail ++ rest)
  generalize formalCoHead cidValue largeCidSpace first = head at hprefix ⊢
  have hslice : slice (head ++ (tail ++ rest)) head.length (formalCoBaseLen profile variant - 1) = tail := by
    unfold slice
    rw [List.drop_left, ← htail, List.take_left]
  have hroom : ¬((head ++ (tail ++ rest)).length - head.length < formalCoBaseLen profile variant - 1) := by
    simp only [List.length_append]
    omega
  have hend : wantConsumed = true ∨
      head.length + (formalCoBaseLen profile variant - 1) = (head ++ (tail ++ rest)).length := by
    refine hwhole.imp_right fun hrest => ?_
    rw [hrest]
    simp only [List.length_append, List.length_nil]
    omega
  have hcrc : (formalCoBaseOf profile variant fields (formalCoHeaderCrc variant crcInput)).headerCrc =
      formalCoHeaderCrc variant crcInput := rfl
  unfold decodeFormalCo
  dsimp only
  rw [if_neg (by simp only [hvalid]; simp only [Bool.not_true, Bool.false_eq_true, false_or]; omega),
    List.append_assoc, hprefix]
  rw [Option.bind_eq_bind, Option.bind_some, guard_bind hroom, hslice, hread, Option.bind_eq_bind, Option.bind_some,
    guard_bind hcrc, guard_bind hend, List.length_append, htail]
  rfl

/-! ## Units with a variable part -/

theorem ofNat_of_lt {n : Nat} {b : UInt8} (h : b.toNat < n) : ∃ m : Fin n, b = UInt8.ofNat m :=
  ⟨⟨b.toNat, h⟩, UInt8.ofNat_toNat.symm⟩

/-- A CRC octet carries one flag over a seven-bit CRC. -/
theorem crcOctet_fields (bit : Bool) {c : UInt8} (h : c < 128) :
    (flag bit 0x80 ||| (c &&& 0x7F)) &&& 0x7F = c ∧ ((flag bit 0x80 ||| (c &&& 0x7F)) &&& 0x80 != 0) = bit := by
  obtain ⟨m, rfl⟩ := ofNat_of_lt (n := 128) h
  have key : ∀ (bit : Bool) (m : Fin 128), (flag bit 0x80 ||| (UInt8.ofNat m &&& 0x7F)) &&& 0x7F = UInt8.ofNat m ∧
      ((flag bit 0x80 ||| (UInt8.ofNat m &&& 0x7F)) &&& 0x80 != 0) = bit := by decide
  exact key bit m

/-- The control octet of the RTP profiles. -/
def rtpControlOctet (flags1 flags2 tsc tss ipId : Bool) (c : UInt8) : UInt8 :=
  flag flags1 0x80 ||| flag flags2 0x40 ||| flag tsc 0x20 ||| flag tss 0x10 ||| flag ipId 0x08 ||| (c &&& 0x07)

theorem rtpControlOctet_fields (flags1 flags2 tsc tss ipId : Bool) {c : UInt8} (h : c < 8) :
    rtpControlOctet flags1 flags2 tsc tss ipId c &&& 0x07 = c ∧
      (rtpControlOctet flags1 flags2 tsc tss ipId c &&& 0x80 != 0) = flags1 ∧
      (rtpControlOctet flags1 flags2 tsc tss ipId c &&& 0x40 != 0) = flags2 ∧
      (rtpControlOctet flags1 flags2 tsc tss ipId c &&& 0x20 != 0) = tsc ∧
      (rtpControlOctet flags1 flags2 tsc tss ipId c &&& 0x10 != 0) = tss ∧
      (rtpControlOctet flags1 flags2 tsc tss ipId c &&& 0x08 != 0) = ipId := by
  obtain ⟨m, rfl⟩ := ofNat_of_lt (n := 8) h
  revert flags1 flags2 tsc tss ipId m
  decide

/-- The control octet of the other profiles. -/
def plainControlOctet (flags ttlHopl tosTc : Bool) (reorderRatio c : UInt8) : UInt8 :=
  flag flags 0x80 ||| flag ttlHopl 0x40 ||| flag tosTc 0x20 ||| ((reorderRatio &&& 0x03) <<< 3) ||| (c &&& 0x07)

theorem plainControlOctet_fields (flags ttlHopl tosTc : Bool) {reorderRatio c : UInt8} (hr : reorderRatio < 4)
    (h : c < 8) :
    plainControlOctet flags ttlHopl tosTc reorderRatio c &&& 0x07 = c ∧
      (plainControlOctet flags ttlHopl tosTc reorderRatio c &&& 0x80 != 0) = flags ∧
      (plainControlOctet flags ttlHopl tosTc reorderRatio c &&& 0x40 != 0) = ttlHopl ∧
      (plainControlOctet flags ttlHopl tosTc reorderRatio c &&& 0x20 != 0) = tosTc ∧
      (plainControlOctet flags ttlHopl tosTc reorderRatio c >>> 3) &&& 0x03 = reorderRatio := by
  obtain ⟨m, rfl⟩ := ofNat_of_lt (n := 8) h
  obtain ⟨r, rfl⟩ := ofNat_of_lt (n := 4) hr
  revert flags ttlHopl tosTc r m
  decide

theorem formalCoControlCrc_lt (controlCrcInput : Bytes) : formalCoControlCrc controlCrcInput < 8 :=
  and_0x07_lt _

/-- What a `co_common` decodes to: the flags its profile has a place for, and the extent of the variable part. -/
def formalCoCommonPacketOf (profile : Profile) (cidValue : Nat) (largeCidSpace : Bool) (fields : FormalCoCommonFields)
    (headerCrcInput controlCrcInput : Bytes) : FormalCoPacket :=
  let rtp := isRtpFormalCoProfile profile
  { profile := profile
    variant := .coCommon
    cid := cidValue
    largeCid := largeCidSpace
    cidLen := formalCoCidLen cidValue largeCidSpace
    headerCrc := formalCoHeaderCrc .coCommon headerCrcInput
    controlCrc3 := formalCoControlCrc controlCrcInput
    marker := rtp && fields.marker
    flags1Indicator := rtp && fields.flags1Indicator
    flags2Indicator := rtp && fields.flags2Indicator
    tscIndicator := rtp && fields.tscIndicator
    tssIndicator := rtp && fields.tssIndicator
    ipIdIndicator := fields.ipIdIndicator
    flagsIndicator := !rtp && fields.flagsIndicator
    ttlHoplIndicator := !rtp && fields.ttlHoplIndicator
    tosTcIndicator := !rtp && fields.tosTcIndicator
    reorderRatio := if rtp then 0 else fields.reorderRatio
    variableOffset := (formalCoHead cidValue largeCidSpace 0xFA).length + 2
    variableLen := fields.variablePart.length }

/-- What a `co_repair` decodes to. -/
def formalCoRepairPacketOf (profile : Profile) (cidValue : Nat) (largeCidSpace : Bool) (dynamicChain : Bytes)
    (headerCrcInput controlCrcInput : Bytes) : FormalCoPacket where
  profile := profile
  variant := .coRepair
  cid := cidValue
  largeCid := largeCidSpace
  cidLen := formalCoCidLen cidValue largeCidSpace
  headerCrc := formalCoHeaderCrc .coRepair headerCrcInput
  controlCrc3 := formalCoControlCrc controlCrcInput
  variableOffset := (formalCoHead cidValue largeCidSpace 0xFB).length + 2
  variableLen := dynamicChain.length

/-- Two octets behind the head, and what follows them. -/
theorem u8At_head (head : Bytes) (x y : UInt8) (rest : Bytes) :
    u8At (head ++ ([x, y] ++ rest)) head.length = x ∧ u8At (head ++ ([x, y] ++ rest)) (head.length + 1) = y ∧
      ¬((head ++ ([x, y] ++ rest)).length - head.length < 2) ∧
      (head ++ ([x, y] ++ rest)).length - (head.length + 2) = rest.length := by
  refine ⟨?_, ?_, ?_, ?_⟩
  · simp [u8At]
  · simp [u8At]
  · simp only [List.length_append, List.length_cons, List.length_nil]
    omega
  · simp only [List.length_append, List.length_cons, List.length_nil]
    omega

theorem decodeFormalCoCommon_frame {commonFields : FormalCoCommonFields} {headerCrcInput controlCrcInput : Bytes}
    (hvalid : formalCoVariantValidForProfile profile .coCommon = true)
    (hcid : Cid.isValidForSpace cidValue largeCidSpace = true) (hratio : commonFields.reorderRatio ≤ 3)
    {octets : UInt8 × UInt8}
    (hoctets : octets = formalCoCommonOctets profile commonFields (formalCoHeaderCrc .coCommon headerCrcInput)
      (formalCoControlCrc controlCrcInput)) :
    decodeFormalCoCommon
        (formalCoHead cidValue largeCidSpace 0xFA ++ ([octets.1, octets.2] ++ commonFields.variablePart))
        profile largeCidSpace headerCrcInput controlCrcInput =
      some (formalCoCommonPacketOf profile cidValue largeCidSpace commonFields headerCrcInput controlCrcInput,
        (formalCoHead cidValue largeCidSpace 0xFA ++ ([octets.1, octets.2] ++ commonFields.variablePart)).length) := by
  have hprefix := readFormalPrefix_frame hcid (show (0xFA : UInt8) &&& 0xF0 ≠ 0xE0 by decide)
    ([octets.1, octets.2] ++ commonFields.variablePart)
  obtain ⟨hcrcOctet, hcontrolOctet, hroom, hrest⟩ := u8At_head (formalCoHead cidValue largeCidSpace 0xFA) octets.1
    octets.2 commonFields.variablePart
  have hc := formalCoHeaderCrc_lt .coCommon headerCrcInput
  have hk := formalCoControlCrc_lt controlCrcInput
  have hr : commonFields.reorderRatio < 4 := UInt8.lt_of_le_of_lt hratio (by decide)
  unfold decodeFormalCoCommon
  rw [if_neg (by rw [hvalid]; decide), hprefix]
  rw [Option.bind_eq_bind, Option.bind_some]
  dsimp only
  rw [guard_bind rfl, guard_bind hroom, hcrcOctet, hcontrolOctet, hrest]
  unfold formalCoCommonPacketOf
  cases hrtp : isRtpFormalCoProfile profile with
  | true =>
    rw [formalCoCommonOctets, hrtp, if_pos rfl] at hoctets
    obtain ⟨hcrc, hbit⟩ := crcOctet_fields commonFields.marker hc
    obtain ⟨hctl, hf1, hf2, htsc, htss, hid⟩ := rtpControlOctet_fields commonFields.flags1Indicator
      commonFields.flags2Indicator commonFields.tscIndicator commonFields.tssIndicator commonFields.ipIdIndicator hk
    unfold rtpControlOctet at hctl hf1 hf2 htsc htss hid
    simp [hoctets, hcrc, hbit, hctl, hf1, hf2, htsc, htss, hid]
  | false =>
    rw [formalCoCommonOctets, hrtp, if_neg (by decide)] at hoctets
    obtain ⟨hcrc, hbit⟩ := crcOctet_fields commonFields.ipIdIndicator hc
    obtain ⟨hctl, hf, htt, htos, hratio⟩ := plainControlOctet_fields commonFields.flagsIndicator
      commonFields.ttlHoplIndicator commonFields.tosTcIndicator hr hk
    unfold plainControlOctet at hctl hf htt htos hratio
    simp [hoctets, hcrc, hbit, hctl, hf, htt, htos, hratio]

theorem decodeFormalCoRepair_frame {dynamicChain headerCrcInput controlCrcInput : Bytes}
    (hvalid : formalCoVariantValidForProfile profile .coRepair = true)
    (hcid : Cid.isValidForSpace cidValue largeCidSpace = true) {x y : UInt8}
    (hx : formalCoHeaderCrc .coRepair headerCrcInput = x) (hy : formalCoControlCrc controlCrcInput = y) :
    decodeFormalCoRepair (formalCoHead cidValue largeCidSpace 0xFB ++ ([x, y] ++ dynamicChain)) profile largeCidSpace
        headerCrcInput controlCrcInput =
      some (formalCoRepairPacketOf profile cidValue largeCidSpace dynamicChain headerCrcInput controlCrcInput,
        (formalCoHead cidValue largeCidSpace 0xFB ++ ([x, y] ++ dynamicChain)).length) := by
  have hprefix := readFormalPrefix_frame hcid (show (0xFB : UInt8) &&& 0xF0 ≠ 0xE0 by decide) ([x, y] ++ dynamicChain)
  obtain ⟨hcrcOctet, hcontrolOctet, hroom, hrest⟩ :=
    u8At_head (formalCoHead cidValue largeCidSpace 0xFB) x y dynamicChain
  have hclear : ¬(x &&& 0x80 ≠ 0 ∨ y &&& 0xF8 ≠ 0) ∧ x &&& 0x7F = x ∧ y &&& 0x07 = y := by
    obtain ⟨m, hm⟩ := ofNat_of_lt (n := 128) (formalCoHeaderCrc_lt .coRepair headerCrcInput)
    obtain ⟨k, hk⟩ := ofNat_of_lt (n := 8) (formalCoControlCrc_lt controlCrcInput)
    rw [← hx, ← hy, hm, hk]
    have hm128 : ∀ m : Fin 128, UInt8.ofNat m &&& 0x80 = 0 ∧ UInt8.ofNat m &&& 0x7F = UInt8.ofNat m := by
      decide
    have hk8 : ∀ k : Fin 8, UInt8.ofNat k &&& 0xF8 = 0 ∧ UInt8.ofNat k &&& 0x07 = UInt8.ofNat k := by
      decide
    exact ⟨fun h => h.elim (fun h => h (hm128 m).1) (fun h => h (hk8 k).1), (hm128 m).2, (hk8 k).2⟩
  obtain ⟨hclear, hx7, hy3⟩ := hclear
  unfold decodeFormalCoRepair formalCoRepairPacketOf
  rw [if_neg (by rw [hvalid]; decide), hprefix]
  rw [Option.bind_eq_bind, Option.bind_some]
  dsimp only
  rw [guard_bind rfl, guard_bind hroom, hcrcOctet, hcontrolOctet, guard_bind hclear, hx7, hy3, hrest,
    guard_bind hx.symm, guard_bind hy.symm, hx, hy]
  rfl

/-- An emitter writes the same unit wherever it has room, and the decoder gives back the packet and the variable part
and consumes the whole unit. -/
def ReadsBack (emit : Nat → Option Bytes) (decode : Bytes → Option (FormalCoPacket × Nat)) (packet : FormalCoPacket)
    (variablePart : Bytes) : Prop :=
  ∃ out, (∀ cap, emit cap = if cap < out.length then none else some out) ∧ decode out = some (packet, out.length) ∧
    slice out packet.variableOffset packet.variableLen = variablePart

theorem slice_behind_head (head : Bytes) (x y : UInt8) (rest : Bytes) :
    slice (head ++ ([x, y] ++ rest)) (head.length + 2) rest.length = rest := by
  unfold slice
  rw [← List.append_assoc, show head.length + 2 = (head ++ [x, y]).length by simp, List.drop_left, List.take_length]

theorem formalCo_readsBack (fields : FormalCoFields) (crcInput : Bytes) (wantConsumed : Bool)
    (hvalid : formalCoVariantValidForProfile profile variant = true)
    (hlen : formalCoBaseLen profile variant ≠ 0) (hcid : Cid.isValidForSpace cidValue largeCidSpace = true) :
    ReadsBack (fun cap => emitFormalCo cap profile variant cidValue largeCidSpace fields crcInput)
      (fun out => decodeFormalCo out profile variant largeCidSpace crcInput wantConsumed)
      (formalCoPacketOf profile variant cidValue largeCidSpace fields crcInput) [] := by
  have hwrite : writeFormalCoBase (formalCoBaseLen profile variant) profile variant fields
      (formalCoHeaderCrc variant crcInput) = _ := writeFormalCoBase_eq hvalid hlen
  obtain ⟨-, -, first, rest, hbase, -⟩ := writeFormalCoBase_cons hvalid hwrite
  rw [hbase] at hwrite
  have hemit : ∀ cap, emitFormalCo cap profile variant cidValue largeCidSpace fields crcInput =
      if cap < (formalCoHead cidValue largeCidSpace first ++ rest).length then none
      else some (formalCoHead cidValue largeCidSpace first ++ rest) := by
    intro cap
    unfold emitFormalCo
    rw [if_neg (by rw [hvalid, hcid]; decide), hwrite]
    rfl
  refine ⟨_, hemit, ?_, rfl⟩
  have hsome := hemit (formalCoHead cidValue largeCidSpace first ++ rest).length
  rw [if_neg (Nat.lt_irrefl _)] at hsome
  have hdecode : decodeFormalCo (_ ++ []) profile variant largeCidSpace crcInput wantConsumed = _ :=
    decodeFormalCo_emit hsome (.inr rfl)
  rwa [List.append_nil] at hdecode

theorem emitFormalCoCommon_eq {commonFields : FormalCoCommonFields} {headerCrcInput controlCrcInput : Bytes}
    (hvalid : formalCoVariantValidForProfile profile .coCommon = true)
    (hcid : Cid.isValidForSpace cidValue largeCidSpace = true) (hratio : commonFields.reorderRatio ≤ 3)
    {octets : UInt8 × UInt8}
    (hoctets : octets = formalCoCommonOctets profile commonFields (formalCoHeaderCrc .coCommon headerCrcInput)
      (formalCoControlCrc controlCrcInput)) {out : Bytes}
    (hout : out = formalCoHead cidValue largeCidSpace 0xFA ++ ([octets.1, octets.2] ++ commonFields.variablePart))
    (cap : Nat) :
    emitFormalCoCommon cap profile cidValue largeCidSpace commonFields headerCrcInput controlCrcInput =
      if cap < out.length then none else some out := by
  unfold emitFormalCoCommon
  rw [if_neg (by rw [hvalid, hcid]; simpa using hratio), hout, hoctets]
  rfl

theorem emitFormalCoRepair_eq {dynamicChain headerCrcInput controlCrcInput : Bytes}
    (hvalid : formalCoVariantValidForProfile profile .coRepair = true)
    (hcid : Cid.isValidForSpace cidValue largeCidSpace = true) {out : Bytes}
    (hout : out = formalCoHead cidValue largeCidSpace 0xFB ++
      ([formalCoHeaderCrc .coRepair headerCrcInput, formalCoControlCrc controlCrcInput] ++ dynamicChain)) (cap : Nat) :
    emitFormalCoRepair cap profile cidValue largeCidSpace dynamicChain headerCrcInput controlCrcInput =
      if cap < out.length then none else some out := by
  unfold emitFormalCoRepair
  rw [if_neg (by rw [hvalid, hcid]; decide), hout]
  rfl

/-- **Every formal unit is read back**: for each format a profile allows, each valid CID, all fields, CRC inputs and
variable octets, the decoder returns the CID, the bits of each number its field has room for, the flags the format
carries and the variable octets, and consumes the unit. -/
theorem formal_co_round_trip (profile : Profile) (cidValue : Nat) (largeCidSpace : Bool)
    (hprofile : isSupportedFormalCoProfile profile = true)
    (hcid : Cid.isValidForSpace cidValue largeCidSpace = true) :
    (∀ variant fields crcInput wantConsumed, formalCoVariantValidForProfile profile variant = true →
      variant ≠ .coCommon → variant ≠ .coRepair →
      ReadsBack (fun cap => emitFormalCo cap profile variant cidValue largeCidSpace fields crcInput)
        (fun out => decodeFormalCo out profile variant largeCidSpace crcInput wantConsumed)
        (formalCoPacketOf profile variant cidValue largeCidSpace fields crcInput) []) ∧
    (∀ commonFields headerCrcInput controlCrcInput, commonFields.reorderRatio ≤ 3 →
      ReadsBack (fun cap => emitFormalCoCommon cap profile cidValue largeCidSpace commonFields headerCrcInput
          controlCrcInput)
        (fun out => decodeFormalCoCommon out profile largeCidSpace headerCrcInput controlCrcInput)
        (formalCoCommonPacketOf profile cidValue largeCidSpace commonFields headerCrcInput controlCrcInput)
        commonFields.variablePart) ∧
    ∀ dynamicChain headerCrcInput controlCrcInput,
      ReadsBack (fun cap => emitFormalCoRepair cap profile cidValue largeCidSpace dynamicChain headerCrcInput
          controlCrcInput)
        (fun out => decodeFormalCoRepair out profile largeCidSpace headerCrcInput controlCrcInput)
        (formalCoRepairPacketOf profile cidValue largeCidSpace dynamicChain headerCrcInput controlCrcInput)
        dynamicChain := by
  have hcommon : formalCoVariantValidForProfile profile .coCommon = true := by
    unfold formalCoVariantValidForProfile
    rw [hprofile]
    rfl
  have hrepair : formalCoVariantValidForProfile profile .coRepair = true := hcommon
  refine ⟨?_, ?_, ?_⟩
  · intro variant fields crcInput wantConsumed hvalid hnc hnr
    refine formalCo_readsBack fields crcInput wantConsumed hvalid ?_ hcid
    unfold formalCoBaseLen
    rw [hvalid]
    cases variant <;> first | exact absurd rfl hnc | exact absurd rfl hnr | exact Nat.succ_ne_zero _
  · intro commonFields headerCrcInput controlCrcInput hratio
    exact ⟨_, emitFormalCoCommon_eq hcommon hcid hratio rfl rfl, decodeFormalCoCommon_frame hcommon hcid hratio rfl,
      slice_behind_head _ _ _ _⟩
  · intro dynamicChain headerCrcInput controlCrcInput
    exact ⟨_, emitFormalCoRepair_eq hrepair hcid rfl, decodeFormalCoRepair_frame hrepair hcid rfl rfl,
      slice_behind_head _ _ _ _⟩

/-- An ESP unit with a large CID spliced in behind its first octet. -/
theorem formal_co_round_trip_esp :
    ReadsBack (fun cap => emitFormalCo cap .esp .pt2SeqId 300 true { msn := 0x1234, ipId := 0x0FFF } [1, 2, 3])
      (fun out => decodeFormalCo out .esp .pt2SeqId true [1, 2, 3] false)
      (formalCoPacketOf .esp .pt2SeqId 300 true { msn := 0x1234, ipId := 0x0FFF } [1, 2, 3]) [] :=
  (formal_co_round_trip .esp 300 true rfl rfl).1 .pt2SeqId _ _ false rfl nofun nofun

end Rohccxx
