import Mathlib.Tactic.Linarith
import Mathlib.Tactic.Ring
import Rohccxx.PrivateFo
import Rohccxx.Windows

/-!
# Reordered RTP units

The private RTP unit from `emit_rtp_fo` to `decode_fo_rtp`: its bits are read back one field after the other
(`decodeFoRtp_emit`), for either CID space, and what they mean is a question of numbers. The sequence number is found on
both sides of the last one. The timestamp is not: the prediction counts the step back as a step of almost 65536
(`foReordering_iff`).
-/

set_option autoImplicit false

namespace Rohccxx

open Octets

/-! ## The unit -/

/-- The fields behind the CID. -/
def foRtpFields (seqLsb tsLsb : Nat) : List (Nat × Nat) := [(kSeq, 6), (seqLsb, kSeq), (tsLsb, kTs)]

/-- The fields, filled up to a whole octet, and the CRC-7 over everything in front of it. -/
def sealFoRtp (w : BitWriter) (seqLsb tsLsb : Nat) : Bytes :=
  let w := w.writeFields (foRtpFields seqLsb tsLsb)
  let payloadBytes := (w.bitpos + 7) / 8
  (BitWriter.writeBits ⟨w.buf, payloadBytes * 8⟩ (crc7 (w.buf.take payloadBytes)).toNat 7).buf

/-- The unit up to its CID. -/
def foRtpFront (ctx : Context) : BitWriter :=
  let cidLen := if ctx.largeCid then Cid.encodedLen ctx.cid else 0
  let bw : BitWriter := ⟨List.replicate (5 + cidLen) 0, 0⟩
  let bw := (bw.writeBits 0 1).writeBits 0 1
  let bw := bw.writeBits (if ctx.largeCid then 0 else ctx.cid % 16) 4
  if ctx.largeCid then
    ⟨bw.buf.take 1 ++ Cid.largeOctets ctx.cid ++ bw.buf.drop (1 + cidLen), (1 + cidLen) * 8⟩
  else bw

/-- What the unit says about the sequence number and the timestamp of a context. -/
def foRtpSeqLsb (ctx : Context) : Nat := ctx.rtp.lastSeq.toNat % 64

def foRtpTsLsb (ctx : Context) : Nat := (scaleTimestamp ctx.rtp.lastTs ctx.rtp.tsStride).scaled.toNat % 256

theorem emitRtpFo_eq_seal (cap : Nat) (ctx : Context) : emitRtpFo cap ctx =
    if !Cid.isValidForSpace ctx.cid ctx.largeCid then none
    else if cap ≠ 0 ∧ cap < 5 + (if ctx.largeCid then Cid.encodedLen ctx.cid else 0) then none
    else some (sealFoRtp (foRtpFront ctx) (foRtpSeqLsb ctx) (foRtpTsLsb ctx)) := rfl

theorem emitRtpFo_eq {cap : Nat} {ctx : Context} {unit : Bytes} (h : emitRtpFo cap ctx = some unit) :
    Cid.isValidForSpace ctx.cid ctx.largeCid = true ∧
      unit = sealFoRtp (foRtpFront ctx) (foRtpSeqLsb ctx) (foRtpTsLsb ctx) := by
  rw [emitRtpFo_eq_seal] at h
  by_cases hvalid : Cid.isValidForSpace ctx.cid ctx.largeCid = true
  · rw [hvalid, Bool.not_true, if_neg Bool.false_ne_true] at h
    obtain ⟨-, h⟩ := Option.ite_none_left_eq_some.mp h
    exact ⟨hvalid, (Option.some.inj h).symm⟩
  · rw [Bool.not_eq_true] at hvalid
    rw [hvalid, Bool.not_false, if_pos rfl] at h
    cases h

/-! ## Reading it back -/

/-- The fields of a unit, from the bit behind its CID on. -/
structure FoRtpUnit (unit : Bytes) (bitpos seqLsb tsLsb : Nat) : Prop where
  length : unit.length = (bitpos + 27) / 8 + 1
  width : readBits unit bitpos 6 = kSeq
  seq : readBits unit (bitpos + 6) kSeq = seqLsb
  ts : readBits unit (bitpos + 6 + kSeq) 8 = tsLsb
  crc : validateCrc7Bits unit ((bitpos + 27) / 8 * 8 + 7) = true

section Seal

variable {w : BitWriter} {seqLsb tsLsb : Nat} (hclear : w.Clear) (hlen : w.buf.length = (w.bitpos + 27) / 8 + 1)

/-- The writer in front of the CRC. -/
theorem bitpos_writeFields_foRtp : (w.writeFields (foRtpFields seqLsb tsLsb)).bitpos = w.bitpos + 20 := by
  simp [foRtpFields, BitWriter.writeFields, kSeq, kTs]

include hlen

/-- What stands in front of the CRC is not changed by it. -/
theorem readBits_sealFoRtp {i n : Nat} (h : i + n ≤ w.bitpos + 20) :
    readBits (sealFoRtp w seqLsb tsLsb) i n = readBits (w.writeFields (foRtpFields seqLsb tsLsb)).buf i n := by
  unfold sealFoRtp
  dsimp only
  rw [bitpos_writeFields_foRtp]
  refine BitWriter.readBits_writeBits_of_le ?_ ?_
  · dsimp only
    rw [BitWriter.length_writeFields, hlen]
    omega
  · dsimp only
    omega

omit hlen in
/-- Whole octets in front of the fields stay. -/
theorem take_sealFoRtp {k : Nat} (h : 8 * k ≤ w.bitpos) : (sealFoRtp w seqLsb tsLsb).take k = w.buf.take k := by
  unfold sealFoRtp
  dsimp only
  rw [bitpos_writeFields_foRtp, BitWriter.take_writeBits (by dsimp only; omega)]
  dsimp only [foRtpFields, BitWriter.writeFields, List.foldl_cons, List.foldl_nil]
  rw [BitWriter.take_writeBits (by simp only [BitWriter.bitpos_writeBits]; omega),
    BitWriter.take_writeBits (by simp only [BitWriter.bitpos_writeBits]; omega), BitWriter.take_writeBits h]

include hclear

theorem readFields_sealFoRtp (front rest : List (Nat × Nat)) (value n : Nat)
    (h : foRtpFields seqLsb tsLsb = front ++ (value, n) :: rest) :
    readBits (sealFoRtp w seqLsb tsLsb) (w.bitpos + BitWriter.fieldBits front) n = value % 2 ^ n := by
  have hroom : BitWriter.fieldBits (foRtpFields seqLsb tsLsb) = 20 := by
    simp [foRtpFields, BitWriter.fieldBits, kSeq, kTs]
  have hfits : BitWriter.fieldBits front + n ≤ 20 := by
    rw [h] at hroom
    simp only [BitWriter.fieldBits, List.map_append, List.map_cons, List.sum_append, List.sum_cons] at hroom ⊢
    omega
  rw [readBits_sealFoRtp hlen (by omega), h]
  refine BitWriter.readBits_writeFields front rest value n hclear ?_
  rw [← h, hroom, hlen]
  omega

/-- **Sealing**: every field is read back and the CRC holds. -/
theorem foRtpUnit_seal (hseq : seqLsb < 64) (hts : tsLsb < 256) :
    FoRtpUnit (sealFoRtp w seqLsb tsLsb) w.bitpos seqLsb tsLsb := by
  have hwidth := @readFields_sealFoRtp w seqLsb tsLsb hclear hlen [] _ kSeq 6 rfl
  have hfirst := @readFields_sealFoRtp w seqLsb tsLsb hclear hlen [(kSeq, 6)] _ seqLsb kSeq rfl
  have hsecond := readFields_sealFoRtp hclear hlen [(kSeq, 6), (seqLsb, kSeq)] _ tsLsb kTs rfl
  have hlength : (sealFoRtp w seqLsb tsLsb).length = (w.bitpos + 27) / 8 + 1 := by
    simp [sealFoRtp, hlen]
  refine ⟨hlength, hwidth, ?_, ?_, ?_⟩
  · exact hfirst.trans (Nat.mod_eq_of_lt hseq)
  · exact hsecond.trans (Nat.mod_eq_of_lt hts)
  · have hpos := @bitpos_writeFields_foRtp w seqLsb tsLsb
    have hroom : w.bitpos + BitWriter.fieldBits (foRtpFields seqLsb tsLsb) ≤ 8 * w.buf.length := by
      simp only [foRtpFields, BitWriter.fieldBits, kSeq, kTs, List.map_cons, List.map_nil, List.sum_cons, List.sum_nil]
      omega
    have hback := @BitWriter.readBits_writeBits
      ⟨(w.writeFields (foRtpFields seqLsb tsLsb)).buf, (w.bitpos + 27) / 8 * 8⟩
      (fun j hj => BitWriter.clear_writeFields hclear hroom j (by rw [hpos]; dsimp only at hj; omega))
      (crc7 ((w.writeFields (foRtpFields seqLsb tsLsb)).buf.take ((w.bitpos + 27) / 8))).toNat 7
      (by dsimp only; rw [BitWriter.length_writeFields, hlen]; omega)
    have htake : (sealFoRtp w seqLsb tsLsb).take ((w.bitpos + 27) / 8) =
        (w.writeFields (foRtpFields seqLsb tsLsb)).buf.take ((w.bitpos + 27) / 8) := by
      unfold sealFoRtp
      dsimp only
      rw [hpos]
      exact BitWriter.take_writeBits (by dsimp only; omega)
    have hseal : sealFoRtp w seqLsb tsLsb = (BitWriter.writeBits
        ⟨(w.writeFields (foRtpFields seqLsb tsLsb)).buf, (w.bitpos + 27) / 8 * 8⟩
        (crc7 ((w.writeFields (foRtpFields seqLsb tsLsb)).buf.take ((w.bitpos + 27) / 8))).toNat 7).buf := by
      unfold sealFoRtp
      dsimp only
      rw [hpos]
    have hmask : ∀ b : UInt8, (b &&& 0x7F).toNat = b.toNat % 2 ^ 7 :=
      forall_octet (P := fun b => (b &&& 0x7F).toNat = b.toNat % 2 ^ 7) (by decide)
    unfold validateCrc7Bits
    rw [if_neg (by omega)]
    simp only [Nat.add_sub_cancel]
    rw [show ((w.bitpos + 27) / 8 * 8 + 7) / 8 = (w.bitpos + 27) / 8 by omega, htake, hmask, decide_eq_true_iff, hseal]
    exact hback.symm

end Seal

/-! ## The CID -/

/-- The first fields: indicator, extension, CID. -/
def foRtpFirst (n cid : Nat) : BitWriter :=
  (BitWriter.mk (List.replicate (5 + n) 0) 0).writeFields [(0, 1), (0, 1), (cid, 4)]

theorem clear_replicate (n : Nat) : (BitWriter.mk (List.replicate n 0) 0).Clear := fun j _ => bitAt_replicate_zero n j

section First

variable (n cid : Nat)

theorem bitpos_foRtpFirst : (foRtpFirst n cid).bitpos = 6 := by simp [foRtpFirst, BitWriter.writeFields]

theorem length_foRtpFirst : (foRtpFirst n cid).buf.length = 5 + n := by simp [foRtpFirst]

theorem clear_foRtpFirst : (foRtpFirst n cid).Clear :=
  BitWriter.clear_writeFields (clear_replicate _) (by simp [BitWriter.fieldBits]; omega)

theorem indicator_foRtpFirst : readBits (foRtpFirst n cid).buf 0 1 = 0 :=
  BitWriter.readBits_writeFields [] [(0, 1), (cid, 4)] 0 1 (clear_replicate _) (by simp [BitWriter.fieldBits]; omega)

theorem cid_foRtpFirst (h : cid < 16) : readBits (foRtpFirst n cid).buf 2 4 = cid :=
  (BitWriter.readBits_writeFields [(0, 1), (0, 1)] [] cid 4 (clear_replicate _)
    (by simp [BitWriter.fieldBits]; omega)).trans (Nat.mod_eq_of_lt h)

end First

/-- What a decoder with the labels of the emitter needs to know of the first octets of a unit. -/
structure FoRtpLabelled (unit : Bytes) (ctx : Context) (bitpos : Nat) : Prop where
  indicator : readBits unit 0 1 = 0
  label : decodeFoRtpCid unit ctx (readBits unit 2 4) = some bitpos

/-- What stands in front of the fields stays. -/
theorem readBits_sealFoRtp_front {w : BitWriter} {seqLsb tsLsb i n : Nat}
    (hlen : w.buf.length = (w.bitpos + 27) / 8 + 1) (h : i + n ≤ w.bitpos) :
    readBits (sealFoRtp w seqLsb tsLsb) i n = readBits w.buf i n := by
  rw [readBits_sealFoRtp hlen (by omega)]
  refine BitWriter.readBits_writeFields_of_le ?_ h
  simp only [foRtpFields, BitWriter.fieldBits, kSeq, kTs, List.map_cons, List.map_nil, List.sum_cons, List.sum_nil]
  omega

section Label

variable {ctx : Context} {seqLsb tsLsb : Nat}

theorem foRtpFront_small (h : ctx.largeCid = false) : foRtpFront ctx = foRtpFirst 0 (ctx.cid % 16) := by
  rw [foRtpFront, h]
  rfl

theorem foRtpLabelled_small (h : ctx.largeCid = false) (hcid : ctx.cid < 16) :
    FoRtpLabelled (sealFoRtp (foRtpFirst 0 (ctx.cid % 16)) seqLsb tsLsb) ctx 6 := by
  have hpos := bitpos_foRtpFirst 0 (ctx.cid % 16)
  have hlen : (foRtpFirst 0 (ctx.cid % 16)).buf.length = ((foRtpFirst 0 (ctx.cid % 16)).bitpos + 27) / 8 + 1 := by
    rw [hpos, length_foRtpFirst]
  refine ⟨?_, ?_⟩
  · rw [readBits_sealFoRtp_front hlen (by omega)]
    exact indicator_foRtpFirst _ _
  · rw [readBits_sealFoRtp_front hlen (by omega), cid_foRtpFirst _ _ (Nat.mod_lt _ (by decide)), Nat.mod_eq_of_lt hcid,
      decodeFoRtpCid, if_neg (by rw [h]; decide), if_neg (fun hne => hne rfl)]

/-- The large CID, in octets of its own behind the first. -/
theorem foRtpFront_large (h : ctx.largeCid = true) : foRtpFront ctx =
    ⟨(foRtpFirst (Cid.encodedLen ctx.cid) 0).buf.take 1 ++ Cid.largeOctets ctx.cid ++
      (foRtpFirst (Cid.encodedLen ctx.cid) 0).buf.drop (1 + Cid.encodedLen ctx.cid), (1 + Cid.encodedLen ctx.cid) * 8⟩ := by
  rw [foRtpFront, h]
  rfl

theorem length_foRtpFront_large (h : ctx.largeCid = true) :
    (foRtpFront ctx).buf.length = 5 + Cid.encodedLen ctx.cid := by
  rw [foRtpFront_large h]
  simp only [List.length_append, List.length_take, List.length_drop, length_foRtpFirst, Cid.length_largeOctets]
  omega

theorem clear_foRtpFront_large (h : ctx.largeCid = true) : (foRtpFront ctx).Clear := by
  intro j hj
  rw [foRtpFront_large h] at hj ⊢
  dsimp only at hj ⊢
  have hfront : ((foRtpFirst (Cid.encodedLen ctx.cid) 0).buf.take 1 ++ Cid.largeOctets ctx.cid).length =
      1 + Cid.encodedLen ctx.cid := by
    simp only [List.length_append, List.length_take, length_foRtpFirst, Cid.length_largeOctets]
    omega
  have hsame : bitAt ((foRtpFirst (Cid.encodedLen ctx.cid) 0).buf.take 1 ++ Cid.largeOctets ctx.cid ++
      (foRtpFirst (Cid.encodedLen ctx.cid) 0).buf.drop (1 + Cid.encodedLen ctx.cid)) j =
        bitAt (foRtpFirst (Cid.encodedLen ctx.cid) 0).buf j := by
    unfold bitAt
    rw [List.getD_eq_getElem?_getD, List.getD_eq_getElem?_getD, List.getElem?_append_right (by omega), hfront,
      List.getElem?_drop, show 1 + Cid.encodedLen ctx.cid + (j / 8 - (1 + Cid.encodedLen ctx.cid)) = j / 8 by omega]
  rw [hsame]
  exact clear_foRtpFirst _ _ j (by rw [bitpos_foRtpFirst]; omega)

theorem foRtpLabelled_large (h : ctx.largeCid = true) (hcid : ctx.cid ≤ Cid.largeCidMax) :
    FoRtpLabelled (sealFoRtp (foRtpFront ctx) seqLsb tsLsb) ctx (foRtpFront ctx).bitpos := by
  have hpos : (foRtpFront ctx).bitpos = (1 + Cid.encodedLen ctx.cid) * 8 := by rw [foRtpFront_large h]
  have hlen : (foRtpFront ctx).buf.length = ((foRtpFront ctx).bitpos + 27) / 8 + 1 := by
    rw [length_foRtpFront_large h, hpos]
    omega
  have htake1 : ((foRtpFirst (Cid.encodedLen ctx.cid) 0).buf.take 1).length = 1 := by
    rw [List.length_take, length_foRtpFirst]
    omega
  -- The bits of the first octet are those written before the CID.
  have hfirst : ∀ {i n : Nat}, i + n ≤ 6 → readBits (sealFoRtp (foRtpFront ctx) seqLsb tsLsb) i n =
      readBits (foRtpFirst (Cid.encodedLen ctx.cid) 0).buf i n := by
    intro i n hle
    rw [readBits_sealFoRtp_front hlen (by omega), foRtpFront_large h]
    dsimp only
    rw [List.append_assoc, readBits_append (by omega)]
    conv_rhs => rw [← List.take_append_drop 1 (foRtpFirst (Cid.encodedLen ctx.cid) 0).buf]
    rw [readBits_append (by omega)]
  -- Behind it stand the octets of the CID.
  have hcidOctets : (sealFoRtp (foRtpFront ctx) seqLsb tsLsb).drop 1 = Cid.largeOctets ctx.cid ++
      (sealFoRtp (foRtpFront ctx) seqLsb tsLsb).drop (1 + Cid.encodedLen ctx.cid) := by
    have htake : (sealFoRtp (foRtpFront ctx) seqLsb tsLsb).take (1 + Cid.encodedLen ctx.cid) =
        (foRtpFirst (Cid.encodedLen ctx.cid) 0).buf.take 1 ++ Cid.largeOctets ctx.cid := by
      rw [take_sealFoRtp (by omega), foRtpFront_large h]
      exact List.take_left' (by rw [List.length_append, htake1, Cid.length_largeOctets])
    conv_lhs => rw [← List.take_append_drop (1 + Cid.encodedLen ctx.cid) (sealFoRtp (foRtpFront ctx) seqLsb tsLsb), htake,
      List.append_assoc]
    exact List.drop_left' htake1
  refine ⟨(hfirst (by decide)).trans (indicator_foRtpFirst _ _), ?_⟩
  have hlength : (sealFoRtp (foRtpFront ctx) seqLsb tsLsb).length = 5 + Cid.encodedLen ctx.cid := by
    simp [sealFoRtp, length_foRtpFront_large h]
  rw [hfirst (by decide), cid_foRtpFirst _ _ (by decide), decodeFoRtpCid, if_pos h, if_neg (fun hne => hne rfl), hcidOctets,
    Cid.readLarge_largeOctets hcid, hlength, Option.bind_eq_bind, Option.bind_some]
  dsimp only
  rw [if_neg (by omega), hpos]
  rfl

end Label

/-! ## The decoder -/

/-- **The unit of a context**, for a decoder with the same labels. -/
theorem foRtpUnit_emit {cap : Nat} {ctx : Context} {unit : Bytes} (h : emitRtpFo cap ctx = some unit) :
    ∃ bitpos, FoRtpUnit unit bitpos (foRtpSeqLsb ctx) (foRtpTsLsb ctx) ∧ FoRtpLabelled unit ctx bitpos := by
  obtain ⟨hvalid, rfl⟩ := emitRtpFo_eq h
  have hseq : foRtpSeqLsb ctx < 64 := Nat.mod_lt _ (by decide)
  have hts : foRtpTsLsb ctx < 256 := Nat.mod_lt _ (by decide)
  cases hlarge : ctx.largeCid with
  | true =>
    rw [hlarge] at hvalid
    have hcid : ctx.cid ≤ Cid.largeCidMax := of_decide_eq_true hvalid
    have hlen : (foRtpFront ctx).buf.length = ((foRtpFront ctx).bitpos + 27) / 8 + 1 := by
      rw [length_foRtpFront_large hlarge, foRtpFront_large hlarge]
      dsimp only
      omega
    exact ⟨_, foRtpUnit_seal (clear_foRtpFront_large hlarge) hlen hseq hts, foRtpLabelled_large hlarge hcid⟩
  | false =>
    rw [hlarge] at hvalid
    have hcid : ctx.cid < 16 := Nat.lt_succ_of_le (of_decide_eq_true hvalid)
    have hpos := bitpos_foRtpFirst 0 (ctx.cid % 16)
    have hlen : (foRtpFirst 0 (ctx.cid % 16)).buf.length = ((foRtpFirst 0 (ctx.cid % 16)).bitpos + 27) / 8 + 1 := by
      rw [hpos, length_foRtpFirst]
    rw [foRtpFront_small hlarge]
    exact ⟨6, hpos ▸ foRtpUnit_seal (clear_foRtpFirst _ _) hlen hseq hts, foRtpLabelled_small hlarge hcid⟩

theorem FoRtpLabelled.of_same {unit : Bytes} {a b : Context} {bitpos : Nat} (h : FoRtpLabelled unit a bitpos)
    (hcid : b.cid = a.cid) (hlarge : b.largeCid = a.largeCid) : FoRtpLabelled unit b bitpos := by
  refine ⟨h.indicator, ?_⟩
  rw [← h.label]
  simp only [decodeFoRtpCid, hcid, hlarge]

theorem readBits?_of_le {bs : Bytes} {i n : Nat} (h : i + n ≤ bs.length * 8) : readBits? bs i n = some (readBits bs i n) :=
  if_pos h

/-- **Reading a unit** is decoding its two numbers. -/
theorem decodeFoRtp_unit {unit : Bytes} {ctx : Context} {bitpos seqLsb tsLsb : Nat}
    (h : FoRtpUnit unit bitpos seqLsb tsLsb) (hl : FoRtpLabelled unit ctx bitpos) :
    decodeFoRtp unit ctx =
      let seq := UInt16.ofNat (decodeFieldLsb .rtpSequence seqLsb ctx.rtp.lastSeq.toNat kSeq)
      (decodeFoRtpTs ctx.rtp seq (UInt32.ofNat tsLsb)).map fun ts => (advanceFoRtp ctx seq ts, unit.length) := by
  have hlen := h.length
  have hk : kSeq = 6 := rfl
  unfold decodeFoRtp
  simp only [Option.bind_eq_bind]
  rw [readBits?_of_le (by omega), hl.indicator, Option.bind_some, if_neg (fun hne => hne rfl), readBits?_of_le (by omega),
    Option.bind_some, hl.label, Option.bind_some, readBits?_of_le (by omega), h.width, Option.bind_some,
    if_neg (by decide), readBits?_of_le (by omega), h.seq, Option.bind_some, readBits?_of_le (by omega), h.ts,
    Option.bind_some]
  have hbytes : (bitpos + 6 + kSeq + 8 + 7) / 8 = (bitpos + 27) / 8 := by rw [hk]
  rw [hbytes, readBits?_of_le (by omega), Option.bind_some, h.crc, Bool.not_true, if_neg Bool.false_ne_true,
    show ((bitpos + 27) / 8 * 8 + 7 + 7) / 8 = unit.length by omega, Option.map_eq_bind]
  rfl

/-! ## The sequence number -/

/-- Up to 32 packets back and 31 ahead. -/
theorem decodeFieldLsb_rtpSequence {s s' : Nat} {d : ℤ} (hd : -32 ≤ d ∧ d ≤ 31) (hs' : (s' : ℤ) = (s + d) % 2 ^ 16) :
    decodeFieldLsb .rtpSequence (s' % 64) s kSeq = s' := by
  have hmem : InLsbInterval 6 s 32 16 s' := by
    refine ⟨by omega, ?_⟩
    rw [hs']
    omega
  have hdec := decodeLsbWithP_of_mem (by decide) (by decide) (by decide) (by decide) hmem
  change (decodeLsbWithP (s' % 2 ^ 6) 6 s 32 16).getD 0 = s'
  rw [hdec]
  rfl

/-! ## The timestamp -/

section Timestamp

variable {t t' stride residue predicted : UInt32} {d : ℤ}

theorem ediv_of_eq {x a b r : ℤ} (h : x = a * b + r) (hr : 0 ≤ r) (hlt : r < b) : x / b = a := by
  rw [h, Int.add_comm, Int.add_mul_ediv_right _ _ (by omega), Int.ediv_eq_zero_of_lt hr hlt, zero_add]

/-- The window of eight bits reaches from 127 below the reference to 128 above it. -/
theorem decode8 (ref lsb : UInt32) (hlsb : lsb.toNat < 256) :
    ∃ e : ℤ, -127 ≤ e ∧ e ≤ 128 ∧ ((LsbWindow.decode ⟨ref⟩ lsb 8).toNat : ℤ) = (ref.toNat + e) % 2 ^ 32 ∧
      (ref.toNat + e) % 256 = lsb.toNat := by
  obtain ⟨hmem, hlow⟩ := @LsbWindow.mem_decode ⟨ref⟩ lsb 8 (by decide) (by decide) hlsb
  have hk : ((8 : UInt8).toNat : Nat) = 8 := rfl
  rw [hk] at hmem hlow
  have habove := hmem.above
  have hlt := hmem.lt
  generalize (LsbWindow.decode ⟨ref⟩ lsb 8).toNat = v at habove hlow hlt
  norm_num at habove hlow hlt
  refine ⟨((v : ℤ) - (ref.toNat - 127)) % 4294967296 - 127, by omega, by omega, by omega, by omega⟩

/-- Ahead of the last packet, or with stride 0, the timestamp is right. -/
theorem decodeScaled_ahead (hpredicted : stride ≠ 0 → predicted = t') (hzero : stride = 0 → t' = t) :
    decodeScaledLsbWithTimestampPrediction (UInt32.ofNat ((scaleTimestamp t' stride).scaled.toNat % 256)) 8 predicted t
      stride residue = t' := by
  have hlt : (scaleTimestamp t' stride).scaled.toNat % 256 < 256 := Nat.mod_lt _ (by decide)
  have hnat : (UInt32.ofNat ((scaleTimestamp t' stride).scaled.toNat % 256)).toNat =
      (scaleTimestamp t' stride).scaled.toNat % 256 := UInt32.toNat_ofNat_of_lt' (Nat.lt_trans hlt (by decide))
  unfold decodeScaledLsbWithTimestampPrediction
  dsimp only
  by_cases h0 : stride = 0
  · subst h0
    obtain rfl := hzero rfl
    rw [if_neg (fun h => h.1 rfl), decodeScaledLsb, if_pos rfl]
    have hscaled : (scaleTimestamp t' 0).scaled = t' := rfl
    rw [hscaled] at hnat ⊢
    obtain ⟨e, hlow, hhigh, hv, hbits⟩ := decode8 t' (UInt32.ofNat (t'.toNat % 256)) (by rw [hnat]; omega)
    apply UInt32.toNat_inj.mp
    have ht := t'.toNat_lt
    omega
  · obtain rfl := hpredicted h0
    rw [if_pos ⟨h0, hnat.symm⟩]

/-- A scaled value that is off by `e` stands for a timestamp that is off by `e` strides. -/
theorem toNat_unscale {v : UInt32} {e : ℤ} (hv : (v.toNat : ℤ) = ((t.toNat / stride.toNat : ℕ) + e) % 2 ^ 32)
    (hresidue : residue = t % stride) :
    ((v * stride + residue).toNat : ℤ) = (t.toNat + e * stride.toNat) % 2 ^ 32 := by
  have hsplit : (t.toNat : ℤ) = (t.toNat / stride.toNat : ℕ) * stride.toNat + (t.toNat % stride.toNat : ℕ) := by
    exact_mod_cast (Nat.div_add_mod' t.toNat stride.toNat).symm
  have hmod : (v.toNat : ℤ) ≡ (t.toNat / stride.toNat : ℕ) + e [ZMOD 2 ^ 32] := by
    rw [hv]
    exact Int.mod_modEq _ _
  have hvalue := ((hmod.mul_right (stride.toNat : ℤ)).add_right ((t.toNat % stride.toNat : ℕ) : ℤ))
  rw [show (((t.toNat / stride.toNat : ℕ) : ℤ) + e) * stride.toNat + (t.toNat % stride.toNat : ℕ) =
    t.toNat + e * stride.toNat by rw [add_mul]; omega] at hvalue
  rw [hresidue, UInt32.toNat_add, UInt32.toNat_mul, UInt32.toNat_mod, Nat.mod_add_mod]
  exact_mod_cast hvalue

/-- Behind the last packet: the prediction is 65536 steps too far, and taken whenever its bits are the ones sent. Else the
window finds the timestamp, unless it lies before 0. -/
theorem decodeScaled_behind (hstride : stride.toNat ≤ 1000) (h0 : stride ≠ 0) (hresidue : residue = t % stride)
    (hd : -32 ≤ d ∧ d < 0) (ht' : (t'.toNat : ℤ) = (t.toNat + d * stride.toNat) % 2 ^ 32)
    (hpredicted : (predicted.toNat : ℤ) = (t.toNat + (d + 2 ^ 16) * stride.toNat) % 2 ^ 32) :
    decodeScaledLsbWithTimestampPrediction (UInt32.ofNat ((scaleTimestamp t' stride).scaled.toNat % 256)) 8 predicted t
        stride residue = t' ↔
      0 ≤ (t.toNat : ℤ) + d * stride.toNat ∧
        (predicted.toNat : ℤ) / stride.toNat % 256 ≠ ((t.toNat : ℤ) + d * stride.toNat) / stride.toNat % 256 := by
  have hpos : 0 < stride.toNat := Nat.pos_of_ne_zero fun h => h0 (UInt32.toNat_inj.mp h)
  have hscale : ∀ x : UInt32, (scaleTimestamp x stride).scaled.toNat = x.toNat / stride.toNat := by
    intro x
    rw [scaleTimestamp, if_neg h0, UInt32.toNat_div]
  have hlsb : (UInt32.ofNat (t'.toNat / stride.toNat % 256)).toNat = t'.toNat / stride.toNat % 256 :=
    UInt32.toNat_ofNat_of_lt' (Nat.lt_trans (Nat.mod_lt _ (by decide)) (by decide))
  -- The step is at most 32 strides, the last timestamp a multiple of the stride and the residue.
  have hstep : -32 * 1000 ≤ d * (stride.toNat : ℤ) := by nlinarith
  have hback : d * (stride.toNat : ℤ) < 0 := by nlinarith
  have hsplit : (t.toNat : ℤ) = (t.toNat / stride.toNat : ℕ) * stride.toNat + (t.toNat % stride.toNat : ℕ) := by
    exact_mod_cast (Nat.div_add_mod' t.toNat stride.toNat).symm
  have hmod := Nat.mod_lt t.toNat hpos
  have htlt := t.toNat_lt
  have hshift : (d + 2 ^ 16) * (stride.toNat : ℤ) = d * stride.toNat + 65536 * stride.toNat := by ring
  rw [hshift] at hpredicted
  have hscaled : (predicted.toNat : ℤ) / stride.toNat % 256 = (predicted.toNat / stride.toNat % 256 : ℕ) := by
    push_cast
    rfl
  have hsent : ((t'.toNat : ℤ) / stride.toNat) % 256 = (t'.toNat / stride.toNat % 256 : ℕ) := by
    push_cast
    rfl
  unfold decodeScaledLsbWithTimestampPrediction
  dsimp only
  rw [hscale, hscale, hlsb]
  change (if stride ≠ 0 ∧ predicted.toNat / stride.toNat % 256 = _ then _ else _) = _ ↔ _
  by_cases hsame : predicted.toNat / stride.toNat % 256 = t'.toNat / stride.toNat % 256
  · rw [if_pos ⟨h0, hsame⟩]
    constructor
    · rintro rfl
      omega
    · rintro ⟨hnn, hne⟩
      have htrue : (t'.toNat : ℤ) = t.toNat + d * stride.toNat := by omega
      rw [← htrue, hscaled, hsent, hsame] at hne
      exact absurd rfl hne
  · rw [if_neg fun h => hsame h.2, decodeScaledLsb, if_neg h0, unscaleTimestamp, if_neg h0]
    obtain ⟨e, hlow, hhigh, hv, hbits⟩ := decode8 (t / stride) (UInt32.ofNat (t'.toNat / stride.toNat % 256))
      (by rw [hlsb]; exact Nat.mod_lt _ (by decide))
    rw [hlsb, UInt32.toNat_div] at hbits
    rw [UInt32.toNat_div] at hv
    have hvalue := toNat_unscale hv hresidue
    have hfound : LsbWindow.decode ⟨t / stride⟩ (UInt32.ofNat (t'.toNat / stride.toNat % 256)) 8 * stride + residue = t' ↔
        e = d := by
      rw [← UInt32.toNat_inj, ← Int.natCast_inj, hvalue, ht']
      have hlo : -127 * 1000 ≤ e * (stride.toNat : ℤ) := by nlinarith
      have hhi : e * (stride.toNat : ℤ) ≤ 128 * 1000 := by nlinarith
      refine ⟨fun heq => ?_, fun heq => by rw [heq]⟩
      have hmul : e * (stride.toNat : ℤ) = d * stride.toNat := by omega
      exact Int.eq_of_mul_eq_mul_right (by omega) hmul
    rw [hfound]
    constructor
    · rintro rfl
      have hnn : 0 ≤ (t.toNat : ℤ) + e * stride.toNat := by
        by_contra hneg
        have hdiv : (predicted.toNat : ℤ) / stride.toNat = (t.toNat / stride.toNat : ℕ) + e + 65536 :=
          ediv_of_eq (r := (t.toNat % stride.toNat : ℕ))
            (by rw [add_mul, add_mul]; omega) (by omega) (by omega)
        omega
      refine ⟨hnn, fun heq => hsame ?_⟩
      have htrue : (t'.toNat : ℤ) = t.toNat + e * stride.toNat := by omega
      rw [← htrue] at heq
      omega
    · rintro ⟨hnn, -⟩
      have hdiv : (t'.toNat : ℤ) / stride.toNat = (t.toNat / stride.toNat : ℕ) + d :=
        ediv_of_eq (r := (t.toNat % stride.toNat : ℕ)) (by rw [add_mul]; omega) (by omega) (by omega)
      omega

end Timestamp

/-! ## Reordering -/

/-- The sender is `d` packets away from the receiver: its sequence number by `d`, its timestamp by `d` strides. -/
structure Displaced (sender receiver : Context) (d : ℤ) : Prop where
  cid : sender.cid = receiver.cid
  largeCid : sender.largeCid = receiver.largeCid
  stride : sender.rtp.tsStride = receiver.rtp.tsStride
  seq : (sender.rtp.lastSeq.toNat : ℤ) = (receiver.rtp.lastSeq.toNat + d) % 2 ^ 16
  ts : (sender.rtp.lastTs.toNat : ℤ) = (receiver.rtp.lastTs.toNat + d * receiver.rtp.tsStride.toNat) % 2 ^ 32
  residue : receiver.rtp.tsStride ≠ 0 → receiver.rtp.tsResidue = receiver.rtp.lastTs % receiver.rtp.tsStride
  timer : receiver.rtp.timerBasedTs = false

/-- The receiver accepts the unit and ends where the sender is, with a sequential IP-ID `d` further on. -/
def FollowsFo (sender receiver : Context) (d : ℤ) (unit : Bytes) : Prop :=
  ∃ decoded, decodeFoRtp unit receiver = some (decoded, unit.length) ∧ decoded.rtp.lastSeq = sender.rtp.lastSeq ∧
    decoded.rtp.lastTs = sender.rtp.lastTs ∧ (receiver.ipVersion = 4 → receiver.ipv4IdSequential = true →
      (decoded.ipv4Id.toNat : ℤ) = (receiver.ipv4Id.toNat + d) % 2 ^ 16)

/-- The step is forward, or the stride is 0, or the timestamp did not wrap and its scaled bits differ from those of the
timestamp almost 65536 strides ahead. -/
def StepTold (receiver : Context) (d : ℤ) : Prop :=
  let t : ℤ := receiver.rtp.lastTs.toNat
  let stride : ℤ := receiver.rtp.tsStride.toNat
  0 ≤ d ∨ stride = 0 ∨
    (0 ≤ t + d * stride ∧ (t + (d + 2 ^ 16) * stride) % 2 ^ 32 / stride % 256 ≠ (t + d * stride) / stride % 256)

/-- The distance the decoder computes has 16 bits and no sign. -/
theorem toNat_seqDelta {s s' : UInt16} {d : ℤ} (hd : -32 ≤ d ∧ d ≤ 31) (h : (s'.toNat : ℤ) = (s.toNat + d) % 2 ^ 16) :
    ((s' - s).toUInt32.toNat : ℤ) = if 0 ≤ d then d else d + 2 ^ 16 := by
  have hs := s.toNat_lt
  have hs' := s'.toNat_lt
  rw [UInt16.toNat_toUInt32, UInt16.toNat_sub]
  split <;> omega

section Reordering

variable {sender receiver : Context} {d : ℤ}

/-- The timestamp found for a displaced sequence number. -/
theorem Displaced.timestamp (h : Displaced sender receiver d) (hstride : receiver.rtp.tsStride.toNat ≤ 1000)
    (hd : -32 ≤ d ∧ d ≤ 31) :
    decodeScaledLsbWithTimestampPrediction (UInt32.ofNat (foRtpTsLsb sender)) 8
        (receiver.rtp.lastTs + receiver.rtp.tsStride * (sender.rtp.lastSeq - receiver.rtp.lastSeq).toUInt32)
        receiver.rtp.lastTs receiver.rtp.tsStride receiver.rtp.tsResidue = sender.rtp.lastTs ↔ StepTold receiver d := by
  have hdelta := toNat_seqDelta hd h.seq
  have hts := h.ts
  have hpredicted : ((receiver.rtp.lastTs + receiver.rtp.tsStride *
      (sender.rtp.lastSeq - receiver.rtp.lastSeq).toUInt32).toNat : ℤ) =
        (receiver.rtp.lastTs.toNat + (if 0 ≤ d then d else d + 2 ^ 16) * receiver.rtp.tsStride.toNat) % 2 ^ 32 := by
    rw [UInt32.toNat_add, UInt32.toNat_mul, Nat.add_mod_mod, ← hdelta]
    push_cast
    rw [mul_comm]
  rw [foRtpTsLsb, h.stride]
  by_cases hforward : 0 ≤ d
  · rw [if_pos hforward] at hpredicted
    refine ⟨fun _ => .inl hforward, fun _ => decodeScaled_ahead (fun _ => ?_) fun h0 => ?_⟩
    · exact UInt32.toNat_inj.mp (Int.natCast_inj.mp (hpredicted.trans hts.symm))
    · have ht := receiver.rtp.lastTs.toNat_lt
      rw [h0] at hts
      exact UInt32.toNat_inj.mp (by simp at hts; omega)
  · rw [if_neg hforward] at hpredicted
    by_cases h0 : receiver.rtp.tsStride = 0
    · have ht := receiver.rtp.lastTs.toNat_lt
      rw [h0] at hts
      refine ⟨fun _ => .inr (.inl (by rw [h0]; rfl)), fun _ => decodeScaled_ahead (fun hne => absurd h0 hne) fun _ => ?_⟩
      exact UInt32.toNat_inj.mp (by simp at hts; omega)
    · rw [decodeScaled_behind hstride h0 (h.residue h0) ⟨hd.1, by omega⟩ hts hpredicted, hpredicted]
      have hpos : (receiver.rtp.tsStride.toNat : ℤ) ≠ 0 := fun hz =>
        h0 (UInt32.toNat_inj.mp (Int.natCast_inj.mp hz))
      exact ⟨fun hp => .inr (.inr hp), fun hp => (hp.resolve_left hforward).resolve_left hpos⟩

/-- **Reordering.** For a sender up to 32 packets behind the receiver or 31 ahead of it, the unit of the sender leads the
receiver to the sender's header exactly where the timestamp can be told from the one predicted. -/
theorem foReordering_iff (h : Displaced sender receiver d) (hstride : receiver.rtp.tsStride.toNat ≤ 1000)
    (hd : -32 ≤ d ∧ d ≤ 31) {cap : Nat} {unit : Bytes} (hemit : emitRtpFo cap sender = some unit) :
    FollowsFo sender receiver d unit ↔ StepTold receiver d := by
  obtain ⟨bitpos, hunit, hlabel⟩ := foRtpUnit_emit hemit
  have hdecode := decodeFoRtp_unit hunit (hlabel.of_same h.cid.symm h.largeCid.symm)
  have hseq : UInt16.ofNat (decodeFieldLsb .rtpSequence (foRtpSeqLsb sender) receiver.rtp.lastSeq.toNat kSeq) =
      sender.rtp.lastSeq := by
    rw [foRtpSeqLsb, decodeFieldLsb_rtpSequence hd h.seq, UInt16.ofNat_toNat]
  dsimp only at hdecode
  rw [hseq, decodeFoRtpTs, h.timer, if_neg Bool.false_ne_true, Option.map_some] at hdecode
  rw [← h.timestamp hstride hd]
  constructor
  · rintro ⟨decoded, hread, -, hts, -⟩
    rw [hdecode] at hread
    exact (congrArg (fun read : Context × Nat => read.1.rtp.lastTs) (Option.some.inj hread)).trans hts
  · intro hts
    refine ⟨_, hdecode, rfl, hts, fun h4 hsequential => ?_⟩
    have hs := receiver.rtp.lastSeq.toNat_lt
    have hsd := h.seq
    rw [hts]
    dsimp only [advanceFoRtp]
    rw [if_pos ⟨h4, hsequential⟩, UInt16.toNat_add, UInt16.toNat_sub]
    omega

end Reordering

/-- An RTP context with a stride of 160. -/
def stridingRtp (seq : UInt16) (ts : UInt32) : Context :=
  { profile := .rtp, rohcState := .dynamicEstablished, ipVersion := 4
    rtp := { lastSeq := seq, lastTs := ts, tsStride := 160, tsResidue := ts % 160 } }

theorem foReordering_iff_ahead : FollowsFo (stridingRtp 1001 50160) (stridingRtp 1000 50000) 1 [0, 106, 78, 64, 108] ↔
    StepTold (stridingRtp 1000 50000) 1 :=
  @foReordering_iff (stridingRtp 1001 50160) (stridingRtp 1000 50000) 1
    ⟨rfl, rfl, rfl, by decide, by decide, fun _ => rfl, rfl⟩ (by decide) (by decide) 16 [0, 106, 78, 64, 108]
    (by decide +kernel)

/-- One packet back, the bits are also those of the timestamp 65535 strides ahead. -/
theorem foReordering_fails :
    ¬∀ (sender receiver : Context) (d : ℤ) (cap : Nat) (unit : Bytes), Displaced sender receiver d →
      receiver.rtp.tsStride.toNat ≤ 1000 → -32 ≤ d ∧ d ≤ 31 → emitRtpFo cap sender = some unit →
      FollowsFo sender receiver d unit := by
  intro h
  obtain ⟨decoded, hread, -, hts, -⟩ := h (stridingRtp 1000 50000) (stridingRtp 1001 50160) (-1) 16 [0, 106, 14, 0, 198]
    ⟨rfl, rfl, rfl, by decide, by decide, fun _ => rfl, rfl⟩ (by decide) (by decide) (by decide +kernel)
  have hwrong : (decodeFoRtp [0, 106, 14, 0, 198] (stridingRtp 1001 50160)).map (·.1.rtp.lastTs) = some 10535760 := by
    decide +kernel
  rw [hread, Option.map_some, hts] at hwrong
  exact absurd hwrong (by decide)

end Rohccxx
