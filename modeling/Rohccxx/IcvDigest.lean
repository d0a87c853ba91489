import Rohccxx.Lib.SecureHash
import Rohccxx.Icv

/-!
# The digests of ICVs

The SHA-256 and the HMAC of `core/rohcoipsec.hpp` are those of the standards. The code keeps the schedule as a growing
list and hashes the whole blocks of a message before it builds the padding; the standard states a recurrence and pads
first.

* `toBitVec_k`, `k_root` — the constants.
* `scheduled_schedule`, `words_transform` — one block.
* `words_blocks` — the blocks of a message, by induction on their number.
* `digest_eq` — SHA-256, on messages of every length.
* `icv_exact` — the ICV is the truncated HMAC, and what `append_icv` writes is what `strip_and_verify_icv` takes.
-/

set_option autoImplicit false

namespace Rohccxx

open Octets

namespace Sha256

/-! ## Words -/

/-- The state in the words of the standard. -/
def State.words (s : State) : SecureHash.Words where
  a := s.a.toBitVec
  b := s.b.toBitVec
  c := s.c.toBitVec
  d := s.d.toBitVec
  e := s.e.toBitVec
  f := s.f.toBitVec
  g := s.g.toBitVec
  h := s.h.toBitVec

/-- The constants of the code are the fractions of the roots. -/
theorem toBitVec_k : k.map (·.toBitVec) = SecureHash.roundConstants := by decide +kernel

/-- **Every constant** is the cube root of its prime, to 32 bits behind the point and without the digits in front. -/
theorem k_root {t : Nat} (ht : t < SecureHash.primes.length) : ∃ r, r ^ 3 ≤ SecureHash.primes[t] * 2 ^ (32 * 3) ∧
    SecureHash.primes[t] * 2 ^ (32 * 3) < (r + 1) ^ 3 ∧ (k.map (·.toBitVec))[t]? = some (BitVec.ofNat 32 r) := by
  have hsmall : SecureHash.primes[t] < 2 ^ (8 * 3) := by
    have hmem := List.mem_range.mp (List.mem_filter.mp (List.getElem_mem ht)).1
    omega
  obtain ⟨r, hle, hlt, hr⟩ := SecureHash.fractionBits_spec (by decide) hsmall
  refine ⟨r, hle, hlt, ?_⟩
  rw [toBitVec_k, SecureHash.roundConstants, List.getElem?_map, List.getElem?_eq_getElem ht, Option.map_some, hr]

theorem words_initial : initial.words = SecureHash.initialHash := by
  ext1 <;> decide +kernel

section Functions

variable (x : UInt32)

theorem toBitVec_rotr {n : UInt32} (hpos : 0 < n.toNat) (hlt : n.toNat < 32) :
    (rotr x n).toBitVec = x.toBitVec.rotateRight n.toNat := by
  have hright : (n.toBitVec % 32).toNat = n.toNat := by
    rw [BitVec.toNat_umod]
    exact Nat.mod_eq_of_lt hlt
  have hleft : ((32 - n).toBitVec % 32).toNat = 32 - n.toNat := by
    have hsub : (32 - n).toNat = 32 - n.toNat := by
      rw [UInt32.toNat_sub_of_le]
      · rfl
      · exact UInt32.le_iff_toNat_le.mpr (Nat.le_of_lt hlt)
    rw [BitVec.toNat_umod]
    exact (congrArg (· % 32) hsub).trans (Nat.mod_eq_of_lt (by omega))
  rw [BitVec.rotateRight_def, Nat.mod_eq_of_lt hlt]
  unfold rotr
  rw [UInt32.toBitVec_or, UInt32.toBitVec_shiftRight, UInt32.toBitVec_shiftLeft, BitVec.ushiftRight_eq',
    BitVec.shiftLeft_eq', hright, hleft]

theorem toBitVec_bigSigma0 :
    (rotr x 2 ^^^ rotr x 13 ^^^ rotr x 22).toBitVec = SecureHash.bigSigma0 x.toBitVec := by
  rw [UInt32.toBitVec_xor, UInt32.toBitVec_xor, toBitVec_rotr x (by decide) (by decide),
    toBitVec_rotr x (by decide) (by decide), toBitVec_rotr x (by decide) (by decide)]
  rfl

theorem toBitVec_bigSigma1 :
    (rotr x 6 ^^^ rotr x 11 ^^^ rotr x 25).toBitVec = SecureHash.bigSigma1 x.toBitVec := by
  rw [UInt32.toBitVec_xor, UInt32.toBitVec_xor, toBitVec_rotr x (by decide) (by decide),
    toBitVec_rotr x (by decide) (by decide), toBitVec_rotr x (by decide) (by decide)]
  rfl

theorem toBitVec_smallSigma0 :
    (rotr x 7 ^^^ rotr x 18 ^^^ (x >>> 3)).toBitVec = SecureHash.smallSigma0 x.toBitVec := by
  rw [UInt32.toBitVec_xor, UInt32.toBitVec_xor, toBitVec_rotr x (by decide) (by decide),
    toBitVec_rotr x (by decide) (by decide)]
  rfl

theorem toBitVec_smallSigma1 :
    (rotr x 17 ^^^ rotr x 19 ^^^ (x >>> 10)).toBitVec = SecureHash.smallSigma1 x.toBitVec := by
  rw [UInt32.toBitVec_xor, UInt32.toBitVec_xor, toBitVec_rotr x (by decide) (by decide),
    toBitVec_rotr x (by decide) (by decide)]
  rfl

end Functions

theorem words_round (s : State) (kw : UInt32 × UInt32) :
    (round s kw).words = SecureHash.round s.words kw.1.toBitVec kw.2.toBitVec := by
  unfold SecureHash.round
  dsimp only [State.words]
  rw [← toBitVec_bigSigma0, ← toBitVec_bigSigma1]
  rfl

/-! ## One block -/

section Block

/-- A block is loaded word by word. -/
theorem toBitVec_loadWords (bs : Bytes) :
    (loadWords bs).map (·.toBitVec) = (List.range (bs.length / 4)).map (SecureHash.wordAt bs) := by
  induction bs using loadWords.induct with
  | case1 a b c d rest ih =>
    have hlen : (a :: b :: c :: d :: rest).length / 4 = rest.length / 4 + 1 := by
      simp only [List.length_cons]
      omega
    rw [loadWords, List.map_cons, ih, hlen, List.range_succ_eq_map, List.map_cons, List.map_map]
    rfl
  | case2 bs hshort =>
    have hlen : bs.length / 4 = 0 := by
      rcases bs with _ | ⟨a, _ | ⟨b, _ | ⟨c, _ | ⟨d, rest⟩⟩⟩⟩
      · decide
      · exact Nat.div_eq_of_lt (by simp)
      · exact Nat.div_eq_of_lt (by simp)
      · exact Nat.div_eq_of_lt (by simp)
      · exact (hshort a b c d rest rfl).elim
    have hload : loadWords bs = [] := by
      rw [loadWords]
      exact hshort
    rw [hload, hlen]
    rfl

/-- The first words of a schedule. -/
def Scheduled (m : Nat → BitVec 32) (w : List UInt32) : Prop :=
  w.map (·.toBitVec) = (List.range w.length).map (SecureHash.schedule m)

variable {m : Nat → BitVec 32} {w : List UInt32}

theorem Scheduled.getD (h : Scheduled m w) {t : Nat} (ht : t < w.length) :
    (w.getD t 0).toBitVec = SecureHash.schedule m t := by
  have hget := congrArg (·[t]?) h
  simpa [List.getElem?_eq_getElem ht, List.getElem?_range ht] using hget

/-- The words of a block are the first of its schedule. -/
theorem scheduled_loadWords {block : Bytes} (hlen : block.length = 64) :
    (loadWords block).length = 16 ∧ Scheduled (SecureHash.wordAt block) (loadWords block) := by
  have hload := toBitVec_loadWords block
  rw [hlen] at hload
  have hwords : (loadWords block).length = 16 := by
    have := congrArg List.length hload
    rwa [List.length_map, List.length_map, List.length_range] at this
  refine ⟨hwords, ?_⟩
  unfold Scheduled
  rw [hload, hwords]
  refine List.map_congr_left fun t ht => ?_
  exact (SecureHash.schedule_lt (List.mem_range.mp ht)).symm

/-- One step of the loop adds the next word. -/
theorem Scheduled.extend (h : Scheduled m w) (hlen : 16 ≤ w.length) :
    Scheduled m (w ++ [w.getD (w.length - 16) 0 + (rotr (w.getD (w.length - 15) 0) 7 ^^^ rotr (w.getD (w.length - 15) 0) 18 ^^^
      (w.getD (w.length - 15) 0 >>> 3)) + w.getD (w.length - 7) 0 + (rotr (w.getD (w.length - 2) 0) 17 ^^^
      rotr (w.getD (w.length - 2) 0) 19 ^^^ (w.getD (w.length - 2) 0 >>> 10))]) := by
  unfold Scheduled
  rw [List.map_append, List.length_append, List.length_singleton, List.range_succ, List.map_append, h]
  congr 1
  simp only [List.map_cons, List.map_nil, UInt32.toBitVec_add, toBitVec_smallSigma0, toBitVec_smallSigma1]
  rw [h.getD (by omega), h.getD (by omega), h.getD (by omega), h.getD (by omega), SecureHash.schedule_ge hlen]
  congr 1
  ac_rfl

theorem scheduled_schedule (n : Nat) (h : Scheduled m w) (hlen : 16 ≤ w.length) :
    (schedule n w).length = w.length + n ∧ Scheduled m (schedule n w) := by
  induction n generalizing w with
  | zero => exact ⟨rfl, h⟩
  | succ n ih =>
    obtain ⟨hlen', hs⟩ := ih (h.extend hlen) (by rw [List.length_append]; omega)
    refine ⟨?_, hs⟩
    rw [schedule]
    dsimp only
    rw [hlen', List.length_append, List.length_singleton]
    omega

theorem words_foldl_round (s : State) (kws : List (UInt32 × UInt32)) : (kws.foldl round s).words =
    (kws.map (Prod.map (·.toBitVec) (·.toBitVec))).foldl (fun r kw => SecureHash.round r kw.1 kw.2) s.words := by
  induction kws generalizing s with
  | nil => rfl
  | cons kw kws ih => rw [List.foldl_cons, ih, words_round, List.map_cons, List.foldl_cons, Prod.map_fst, Prod.map_snd]

theorem roundConstants_eq : SecureHash.roundConstants = (List.range 64).map (SecureHash.roundConstants.getD · 0) := by
  have hlen : SecureHash.roundConstants.length = 64 := by rw [← toBitVec_k]; rfl
  refine List.ext_getElem (by rw [List.length_map, List.length_range, hlen]) fun t h₁ h₂ => ?_
  rw [List.getElem_map, List.getElem_range, List.getD_eq_getElem?_getD, List.getElem?_eq_getElem h₁, Option.getD_some]

/-- **One block.** -/
theorem words_transform (s : State) {block : Bytes} (hlen : block.length = 64) :
    (transform s block).words = SecureHash.hashBlock s.words (SecureHash.wordAt block) := by
  obtain ⟨hload, hwords⟩ := scheduled_loadWords hlen
  obtain ⟨hlength, hs⟩ := scheduled_schedule 48 hwords (Nat.le_of_eq hload.symm)
  rw [hload] at hlength
  have hrounds : ((k.zip (schedule 48 (loadWords block))).foldl round s).words =
      (List.range 64).foldl (fun r t => SecureHash.round r (SecureHash.roundConstants.getD t 0)
        (SecureHash.schedule (SecureHash.wordAt block) t)) s.words := by
    rw [words_foldl_round, ← List.zip_map, toBitVec_k, hs, hlength]
    conv_lhs => rw [roundConstants_eq]
    rw [List.zip_map', List.foldl_map]
  unfold SecureHash.hashBlock transform
  rw [← hrounds]
  generalize (k.zip (schedule 48 (loadWords block))).foldl round s = r
  rfl

end Block

/-! ## The blocks of a message -/

section Blocks

variable {bs : Bytes} {n : Nat}

theorem wordAt_drop (bs : Bytes) (i t : Nat) :
    SecureHash.wordAt (bs.drop 64) (16 * i + t) = SecureHash.wordAt bs (16 * (i + 1) + t) := by
  have hget : ∀ j, (bs.drop 64).getD j 0 = bs.getD (64 + j) 0 := fun j => by
    rw [List.getD_eq_getElem?_getD, List.getElem?_drop, List.getD_eq_getElem?_getD]
  have hword : 64 + 4 * (16 * i + t) = 4 * (16 * (i + 1) + t) := by omega
  unfold SecureHash.wordAt
  simp only [hget, ← Nat.add_assoc, hword]

theorem wordAt_take {t : Nat} (ht : t < 16) : SecureHash.wordAt (bs.take 64) t = SecureHash.wordAt bs t := by
  have hget : ∀ j, j < 64 → (bs.take 64).getD j 0 = bs.getD j 0 := fun j hj => by
    rw [List.getD_eq_getElem?_getD, List.getElem?_take_of_lt hj, List.getD_eq_getElem?_getD]
  unfold SecureHash.wordAt
  rw [hget _ (by omega), hget _ (by omega), hget _ (by omega), hget _ (by omega)]

/-- The octets behind the blocks. -/
theorem blocks_snd (n : Nat) (s : State) (bs : Bytes) : (blocks n s bs).2 = bs.drop (64 * n) := by
  induction n generalizing s bs with
  | zero => rfl
  | succ n ih =>
    rw [blocks, ih, List.drop_drop]
    congr 1
    omega

theorem blocks_add (m n : Nat) (s : State) (bs : Bytes) :
    blocks (m + n) s bs = blocks n (blocks m s bs).1 (blocks m s bs).2 := by
  induction m generalizing s bs with
  | zero => rw [Nat.zero_add]; rfl
  | succ m ih => rw [Nat.succ_add, blocks, ih, blocks]

/-- Whole blocks do not see what comes behind them. -/
theorem blocks_append (n : Nat) (s : State) {bs : Bytes} (hlen : 64 * n ≤ bs.length) (rest : Bytes) :
    (blocks n s (bs ++ rest)).1 = (blocks n s bs).1 := by
  induction n generalizing s bs with
  | zero => rfl
  | succ n ih =>
    rw [blocks, blocks, List.take_append_of_le_length (by omega), List.drop_append_of_le_length (by omega),
      ih _ (by rw [List.length_drop]; omega)]

/-- **The blocks of a message**, one after the other. -/
theorem words_blocks (s : State) (hlen : 64 * n ≤ bs.length) : (blocks n s bs).1.words =
    (List.range n).foldl (fun r i => SecureHash.hashBlock r fun t => SecureHash.wordAt bs (16 * i + t)) s.words := by
  induction n generalizing s bs with
  | zero => rfl
  | succ n ih =>
    have hfirst : SecureHash.hashBlock s.words (SecureHash.wordAt (bs.take 64)) =
        SecureHash.hashBlock s.words fun t => SecureHash.wordAt bs (16 * 0 + t) :=
      SecureHash.hashBlock_congr s.words fun t ht => by rw [wordAt_take ht, Nat.mul_zero, Nat.zero_add]
    rw [blocks, ih _ (by rw [List.length_drop]; omega), words_transform s (by rw [List.length_take]; omega), hfirst,
      List.range_succ_eq_map, List.foldl_cons, List.foldl_map]
    simp only [wordAt_drop, Nat.succ_eq_add_one]

end Blocks

/-! ## Padding -/

/-- An octet of the length field. -/
theorem lengthOctet_eq (len : Nat) {i : Nat} (hi : i < 8) :
    ((UInt64.ofNat len * 8) >>> UInt64.ofNat (8 * (7 - i))).toUInt8 = UInt8.ofNat (8 * len / 256 ^ (7 - i)) := by
  apply UInt8.toNat_inj.mp
  have hshift : (UInt64.ofNat (8 * (7 - i))).toNat = 8 * (7 - i) := by
    rw [UInt64.toNat_ofNat']
    exact Nat.mod_eq_of_lt (by omega)
  have hbits : (UInt64.ofNat len * 8).toNat = 8 * len % 2 ^ 64 := by
    rw [UInt64.toNat_mul, UInt64.toNat_ofNat']
    have h8 : (8 : UInt64).toNat = 8 := rfl
    rw [h8, Nat.mul_comm 8, Nat.mod_mul_mod]
  have hsplit : 2 ^ 64 = 2 ^ (8 * (7 - i)) * 2 ^ (64 - 8 * (7 - i)) := by
    rw [← Nat.pow_add]
    congr 1
    omega
  have hpow : 256 ^ (7 - i) = 2 ^ (8 * (7 - i)) := by rw [Nat.pow_mul]
  rw [UInt64.toNat_toUInt8, UInt64.toNat_shiftRight, hbits, hshift, Nat.mod_eq_of_lt (show 8 * (7 - i) < 64 by omega),
    Nat.shiftRight_eq_div_pow, UInt8.toNat_ofNat', hpow, hsplit, Nat.mod_mul_right_div_self]
  exact Nat.mod_mod_of_dvd _ (Nat.pow_dvd_pow 2 (by omega))

/-- **The padding** of the code is that of the standard: the same zeros, whether one block is filled or two. -/
theorem padding_eq (len : Nat) : padding len (len % 64) =
    [0x80] ++ List.replicate (SecureHash.zeros len) 0 ++ SecureHash.lengthOctets (8 * len) := by
  have hzeros : (if len % 64 < 56 then 64 else 128) - len % 64 - 9 = SecureHash.zeros len := by
    unfold SecureHash.zeros
    split <;> omega
  unfold padding SecureHash.lengthOctets
  dsimp only
  rw [hzeros]
  congr 1
  exact List.map_congr_left fun i hi => lengthOctet_eq len (List.mem_range.mp hi)

/-! ## SHA-256 -/

/-- **The digest is SHA-256**, whatever the length of the message. -/
theorem digest_eq (data : Bytes) : digest data = SecureHash.sha256 data := by
  have hrest : (data.drop (64 * (data.length / 64))).length = data.length % 64 := by
    rw [List.length_drop]
    omega
  have htail := padding_eq data.length
  have hpad : data ++ padding data.length (data.length % 64) = SecureHash.pad data := by
    rw [htail, SecureHash.pad]
    simp only [List.append_assoc]
  obtain ⟨hlength, hfull⟩ := SecureHash.length_pad data
  have htailLen : (SecureHash.pad data).length = data.length + (padding data.length (data.length % 64)).length := by
    rw [← hpad, List.length_append]
  -- The blocks of the message and those of the padding are the blocks of the padded message.
  have hblocks : (SecureHash.pad data).length / 64 = data.length / 64 +
      (data.drop (64 * (data.length / 64)) ++ padding data.length (data.length % 64)).length / 64 := by
    rw [List.length_append, hrest]
    omega
  have hall := blocks_add (data.length / 64)
    ((data.drop (64 * (data.length / 64)) ++ padding data.length (data.length % 64)).length / 64) initial
    (SecureHash.pad data)
  rw [← hblocks, ← hpad, blocks_append _ _ (by omega), blocks_snd, List.drop_append_of_le_length (by omega)] at hall
  have hwords := @words_blocks (SecureHash.pad data) ((SecureHash.pad data).length / 64) initial (by omega)
  rw [← hpad, hall, words_initial] at hwords
  have hrem := blocks_snd (data.length / 64) initial data
  unfold digest
  generalize hfirst : blocks (data.length / 64) initial data = first at hwords hrem
  obtain ⟨s, rest⟩ := first
  dsimp only at hwords hrem ⊢
  rw [hrem, hrest]
  generalize (blocks _ s _).1 = final at hwords
  unfold SecureHash.sha256 SecureHash.hashBlocks
  rw [← hpad, ← hwords]
  simp only [SecureHash.Words.octets, State.words, List.flatMap_cons, List.flatMap_nil, List.append_nil, List.append_assoc]

/-- The digest of the message "abc". -/
example : digest [0x61, 0x62, 0x63] =
    [0xBA, 0x78, 0x16, 0xBF, 0x8F, 0x01, 0xCF, 0xEA, 0x41, 0x41, 0x40, 0xDE, 0x5D, 0xAE, 0x22, 0x23,
     0xB0, 0x03, 0x61, 0xA3, 0x96, 0x17, 0x7A, 0x9C, 0xB4, 0x10, 0xFF, 0x61, 0xF2, 0x00, 0x15, 0xAD] := by
  decide +kernel

theorem length_digest (data : Bytes) : (digest data).length = 32 := by
  unfold digest
  simp only [List.length_append, length_be32]

end Sha256

/-! ## HMAC -/

section Hmac

variable {key data : Bytes} {n : Nat}

/-- A key of the length of a block, masked with an octet. -/
theorem map_xor_eq (block : Bytes) (octet : UInt8) :
    block.map (· ^^^ octet) = List.zipWith (· ^^^ ·) block (List.replicate block.length octet) := by
  induction block with
  | nil => rfl
  | cons b block ih => rw [List.map_cons, ih, List.length_cons, List.replicate_succ, List.zipWith_cons_cons]

/-- **The ICV is the truncated HMAC** of the packet, for keys of every length. -/
theorem computeIcv_hmacSha256 (key data : Bytes) (n : Nat) : computeIcv .hmacSha256 key data n =
    if n > 32 ∨ data.length > 4096 then none
    else some ((SecureHash.hmac SecureHash.sha256 64 key data).take n) := by
  have hdigest : Sha256.digest = SecureHash.sha256 := funext Sha256.digest_eq
  have hshort : (if key.length > 64 then Sha256.digest key else key).length ≤ 64 := by
    split
    · rw [Sha256.length_digest]
      decide
    · omega
  unfold computeIcv SecureHash.hmac
  rw [← hdigest]
  dsimp only
  split
  · rfl
  · generalize (if key.length > 64 then Sha256.digest key else key) = short at hshort ⊢
    have hblock : (short ++ List.replicate (64 - short.length) (0 : UInt8)).length = 64 := by
      rw [List.length_append, List.length_replicate]
      omega
    rw [map_xor_eq, map_xor_eq, hblock]

theorem length_hmac (key data : Bytes) : (SecureHash.hmac SecureHash.sha256 64 key data).length = 32 := by
  unfold SecureHash.hmac
  dsimp only
  rw [← Sha256.digest_eq, Sha256.length_digest]

end Hmac

/-- **ICVs.** For every key, every packet of up to 4096 octets and every length from 1 to 32, the ICV is the HMAC-SHA-256
of the packet, truncated; it is appended given room, `strip_and_verify_icv` takes it off again, and takes off nothing
but that HMAC. -/
theorem icv_exact (key packet : Bytes) (n : Nat) (hpacket : packet.length ≤ 4096) (hpos : 1 ≤ n) (hn : n ≤ 32) :
    computeIcv .hmacSha256 key packet n = some ((SecureHash.hmac SecureHash.sha256 64 key packet).take n) ∧
      (∀ (unit : Bytes) (cap : Nat), unit.length + n ≤ cap →
        ∃ out, appendIcv ⟨.hmacSha256, key, n⟩ packet unit cap = some out ∧
          stripAndVerifyIcv ⟨.hmacSha256, key, n⟩ packet out = some unit) ∧
      ∀ received unit : Bytes, stripAndVerifyIcv ⟨.hmacSha256, key, n⟩ packet received = some unit ↔
        received = unit ++ (SecureHash.hmac SecureHash.sha256 64 key packet).take n := by
  have hicv := computeIcv_hmacSha256 key packet n
  rw [if_neg (by omega)] at hicv
  have hlen : ((SecureHash.hmac SecureHash.sha256 64 key packet).take n).length = n := by
    rw [List.length_take, length_hmac]
    omega
  generalize (SecureHash.hmac SecureHash.sha256 64 key packet).take n = icv at hicv hlen ⊢
  have heffective : effectiveIcvLen ⟨.hmacSha256, key, n⟩ = some n := by
    unfold effectiveIcvLen
    have halgorithm : ¬ IntegrityAlgorithm.hmacSha256 = .none := by decide
    rw [if_neg halgorithm, if_neg (by unfold digestLen; dsimp only; omega)]
  have hstrip : ∀ received unit : Bytes, stripAndVerifyIcv ⟨.hmacSha256, key, n⟩ packet received = some unit ↔
      received = unit ++ icv := by
    intro received unit
    unfold stripAndVerifyIcv
    rw [heffective]
    simp only [Option.bind_eq_bind, Option.bind_some, hicv, Option.pure_def]
    by_cases hshort : received.length < n
    · rw [if_pos hshort]
      refine iff_of_false (fun h => by cases h) fun h => ?_
      rw [h, List.length_append] at hshort
      omega
    · rw [if_neg hshort, if_pos (by omega)]
      by_cases heq : icv = received.drop (received.length - n)
      · rw [if_neg (not_not.mpr heq), Option.some.injEq]
        constructor
        · intro h
          rw [← h, heq, List.take_append_drop]
        · intro h
          rw [h, List.length_append, hlen, Nat.add_sub_cancel, List.take_left]
      · rw [if_pos heq]
        refine iff_of_false (fun h => by cases h) fun h => heq ?_
        rw [h, List.length_append, hlen, Nat.add_sub_cancel, List.drop_left]
  refine ⟨hicv, fun unit cap hcap => ⟨unit ++ icv, ?_, (hstrip _ _).mpr rfl⟩, hstrip⟩
  unfold appendIcv
  rw [heffective]
  simp only [Option.bind_eq_bind, Option.bind_some, hicv, Option.pure_def]
  rw [if_neg (by omega)]

/-- The four-octet ICV of an empty packet under a key of one octet. -/
theorem icv_exact_short :
    computeIcv .hmacSha256 [0x0B] [] 4 = some ((SecureHash.hmac SecureHash.sha256 64 [0x0B] []).take 4) ∧
      ∃ out, appendIcv ⟨.hmacSha256, [0x0B], 4⟩ [] [0x45] 5 = some out ∧
        stripAndVerifyIcv ⟨.hmacSha256, [0x0B], 4⟩ [] out = some [0x45] :=
  ⟨(icv_exact [0x0B] [] 4 (by decide) (by decide) (by decide)).1,
    (icv_exact [0x0B] [] 4 (by decide) (by decide) (by decide)).2.1 [0x45] 5 (by decide)⟩

end Rohccxx
