import Rohccxx.Lib.OnesComplement
import Rohccxx.WellFormed

/-!
# The Internet checksum in chunks

`InternetChecksum` takes a string chunk by chunk and keeps the odd octet of a chunk for the next one to complete. After any
chunks its state is that of the whole string in one chunk (`foldl_add`), so it agrees with `ipv4_checksum` however the
string was cut, and the cut between the two pieces of a payload does not matter to `udp_checksum_valid`. As long as 32 bits
hold the sum, that is the one's-complement sum of the words, and a UDP header is accepted with the checksum RFC 768 asks
for and no other.
-/

set_option autoImplicit false

namespace Rohccxx

open Octets OnesComplement

/-! ## The state after some chunks -/

namespace InternetChecksum

/-- A chunk after another: a pending octet is completed by the first octet of the next chunk that has one. -/
theorem add_addWords (sum : UInt32) (front rest : Bytes) :
    (addWords sum front).add rest = addWords sum (front ++ rest) := by
  induction sum, front using addWords.induct with
  | case1 sum => rfl
  | case2 sum hi =>
    cases rest with
    | nil => rfl
    | cons lo rest => rfl
  | case3 sum hi lo front ih => exact ih

/-- **After any chunks the state is that of the whole string.** -/
theorem foldl_add (chunks : List Bytes) : chunks.foldl add {} = addWords 0 chunks.flatten := by
  have hstep : ∀ front : Bytes, chunks.foldl add (addWords 0 front) = addWords 0 (front ++ chunks.flatten) := by
    induction chunks with
    | nil =>
      intro front
      rw [List.foldl_nil, List.flatten_nil, List.append_nil]
    | cons chunk chunks ih =>
      intro front
      rw [List.foldl_cons, add_addWords, ih, List.flatten_cons, List.append_assoc]
  exact hstep []

/-- What `valid` folds is the sum of all words, the pending octet counted as the high half of one. -/
theorem valid_addWords (sum : UInt32) (bs : Bytes) :
    (addWords sum bs).valid = true ↔ (foldCarry (sum + wordSum bs)).toUInt16 = 0xFFFF := by
  induction sum, bs using addWords.induct with
  | case1 sum =>
    rw [wordSum, UInt32.add_zero]
    exact decide_eq_true_iff
  | case2 sum hi => exact decide_eq_true_iff
  | case3 sum hi lo rest ih =>
    rw [addWords, ih, wordSum, UInt32.add_assoc]

/-- The accumulator holds the whole words, in 32 bits. -/
theorem toNat_sum_addWords (sum : UInt32) (bs : Bytes) :
    (addWords sum bs).sum.toNat = (sum.toNat + weight ((words bs).take (bs.length / 2))) % 2 ^ 32 := by
  induction sum, bs using addWords.induct with
  | case1 sum => exact (Nat.mod_eq_of_lt sum.toNat_lt).symm
  | case2 sum hi =>
    have hnone : [hi].length / 2 = 0 := by simp
    rw [hnone, List.take_zero, weight_nil, Nat.add_zero, Nat.mod_eq_of_lt sum.toNat_lt, addWords]
  | case3 sum hi lo rest ih =>
    have hhalf : (hi :: lo :: rest).length / 2 = rest.length / 2 + 1 := by
      simp only [List.length_cons]
      omega
    rw [addWords, ih, hhalf, words, List.take_succ_cons, weight_cons, UInt32.toNat_add, UInt16.toNat_toUInt32,
      Nat.mod_add_mod, Nat.add_assoc]

end InternetChecksum

/-! ## One string -/

/-- The 32-bit sum of a string. -/
theorem toNat_wordSum (bs : Bytes) : (wordSum bs).toNat = weight (words bs) % 2 ^ 32 := by
  induction bs using wordSum.induct with
  | case1 => rfl
  | case2 hi =>
    have := (ofBe16 hi 0).toNat_lt
    rw [wordSum, words, weight_cons, weight_nil, Nat.add_zero, UInt16.toNat_toUInt32, Nat.mod_eq_of_lt (by omega)]
  | case3 hi lo rest ih =>
    rw [wordSum, words, weight_cons, UInt32.toNat_add, UInt16.toNat_toUInt32, ih, Nat.add_mod_mod]

theorem ipv4Checksum_eq_zero_iff (bs : Bytes) : ipv4Checksum bs = 0 ↔ onesSum bs = 0xFFFF := by
  have hlt := (onesSum bs).toNat_lt
  have hnot : (ipv4Checksum bs).toNat = 65535 - (onesSum bs).toNat := UInt16.toNat_not _
  rw [← UInt16.toNat_inj, ← UInt16.toNat_inj, hnot]
  show 65535 - (onesSum bs).toNat = 0 ↔ (onesSum bs).toNat = 65535
  omega

/-- A sum that 32 bits hold, with its carries folded in, is the one's-complement sum of the words. -/
theorem onesSum_eq_total {bs : Bytes} (h : weight (words bs) < 2 ^ 32) : onesSum bs = total (words bs) := by
  apply UInt16.toNat_inj.mp
  have hfold : (foldCarry (wordSum bs)).toNat = residue 65535 (wordSum bs).toNat := toNat_foldCarry _
  have hle := residue_le (m := 65535) (by omega) (weight (words bs))
  rw [onesSum, UInt32.toNat_toUInt16, hfold, toNat_wordSum, Nat.mod_eq_of_lt h, toNat_total, Nat.mod_eq_of_lt (by omega)]

/-- 32 bits hold the sum of any string that fits a packet, and one more word. -/
theorem weight_words_lt {bs : Bytes} (h : bs.length ≤ 65575) : weight (words bs) + 65535 < 2 ^ 32 := by
  have hle := weight_le (words bs)
  rw [length_words] at hle
  omega

/-! ## RFC 768 -/

/-- The pseudo-header of a UDP datagram behind a 20-octet IPv4 header: addresses, zero, protocol and UDP length. -/
def udpPseudoHeader (header : Bytes) : Bytes := slice header 12 8 ++ [0, 17] ++ slice header 24 2

/-- The checksum field of the UDP header. -/
def udpChecksumField (header : Bytes) : UInt16 := ofBe16 (u8At header 26) (u8At header 27)

/-- The UDP checksum of RFC 768: over pseudo-header, header with a zero checksum field and payload. -/
def rfc768Checksum (header payload : Bytes) : UInt16 :=
  checksum (words (udpPseudoHeader header ++ slice header 20 6 ++ [0, 0] ++ payload))

theorem udpChecksumField_eq_zero_iff (header : Bytes) :
    udpChecksumField header = 0 ↔ u8At header 26 = 0 ∧ u8At header 27 = 0 := by
  rw [udpChecksumField, ← UInt16.toNat_inj, toNat_ofBe16, ← UInt8.toNat_inj, ← UInt8.toNat_inj]
  show (u8At header 26).toNat * 256 + (u8At header 27).toNat = 0 ↔ (u8At header 26).toNat = 0 ∧ (u8At header 27).toNat = 0
  omega

/-- The four chunks of `udp_checksum_valid` before the second piece of the payload are one string. -/
theorem udpChecksumValid_iff {header : Bytes} (h : header.length = 28) (pre payload : Bytes) :
    udpChecksumValid header pre payload = true ↔
      udpChecksumField header ≠ 0 ∧
        ipv4Checksum (udpPseudoHeader header ++ slice header 20 8 ++ (pre ++ payload)) = 0 := by
  have htail : slice header 24 2 = [u8At header 24, u8At header 25] := by
    rw [← be16_slice (by omega), be16_ofBe16]
    rfl
  have hchunks : [slice header 12 8, [0, 17, u8At header 24, u8At header 25], slice header 20 8, pre, payload].flatten =
      udpPseudoHeader header ++ slice header 20 8 ++ (pre ++ payload) := by
    simp [udpPseudoHeader, htail]
  have hvalid := InternetChecksum.valid_addWords 0 (udpPseudoHeader header ++ slice header 20 8 ++ (pre ++ payload))
  rw [← hchunks, ← InternetChecksum.foldl_add, hchunks, UInt32.zero_add] at hvalid
  rw [ipv4Checksum_eq_zero_iff, Ne, udpChecksumField_eq_zero_iff, onesSum, ← hvalid]
  unfold udpChecksumValid
  by_cases hfield : u8At header 26 = 0 ∧ u8At header 27 = 0
  · simp [hfield]
  · rw [if_neg hfield]
    exact ⟨fun hv => ⟨hfield, hv⟩, fun hv => hv.2⟩

/-- The words of a datagram, its checksum field taken out to the front. -/
theorem total_datagram {header : Bytes} (h : header.length = 28) (payload : Bytes) :
    total (words (udpPseudoHeader header ++ slice header 20 8 ++ payload)) =
      total (udpChecksumField header ::
        words (udpPseudoHeader header ++ slice header 20 6 ++ [0, 0] ++ payload)) := by
  have hfield : slice header 26 2 = [u8At header 26, u8At header 27] := by
    rw [← be16_slice (by omega), be16_ofBe16]
    rfl
  have hudp : slice header 20 8 = slice header 20 6 ++ [u8At header 26, u8At header 27] := by
    rw [← hfield]
    exact (slice_append_slice rfl 2).symm
  have hfront : (udpPseudoHeader header ++ slice header 20 6).length % 2 = 0 := by
    simp [udpPseudoHeader, length_slice, h]
  apply total_perm
  rw [hudp, ← List.append_assoc, List.append_assoc _ _ payload, List.append_assoc _ [0, 0] payload, words_append hfront,
    words_append hfront]
  simp only [List.cons_append, List.nil_append, words, weight_append, weight_cons]
  show _ + ((udpChecksumField header).toNat + _) = _ + (_ + (0 + _))
  omega

/-- A datagram whose sum 32 bits hold is accepted with the checksum of RFC 768 and no other. -/
theorem udpChecksumValid_iff_rfc768 {header pre payload : Bytes} (h : header.length = 28)
    (hsize : pre.length + payload.length ≤ 65555) :
    udpChecksumValid header pre payload = true ↔ udpChecksumField header = rfc768Checksum header (pre ++ payload) := by
  have hlen : (udpPseudoHeader header ++ slice header 20 8 ++ (pre ++ payload)).length ≤ 65575 := by
    simp only [udpPseudoHeader, List.length_append, List.length_cons, List.length_nil]
    rw [length_slice (by omega), length_slice (by omega), length_slice (by omega)]
    omega
  have hbound := weight_words_lt hlen
  -- the protocol number keeps the sum of the other words from being zero
  have hpos : 0 < weight (words (udpPseudoHeader header ++ slice header 20 6 ++ [0, 0] ++ (pre ++ payload))) := by
    have hfront : (slice header 12 8).length % 2 = 0 := by rw [length_slice (by omega)]
    simp only [udpPseudoHeader, List.append_assoc]
    rw [words_append hfront]
    simp only [List.cons_append, List.nil_append, words, weight_append, weight_cons]
    show 0 < _ + (17 + _)
    omega
  rw [udpChecksumValid_iff h, ipv4Checksum_eq_zero_iff, onesSum_eq_total (by omega), total_datagram h,
    total_eq_top_iff hpos]
  rfl

/-- **However a string is cut into chunks, odd and empty ones included, `InternetChecksum` accepts it exactly when
`ipv4_checksum` of the whole is 0, that is, when the folded sum of its words is 0xFFFF. Up to 65575 octets the accumulator
holds the natural sum of the words it has taken and has room for any other word, so that is the one's-complement sum. A UDP
datagram in two pieces is accepted when its checksum field is the checksum of RFC 768, wherever its payload is cut.** -/
theorem chunked_internet_checksum :
    (∀ chunks : List Bytes,
      let c := chunks.foldl InternetChecksum.add {}
      (c.valid = true ↔ ipv4Checksum chunks.flatten = 0) ∧
        (ipv4Checksum chunks.flatten = 0 ↔ onesSum chunks.flatten = 0xFFFF) ∧
        (chunks.flatten.length ≤ 65575 →
          c.sum.toNat = weight ((words chunks.flatten).take (chunks.flatten.length / 2)) ∧
            (∀ w : UInt16, (c.sum + w.toUInt32).toNat = c.sum.toNat + w.toNat) ∧
            onesSum chunks.flatten = total (words chunks.flatten))) ∧
      (∀ header pre payload : Bytes, header.length = 28 →
        (udpChecksumValid header pre payload = true ↔
          udpChecksumField header ≠ 0 ∧
            ipv4Checksum (udpPseudoHeader header ++ slice header 20 8 ++ (pre ++ payload)) = 0) ∧
          (pre.length + payload.length ≤ 65555 →
            (udpChecksumValid header pre payload = true ↔
              udpChecksumField header = rfc768Checksum header (pre ++ payload)))) := by
  refine ⟨fun chunks => ?_, fun header pre payload h => ?_⟩
  · intro c
    have hc : c = InternetChecksum.addWords 0 chunks.flatten := InternetChecksum.foldl_add chunks
    refine ⟨?_, ipv4Checksum_eq_zero_iff _, fun hlen => ?_⟩
    · rw [hc, InternetChecksum.valid_addWords, UInt32.zero_add, ipv4Checksum_eq_zero_iff]
      rfl
    · have hbound := weight_words_lt hlen
      have hpart : weight ((words chunks.flatten).take (chunks.flatten.length / 2)) ≤ weight (words chunks.flatten) := by
        conv_rhs => rw [← List.take_append_drop (chunks.flatten.length / 2) (words chunks.flatten), weight_append]
        exact Nat.le_add_right _ _
      have hsum : c.sum.toNat = weight ((words chunks.flatten).take (chunks.flatten.length / 2)) := by
        rw [hc, InternetChecksum.toNat_sum_addWords, UInt32.toNat_zero, Nat.zero_add, Nat.mod_eq_of_lt (by omega)]
      refine ⟨hsum, fun w => ?_, onesSum_eq_total (by omega)⟩
      have hw := w.toNat_lt
      rw [UInt32.toNat_add, UInt16.toNat_toUInt32, Nat.mod_eq_of_lt (by omega)]
  · exact ⟨udpChecksumValid_iff h pre payload, udpChecksumValid_iff_rfc768 h⟩

/-- An IPv4 header in four pieces, and a UDP datagram whose payload is cut in two. -/
theorem chunked_internet_checksum_header :
    ([[69, 0, 0], [], [29, 0, 1, 64], [0, 64, 17, 38, 205, 10, 0, 0, 1, 10, 0, 0, 2]].foldl InternetChecksum.add {}).valid =
        true ∧
      udpChecksumValid [69, 0, 0, 30, 0, 2, 64, 0, 64, 17, 38, 203, 10, 0, 0, 1, 10, 0, 0, 2, 0, 7, 0, 9, 0, 10, 65, 12]
        [170] [187] = true := by
  obtain ⟨hchunks, hudp⟩ := chunked_internet_checksum
  exact ⟨(hchunks _).1.mpr (by decide +kernel), ((hudp _ [170] [187] rfl).2 (by decide)).mpr (by decide +kernel)⟩

end Rohccxx
