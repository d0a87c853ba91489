import Mathlib.Data.Nat.Bitwise
import Mathlib.Tactic.Ring
import Rohccxx.Lib.Bits
import Rohccxx.PrivateFo
import Rohccxx.Protocols

/-!
# The bit writer and the bit reader

`core/bit_writer.hpp` and `core/bit_reader.hpp`. The loop of the writer is the one of the library (`writeBits_eq`); the loop
of the reader collects the bits of its range (`readLoop_eq`). A reader stays valid as long as the bits it was asked for fit
its length (`readAll_valid_iff`), and what was written is read back (`bit_codec_inverse`).
-/

set_option autoImplicit false

namespace Rohccxx

open Octets

namespace BitCodec

/-! ## The source -/

/-- The loop of `BitWriter::write_bits`, from bit `i - 1` of the value down to bit 0. -/
def writeBits (w : BitWriter) (value : UInt32) : Nat → BitWriter
  | 0 => w
  | i + 1 => writeBits (w.writeBit (value &&& ((1 : UInt32) <<< UInt32.ofNat i) ≠ 0)) value i

/-- Values with their widths, in order. -/
def writeAll (w : BitWriter) (fields : List (UInt32 × UInt8)) : BitWriter :=
  fields.foldl (fun w field => writeBits w field.1 field.2.toNat) w

def bytesWritten (w : BitWriter) : Nat := (w.bitpos + 7) / 8

/-- The largest value of `size_t`. -/
def sizeMax : Nat := 2 ^ 64 - 1

structure BitReader where
  buf : Bytes
  bitLen : Nat
  bitpos : Nat := 0
  valid : Bool := true

namespace BitReader

/-- The constructor, with the length in octets. -/
def new (buf : Bytes) (byteLen : Nat) : BitReader where
  buf := buf
  bitLen := if byteLen > sizeMax / 8 then sizeMax else byteLen * 8

def canRead (r : BitReader) (bits : Nat) : Bool := r.valid && r.bitpos ≤ r.bitLen && bits ≤ r.bitLen - r.bitpos

/-- The bit at a position as the loop takes it out of its octet. -/
def bit (buf : Bytes) (bitpos : Nat) : UInt32 :=
  ((u8At buf (bitpos / 8) >>> UInt8.ofNat (7 - bitpos % 8)) &&& 1).toUInt32

def readLoop (buf : Bytes) : Nat → Nat → UInt32 → UInt32
  | 0, _, value => value
  | n + 1, bitpos, value => readLoop buf n (bitpos + 1) ((value <<< 1) ||| bit buf bitpos)

def readBits (r : BitReader) (bits : UInt8) : UInt32 × BitReader :=
  if bits > 32 || !r.canRead bits.toNat then (0, { r with valid := false })
  else (readLoop r.buf bits.toNat r.bitpos 0, { r with bitpos := r.bitpos + bits.toNat })

/-- Read some widths in order. -/
def readAll (r : BitReader) : List UInt8 → List UInt32 × BitReader
  | [] => ([], r)
  | bits :: widths =>
    let (value, r) := r.readBits bits
    let (values, r) := readAll r widths
    (value :: values, r)

end BitReader

/-! ## Writing -/

theorem and_one_shift_ne_zero (value : UInt32) {i : Nat} (h : i < 32) :
    (value &&& ((1 : UInt32) <<< UInt32.ofNat i) ≠ 0) ↔ value.toNat.testBit i = true := by
  have hshift : ((1 : UInt32) <<< UInt32.ofNat i).toNat = 2 ^ i := by
    have hi : (UInt32.ofNat i).toNat = i := by rw [UInt32.toNat_ofNat', Nat.mod_eq_of_lt (by omega)]
    have hlt : 2 ^ i < 2 ^ 32 := Nat.pow_lt_pow_right (by decide) h
    rw [UInt32.toNat_shiftLeft, hi, Nat.mod_eq_of_lt h, Nat.shiftLeft_eq]
    show 1 * 2 ^ i % 2 ^ 32 = 2 ^ i
    rw [Nat.one_mul, Nat.mod_eq_of_lt hlt]
  rw [Ne, ← UInt32.toNat_inj, UInt32.toNat_and, hshift, Nat.and_two_pow]
  cases value.toNat.testBit i with
  | false => simp
  | true => simp

/-- The loop writes the low bits of the value. -/
theorem writeBits_eq (w : BitWriter) (value : UInt32) {n : Nat} (h : n ≤ 32) :
    writeBits w value n = w.writeBits value.toNat n := by
  induction n generalizing w with
  | zero => rfl
  | succ n ih =>
    have hbit : decide (value &&& ((1 : UInt32) <<< UInt32.ofNat n) ≠ 0) = value.toNat.testBit n :=
      Bool.eq_iff_iff.mpr (decide_eq_true_iff.trans (and_one_shift_ne_zero value (by omega)))
    rw [writeBits, hbit, ih _ (by omega)]
    rfl

/-- Fields as numbers. -/
def numbers (fields : List (UInt32 × UInt8)) : List (Nat × Nat) := fields.map fun f => (f.1.toNat, f.2.toNat)

theorem writeAll_eq (w : BitWriter) {fields : List (UInt32 × UInt8)} (h : ∀ f ∈ fields, f.2 ≤ 32) :
    writeAll w fields = w.writeFields (numbers fields) := by
  induction fields generalizing w with
  | nil => rfl
  | cons f fields ih =>
    have hf : f.2.toNat ≤ 32 := UInt8.le_iff_toNat_le.mp (h f List.mem_cons_self)
    refine (ih (writeBits w f.1 f.2.toNat) fun g hg => h g (List.mem_cons_of_mem _ hg)).trans ?_
    rw [writeBits_eq w f.1 hf]
    rfl

/-! ## Reading -/

namespace BitReader

theorem toNat_bit (buf : Bytes) (i : Nat) : (bit buf i).toNat = (bitAt buf i).toNat := by
  have hshift : (UInt8.ofNat (7 - i % 8)).toNat = 7 - i % 8 := by rw [UInt8.toNat_ofNat', Nat.mod_eq_of_lt (by omega)]
  unfold bit bitAt u8At
  rw [UInt8.toNat_toUInt32, UInt8.toNat_and, UInt8.toNat_shiftRight, hshift, Nat.mod_eq_of_lt (by omega), Nat.toNat_testBit,
    Nat.shiftRight_eq_div_pow]
  exact Nat.and_one_is_mod _

/-- The first bit of a range is its highest. -/
theorem readBits_head (buf : Bytes) (i n : Nat) :
    Octets.readBits buf i (n + 1) = (bitAt buf i).toNat * 2 ^ n + Octets.readBits buf (i + 1) n := by
  induction n with
  | zero => rw [Octets.readBits, Octets.readBits, Octets.readBits]; simp
  | succ n ih =>
    rw [Octets.readBits, ih, Octets.readBits, Nat.pow_succ, show i + 1 + n = i + (n + 1) by omega]
    ring

/-- One round: the value moves up and takes the bit. -/
theorem toNat_shift_or (value : UInt32) (buf : Bytes) (i : Nat) (h : value.toNat < 2 ^ 31) :
    ((value <<< 1) ||| bit buf i).toNat = value.toNat * 2 + (bitAt buf i).toNat := by
  have hbit : (bitAt buf i).toNat < 2 ^ 1 := Nat.lt_succ_of_le (Bool.toNat_le _)
  have hor := Nat.shiftLeft_add_eq_or_of_lt hbit value.toNat
  rw [UInt32.toNat_or, toNat_bit, UInt32.toNat_shiftLeft]
  show (value.toNat <<< 1) % 2 ^ 32 ||| _ = _
  rw [Nat.mod_eq_of_lt (by rw [Nat.shiftLeft_eq]; omega), ← hor, Nat.shiftLeft_eq]

/-- **The loop** collects the bits of its range. -/
theorem readLoop_eq (buf : Bytes) {n k : Nat} (i : Nat) {value : UInt32} (h : value.toNat < 2 ^ k) (hk : k + n ≤ 32) :
    (readLoop buf n i value).toNat = value.toNat * 2 ^ n + Octets.readBits buf i n := by
  induction n generalizing i k value with
  | zero => simp [readLoop, Octets.readBits]
  | succ n ih =>
    have hsmall : value.toNat < 2 ^ 31 := Nat.lt_of_lt_of_le h (Nat.pow_le_pow_right (by decide) (by omega))
    have hstep := toNat_shift_or value buf i hsmall
    have hbit : (bitAt buf i).toNat ≤ 1 := Bool.toNat_le _
    have hnext : ((value <<< 1) ||| bit buf i).toNat < 2 ^ (k + 1) := by
      rw [hstep, Nat.pow_succ]
      omega
    rw [readLoop, ih (i + 1) hnext (by omega), hstep, readBits_head, Nat.pow_succ]
    ring

variable {r : BitReader} {bits : UInt8} {widths : List UInt8}

/-- The bits some widths ask for. -/
def total (widths : List UInt8) : Nat := (widths.map UInt8.toNat).sum

theorem total_cons (bits : UInt8) (widths : List UInt8) : total (bits :: widths) = bits.toNat + total widths := rfl

/-- A read within the length. -/
theorem readBits_of_room (hvalid : r.valid = true) (hwidth : bits ≤ 32) (hroom : r.bitpos + bits.toNat ≤ r.bitLen) :
    (r.readBits bits).1.toNat = Octets.readBits r.buf r.bitpos bits.toNat ∧
      (r.readBits bits).2 = { r with bitpos := r.bitpos + bits.toNat } := by
  have hgate : ¬(bits > 32 || !r.canRead bits.toNat) = true := by
    unfold canRead
    rw [hvalid]
    simp only [gt_iff_lt, Bool.true_and, Bool.or_eq_true, decide_eq_true_eq, Bool.not_eq_true', Bool.and_eq_false_iff,
      decide_eq_false_iff_not, not_or]
    exact ⟨UInt8.not_lt.mpr hwidth, by omega⟩
  unfold readBits
  rw [if_neg hgate]
  refine ⟨?_, rfl⟩
  have hzero : (0 : UInt32).toNat < 2 ^ 0 := Nat.one_pos
  refine (readLoop_eq r.buf r.bitpos hzero ?_).trans ?_
  · rw [Nat.zero_add]
    exact UInt8.le_iff_toNat_le.mp hwidth
  · rw [show (0 : UInt32).toNat = 0 from rfl, Nat.zero_mul, Nat.zero_add]

/-- A read past the last bit, or by an invalid reader. -/
theorem readBits_of_no_room (h : r.valid = false ∨ r.bitLen < r.bitpos + bits.toNat) :
    (r.readBits bits).2 = { r with valid := false } := by
  have hgate : (bits > 32 || !r.canRead bits.toNat) = true := by
    have hcannot : r.canRead bits.toNat = false := by
      unfold canRead
      rcases h with h | h
      · rw [h]
        rfl
      · simp only [Bool.and_eq_false_iff, decide_eq_false_iff_not]
        omega
    rw [hcannot]
    exact Bool.or_true _
  unfold readBits
  rw [if_pos hgate]

theorem readAll_invalid (h : r.valid = false) : (r.readAll widths).2.valid = false := by
  induction widths generalizing r with
  | nil => exact h
  | cons bits widths ih =>
    refine ih (r := (r.readBits bits).2) ?_
    rw [readBits_of_no_room (.inl h)]

/-- **A run of reads within the length** gives the fields of the buffer. -/
theorem readAll_of_room (hvalid : r.valid = true) (hwidths : ∀ bits ∈ widths, bits ≤ 32)
    (hroom : r.bitpos + total widths ≤ r.bitLen) :
    (r.readAll widths).1.map UInt32.toNat = BitWriter.readFields r.buf r.bitpos (widths.map UInt8.toNat) ∧
      (r.readAll widths).2.valid = true := by
  induction widths generalizing r with
  | nil => exact ⟨rfl, hvalid⟩
  | cons bits widths ih =>
    rw [total_cons] at hroom
    obtain ⟨hvalue, hnext⟩ := readBits_of_room hvalid (hwidths bits List.mem_cons_self) (by omega)
    have hrest := @ih (r.readBits bits).2 (by rw [hnext]; exact hvalid)
      (fun b hb => hwidths b (List.mem_cons_of_mem _ hb)) (by rw [hnext]; dsimp only; omega)
    rw [hnext] at hrest
    refine ⟨?_, ?_⟩
    · show (r.readBits bits).1.toNat :: ((r.readBits bits).2.readAll widths).1.map UInt32.toNat = _
      rw [hvalue, hnext, hrest.1]
      rfl
    · show ((r.readBits bits).2.readAll widths).2.valid = true
      rw [hnext]
      exact hrest.2

/-- **A reader stays valid exactly as long as the bits fit.** -/
theorem readAll_valid_iff (hvalid : r.valid = true) (hpos : r.bitpos ≤ r.bitLen) (hwidths : ∀ bits ∈ widths, bits ≤ 32) :
    (r.readAll widths).2.valid = true ↔ r.bitpos + total widths ≤ r.bitLen := by
  refine ⟨fun h => ?_, fun h => (readAll_of_room hvalid hwidths h).2⟩
  induction widths generalizing r with
  | nil => exact hpos
  | cons bits widths ih =>
    rw [total_cons]
    have hrun : ((r.readBits bits).2.readAll widths).2.valid = true := h
    by_cases hroom : r.bitpos + bits.toNat ≤ r.bitLen
    · obtain ⟨-, hnext⟩ := readBits_of_room hvalid (hwidths bits List.mem_cons_self) hroom
      rw [hnext] at hrun
      have := @ih { r with bitpos := r.bitpos + bits.toNat } hvalid hroom
        (fun b hb => hwidths b (List.mem_cons_of_mem _ hb)) hrun
      dsimp only at this
      omega
    · have hinvalid := @readAll_invalid (r.readBits bits).2 widths
        (by rw [readBits_of_no_room (.inr (Nat.not_le.mp hroom))])
      rw [hinvalid] at hrun
      cases hrun

end BitReader

/-! ## The round trip -/

open BitReader

variable {fields : List (UInt32 × UInt8)}

theorem total_widths (fields : List (UInt32 × UInt8)) : total (fields.map Prod.snd) = BitWriter.fieldBits (numbers fields) := by
  unfold total BitWriter.fieldBits numbers
  rw [List.map_map, List.map_map]
  rfl

theorem bitLen_new (buf : Bytes) {byteLen : Nat} (h : byteLen ≤ sizeMax / 8) : (BitReader.new buf byteLen).bitLen = byteLen * 8 :=
  if_neg (Nat.not_lt.mpr h)

/-- The reads of the first-order decoder are reads of such a reader over its unit. -/
theorem readBits?_eq_read (buf : Bytes) (bitpos : Nat) {bits : UInt8} (h : bits ≤ 32) (hsize : buf.length ≤ sizeMax / 8) :
    readBits? buf bitpos bits.toNat =
      let read := ({ BitReader.new buf buf.length with bitpos := bitpos } : BitReader).readBits bits
      if read.2.valid then some read.1.toNat else none := by
  have hlen := bitLen_new buf hsize
  unfold readBits?
  by_cases hroom : bitpos + bits.toNat ≤ buf.length * 8
  · obtain ⟨hvalue, hnext⟩ := @readBits_of_room { BitReader.new buf buf.length with bitpos := bitpos } bits rfl h
      (by rw [hlen]; exact hroom)
    rw [if_pos hroom]
    simp only
    rw [hnext, hvalue]
    rfl
  · have hnext := @readBits_of_no_room { BitReader.new buf buf.length with bitpos := bitpos } bits
      (.inr (by rw [hlen]; exact Nat.not_le.mp hroom))
    rw [if_neg hroom]
    simp only
    rw [hnext]
    rfl

/-- A writer at the start of a zeroed buffer. -/
def zeroed (n : Nat) : BitWriter where
  buf := List.replicate n 0
  bitpos := 0

theorem clear_zeroed (n : Nat) : (zeroed n).Clear := fun j _ => bitAt_replicate_zero n j

/-- What was written is read back by a reader with at least the octets written. -/
theorem readAll_writeAll {n byteLen : Nat} (hwidths : ∀ f ∈ fields, f.2 ≤ 32) (hroom : total (fields.map Prod.snd) ≤ 8 * n)
    (hlen : bytesWritten (writeAll (zeroed n) fields) ≤ byteLen) (hsize : byteLen ≤ sizeMax / 8) :
    let run := (BitReader.new (writeAll (zeroed n) fields).buf byteLen).readAll (fields.map Prod.snd)
    run.1.map UInt32.toNat = fields.map (fun f => f.1.toNat % 2 ^ f.2.toNat) ∧ run.2.valid = true := by
  have hpos : (zeroed n).bitpos = 0 := rfl
  have hbits : (zeroed n).bitpos + BitWriter.fieldBits (numbers fields) ≤ 8 * (zeroed n).buf.length := by
    rw [← total_widths, hpos, Nat.zero_add, show (zeroed n).buf.length = n from List.length_replicate]
    exact hroom
  have hwritten := writeAll_eq (zeroed n) hwidths
  rw [bytesWritten, hwritten, BitWriter.bitpos_writeFields, ← total_widths] at hlen
  rw [hpos] at hlen
  obtain ⟨hvalues, hvalid⟩ := @readAll_of_room (BitReader.new (writeAll (zeroed n) fields).buf byteLen) (fields.map Prod.snd)
    rfl (fun bits h => by
      obtain ⟨f, hf, rfl⟩ := List.mem_map.mp h
      exact hwidths f hf)
    (by rw [bitLen_new _ hsize]
        show 0 + _ ≤ _
        omega)
  refine ⟨hvalues.trans ?_, hvalid⟩
  show BitWriter.readFields (writeAll (zeroed n) fields).buf 0 _ = _
  have hback := BitWriter.readFields_writeFields (numbers fields) (clear_zeroed n) hbits
  rw [hpos] at hback
  have hnumbers : (fields.map Prod.snd).map UInt8.toNat = (numbers fields).map Prod.snd := by
    rw [numbers, List.map_map, List.map_map]
    rfl
  rw [hwritten, hnumbers, hback, numbers, List.map_map]
  rfl

/-- **Writing and reading bits.** What is written to a zeroed buffer is read back; a reader stays valid exactly as long as
the widths fit its length; and a writer leaves the bits outside its fields alone. Lengths above a bound of the reader's
constructor are cut to it. -/
theorem bit_codec_inverse :
    (∀ (fields : List (UInt32 × UInt8)) (n byteLen : Nat), (∀ f ∈ fields, f.2 ≤ 32) →
      total (fields.map Prod.snd) ≤ 8 * n → bytesWritten (writeAll (zeroed n) fields) ≤ byteLen → byteLen ≤ sizeMax / 8 →
      let run := (BitReader.new (writeAll (zeroed n) fields).buf byteLen).readAll (fields.map Prod.snd)
      run.1.map UInt32.toNat = fields.map (fun f => f.1.toNat % 2 ^ f.2.toNat) ∧ run.2.valid = true) ∧
    (∀ (buf : Bytes) (byteLen : Nat) (widths : List UInt8), (∀ bits ∈ widths, bits ≤ 32) → byteLen ≤ sizeMax / 8 →
      (((BitReader.new buf byteLen).readAll widths).2.valid = true ↔ total widths ≤ byteLen * 8)) ∧
    (∀ (w : BitWriter) (fields : List (UInt32 × UInt8)) (j : Nat), (∀ f ∈ fields, f.2 ≤ 32) →
      w.bitpos + total (fields.map Prod.snd) ≤ 8 * w.buf.length →
      j < w.bitpos ∨ w.bitpos + total (fields.map Prod.snd) ≤ j → bitAt (writeAll w fields).buf j = bitAt w.buf j) := by
  refine ⟨fun fields n byteLen hwidths hroom hlen hsize => readAll_writeAll hwidths hroom hlen hsize,
    fun buf byteLen widths hwidths hsize => ?_, fun w fields j hwidths hroom hout => ?_⟩
  · rw [readAll_valid_iff rfl (Nat.zero_le _) hwidths, bitLen_new _ hsize]
    exact Iff.of_eq (congrArg (· ≤ _) (Nat.zero_add _))
  · rw [total_widths] at hroom hout
    rw [writeAll_eq w hwidths]
    exact BitWriter.bitAt_writeFields_of_out hroom hout

/-- Three fields across two octets. -/
theorem bit_codec_inverse_three :
    let run := (BitReader.new (writeAll (zeroed 2) [(5, 3), (0x1FF, 8), (0, 0)]).buf 2).readAll [3, 8, 0]
    run.1.map UInt32.toNat = [5, 255, 0] ∧ run.2.valid = true := by
  have hwidths : ∀ f ∈ ([(5, 3), (0x1FF, 8), (0, 0)] : List (UInt32 × UInt8)), f.2 ≤ 32 := by
    intro f hf
    simp only [List.mem_cons, List.not_mem_nil, or_false] at hf
    rcases hf with rfl | rfl | rfl
    · decide
    · decide
    · decide
  exact bit_codec_inverse.1 [(5, 3), (0x1FF, 8), (0, 0)] 2 2 hwidths (by decide) (by decide) (by decide)

end BitCodec

end Rohccxx
