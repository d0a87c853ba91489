import Rohccxx.Crc
import Rohccxx.Lib.ShiftRegister

/-!
# The tables of the ROHC checksums

Each table holds what eight steps of the bit-serial register do (`crcTable3_entry`, `crcTable7_entry`, `crcTable8_entry`), so
the table-driven loops compute the checksums of their polynomials: 1 + x + x^3, 1 + x + x^2 + x^3 + x^6 + x^7 and
1 + x + x^2 + x^8, from a register of ones. With them come the guarantees of detection (`crc_tables`).
-/

set_option autoImplicit false

namespace Rohccxx

open Octets Checksum

/-! ## The polynomials -/

/-- 1 + x + x^3 -/
def crc3Polynomial : BitVec 3 := reflected 3 [0, 1]

/-- 1 + x + x^2 + x^3 + x^6 + x^7 -/
def crc7Polynomial : BitVec 7 := reflected 7 [0, 1, 2, 3, 6]

/-- 1 + x + x^2 + x^8 -/
def crc8Polynomial : BitVec 8 := reflected 8 [0, 1, 2]

/-! ## The tables -/

/-- A table is known by its entries in order. -/
theorem crcLookup_of_toList {table : Vector UInt8 256} {f : UInt8 → UInt8}
    (h : table.toList = (List.range 256).map fun n => f (UInt8.ofNat n)) (b : UInt8) : crcLookup table b = f b := by
  have hlt : b.toNat < table.toList.length := by
    rw [Vector.length_toList]
    exact b.toNat_lt
  have hget : crcLookup table b = table.toList[b.toNat] := rfl
  rw [hget]
  simp only [h, List.getElem_map, List.getElem_range, UInt8.ofNat_toNat]

/-- An octet through a zero register. -/
def serialEntry {w : Nat} (poly : BitVec w) (b : UInt8) : UInt8 := toOctet ((octetBits b).foldl (shiftIn poly) 0)

theorem crcTable3_entry (b : UInt8) : crcLookup crcTable3 b = serialEntry crc3Polynomial b := by
  have hlookup : crcLookup crcTable3 b = crc3Transition (UInt8.ofNat b.toNat) := Vector.getElem_ofFn b.toNat_lt
  rw [hlookup, UInt8.ofNat_toNat]
  exact forall_octet (P := fun b => crc3Transition b = serialEntry crc3Polynomial b) (by decide +kernel) b

theorem crcTable7_entry (b : UInt8) : crcLookup crcTable7 b = serialEntry crc7Polynomial b :=
  crcLookup_of_toList (by decide +kernel) b

theorem crcTable8_entry (b : UInt8) : crcLookup crcTable8 b = serialEntry crc8Polynomial b :=
  crcLookup_of_toList (by decide +kernel) b

/-! ## The loops -/

theorem crc3_eq_serial (data : Bytes) : crc3 data = toOctet (serialCrc crc3Polynomial data) := by
  refine foldl_eq_serial (fun r b => ?_) (BitVec.allOnes 3) data
  rw [foldl_octetBits _ (by decide), UInt8.xor_comm]
  exact crcTable3_entry _

theorem toOctet_masked (r : BitVec 7) : toOctet r &&& 0x7F = toOctet r := by
  apply UInt8.toNat_inj.mp
  rw [UInt8.toNat_and, toNat_toOctet (by decide)]
  exact (Nat.and_two_pow_sub_one_eq_mod _ 7).trans (Nat.mod_eq_of_lt r.isLt)

theorem crc7_eq_serial (data : Bytes) : crc7 data = toOctet (serialCrc crc7Polynomial data) := by
  refine foldl_eq_serial (fun r b => ?_) (BitVec.allOnes 7) data
  rw [foldl_octetBits _ (by decide), toOctet_masked]
  exact crcTable7_entry _

/-- The checksum fits the seven bits of its field. -/
theorem crc7_masked (data : Bytes) : crc7 data &&& 0x7F = crc7 data := by
  rw [crc7_eq_serial, toOctet_masked]

theorem crc8_eq_serial (data : Bytes) : crc8 data = toOctet (serialCrc crc8Polynomial data) := by
  refine foldl_eq_serial (fun r b => ?_) (BitVec.allOnes 8) data
  rw [foldl_octetBits _ (by decide)]
  exact crcTable8_entry _

/-! ## The CRC-8 as a register -/

/-- One shift of the register. -/
def crc8Shift (value : UInt8) : UInt8 :=
  if value &&& 0x01 ≠ 0 then (value >>> 1) ^^^ 0xE0 else value >>> 1

/-- The shift undone: its highest bit tells whether the polynomial was added. -/
def crc8Unshift (value : UInt8) : UInt8 :=
  if value &&& 0x80 ≠ 0 then ((value ^^^ 0xE0) <<< 1) ||| 0x01 else value <<< 1

theorem crc8Unshift_shift : Function.LeftInverse crc8Unshift crc8Shift :=
  forall_octet (P := fun b => crc8Unshift (crc8Shift b) = b) (by decide)

/-- The table is eight shifts. -/
theorem crcLookup_crcTable8 (b : UInt8) : crcLookup crcTable8 b = crc8Shift^[8] b :=
  crcLookup_of_toList (by decide +kernel) b

theorem crcLookup_crcTable8_injective : Function.Injective (crcLookup crcTable8) := by
  intro a b h
  rw [crcLookup_crcTable8, crcLookup_crcTable8] at h
  exact (iterate_leftInverse crc8Unshift_shift 8).injective h

theorem xor_left_injective (c : UInt8) : Function.Injective fun b : UInt8 => b ^^^ c := by
  intro a b h
  have hcancel : ∀ x : UInt8, x ^^^ c ^^^ c = x := fun x => by rw [UInt8.xor_assoc, UInt8.xor_self, UInt8.xor_zero]
  rw [← hcancel a, ← hcancel b]
  exact congrArg (· ^^^ c) h

/-- **The CRC-8 loses nothing.** -/
theorem lossless_crc8 : Lossless fun crc b : UInt8 => crcLookup crcTable8 (b ^^^ crc) where
  register a := fun s t h => xor_left_injective a (by
    have := crcLookup_crcTable8_injective h
    simpa only [UInt8.xor_comm a] using this)
  symbol s := fun a b h => xor_left_injective s (crcLookup_crcTable8_injective h)

/-- One octet changed gives another CRC. -/
theorem crc8_set_ne {data : Bytes} {i : Nat} (hi : i < data.length) {b : UInt8} (hne : b ≠ data[i]) :
    crc8 (data.set i b) ≠ crc8 data := lossless_crc8.foldl_set_ne hi hne 0xFF

/-! ## Detection -/

/-- **The checksums are those of their polynomials**, so the CRC-8 notices one changed octet, and the CRC-3 and the CRC-7
notice one changed bit. -/
theorem crc_tables :
    (∀ data, crc3 data = toOctet (serialCrc crc3Polynomial data) ∧ crc7 data = toOctet (serialCrc crc7Polynomial data) ∧
      crc8 data = toOctet (serialCrc crc8Polynomial data)) ∧
    (∀ data data', DifferOnce data data' → crc8 data ≠ crc8 data') ∧
    (∀ data data', DifferOnce (messageBits data) (messageBits data') → crc3 data ≠ crc3 data' ∧ crc7 data ≠ crc7 data') := by
  refine ⟨fun data => ⟨crc3_eq_serial data, crc7_eq_serial data, crc8_eq_serial data⟩, fun data data' h => ?_,
    fun data data' h => ⟨fun heq => ?_, fun heq => ?_⟩⟩
  · exact lossless_crc8.foldl_ne_of_differOnce h 0xFF
  · rw [crc3_eq_serial, crc3_eq_serial] at heq
    exact serialCrc_ne (by decide) h (toOctet_injective (by decide) heq)
  · rw [crc7_eq_serial, crc7_eq_serial] at heq
    exact serialCrc_ne (by decide) h (toOctet_injective (by decide) heq)

/-- A changed octet, and a changed bit in it. -/
theorem crc_tables_changed :
    crc8 [0x45, 0, 0, 0x1D] = 196 ∧ toOctet (serialCrc crc8Polynomial [0x45, 0, 0, 0x1D]) = 196 ∧
      crc8 [0x45, 0, 0, 0xFF] ≠ 196 ∧
      crc3 [0x45, 0, 0, 0x1C] ≠ crc3 [0x45, 0, 0, 0x1D] ∧ crc7 [0x45, 0, 0, 0x1C] ≠ crc7 [0x45, 0, 0, 0x1D] := by
  obtain ⟨hserial, hoctet, hbit⟩ := crc_tables
  have hcrc8 : crc8 [0x45, 0, 0, 0x1D] = 196 := rfl
  have hoctets : DifferOnce [0x45, 0, 0, 0xFF] ([0x45, 0, 0, 0xFF].set 3 (0x1D : UInt8)) :=
    differOnce_set (by decide) (by decide)
  have hbits : DifferOnce (messageBits [0x45, 0, 0, 0x1C]) ((messageBits [0x45, 0, 0, 0x1C]).set 24 true) :=
    differOnce_set (by decide) (by decide)
  have hset : (messageBits [0x45, 0, 0, 0x1C]).set 24 true = messageBits [0x45, 0, 0, 0x1D] := by decide
  rw [hset] at hbits
  refine ⟨hcrc8, (hserial _).2.2.symm.trans hcrc8, ?_, hbit _ _ hbits⟩
  rw [← hcrc8]
  exact hoctet _ _ hoctets

end Rohccxx
