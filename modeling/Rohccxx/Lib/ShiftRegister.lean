import Rohccxx.Lib.Checksum

/-!
# Cyclic checksums bit by bit

The register of a cyclic redundancy check that takes the bits of a message one after another and shifts towards its low
end, over a polynomial written with its low powers at the high end.

* `shiftIn_xor` — a step is linear; `shiftIn_own` — a register that takes its own lowest bit only shifts.
* `foldl_shiftIn` — so a block of bits at least as long as the register acts like the block with the register added, on the
  zero register. A table needs an entry for each block only.
* `lossless_shiftIn` — a step loses nothing, so a single changed bit is noticed (`serialCrc_ne`).
* `foldl_eq_serial` — a table-driven loop computes the checksum bit by bit.
-/

set_option autoImplicit false

namespace Checksum

open Octets

variable {w : Nat}

/-- One bit of the message into the register. -/
def shiftIn (poly reg : BitVec w) (bit : Bool) : BitVec w :=
  if reg.getLsbD 0 ^^ bit then (reg >>> 1) ^^^ poly else reg >>> 1

/-- The polynomial of degree `w` with these lower exponents, low powers at the high end. -/
def reflected (w : Nat) (exponents : List Nat) : BitVec w :=
  exponents.foldl (fun poly e => poly ||| BitVec.twoPow w (w - 1 - e)) 0

/-! ## A step -/

theorem shiftIn_xor (poly r s : BitVec w) (b c : Bool) :
    shiftIn poly (r ^^^ s) (b ^^ c) = shiftIn poly r b ^^^ shiftIn poly s c := by
  have hcancel (x y : BitVec w) : (x ^^^ poly) ^^^ (y ^^^ poly) = x ^^^ y := by
    rw [BitVec.xor_comm y poly, ← BitVec.xor_assoc, BitVec.xor_assoc x poly poly, BitVec.xor_self, BitVec.xor_zero]
  have hbit : ((r ^^^ s).getLsbD 0 ^^ (b ^^ c)) = ((r.getLsbD 0 ^^ b) ^^ (s.getLsbD 0 ^^ c)) := by
    rw [BitVec.getLsbD_xor]
    cases r.getLsbD 0 <;> cases s.getLsbD 0 <;> cases b <;> cases c <;> rfl
  unfold shiftIn
  rw [hbit, BitVec.ushiftRight_xor_distrib]
  cases r.getLsbD 0 ^^ b <;> cases s.getLsbD 0 ^^ c
  · rfl
  · exact BitVec.xor_assoc _ _ _
  · show r >>> 1 ^^^ s >>> 1 ^^^ poly = r >>> 1 ^^^ poly ^^^ s >>> 1
    rw [BitVec.xor_assoc, BitVec.xor_comm (s >>> 1), BitVec.xor_assoc]
  · exact (hcancel _ _).symm

theorem shiftIn_own (poly r : BitVec w) : shiftIn poly r (r.getLsbD 0) = r >>> 1 := by
  unfold shiftIn
  rw [Bool.xor_self]
  rfl

/-- The highest bit tells whether the polynomial was added. -/
theorem msb_shiftIn {poly : BitVec w} (h : poly.msb = true) (r : BitVec w) (b : Bool) :
    (shiftIn poly r b).msb = (r.getLsbD 0 ^^ b) := by
  have hshift : (r >>> 1).msb = false := by rw [BitVec.msb_ushiftRight]; rfl
  unfold shiftIn
  cases r.getLsbD 0 ^^ b with
  | false => exact hshift
  | true =>
    show (r >>> 1 ^^^ poly).msb = true
    rw [BitVec.msb_xor, hshift, h]
    rfl

theorem eq_of_shift {r s : BitVec w} (hlow : r.getLsbD 0 = s.getLsbD 0) (h : r >>> 1 = s >>> 1) : r = s := by
  refine BitVec.eq_of_getLsbD_eq fun i hi => ?_
  cases i with
  | zero => exact hlow
  | succ i =>
    have := congrArg (BitVec.getLsbD · i) h
    simpa only [BitVec.getLsbD_ushiftRight, Nat.add_comm 1] using this

/-- **A bit that goes into the register can be told from it.** -/
theorem lossless_shiftIn {poly : BitVec w} (h : poly.msb = true) : Lossless (shiftIn poly) where
  register b r s heq := by
    have heq : shiftIn poly r b = shiftIn poly s b := heq
    have hbit : (r.getLsbD 0 ^^ b) = (s.getLsbD 0 ^^ b) := by
      rw [← msb_shiftIn h, ← msb_shiftIn h, heq]
    refine eq_of_shift (Bool.xor_left_inj.mp hbit) ?_
    unfold shiftIn at heq
    rw [hbit] at heq
    split at heq
    · exact (BitVec.xor_left_inj poly).mp heq
    · exact heq
  symbol r b c heq := by
    have hbit : (r.getLsbD 0 ^^ b) = (r.getLsbD 0 ^^ c) := by
      rw [← msb_shiftIn h, ← msb_shiftIn h, heq]
    exact Bool.xor_right_inj.mp hbit

/-! ## Blocks -/

/-- The first `n` bits of a sequence. -/
def bitsOf (f : Nat → Bool) (n : Nat) : List Bool := (List.range n).map f

theorem bitsOf_succ (f : Nat → Bool) (n : Nat) : bitsOf f (n + 1) = bitsOf f n ++ [f n] := by
  rw [bitsOf, List.range_succ, List.map_append, List.map_singleton, bitsOf]

theorem foldl_shiftIn_xor (poly r s : BitVec w) (f g : Nat → Bool) (n : Nat) :
    (bitsOf (fun i => f i ^^ g i) n).foldl (shiftIn poly) (r ^^^ s) =
      (bitsOf f n).foldl (shiftIn poly) r ^^^ (bitsOf g n).foldl (shiftIn poly) s := by
  induction n with
  | zero => rfl
  | succ n ih => simp only [bitsOf_succ, List.foldl_append, List.foldl_cons, List.foldl_nil, ih, shiftIn_xor]

/-- A register that takes its own bits runs empty. -/
theorem foldl_shiftIn_own (poly r : BitVec w) (n : Nat) : (bitsOf r.getLsbD n).foldl (shiftIn poly) r = r >>> n := by
  induction n with
  | zero => exact (BitVec.ushiftRight_zero r).symm
  | succ n ih =>
    have hlow : r.getLsbD n = (r >>> n).getLsbD 0 := by rw [BitVec.getLsbD_ushiftRight, Nat.add_zero]
    rw [bitsOf_succ, List.foldl_append, List.foldl_cons, List.foldl_nil, ih, hlow, shiftIn_own, ← BitVec.shiftRight_add]

/-- **A block acts like the block with the register added**, on the zero register. -/
theorem foldl_shiftIn (poly r : BitVec w) (f : Nat → Bool) {n : Nat} (h : w ≤ n) :
    (bitsOf f n).foldl (shiftIn poly) r = (bitsOf (fun i => f i ^^ r.getLsbD i) n).foldl (shiftIn poly) 0 := by
  have hempty : r >>> n = 0 := by
    refine BitVec.eq_of_getLsbD_eq fun i hi => ?_
    rw [BitVec.getLsbD_ushiftRight, BitVec.getLsbD_of_ge _ _ (by omega)]
    exact (BitVec.getLsbD_zero).symm
  have hsplit := foldl_shiftIn_xor poly 0 r (fun i => f i ^^ r.getLsbD i) r.getLsbD n
  rw [foldl_shiftIn_own, hempty] at hsplit
  refine Eq.trans ?_ (hsplit.trans BitVec.xor_zero)
  have hbits : (fun i => f i ^^ r.getLsbD i ^^ r.getLsbD i) = f := by
    funext i
    cases f i <;> cases r.getLsbD i <;> rfl
  rw [hbits]
  exact congrArg (List.foldl (shiftIn poly) · _) BitVec.zero_xor.symm

/-! ## Octets -/

/-- The bits of an octet, lowest first. -/
def octetBits (b : UInt8) : List Bool := bitsOf b.toNat.testBit 8

def messageBits (data : Bytes) : List Bool := data.flatMap octetBits

/-- **The checksum bit by bit**: every octet lowest bit first, from a register of ones. -/
def serialCrc (poly : BitVec w) (data : Bytes) : BitVec w := (messageBits data).foldl (shiftIn poly) (BitVec.allOnes w)

/-- A register of at most eight bits as an octet. -/
def toOctet (r : BitVec w) : UInt8 := UInt8.ofNat r.toNat

theorem toNat_toOctet (hw : w ≤ 8) (r : BitVec w) : (toOctet r).toNat = r.toNat := by
  have hr : r.toNat < 2 ^ 8 := Nat.lt_of_lt_of_le r.isLt (Nat.pow_le_pow_right (by decide) hw)
  rw [toOctet, UInt8.toNat_ofNat', Nat.mod_eq_of_lt hr]

theorem toOctet_injective (hw : w ≤ 8) : Function.Injective (toOctet (w := w)) := by
  intro r s h
  apply BitVec.eq_of_toNat_eq
  rw [← toNat_toOctet hw, ← toNat_toOctet hw, h]

/-- What an octet does to a register, an entry of a table for the sum of both does. -/
theorem foldl_octetBits (poly : BitVec w) (hw : w ≤ 8) (r : BitVec w) (b : UInt8) :
    (octetBits b).foldl (shiftIn poly) r = (octetBits (b ^^^ toOctet r)).foldl (shiftIn poly) 0 := by
  rw [octetBits, foldl_shiftIn poly r _ hw, octetBits]
  congr 2
  funext i
  rw [UInt8.toNat_xor, Nat.testBit_xor, toNat_toOctet hw, BitVec.testBit_toNat]

/-- A step that does to the register what the octet does bit by bit gives the checksum. -/
theorem foldl_eq_serial {step : UInt8 → UInt8 → UInt8} {poly : BitVec w}
    (h : ∀ r b, step (toOctet r) b = toOctet ((octetBits b).foldl (shiftIn poly) r)) (r : BitVec w) (data : Bytes) :
    data.foldl step (toOctet r) = toOctet ((messageBits data).foldl (shiftIn poly) r) := by
  induction data generalizing r with
  | nil => rfl
  | cons b data ih => rw [List.foldl_cons, h, ih, messageBits, messageBits, List.flatMap_cons, List.foldl_append]

/-- **A single changed bit is noticed.** -/
theorem serialCrc_ne {poly : BitVec w} (h : poly.msb = true) {data data' : Bytes}
    (hdiffer : DifferOnce (messageBits data) (messageBits data')) : serialCrc poly data ≠ serialCrc poly data' :=
  (lossless_shiftIn h).foldl_ne_of_differOnce hdiffer _

end Checksum
