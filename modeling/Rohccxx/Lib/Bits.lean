import Rohccxx.Lib.Octets

/-!
# Bit fields in an octet buffer

A writer that ORs bits into a cleared buffer, most significant bit first, and a reader that takes them out again. Both
are described through `bitAt`, the bit at a position of the buffer: writing changes the bits of its own range only
(`bitAt_writeBits`), and reading a range whose bits are those of a number gives the number (`readBits_eq`).
-/

set_option autoImplicit false

namespace Octets

/-- Bit `i` of a buffer, counted from the most significant bit of its first octet; 0 past the end. -/
def bitAt (buf : Bytes) (i : Nat) : Bool := (buf.getD (i / 8) 0).toNat.testBit (7 - i % 8)

structure BitWriter where
  buf : Bytes
  bitpos : Nat

namespace BitWriter

def writeBit (w : BitWriter) (b : Bool) : BitWriter where
  buf := if b then w.buf.modify (w.bitpos / 8) (· ||| UInt8.ofNat (2 ^ (7 - w.bitpos % 8))) else w.buf
  bitpos := w.bitpos + 1

/-- The low `bits` bits of `value`, most significant first. -/
def writeBits (w : BitWriter) (value : Nat) : Nat → BitWriter
  | 0 => w
  | n + 1 => (w.writeBit (value.testBit n)).writeBits value n

@[simp] theorem length_writeBit (w : BitWriter) (b : Bool) : (w.writeBit b).buf.length = w.buf.length := by
  unfold writeBit
  split <;> simp

@[simp] theorem bitpos_writeBits (w : BitWriter) (value n : Nat) :
    (w.writeBits value n).bitpos = w.bitpos + n := by
  induction n generalizing w with
  | zero => rfl
  | succ n ih =>
    have h : (w.writeBit (value.testBit n)).bitpos = w.bitpos + 1 := rfl
    rw [writeBits, ih, h]
    omega

@[simp] theorem length_writeBits (w : BitWriter) (value n : Nat) :
    (w.writeBits value n).buf.length = w.buf.length := by
  induction n generalizing w with
  | zero => rfl
  | succ n ih => rw [writeBits, ih, length_writeBit]

/-- ORing in a power of two sets that bit and no other. -/
theorem testBit_or_two_pow (b : UInt8) {k : Nat} (hk : k < 8) (j : Nat) :
    (b ||| UInt8.ofNat (2 ^ k)).toNat.testBit j = (b.toNat.testBit j || decide (k = j)) := by
  have hp : 2 ^ k < 2 ^ 8 := Nat.pow_lt_pow_right (by omega) hk
  rw [UInt8.toNat_or, UInt8.toNat_ofNat', Nat.mod_eq_of_lt hp, Nat.testBit_or, Nat.testBit_two_pow]

theorem bitAt_writeBit (w : BitWriter) (b : Bool) (h : w.bitpos < 8 * w.buf.length) (j : Nat) :
    bitAt (w.writeBit b).buf j = (bitAt w.buf j || (b && decide (j = w.bitpos))) := by
  cases b with
  | false => simp [writeBit]
  | true =>
    have hb : w.bitpos / 8 < w.buf.length := by omega
    simp only [writeBit, if_true, bitAt, List.getD_eq_getElem?_getD, List.getElem?_modify, Bool.true_and]
    by_cases hj : w.bitpos / 8 = j / 8
    · rw [← hj, List.getElem?_eq_getElem hb]
      simp only [if_true, Option.map_eq_map, Option.map_some, Option.getD_some]
      rw [testBit_or_two_pow _ (by omega)]
      congr 1
      simp only [decide_eq_decide]
      omega
    · have hne : j ≠ w.bitpos := fun e => hj (by rw [e])
      simp [hj, hne]

/-- **Writing sets the bits of its own range** and leaves the others. -/
theorem bitAt_writeBits (w : BitWriter) (value n : Nat) (h : w.bitpos + n ≤ 8 * w.buf.length) (j : Nat) :
    bitAt (w.writeBits value n).buf j =
      (bitAt w.buf j || (decide (w.bitpos ≤ j ∧ j < w.bitpos + n) && value.testBit (w.bitpos + n - 1 - j))) := by
  induction n generalizing w with
  | zero =>
    have hr : decide (w.bitpos ≤ j ∧ j < w.bitpos + 0) = false := decide_eq_false (by omega)
    rw [hr, Bool.false_and, Bool.or_false]
    rfl
  | succ n ih =>
    have hb : (w.writeBit (value.testBit n)).bitpos = w.bitpos + 1 := rfl
    rw [writeBits, ih _ (by rw [hb, length_writeBit]; omega), bitAt_writeBit _ _ (by omega), hb, Bool.or_assoc]
    congr 1
    by_cases hj : j = w.bitpos
    · subst hj
      simp
    · have e : w.bitpos + 1 + n - 1 - j = w.bitpos + (n + 1) - 1 - j := by omega
      have hr : decide (w.bitpos + 1 ≤ j ∧ j < w.bitpos + 1 + n) = decide (w.bitpos ≤ j ∧ j < w.bitpos + (n + 1)) :=
        decide_eq_decide.mpr (by omega)
      rw [hr, e]
      simp [hj]

end BitWriter

/-! ## Reading -/

/-- The `n` bits from position `i` on as a number. -/
def readBits (buf : Bytes) (i : Nat) : Nat → Nat
  | 0 => 0
  | n + 1 => readBits buf i n * 2 + (bitAt buf (i + n)).toNat

/-- Reading a range that holds the bits of `value` gives its low bits. -/
theorem readBits_eq {buf : Bytes} {i n value : Nat}
    (h : ∀ j, j < n → bitAt buf (i + j) = value.testBit (n - 1 - j)) : readBits buf i n = value % 2 ^ n := by
  induction n generalizing value with
  | zero => simp [readBits, Nat.mod_one]
  | succ n ih =>
    have hh := @ih (value / 2) (fun j hj => by
      rw [h j (by omega), Nat.testBit_div_two]
      congr 1
      omega)
    have hl := h n (by omega)
    rw [readBits, hh, hl, Nat.add_sub_cancel, Nat.sub_self, Nat.testBit_zero]
    rw [Nat.pow_succ, Nat.mul_comm (2 ^ n) 2, Nat.mod_mul, Nat.mul_comm]
    have : (decide (value % 2 = 1)).toNat = value % 2 := by
      rcases Nat.mod_two_eq_zero_or_one value with e | e <;> simp [e]
    omega

theorem bitAt_append_left {front rest : Bytes} {i : Nat} (h : i < 8 * front.length) :
    bitAt (front ++ rest) i = bitAt front i := by
  have : i / 8 < front.length := by omega
  simp [bitAt, List.getElem?_append_left this]

/-- Octets behind the range do not matter. -/
theorem readBits_append {front rest : Bytes} {i n : Nat} (h : i + n ≤ 8 * front.length) :
    readBits (front ++ rest) i n = readBits front i n := by
  induction n with
  | zero => rfl
  | succ n ih => rw [readBits, readBits, ih (by omega), bitAt_append_left (by omega)]

@[simp] theorem bitAt_replicate_zero (n i : Nat) : bitAt (List.replicate n 0) i = false := by
  unfold bitAt
  rw [List.getD_eq_getElem?_getD, List.getElem?_replicate]
  split <;> simp

/-! ## Fields one after the other -/

namespace BitWriter

/-- Nothing stands at the position of the writer or behind it. -/
def Clear (w : BitWriter) : Prop := ∀ j, w.bitpos ≤ j → bitAt w.buf j = false

/-- Numbers with their widths, in order. -/
def writeFields (w : BitWriter) (fields : List (Nat × Nat)) : BitWriter :=
  fields.foldl (fun w field => w.writeBits field.1 field.2) w

/-- The bits some fields take. -/
def fieldBits (fields : List (Nat × Nat)) : Nat := (fields.map Prod.snd).sum

variable {w : BitWriter}

@[simp] theorem length_writeFields (w : BitWriter) (fields : List (Nat × Nat)) :
    (w.writeFields fields).buf.length = w.buf.length := by
  induction fields generalizing w with
  | nil => rfl
  | cons field fields ih => exact (ih _).trans (length_writeBits _ _ _)

theorem bitpos_writeFields (w : BitWriter) (fields : List (Nat × Nat)) :
    (w.writeFields fields).bitpos = w.bitpos + fieldBits fields := by
  induction fields generalizing w with
  | nil => rfl
  | cons field fields ih =>
    have hbits : fieldBits (field :: fields) = field.2 + fieldBits fields := by simp [fieldBits]
    refine (ih (w.writeBits field.1 field.2)).trans ?_
    rw [bitpos_writeBits, hbits, Nat.add_assoc]

/-- **Bits outside the fields stay.** -/
theorem bitAt_writeFields_of_out {fields : List (Nat × Nat)} (hroom : w.bitpos + fieldBits fields ≤ 8 * w.buf.length)
    {j : Nat} (h : j < w.bitpos ∨ w.bitpos + fieldBits fields ≤ j) : bitAt (w.writeFields fields).buf j = bitAt w.buf j := by
  induction fields generalizing w with
  | nil => rfl
  | cons field fields ih =>
    have hbits : fieldBits (field :: fields) = field.2 + fieldBits fields := by simp [fieldBits]
    have hout : decide (w.bitpos ≤ j ∧ j < w.bitpos + field.2) = false := decide_eq_false (by omega)
    refine (ih ?_ ?_).trans ?_
    · rw [bitpos_writeBits, length_writeBits]
      omega
    · rw [bitpos_writeBits]
      omega
    · rw [bitAt_writeBits w _ _ (by omega), hout, Bool.false_and, Bool.or_false]

theorem clear_writeBits (h : w.Clear) {value n : Nat} (hroom : w.bitpos + n ≤ 8 * w.buf.length) :
    (w.writeBits value n).Clear := by
  intro j hj
  rw [bitpos_writeBits] at hj
  rw [bitAt_writeBits w value n hroom, h j (by omega), Bool.false_or, Bool.and_eq_false_iff]
  exact .inl (decide_eq_false (by omega))

theorem clear_writeFields (h : w.Clear) {fields : List (Nat × Nat)}
    (hroom : w.bitpos + fieldBits fields ≤ 8 * w.buf.length) : (w.writeFields fields).Clear := by
  induction fields generalizing w with
  | nil => exact h
  | cons field fields ih =>
    have hbits : fieldBits (field :: fields) = field.2 + fieldBits fields := by simp [fieldBits]
    refine ih (clear_writeBits h (by omega)) ?_
    rw [bitpos_writeBits, length_writeBits]
    omega

/-- What stands in front of a writer stays. -/
theorem readBits_writeBits_of_le {value n i m : Nat} (hroom : w.bitpos + n ≤ 8 * w.buf.length) (h : i + m ≤ w.bitpos) :
    readBits (w.writeBits value n).buf i m = readBits w.buf i m := by
  induction m with
  | zero => rfl
  | succ m ih =>
    have hout : decide (w.bitpos ≤ i + m ∧ i + m < w.bitpos + n) = false := decide_eq_false (by omega)
    rw [readBits, readBits, ih (by omega), bitAt_writeBits w value n hroom, hout, Bool.false_and, Bool.or_false]

theorem readBits_writeFields_of_le {fields : List (Nat × Nat)} {i m : Nat}
    (hroom : w.bitpos + fieldBits fields ≤ 8 * w.buf.length) (h : i + m ≤ w.bitpos) :
    readBits (w.writeFields fields).buf i m = readBits w.buf i m := by
  induction fields generalizing w with
  | nil => rfl
  | cons field fields ih =>
    have hbits : fieldBits (field :: fields) = field.2 + fieldBits fields := by simp [fieldBits]
    refine Eq.trans (ih ?_ ?_) (readBits_writeBits_of_le (by omega) h)
    · rw [bitpos_writeBits, length_writeBits]
      omega
    · rw [bitpos_writeBits]
      omega

/-- A field in a cleared buffer is read back. -/
theorem readBits_writeBits (h : w.Clear) {value n : Nat} (hroom : w.bitpos + n ≤ 8 * w.buf.length) :
    readBits (w.writeBits value n).buf w.bitpos n = value % 2 ^ n := by
  refine readBits_eq fun j hj => ?_
  have hin : decide (w.bitpos ≤ w.bitpos + j ∧ w.bitpos + j < w.bitpos + n) = true := decide_eq_true (by omega)
  rw [bitAt_writeBits w value n hroom, h _ (by omega), hin, Bool.false_or, Bool.true_and]
  congr 1
  omega

/-- **Every field is read back** at its place. -/
theorem readBits_writeFields (front rest : List (Nat × Nat)) (value n : Nat) (h : w.Clear)
    (hroom : w.bitpos + fieldBits (front ++ (value, n) :: rest) ≤ 8 * w.buf.length) :
    readBits (w.writeFields (front ++ (value, n) :: rest)).buf (w.bitpos + fieldBits front) n = value % 2 ^ n := by
  induction front generalizing w with
  | nil =>
    have hbits : fieldBits ([] ++ (value, n) :: rest) = n + fieldBits rest := by simp [fieldBits]
    refine Eq.trans (readBits_writeFields_of_le (w := w.writeBits value n) ?_ ?_) (readBits_writeBits h (by omega))
    · rw [bitpos_writeBits, length_writeBits]
      omega
    · rw [bitpos_writeBits, fieldBits]
      simp
  | cons field front ih =>
    have hbits : fieldBits (field :: front ++ (value, n) :: rest) =
        field.2 + fieldBits (front ++ (value, n) :: rest) := by simp [fieldBits]
    have hfront : w.bitpos + fieldBits (field :: front) =
        (w.writeBits field.1 field.2).bitpos + fieldBits front := by
      rw [bitpos_writeBits]
      simp only [fieldBits, List.map_cons, List.sum_cons]
      omega
    rw [hfront]
    refine ih (clear_writeBits h (by omega)) ?_
    rw [bitpos_writeBits, length_writeBits]
    omega

/-- The numbers of some widths that stand one after the other from position `i` on. -/
def readFields (buf : Bytes) (i : Nat) : List Nat → List Nat
  | [] => []
  | n :: widths => readBits buf i n :: readFields buf (i + n) widths

/-- **A chain of writes is read back** field by field. -/
theorem readFields_writeFields (fields : List (Nat × Nat)) (h : w.Clear)
    (hroom : w.bitpos + fieldBits fields ≤ 8 * w.buf.length) :
    readFields (w.writeFields fields).buf w.bitpos (fields.map Prod.snd) = fields.map fun f => f.1 % 2 ^ f.2 := by
  induction fields generalizing w with
  | nil => rfl
  | cons field fields ih =>
    have hbits : fieldBits (field :: fields) = field.2 + fieldBits fields := by simp [fieldBits]
    have hrest : (w.writeBits field.1 field.2).bitpos + fieldBits fields ≤
        8 * (w.writeBits field.1 field.2).buf.length := by
      rw [bitpos_writeBits, length_writeBits]
      omega
    have hfirst := readBits_writeFields_of_le (i := w.bitpos) (m := field.2) hrest (Nat.le_of_eq (bitpos_writeBits w _ _).symm)
    have htail := ih (clear_writeBits h (by omega)) hrest
    rw [bitpos_writeBits] at htail
    rw [readBits_writeBits h (by omega)] at hfirst
    exact List.cons_eq_cons.mpr ⟨hfirst, htail⟩

/-- Whole octets in front of a writer stay. -/
theorem take_writeBits {value n k : Nat} (h : 8 * k ≤ w.bitpos) :
    (w.writeBits value n).buf.take k = w.buf.take k := by
  induction n generalizing w with
  | zero => rfl
  | succ n ih =>
    have hpos : 8 * k ≤ (w.writeBit (value.testBit n)).bitpos := Nat.le_succ_of_le h
    rw [writeBits, ih hpos]
    unfold writeBit
    dsimp only
    split
    · rw [List.take_modify, List.modify_eq_self (by simp only [List.length_take]; omega)]
    · rfl

end BitWriter

end Octets
