import Rohccxx.Lib.Octets

/-!
# SHA-256 and HMAC as their standards define them

SHA-256 after FIPS 180-4, on messages of whole octets: the constants from the roots of the first primes, the schedule as
a recurrence, the padding as the shortest that fills a block. HMAC after RFC 2104, over any hash function.

* `root_spec`, `fractionBits_spec` — a constant holds the first bits of the fraction of a root.
* `zeros_least` — no shorter padding fills a block.
* `length_pad` — a padded message is a number of blocks.
-/

set_option autoImplicit false

namespace SecureHash

open Octets

/-! ## Constants -/

/-- The largest `s` from `r` up to `r + 2 ^ bits` with `s ^ k ≤ n`, one bit after the other. -/
def root (k n : Nat) : Nat → Nat → Nat
  | 0, r => r
  | bits + 1, r => root k n bits (if (r + 2 ^ bits) ^ k ≤ n then r + 2 ^ bits else r)

theorem root_spec {k n : Nat} : ∀ (bits r : Nat), r ^ k ≤ n → n < (r + 2 ^ bits) ^ k →
    root k n bits r ^ k ≤ n ∧ n < (root k n bits r + 1) ^ k
  | 0, _, hle, hlt => ⟨hle, hlt⟩
  | bits + 1, r, hle, hlt => by
    rw [root]
    split
    · rename_i hbit
      exact root_spec bits _ hbit (by rwa [Nat.add_assoc, ← Nat.two_mul, ← Nat.pow_succ'])
    · rename_i hbit
      exact root_spec bits r hle (Nat.not_le.mp hbit)

/-- The first 32 bits of the fraction of the `k`-th root of `p`. -/
def fractionBits (k p : Nat) : BitVec 32 := BitVec.ofNat 32 (root k (p * 2 ^ (32 * k)) 40 0)

theorem fractionBits_spec {k p : Nat} (hk : 0 < k) (hp : p < 2 ^ (8 * k)) :
    ∃ r, r ^ k ≤ p * 2 ^ (32 * k) ∧ p * 2 ^ (32 * k) < (r + 1) ^ k ∧ fractionBits k p = BitVec.ofNat 32 r := by
  have hroom : p * 2 ^ (32 * k) < (0 + 2 ^ 40) ^ k := by
    rw [Nat.zero_add, ← Nat.pow_mul]
    calc p * 2 ^ (32 * k) < 2 ^ (8 * k) * 2 ^ (32 * k) := Nat.mul_lt_mul_of_pos_right hp (Nat.two_pow_pos _)
      _ = 2 ^ (40 * k) := by rw [← Nat.pow_add]; congr 1; omega
  obtain ⟨hle, hlt⟩ := root_spec 40 0 (by rw [Nat.zero_pow hk]; exact Nat.zero_le _) hroom
  exact ⟨_, hle, hlt, rfl⟩

def isPrime (p : Nat) : Bool := 1 < p && (List.range p).all fun d => d < 2 || p % d != 0

/-- The first sixty-four primes. -/
def primes : List Nat := (List.range 312).filter isPrime

/-- The words `K`: the cube roots of the first sixty-four primes. -/
def roundConstants : List (BitVec 32) := primes.map (fractionBits 3)

/-! ## Functions on words -/

def ch (x y z : BitVec 32) : BitVec 32 := (x &&& y) ^^^ (~~~x &&& z)

def maj (x y z : BitVec 32) : BitVec 32 := (x &&& y) ^^^ (x &&& z) ^^^ (y &&& z)

def bigSigma0 (x : BitVec 32) : BitVec 32 := x.rotateRight 2 ^^^ x.rotateRight 13 ^^^ x.rotateRight 22

def bigSigma1 (x : BitVec 32) : BitVec 32 := x.rotateRight 6 ^^^ x.rotateRight 11 ^^^ x.rotateRight 25

def smallSigma0 (x : BitVec 32) : BitVec 32 := x.rotateRight 7 ^^^ x.rotateRight 18 ^^^ (x >>> 3)

def smallSigma1 (x : BitVec 32) : BitVec 32 := x.rotateRight 17 ^^^ x.rotateRight 19 ^^^ (x >>> 10)

/-! ## The hash of a block -/

/-- The message schedule of a block with the words `m`. -/
def schedule (m : Nat → BitVec 32) (t : Nat) : BitVec 32 :=
  if t < 16 then m t
  else smallSigma1 (schedule m (t - 2)) + schedule m (t - 7) + smallSigma0 (schedule m (t - 15)) + schedule m (t - 16)

theorem schedule_lt {m : Nat → BitVec 32} {t : Nat} (h : t < 16) : schedule m t = m t := by rw [schedule, if_pos h]

theorem schedule_ge {m : Nat → BitVec 32} {t : Nat} (h : 16 ≤ t) : schedule m t =
    smallSigma1 (schedule m (t - 2)) + schedule m (t - 7) + smallSigma0 (schedule m (t - 15)) + schedule m (t - 16) := by
  rw [schedule, if_neg (Nat.not_lt.mpr h)]

/-- The eight working variables, and the eight words of a hash value. -/
@[ext] structure Words where
  a : BitVec 32
  b : BitVec 32
  c : BitVec 32
  d : BitVec 32
  e : BitVec 32
  f : BitVec 32
  g : BitVec 32
  h : BitVec 32

/-- One of the sixty-four rounds. -/
def round (s : Words) (k w : BitVec 32) : Words :=
  let t₁ := s.h + bigSigma1 s.e + ch s.e s.f s.g + k + w
  let t₂ := bigSigma0 s.a + maj s.a s.b s.c
  { a := t₁ + t₂, b := s.a, c := s.b, d := s.c, e := s.d + t₁, f := s.e, g := s.f, h := s.g }

def Words.add (s r : Words) : Words :=
  { a := s.a + r.a, b := s.b + r.b, c := s.c + r.c, d := s.d + r.d, e := s.e + r.e, f := s.f + r.f, g := s.g + r.g
    h := s.h + r.h }

/-- The hash value after a block with the words `m`. -/
def hashBlock (s : Words) (m : Nat → BitVec 32) : Words :=
  s.add ((List.range 64).foldl (fun r t => round r (roundConstants.getD t 0) (schedule m t)) s)

/-- A schedule depends on sixteen words. -/
theorem schedule_congr {m m' : Nat → BitVec 32} (h : ∀ t, t < 16 → m t = m' t) (t : Nat) :
    schedule m t = schedule m' t := by
  induction t using Nat.strongRecOn with
  | ind t ih =>
    by_cases ht : t < 16
    · rw [schedule_lt ht, schedule_lt ht, h t ht]
    · rw [schedule_ge (Nat.not_lt.mp ht), schedule_ge (Nat.not_lt.mp ht), ih _ (by omega), ih _ (by omega),
        ih _ (by omega), ih _ (by omega)]

theorem hashBlock_congr (s : Words) {m m' : Nat → BitVec 32} (h : ∀ t, t < 16 → m t = m' t) :
    hashBlock s m = hashBlock s m' := by
  unfold hashBlock
  simp only [schedule_congr h]

/-- The square roots of the first eight primes. -/
def initialHash : Words where
  a := fractionBits 2 2
  b := fractionBits 2 3
  c := fractionBits 2 5
  d := fractionBits 2 7
  e := fractionBits 2 11
  f := fractionBits 2 13
  g := fractionBits 2 17
  h := fractionBits 2 19

/-! ## Padding -/

/-- The zero octets behind the one bit and its seven zeros. -/
def zeros (len : Nat) : Nat := (119 - len % 64) % 64

/-- **The padding is the shortest** that leaves room for the length at the end of a block. -/
theorem zeros_least (len : Nat) : (len + 1 + zeros len) % 64 = 56 ∧ ∀ z, (len + 1 + z) % 64 = 56 → zeros len ≤ z := by
  unfold zeros
  constructor
  · omega
  · intro z hz
    omega

/-- The length of the message in bits, in eight octets; messages have fewer than 2^64 bits. -/
def lengthOctets (bits : Nat) : Bytes := (List.range 8).map fun i => UInt8.ofNat (bits / 256 ^ (7 - i))

def pad (message : Bytes) : Bytes :=
  message ++ [0x80] ++ List.replicate (zeros message.length) 0 ++ lengthOctets (8 * message.length)

theorem length_pad (message : Bytes) : (pad message).length = message.length + 9 + zeros message.length ∧
    (pad message).length % 64 = 0 := by
  have hlen : (pad message).length = message.length + 9 + zeros message.length := by
    simp only [pad, lengthOctets, List.length_append, List.length_singleton, List.length_replicate, List.length_map,
      List.length_range]
    omega
  have hfull := (zeros_least message.length).1
  exact ⟨hlen, by omega⟩

/-! ## SHA-256 -/

/-- Word `j` of a string of octets. -/
def wordAt (bs : Bytes) (j : Nat) : BitVec 32 :=
  (ofBe32 (bs.getD (4 * j) 0) (bs.getD (4 * j + 1) 0) (bs.getD (4 * j + 2) 0) (bs.getD (4 * j + 3) 0)).toBitVec

/-- The hash value of the first `n` blocks. -/
def hashBlocks (bs : Bytes) (n : Nat) : Words :=
  (List.range n).foldl (fun s i => hashBlock s fun t => wordAt bs (16 * i + t)) initialHash

def Words.octets (s : Words) : Bytes :=
  [s.a, s.b, s.c, s.d, s.e, s.f, s.g, s.h].flatMap fun w => be32 ⟨w⟩

/-- SHA-256 of a message of whole octets. -/
def sha256 (message : Bytes) : Bytes := (hashBlocks (pad message) ((pad message).length / 64)).octets

/-! ## HMAC -/

/-- HMAC of a text under a key, over a hash function with blocks of `blockLen` octets. -/
def hmac (hash : Bytes → Bytes) (blockLen : Nat) (key text : Bytes) : Bytes :=
  let short := if key.length > blockLen then hash key else key
  let padded := short ++ List.replicate (blockLen - short.length) 0
  let keyed := fun (octet : UInt8) (rest : Bytes) =>
    hash (List.zipWith (· ^^^ ·) padded (List.replicate blockLen octet) ++ rest)
  keyed 0x5C (keyed 0x36 text)

end SecureHash
