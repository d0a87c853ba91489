import Rohccxx.Lib.Octets

/-!
# Integrity check values

The ROHCoIPsec part of `core/rohcoipsec.hpp`: SHA-256, HMAC over it, and the ICV that follows a unit. The ICV covers the
uncompressed packet, so a decompressor can check it only after reconstruction.
-/

set_option autoImplicit false

namespace Rohccxx

open Octets

namespace Sha256

def rotr (value bits : UInt32) : UInt32 := (value >>> bits) ||| (value <<< (32 - bits))

def k : List UInt32 := [
  0x428A2F98, 0x71374491, 0xB5C0FBCF, 0xE9B5DBA5, 0x3956C25B, 0x59F111F1, 0x923F82A4, 0xAB1C5ED5,
  0xD807AA98, 0x12835B01, 0x243185BE, 0x550C7DC3, 0x72BE5D74, 0x80DEB1FE, 0x9BDC06A7, 0xC19BF174,
  0xE49B69C1, 0xEFBE4786, 0x0FC19DC6, 0x240CA1CC, 0x2DE92C6F, 0x4A7484AA, 0x5CB0A9DC, 0x76F988DA,
  0x983E5152, 0xA831C66D, 0xB00327C8, 0xBF597FC7, 0xC6E00BF3, 0xD5A79147, 0x06CA6351, 0x14292967,
  0x27B70A85, 0x2E1B2138, 0x4D2C6DFC, 0x53380D13, 0x650A7354, 0x766A0ABB, 0x81C2C92E, 0x92722C85,
  0xA2BFE8A1, 0xA81A664B, 0xC24B8B70, 0xC76C51A3, 0xD192E819, 0xD6990624, 0xF40E3585, 0x106AA070,
  0x19A4C116, 0x1E376C08, 0x2748774C, 0x34B0BCB5, 0x391C0CB3, 0x4ED8AA4A, 0x5B9CCA4F, 0x682E6FF3,
  0x748F82EE, 0x78A5636F, 0x84C87814, 0x8CC70208, 0x90BEFFFA, 0xA4506CEB, 0xBEF9A3F7, 0xC67178F2]

structure State where
  a : UInt32
  b : UInt32
  c : UInt32
  d : UInt32
  e : UInt32
  f : UInt32
  g : UInt32
  h : UInt32

def initial : State :=
  ⟨0x6A09E667, 0xBB67AE85, 0x3C6EF372, 0xA54FF53A, 0x510E527F, 0x9B05688C, 0x1F83D9AB, 0x5BE0CD19⟩

/-- The sixteen words of a block. -/
def loadWords : Bytes → List UInt32
  | a :: b :: c :: d :: rest => ofBe32 a b c d :: loadWords rest
  | _ => []

/-- The message schedule, extended one word at a time. -/
def schedule : Nat → List UInt32 → List UInt32
  | 0, w => w
  | n + 1, w =>
    let at' := fun back => w.getD (w.length - back) 0
    let s0 := rotr (at' 15) 7 ^^^ rotr (at' 15) 18 ^^^ (at' 15 >>> 3)
    let s1 := rotr (at' 2) 17 ^^^ rotr (at' 2) 19 ^^^ (at' 2 >>> 10)
    schedule n (w ++ [at' 16 + s0 + at' 7 + s1])

def round (s : State) (kw : UInt32 × UInt32) : State :=
  let s1 := rotr s.e 6 ^^^ rotr s.e 11 ^^^ rotr s.e 25
  let ch := (s.e &&& s.f) ^^^ (~~~s.e &&& s.g)
  let temp1 := s.h + s1 + ch + kw.1 + kw.2
  let s0 := rotr s.a 2 ^^^ rotr s.a 13 ^^^ rotr s.a 22
  let maj := (s.a &&& s.b) ^^^ (s.a &&& s.c) ^^^ (s.b &&& s.c)
  ⟨temp1 + (s0 + maj), s.a, s.b, s.c, s.d + temp1, s.e, s.f, s.g⟩

def transform (s : State) (block : Bytes) : State :=
  let r := (k.zip (schedule 48 (loadWords block))).foldl round s
  ⟨s.a + r.a, s.b + r.b, s.c + r.c, s.d + r.d, s.e + r.e, s.f + r.f, s.g + r.g, s.h + r.h⟩

/-- The whole blocks of the input, then the padding block or blocks. -/
def blocks : Nat → State → Bytes → State × Bytes
  | 0, s, data => (s, data)
  | n + 1, s, data => blocks n (transform s (data.take 64)) (data.drop 64)

def padding (len rem : Nat) : Bytes :=
  let totalPadLen := if rem < 56 then 64 else 128
  let bitLen := UInt64.ofNat len * 8
  [0x80] ++ List.replicate (totalPadLen - rem - 9) 0 ++
    (List.range 8).map fun i => (bitLen >>> UInt64.ofNat (8 * (7 - i))).toUInt8

def digest (data : Bytes) : Bytes :=
  let (s, rest) := blocks (data.length / 64) initial data
  let tail := rest ++ padding data.length rest.length
  let s := (blocks (tail.length / 64) s tail).1
  be32 s.a ++ be32 s.b ++ be32 s.c ++ be32 s.d ++ be32 s.e ++ be32 s.f ++ be32 s.g ++ be32 s.h

end Sha256

/-! ## ICVs -/

/-- Negotiated integrity algorithms; any other number is unsupported. -/
inductive IntegrityAlgorithm where
  | none
  | hmacSha256
  | unsupported
deriving DecidableEq, Repr

/-- What `configure_rohcoipsec` stores. -/
structure Integrity where
  algorithm : IntegrityAlgorithm
  key : Bytes
  icvLen : Nat
deriving DecidableEq, Repr

def digestLen : IntegrityAlgorithm → Nat
  | .hmacSha256 => 32
  | _ => 0

/-- `compute_icv`: HMAC-SHA-256 of at most 4096 octets, truncated to `outLen`. -/
def computeIcv (algorithm : IntegrityAlgorithm) (key data : Bytes) (outLen : Nat) : Option Bytes :=
  match algorithm with
  | .none => some []
  | .unsupported => none
  | .hmacSha256 =>
    if outLen > 32 ∨ data.length > 4096 then none
    else
      let short := if key.length > 64 then Sha256.digest key else key
      let keyBlock := short ++ List.replicate (64 - short.length) 0
      let inner := Sha256.digest (keyBlock.map (· ^^^ 0x36) ++ data)
      some ((Sha256.digest (keyBlock.map (· ^^^ 0x5C) ++ inner)).take outLen)

/-- The ICV length in force: none without an algorithm, and never longer than the digest. -/
def effectiveIcvLen (integrity : Integrity) : Option Nat :=
  if integrity.algorithm = .none then some 0
  else if integrity.icvLen = 0 ∨ integrity.icvLen > digestLen integrity.algorithm then none
  else some integrity.icvLen

/-- `append_icv` into a buffer of `cap` octets. -/
def appendIcv (integrity : Integrity) (authenticated rohcPacket : Bytes) (cap : Nat) : Option Bytes := do
  let icvLen ← effectiveIcvLen integrity
  if cap < rohcPacket.length + icvLen then none
  else
    let digest ← computeIcv integrity.algorithm integrity.key authenticated icvLen
    return rohcPacket ++ digest

/-- `strip_and_verify_icv`: the unit without its ICV, when the ICV matches. -/
def stripAndVerifyIcv (integrity : Integrity) (authenticated rohcoipsecPacket : Bytes) : Option Bytes := do
  let icvLen ← effectiveIcvLen integrity
  if rohcoipsecPacket.length < icvLen then none
  else
    let packetLen := rohcoipsecPacket.length - icvLen
    if icvLen > 0 then
      let digest ← computeIcv integrity.algorithm integrity.key authenticated icvLen
      if digest ≠ rohcoipsecPacket.drop packetLen then none else return rohcoipsecPacket.take packetLen
    else return rohcoipsecPacket.take packetLen

end Rohccxx
