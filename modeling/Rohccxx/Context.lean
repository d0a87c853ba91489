import Rohccxx.Lib.Octets

/-!
# Contexts

The per-CID state of `core/context.hpp` and the table of `core/context_table.hpp`. The flat C++ record is split by
what the fields are about; every field keeps its name. A default value is the value of a value-initialised
`Context{}`.
-/

set_option autoImplicit false

namespace Rohccxx

open Octets

inductive Profile where
  | uncompressed
  | llaRtp
  | rtp
  | udp
  | esp
  | ip
  | rtpUdpLite
  | udpLite
deriving DecidableEq, Repr

/-- The RFC profile number behind the enumerator. -/
def Profile.toWire : Profile → UInt16
  | .uncompressed => 0x0000
  | .llaRtp => 0x0005
  | .rtp => 0x0101
  | .udp => 0x0102
  | .esp => 0x0103
  | .ip => 0x0104
  | .rtpUdpLite => 0x0107
  | .udpLite => 0x0108

/-- `static_cast<uint8_t>(profile)`. -/
def Profile.octet (p : Profile) : UInt8 := p.toWire.toUInt8

inductive Mode where
  | uncompressed
  | optimistic
  | reliable
deriving DecidableEq, Repr

def Mode.toWire : Mode → UInt8
  | .uncompressed => 0
  | .optimistic => 1
  | .reliable => 2

inductive RohcState where
  | noContext
  | staticEstablished
  | dynamicEstablished
deriving DecidableEq, Repr

/-- `LsbWindow`: one reference value, whatever the window size. -/
structure LsbWindow (α : Type) where
  ref : α
deriving DecidableEq, Repr

structure RtpContext where
  ssrc : UInt32 := 0
  lastSeq : UInt16 := 0
  lastTs : UInt32 := 0
  vpxcc : UInt8 := 0
  mpt : UInt8 := 0
  initialized : UInt8 := 0
  tsStride : UInt32 := 0
  tsResidue : UInt32 := 0
  timerElapsedTicks : UInt32 := 0
  timerBasedTs : Bool := false
  csrcListLen : Nat := 0
  csrcList : Vector UInt8 60 := Vector.replicate 60 0
  extensionLen : Nat := 0
  extensionBytes : Vector UInt8 256 := Vector.replicate 256 0
  paddingLen : Nat := 0
  paddingBytes : Vector UInt8 255 := Vector.replicate 255 0
  seqWindow : LsbWindow UInt16 := ⟨0⟩
  tsWindow : LsbWindow UInt32 := ⟨0⟩
deriving DecidableEq, Repr

/-- Profile, operating mode, packet counters and the gates of a context. -/
structure Control where
  profile : Profile := .uncompressed
  mode : Mode := .uncompressed
  rohcState : RohcState := .noContext
  cid : Nat := 0
  largeCid : Bool := false
  txCount : UInt32 := 0
  nackCount : UInt8 := 0
  staticAcked : Bool := false
  dynamicAcked : Bool := false
  profileHasBeenUsed : Bool := false
  profileReplacementActive : Bool := false
  profileReplacementPending : Bool := false
  formalPt0SinceConfirmation : UInt8 := 0
  formalPt0Crc7Seen : Bool := false
  formalPt0Crc3Retired : Bool := false
  rejectLegacyUdpPt0UntilRefresh : Bool := false
  limitLegacyUdpPt0ToSequential : Bool := false
  compactProfileReplacementSeen : Bool := false
  contextRevision : UInt64 := 0
  msn : UInt16 := 0
  reorderRatio : UInt8 := 0
deriving DecidableEq, Repr

/-- The ring of the last 64 transmitted MSNs. -/
structure MsnHistory where
  transmittedMsnHistory : Vector UInt16 64 := Vector.replicate 64 0
  transmittedContextRevisionHistory : Vector UInt64 64 := Vector.replicate 64 0
  transmittedMsnHead : Nat := 0
  transmittedMsnCount : Nat := 0
deriving DecidableEq, Repr

structure Ipv4Context where
  ipVersion : UInt8 := 4
  ipv4Tos : UInt8 := 0
  ipv4Ttl : UInt8 := 0
  ipv4Id : UInt16 := 0
  ipv4Flags : UInt8 := 0
  ipv4IdSequential : Bool := false
  ipv4IdBehavior : UInt8 := 0
  ipv4Protocol : UInt8 := 0
  ipv4Saddr : UInt32 := 0
  ipv4Daddr : UInt32 := 0
  ipv4OptionsLen : Nat := 0
  ipv4Options : Vector UInt8 40 := Vector.replicate 40 0
deriving DecidableEq, Repr

structure Ipv6Context where
  ipv6TrafficClass : UInt8 := 0
  ipv6FlowLabel : UInt32 := 0
  ipv6NextHeader : UInt8 := 0
  ipv6HopLimit : UInt8 := 0
  ipv6ExtensionLen : Nat := 0
  ipv6Saddr : Vector UInt8 16 := Vector.replicate 16 0
  ipv6Daddr : Vector UInt8 16 := Vector.replicate 16 0
  ipv6Extensions : Vector UInt8 128 := Vector.replicate 128 0
deriving DecidableEq, Repr

/-- The transport fields: UDP, UDP-Lite and ESP. -/
structure TransportContext where
  udpSport : UInt16 := 0
  udpDport : UInt16 := 0
  udpLengthOrCoverage : UInt16 := 0
  udpCheck : UInt16 := 0
  udpChecksumUsed : Bool := false
  espSpi : UInt32 := 0
  espSequence : UInt32 := 0
  legacyEspPayloadIncludesHeader : Bool := false
deriving DecidableEq, Repr

structure Context extends Control, MsnHistory, Ipv4Context, Ipv6Context, TransportContext where
  rtp : RtpContext := {}
deriving DecidableEq, Repr

/-! ## The table -/

/-- `ContextTable`: one context for each CID up to `maxCid`. -/
structure ContextTable where
  maxCid : Nat
  table : Vector Context (maxCid + 1)

namespace ContextTable

def init (max : Nat) : ContextTable := ⟨max, Vector.replicate (max + 1) {}⟩

/-- `get`: null above `max_cid`. -/
def get (tbl : ContextTable) (cid : Nat) : Option Context := tbl.table[cid]?

/-- The table after writing through the pointer `get cid` returned. -/
def set (tbl : ContextTable) (cid : Nat) (ctx : Context) : ContextTable :=
  { tbl with table := tbl.table.setIfInBounds cid ctx }

@[simp] theorem maxCid_set (tbl : ContextTable) (cid : Nat) (ctx : Context) : (tbl.set cid ctx).maxCid = tbl.maxCid :=
  rfl

@[simp] theorem maxCid_init (max : Nat) : (init max).maxCid = max := rfl

theorem get_isSome {tbl : ContextTable} {cid : Nat} : (tbl.get cid).isSome ↔ cid ≤ tbl.maxCid := by
  have h : (tbl.get cid).isSome ↔ cid < tbl.maxCid + 1 := by simp [get]
  exact h.trans Nat.lt_succ_iff

theorem get_init {max cid : Nat} (h : cid ≤ max) : (init max).get cid = some {} :=
  Vector.getElem?_replicate_of_lt (Nat.lt_succ_iff.mpr h)

theorem get_set_self {tbl : ContextTable} {cid : Nat} {ctx : Context} (h : (tbl.get cid).isSome) :
    (tbl.set cid ctx).get cid = some ctx :=
  Vector.getElem?_setIfInBounds_self_of_lt (Nat.lt_succ_iff.mpr (get_isSome.mp h))

theorem get_set_of_ne {tbl : ContextTable} {cid cid' : Nat} {ctx : Context} (h : cid ≠ cid') :
    (tbl.set cid ctx).get cid' = tbl.get cid' :=
  Vector.getElem?_setIfInBounds_ne h

@[simp] theorem set_set (tbl : ContextTable) (cid : Nat) (a b : Context) : (tbl.set cid a).set cid b = tbl.set cid b := by
  simp [set]

/-- Writing back what is there changes nothing. -/
theorem set_get {tbl : ContextTable} {cid : Nat} {ctx : Context} (h : tbl.get cid = some ctx) : tbl.set cid ctx = tbl := by
  simp only [set]
  congr 1
  apply Vector.ext
  intro i hi
  by_cases hc : cid = i
  · subst hc
    rw [get, Vector.getElem?_eq_getElem hi] at h
    simp [Option.some.inj h]
  · simp [hc]

/-- Tables with the same contexts are the same. -/
theorem ext_get {a b : ContextTable} (hmax : a.maxCid = b.maxCid) (h : ∀ cid, a.get cid = b.get cid) : a = b := by
  obtain ⟨max, table⟩ := a
  obtain ⟨max', table'⟩ := b
  obtain rfl : max = max' := hmax
  congr 1
  apply Vector.ext
  intro i hi
  have hget : table[i]? = table'[i]? := h i
  rw [Vector.getElem?_eq_getElem hi, Vector.getElem?_eq_getElem hi] at hget
  exact Option.some.inj hget

end ContextTable

end Rohccxx
