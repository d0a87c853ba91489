import Rohccxx.Lib.Ascending
import Rohccxx.NotifyPayload

/-!
# The PPP option

The ROHC configuration option of `core/ppp.hpp`: reading and writing it, and merging the options of the two directions of
a channel. The profiles of an option ascend strictly, so they are a set in its only order, and merging is the union of two
sets as long as that has room (`mergeChannelOptions_eq`).
-/

set_option autoImplicit false

namespace Rohccxx

open Octets

namespace Ppp

/-! ## The source -/

def ipCompressionOptionType : UInt8 := 2

def ipCompressionProtocolRohc : UInt16 := 0x0003

def suboptionProfiles : UInt8 := 1

def maxCidLimit : UInt16 := 16383

def maxProfiles : Nat := 16

/-- The array with its count is a list; a count over the size of the array is a longer list. -/
structure RohcOption where
  maxCid : UInt16 := 15
  mrru : UInt16 := 0
  maxHeader : UInt16 := 168
  profiles : List UInt16 := []
deriving DecidableEq, Repr

namespace RohcOption

def appendProfile (option : RohcOption) (profile : UInt16) : Option RohcOption :=
  if option.profiles.length ≥ maxProfiles then none
  else if option.profiles.getLast?.any (· ≥ profile) then none
  else some { option with profiles := option.profiles ++ [profile] }

def valid (option : RohcOption) : Bool :=
  option.maxCid ≤ maxCidLimit && option.profiles.length > 0 && option.profiles.length ≤ maxProfiles

end RohcOption

/-- The same reader as the one of the notify payload. -/
def readU16 (data : Bytes) (pos : Nat) : Option UInt16 := Rohcoipsec.readU16 data pos

def writeU16 (capacity : Nat) (value : UInt16) (out : Bytes) : Option Bytes := Rohcoipsec.writeU16 capacity value out

/-- The profiles of one suboption, from `pos` up to `stop`. -/
def parseProfiles (data : Bytes) (pos stop : Nat) (option : RohcOption) : Option RohcOption :=
  if pos < stop then do
    let profile ← readU16 data pos
    let option ← option.appendProfile profile
    parseProfiles data (pos + 2) stop option
  else some option
termination_by stop - pos

/-- One round of the loop over the suboptions: the new option and the new position. -/
def parseSuboption (data : Bytes) (pos : Nat) (option : RohcOption) : Option (RohcOption × Nat) :=
  if pos + 2 > data.length then none
  else
    let type := u8At data pos
    let subLen := (u8At data (pos + 1)).toNat
    if subLen < 2 ∨ pos + subLen > data.length then none
    else if type = suboptionProfiles then
      if subLen < 4 ∨ (subLen - 2) % 2 ≠ 0 then none
      else (parseProfiles data (pos + 2) (pos + subLen) option).map fun option => (option, pos + subLen)
    else some (option, pos + subLen)

/-- A round takes two octets at least, and stays within the option. -/
theorem parseSuboption_advances {data : Bytes} {pos : Nat} {option : RohcOption} {next : RohcOption × Nat}
    (h : parseSuboption data pos option = some next) : pos + 2 ≤ next.2 ∧ next.2 ≤ data.length := by
  unfold parseSuboption at h
  split at h
  · cases h
  · simp only at h
    split at h
    · cases h
    · split at h
      · split at h
        · cases h
        · obtain ⟨option', -, rfl⟩ := Option.map_eq_some_iff.mp h
          dsimp only
          omega
      · obtain rfl := Option.some.inj h
        dsimp only
        omega

def parseSuboptions (data : Bytes) (pos : Nat) (option : RohcOption) : Option RohcOption :=
  if pos < data.length then
    match h : parseSuboption data pos option with
    | none => none
    | some next => parseSuboptions data next.2 next.1
  else some option
termination_by data.length - pos
decreasing_by
  have := parseSuboption_advances h
  omega

def parseRohcOption (data : Bytes) : Option RohcOption := do
  guard (data.length ≥ 10 && u8At data 0 == ipCompressionOptionType && (u8At data 1).toNat == data.length)
  let protocol ← readU16 data 2
  guard (protocol = ipCompressionProtocolRohc)
  let maxCid ← readU16 data 4
  guard (maxCid ≤ maxCidLimit)
  let mrru ← readU16 data 6
  let maxHeader ← readU16 data 8
  let option ← parseSuboptions data 10 { maxCid, mrru, maxHeader }
  guard option.valid
  return option

def writeProfiles (capacity : Nat) : List UInt16 → Bytes → Option Bytes
  | [], out => some out
  | profile :: profiles, out => do
    let out ← writeU16 capacity profile out
    writeProfiles capacity profiles out

def writeRohcOption (option : RohcOption) (capacity : Nat) : Option Bytes := do
  guard option.valid
  let needed := 10 + 2 + option.profiles.length * 2
  guard (needed ≤ 255 && capacity ≥ needed)
  let out ← writeU16 capacity ipCompressionProtocolRohc [ipCompressionOptionType, UInt8.ofNat needed]
  let out ← writeU16 capacity option.maxCid out
  let out ← writeU16 capacity option.mrru out
  let out ← writeU16 capacity option.maxHeader out
  writeProfiles capacity option.profiles (out ++ [suboptionProfiles, UInt8.ofNat (2 + option.profiles.length * 2)])

/-- The loop of the merge, on the profiles the two indices have not reached yet. -/
def mergeProfiles : List UInt16 → List UInt16 → RohcOption → Option RohcOption
  | [], [], merged => some merged
  | a :: as, [], merged => do
    let merged ← merged.appendProfile a
    mergeProfiles as [] merged
  | [], b :: bs, merged => do
    let merged ← merged.appendProfile b
    mergeProfiles [] bs merged
  | a :: as, b :: bs, merged =>
    if a < b then do
      let merged ← merged.appendProfile a
      mergeProfiles as (b :: bs) merged
    else if b < a then do
      let merged ← merged.appendProfile b
      mergeProfiles (a :: as) bs merged
    else do
      let merged ← merged.appendProfile a
      mergeProfiles as bs merged
termination_by as bs => as.length + bs.length

def mergeChannelOptions (a b : RohcOption) : Option RohcOption := do
  guard (a.valid && b.valid)
  let merged ← mergeProfiles a.profiles b.profiles
    { maxCid := if a.maxCid > b.maxCid then a.maxCid else b.maxCid
      mrru := if a.mrru > b.mrru then a.mrru else b.mrru
      maxHeader := if a.maxHeader > b.maxHeader then a.maxHeader else b.maxHeader }
  guard merged.valid
  return merged

/-! ## Ascending profiles -/

instance uInt16Order : IsStrictTotalOrder UInt16 (· < ·) where
  trichotomous _ _ hab hba := UInt16.le_antisymm (UInt16.not_lt.mp hba) (UInt16.not_lt.mp hab)
  irrefl := UInt16.lt_irrefl
  trans _ _ _ := UInt16.lt_trans

open Ascending RohcOption

variable {option option' : RohcOption} {data rest : Bytes} {pos : Nat}

/-- Options of the wire: a bounded CID, and one to sixteen profiles that ascend strictly. -/
structure WellFormed (option : RohcOption) : Prop where
  maxCid : option.maxCid ≤ maxCidLimit
  nonempty : option.profiles ≠ []
  room : option.profiles.length ≤ maxProfiles
  ascends : option.profiles.Pairwise (· < ·)

theorem valid_iff (option : RohcOption) :
    option.valid = true ↔ option.maxCid ≤ maxCidLimit ∧ option.profiles ≠ [] ∧ option.profiles.length ≤ maxProfiles := by
  unfold RohcOption.valid
  simp only [Bool.and_eq_true, decide_eq_true_eq, gt_iff_lt, List.length_pos_iff, and_assoc]

theorem WellFormed.valid (h : WellFormed option) : option.valid = true :=
  (valid_iff option).mpr ⟨h.maxCid, h.nonempty, h.room⟩

/-- What an append needs: room, and a profile above the last one. -/
theorem appendProfile_eq_some {profile : UInt16} :
    option.appendProfile profile = some option' ↔
      option.profiles.length < maxProfiles ∧ (∀ last ∈ option.profiles.getLast?, last < profile) ∧
        option' = { option with profiles := option.profiles ++ [profile] } := by
  have hlast : option.profiles.getLast?.any (· ≥ profile) = false ↔ ∀ last ∈ option.profiles.getLast?, last < profile := by
    cases option.profiles.getLast? with
    | none => simp
    | some last => simp
  unfold appendProfile
  by_cases hroom : option.profiles.length ≥ maxProfiles
  · rw [if_pos hroom]
    exact ⟨fun h => absurd h (Option.some_ne_none _).symm, fun h => absurd h.1 (Nat.not_lt.mpr hroom)⟩
  · rw [if_neg hroom, ← hlast]
    cases option.profiles.getLast?.any (· ≥ profile) with
    | true => simp
    | false =>
      simp only [Bool.false_eq_true, if_false, Option.some.injEq, true_and, Nat.not_le.mp hroom]
      exact eq_comm

/-- What appending keeps. -/
structure Ascends (option : RohcOption) : Prop where
  room : option.profiles.length ≤ maxProfiles
  ascends : option.profiles.Pairwise (· < ·)

theorem Ascends.append {profile : UInt16} (h : Ascends option) (happend : option.appendProfile profile = some option') :
    Ascends option' ∧ option'.maxCid = option.maxCid := by
  obtain ⟨hroom, hlast, rfl⟩ := appendProfile_eq_some.mp happend
  refine ⟨⟨?_, pairwise_snoc h.ascends hlast⟩, rfl⟩
  rw [List.length_append, List.length_singleton]
  exact hroom

/-- Append profiles one after another. -/
def appendAll (option : RohcOption) (profiles : List UInt16) : Option RohcOption :=
  profiles.foldlM RohcOption.appendProfile option

/-- Ascending profiles are all appended, or there is no room for them. -/
theorem appendAll_eq {profiles : List UInt16} (ascends : (option.profiles ++ profiles).Pairwise (· < ·))
    (hroom : option.profiles.length ≤ maxProfiles) :
    appendAll option profiles =
      if option.profiles.length + profiles.length ≤ maxProfiles then
        some { option with profiles := option.profiles ++ profiles }
      else none := by
  induction profiles generalizing option with
  | nil =>
    rw [List.length_nil, Nat.add_zero, List.append_nil, if_pos hroom]
    rfl
  | cons p ps ih =>
    have happend (h : option.profiles.length < maxProfiles) :
        option.appendProfile p = some { option with profiles := option.profiles ++ [p] } :=
      appendProfile_eq_some.mpr ⟨h, above_last ascends, rfl⟩
    rw [appendAll, List.foldlM_cons]
    by_cases h : option.profiles.length < maxProfiles
    · rw [happend h]
      refine (ih (by simpa using ascends) ?_).trans ?_
      · rw [List.length_append, List.length_singleton]
        exact h
      · simp only [List.length_append, List.length_cons, List.length_nil, List.append_assoc, List.singleton_append,
          Nat.add_assoc, Nat.add_comm 1]
    · have hfull : option.appendProfile p = none := by
        rw [appendProfile, if_pos (by omega)]
      rw [hfull, if_neg (by rw [List.length_cons]; omega)]
      rfl

/-! ## Accepted options -/

theorem parseProfiles_ascends {stop : Nat} (h : Ascends option) (hparse : parseProfiles data pos stop option = some option') :
    Ascends option' ∧ option'.maxCid = option.maxCid := by
  fun_induction parseProfiles data pos stop option with
  | case1 pos option hpos ih =>
    obtain ⟨profile, -, hparse⟩ := Option.bind_eq_some_iff.mp hparse
    obtain ⟨next, happend, hparse⟩ := Option.bind_eq_some_iff.mp hparse
    obtain ⟨hnext, hcid⟩ := h.append happend
    obtain ⟨hend, hcid'⟩ := ih next hnext hparse
    exact ⟨hend, hcid'.trans hcid⟩
  | case2 pos option hpos =>
    obtain rfl := Option.some.inj hparse
    exact ⟨h, rfl⟩

theorem parseSuboption_ascends {next : RohcOption × Nat} (h : Ascends option)
    (hparse : parseSuboption data pos option = some next) : Ascends next.1 ∧ next.1.maxCid = option.maxCid := by
  unfold parseSuboption at hparse
  split at hparse
  · cases hparse
  · simp only at hparse
    split at hparse
    · cases hparse
    · split at hparse
      · split at hparse
        · cases hparse
        · obtain ⟨option', hprofiles, rfl⟩ := Option.map_eq_some_iff.mp hparse
          exact parseProfiles_ascends h hprofiles
      · obtain rfl := Option.some.inj hparse
        exact ⟨h, rfl⟩

/-- The suboptions, whatever they are, leave the profiles ascending. -/
theorem parseSuboptions_ascends (h : Ascends option) (hparse : parseSuboptions data pos option = some option') :
    Ascends option' ∧ option'.maxCid = option.maxCid := by
  fun_induction parseSuboptions data pos option with
  | case1 pos option hpos hround => cases hparse
  | case2 pos option hpos next hround ih =>
    obtain ⟨hnext, hcid⟩ := parseSuboption_ascends h hround
    obtain ⟨hend, hcid'⟩ := ih hnext hparse
    exact ⟨hend, hcid'.trans hcid⟩
  | case3 pos option hpos =>
    obtain rfl := Option.some.inj hparse
    exact ⟨h, rfl⟩

theorem parseRohcOption_wellFormed (h : parseRohcOption data = some option) : WellFormed option := by
  unfold parseRohcOption at h
  obtain ⟨-, -, h⟩ := Option.bind_eq_some_iff.mp h
  obtain ⟨protocol, -, h⟩ := Option.bind_eq_some_iff.mp h
  obtain ⟨-, -, h⟩ := Option.bind_eq_some_iff.mp h
  obtain ⟨maxCid, -, h⟩ := Option.bind_eq_some_iff.mp h
  obtain ⟨-, -, h⟩ := Option.bind_eq_some_iff.mp h
  obtain ⟨mrru, -, h⟩ := Option.bind_eq_some_iff.mp h
  obtain ⟨maxHeader, -, h⟩ := Option.bind_eq_some_iff.mp h
  obtain ⟨parsed, hparse, h⟩ := Option.bind_eq_some_iff.mp h
  obtain ⟨hvalid, h⟩ := guard_bind_eq_some.mp h
  obtain rfl : parsed = option := Option.some.inj h
  have hfresh : Ascends { maxCid := maxCid, mrru := mrru, maxHeader := maxHeader } :=
    ⟨Nat.zero_le _, List.Pairwise.nil⟩
  obtain ⟨hascends, -⟩ := parseSuboptions_ascends hfresh hparse
  obtain ⟨hcid, hnonempty, hroom⟩ := (valid_iff _).mp hvalid
  exact ⟨hcid, hnonempty, hroom, hascends.ascends⟩

/-! ## The round trip -/

/-- The octets of an option. -/
def optionOctets (option : RohcOption) : Bytes :=
  ipCompressionOptionType :: UInt8.ofNat (10 + 2 + option.profiles.length * 2) ::
    (be16 ipCompressionProtocolRohc ++ (be16 option.maxCid ++ (be16 option.mrru ++ (be16 option.maxHeader ++
      suboptionProfiles :: UInt8.ofNat (2 + option.profiles.length * 2) :: option.profiles.flatMap be16))))

theorem length_flatMap_be16 (profiles : List UInt16) : (profiles.flatMap be16).length = profiles.length * 2 := by
  induction profiles with
  | nil => rfl
  | cons p ps ih =>
    rw [List.flatMap_cons, List.length_append, ih, length_be16, List.length_cons]
    omega

theorem length_optionOctets (option : RohcOption) : (optionOctets option).length = 12 + option.profiles.length * 2 := by
  simp only [optionOctets, List.length_cons, List.length_append, length_be16, length_flatMap_be16]
  omega

theorem writeU16_of_le {capacity : Nat} {value : UInt16} {out : Bytes} (h : out.length + 2 ≤ capacity) :
    writeU16 capacity value out = some (out ++ be16 value) := put_of_le h

theorem writeProfiles_of_le {capacity : Nat} {profiles : List UInt16} {out : Bytes}
    (h : out.length + profiles.length * 2 ≤ capacity) :
    writeProfiles capacity profiles out = some (out ++ profiles.flatMap be16) := by
  induction profiles generalizing out with
  | nil => rw [writeProfiles, List.flatMap_nil, List.append_nil]
  | cons p ps ih =>
    rw [List.length_cons] at h
    rw [writeProfiles, writeU16_of_le (by omega), Option.bind_eq_bind, Option.bind_some,
      ih (by rw [List.length_append, length_be16]; omega), List.flatMap_cons, List.append_assoc]

theorem writeRohcOption_eq {capacity : Nat} (h : option.valid = true) (hroom : 12 + option.profiles.length * 2 ≤ capacity) :
    writeRohcOption option capacity = some (optionOctets option) := by
  have hsize := ((valid_iff option).mp h).2.2
  have hneeded : (10 + 2 + option.profiles.length * 2 ≤ 255 && capacity ≥ 10 + 2 + option.profiles.length * 2) = true := by
    unfold maxProfiles at hsize
    simp only [Bool.and_eq_true, decide_eq_true_eq]
    omega
  unfold writeRohcOption
  rw [guard_bind h]
  simp only
  rw [guard_bind hneeded, writeU16_of_le (by simp only [List.length_cons, List.length_nil]; omega)]
  simp only [Option.bind_eq_bind, Option.bind_some]
  rw [writeU16_of_le (by simp only [List.length_append, List.length_cons, List.length_nil, length_be16]; omega),
    Option.bind_some,
    writeU16_of_le (by simp only [List.length_append, List.length_cons, List.length_nil, length_be16]; omega),
    Option.bind_some,
    writeU16_of_le (by simp only [List.length_append, List.length_cons, List.length_nil, length_be16]; omega),
    Option.bind_some,
    writeProfiles_of_le (by simp only [List.length_append, List.length_cons, List.length_nil, length_be16]; omega)]
  simp only [optionOctets, List.append_assoc, List.cons_append, List.nil_append]

theorem readU16_of_drop {value : UInt16} (h : data.drop pos = be16 value ++ rest) : readU16 data pos = some value :=
  (Rohcoipsec.readU16_of_drop h).1

theorem parseProfiles_flatMap {profiles : List UInt16} (h : data.drop pos = profiles.flatMap be16 ++ rest) :
    parseProfiles data pos (pos + profiles.length * 2) option = appendAll option profiles := by
  induction profiles generalizing pos option with
  | nil =>
    rw [parseProfiles, List.length_nil, if_neg (by omega)]
    rfl
  | cons p ps ih =>
    rw [List.flatMap_cons, List.append_assoc] at h
    obtain ⟨hread, hrest⟩ := Rohcoipsec.readU16_of_drop h
    have hread : readU16 data pos = some p := hread
    rw [parseProfiles, List.length_cons, if_pos (by omega), hread, Option.bind_eq_bind, Option.bind_some, appendAll,
      List.foldlM_cons]
    cases option.appendProfile p with
    | none => rfl
    | some next =>
      have hstop : pos + (ps.length + 1) * 2 = pos + 2 + ps.length * 2 := by omega
      rw [hstop]
      exact ih hrest

theorem parseSuboptions_eq (data : Bytes) (pos : Nat) (option : RohcOption) :
    parseSuboptions data pos option =
      if pos < data.length then (parseSuboption data pos option).bind fun next => parseSuboptions data next.2 next.1
      else some option := by
  rw [parseSuboptions]
  split
  · split
    case h_1 hround => rw [hround, Option.bind_none]
    case h_2 next hround => rw [hround, Option.bind_some]
  · rfl

/-- The one suboption the writer writes. -/
theorem parseSuboptions_written (h : WellFormed option) :
    parseSuboptions (optionOctets option) 10 { option with profiles := [] } = some option := by
  have hlen := length_optionOctets option
  have hpos := List.length_pos_iff.mpr h.nonempty
  have hsize := h.room
  unfold maxProfiles at hsize
  have htype : u8At (optionOctets option) 10 = suboptionProfiles := rfl
  have hsub : (u8At (optionOctets option) (10 + 1)).toNat = 2 + option.profiles.length * 2 := by
    show (UInt8.ofNat (2 + option.profiles.length * 2)).toNat = _
    rw [UInt8.toNat_ofNat', Nat.mod_eq_of_lt (by omega)]
  have hdrop : (optionOctets option).drop (10 + 2) = option.profiles.flatMap be16 ++ [] := (List.append_nil _).symm
  have happend : appendAll { option with profiles := [] } option.profiles = some option := by
    have := @appendAll_eq { option with profiles := [] } option.profiles h.ascends (Nat.zero_le _)
    rwa [if_pos (by simpa using h.room)] at this
  have hround : parseSuboption (optionOctets option) 10 { option with profiles := [] } =
      some (option, (optionOctets option).length) := by
    unfold parseSuboption
    rw [if_neg (by omega)]
    simp only [htype, hsub]
    rw [if_neg (by omega), if_pos trivial, if_neg (by omega), ← Nat.add_assoc 10 2, parseProfiles_flatMap hdrop, happend, hlen]
    rfl
  rw [parseSuboptions_eq, if_pos (by omega), hround, Option.bind_some, parseSuboptions_eq, if_neg (Nat.lt_irrefl _)]

theorem parseRohcOption_written (h : WellFormed option) : parseRohcOption (optionOctets option) = some option := by
  have hlen := length_optionOctets option
  have hsize := h.room
  have hpos := List.length_pos_iff.mpr h.nonempty
  unfold maxProfiles at hsize
  have hstated : (u8At (optionOctets option) 1).toNat = (optionOctets option).length := by
    show (UInt8.ofNat (10 + 2 + option.profiles.length * 2)).toNat = _
    rw [UInt8.toNat_ofNat', Nat.mod_eq_of_lt (by omega), hlen]
  have hfront : ((optionOctets option).length ≥ 10 && u8At (optionOctets option) 0 == ipCompressionOptionType &&
      (u8At (optionOctets option) 1).toNat == (optionOctets option).length) = true := by
    rw [hstated, hlen]
    simp only [beq_self_eq_true, Bool.and_true, Bool.and_eq_true, decide_eq_true_eq, beq_iff_eq]
    exact ⟨by omega, rfl⟩
  have hprotocol : readU16 (optionOctets option) 2 = some ipCompressionProtocolRohc := readU16_of_drop rfl
  have hcid : readU16 (optionOctets option) 4 = some option.maxCid := readU16_of_drop rfl
  have hmrru : readU16 (optionOctets option) 6 = some option.mrru := readU16_of_drop rfl
  have hheader : readU16 (optionOctets option) 8 = some option.maxHeader := readU16_of_drop rfl
  unfold parseRohcOption
  refine guard_bind_eq_some.mpr ⟨hfront, ?_⟩
  refine Option.bind_eq_some_iff.mpr ⟨_, hprotocol, ?_⟩
  refine guard_bind_eq_some.mpr ⟨rfl, ?_⟩
  refine Option.bind_eq_some_iff.mpr ⟨_, hcid, ?_⟩
  refine guard_bind_eq_some.mpr ⟨h.maxCid, ?_⟩
  refine Option.bind_eq_some_iff.mpr ⟨_, hmrru, ?_⟩
  refine Option.bind_eq_some_iff.mpr ⟨_, hheader, ?_⟩
  refine Option.bind_eq_some_iff.mpr ⟨_, parseSuboptions_written h, ?_⟩
  exact guard_bind_eq_some.mpr ⟨h.valid, rfl⟩

/-! ## The merge -/

theorem toNat_max (a b : UInt16) : (max a b).toNat = max a.toNat b.toNat := by
  show (if a ≤ b then b else a).toNat = _
  split
  case isTrue h => exact (Nat.max_eq_right (UInt16.le_iff_toNat_le.mp h)).symm
  case isFalse h => exact (Nat.max_eq_left (UInt16.le_iff_toNat_le.mp (UInt16.le_of_lt (UInt16.not_le.mp h)))).symm

theorem max_comm (a b : UInt16) : max a b = max b a :=
  UInt16.toNat_inj.mp (by rw [toNat_max, toNat_max, Nat.max_comm])

theorem max_self (a : UInt16) : max a a = a := UInt16.toNat_inj.mp (by rw [toNat_max, Nat.max_self])

theorem max_assoc (a b c : UInt16) : max (max a b) c = max a (max b c) :=
  UInt16.toNat_inj.mp (by rw [toNat_max, toNat_max, toNat_max, toNat_max, Nat.max_assoc])

/-- The comparisons of the source are maxima. -/
theorem ite_gt (a b : UInt16) : (if a > b then a else b) = max a b := by
  apply UInt16.toNat_inj.mp
  rw [toNat_max]
  split
  case isTrue h => exact (Nat.max_eq_left (Nat.le_of_lt (UInt16.lt_iff_toNat_lt.mp h))).symm
  case isFalse h => exact (Nat.max_eq_right (UInt16.le_iff_toNat_le.mp (UInt16.not_lt.mp h))).symm

theorem appendProfile_bind {p : UInt16} {ps : List UInt16} {f : RohcOption → Option RohcOption}
    (h : ∀ next, f next = appendAll next ps) : option.appendProfile p >>= f = appendAll option (p :: ps) := by
  rw [appendAll, List.foldlM_cons]
  exact congrArg (Option.bind _) (funext h)

/-- The loop appends the merged list. -/
theorem mergeProfiles_eq (as bs : List UInt16) (merged : RohcOption) :
    mergeProfiles as bs merged = appendAll merged (merge (· < ·) as bs) := by
  fun_induction mergeProfiles as bs merged with
  | case1 merged =>
    rw [merge]
    rfl
  | case2 merged a as ih =>
    rw [merge_nil]
    exact appendProfile_bind fun next => (ih next).trans (by rw [merge_nil])
  | case3 merged b bs ih =>
    rw [merge]
    exact appendProfile_bind fun next => (ih next).trans (by rw [merge])
  | case4 merged a as b bs hab ih =>
    rw [merge, if_pos hab]
    exact appendProfile_bind ih
  | case5 merged a as b bs hab hba ih =>
    rw [merge, if_neg hab, if_pos hba]
    exact appendProfile_bind ih
  | case6 merged a as b bs hab hba ih =>
    rw [merge, if_neg hab, if_neg hba]
    exact appendProfile_bind ih

/-- The profiles of both options. -/
def union (a b : RohcOption) : Finset UInt16 := a.profiles.toFinset ∪ b.profiles.toFinset

/-- The maxima of two options, with the profiles of both. -/
def joined (a b : RohcOption) : RohcOption where
  maxCid := max a.maxCid b.maxCid
  mrru := max a.mrru b.mrru
  maxHeader := max a.maxHeader b.maxHeader
  profiles := merge (· < ·) a.profiles b.profiles

variable {a b c : RohcOption}

theorem length_joined (ha : WellFormed a) (hb : WellFormed b) : (joined a b).profiles.length = (union a b).card :=
  length_merge ha.ascends hb.ascends

theorem wellFormed_joined (ha : WellFormed a) (hb : WellFormed b) (hroom : (union a b).card ≤ maxProfiles) :
    WellFormed (joined a b) := by
  refine ⟨?_, ?_, (length_joined ha hb).trans_le hroom, pairwise_merge ha.ascends hb.ascends⟩
  · rw [UInt16.le_iff_toNat_le, joined, toNat_max]
    exact Nat.max_le.mpr ⟨UInt16.le_iff_toNat_le.mp ha.maxCid, UInt16.le_iff_toNat_le.mp hb.maxCid⟩
  · obtain ⟨p, hp⟩ := List.exists_mem_of_ne_nil _ ha.nonempty
    exact List.ne_nil_of_mem (mem_merge.mpr (.inl hp))

/-- **Merging** is joining, as long as there is room. -/
theorem mergeChannelOptions_eq (ha : WellFormed a) (hb : WellFormed b) :
    mergeChannelOptions a b = if (union a b).card ≤ maxProfiles then some (joined a b) else none := by
  have hboth : (a.valid && b.valid) = true := by rw [ha.valid, hb.valid, Bool.and_self]
  have hascends := pairwise_merge ha.ascends hb.ascends
  have hall := @appendAll_eq { joined a b with profiles := [] } (joined a b).profiles hascends (Nat.zero_le _)
  rw [length_joined ha hb, List.length_nil, Nat.zero_add] at hall
  unfold mergeChannelOptions
  rw [guard_bind hboth, mergeProfiles_eq, ite_gt, ite_gt, ite_gt]
  refine (congrArg (Option.bind · _) hall).trans ?_
  by_cases hroom : (union a b).card ≤ maxProfiles
  · rw [if_pos hroom, if_pos hroom, Option.bind_some]
    exact guard_bind (wellFormed_joined ha hb hroom).valid _
  · rw [if_neg hroom, if_neg hroom, Option.bind_none]

theorem union_comm (a b : RohcOption) : union a b = union b a := Finset.union_comm _ _

theorem joined_comm (ha : WellFormed a) (hb : WellFormed b) : joined a b = joined b a := by
  unfold joined
  rw [max_comm a.maxCid, max_comm a.mrru, max_comm a.maxHeader, merge_comm ha.ascends hb.ascends]

theorem mergeChannelOptions_comm (ha : WellFormed a) (hb : WellFormed b) :
    mergeChannelOptions a b = mergeChannelOptions b a := by
  rw [mergeChannelOptions_eq ha hb, mergeChannelOptions_eq hb ha, union_comm, joined_comm ha hb]

theorem joined_self (ha : WellFormed a) : joined a a = a := by
  unfold joined
  rw [max_self, max_self, max_self, merge_self ha.ascends]

theorem mergeChannelOptions_self (ha : WellFormed a) : mergeChannelOptions a a = some a := by
  have hroom : (union a a).card ≤ maxProfiles := by
    rw [← length_joined ha ha, joined_self ha]
    exact ha.room
  rw [mergeChannelOptions_eq ha ha, if_pos hroom, joined_self ha]

theorem union_joined (a b c : RohcOption) : union (joined a b) c = union a b ∪ c.profiles.toFinset :=
  congrArg (· ∪ c.profiles.toFinset) toFinset_merge

theorem union_joined_right (a b c : RohcOption) : union a (joined b c) = union a b ∪ c.profiles.toFinset := by
  rw [union_comm, union_joined, union, union, Finset.union_comm, Finset.union_assoc]

theorem joined_assoc (ha : WellFormed a) (hb : WellFormed b) (hc : WellFormed c) :
    joined (joined a b) c = joined a (joined b c) := by
  unfold joined
  simp only [max_assoc, merge_assoc ha.ascends hb.ascends hc.ascends]

/-- Three options merge to the join of the three, in whichever order, as long as their profiles have room together. -/
theorem merge_merge_left (ha : WellFormed a) (hb : WellFormed b) (hc : WellFormed c) :
    ((mergeChannelOptions a b).bind fun m => mergeChannelOptions m c) =
      if (union a b ∪ c.profiles.toFinset).card ≤ maxProfiles then some (joined (joined a b) c) else none := by
  rw [mergeChannelOptions_eq ha hb]
  by_cases hroom : (union a b).card ≤ maxProfiles
  · rw [if_pos hroom, Option.bind_some, mergeChannelOptions_eq (wellFormed_joined ha hb hroom) hc, union_joined]
  · have hmore : ¬(union a b ∪ c.profiles.toFinset).card ≤ maxProfiles := fun h =>
      hroom (Nat.le_trans (Finset.card_le_card Finset.subset_union_left) h)
    rw [if_neg hroom, if_neg hmore, Option.bind_none]

theorem merge_merge_right (ha : WellFormed a) (hb : WellFormed b) (hc : WellFormed c) :
    ((mergeChannelOptions b c).bind fun m => mergeChannelOptions a m) =
      if (union a b ∪ c.profiles.toFinset).card ≤ maxProfiles then some (joined a (joined b c)) else none := by
  rw [mergeChannelOptions_eq hb hc]
  by_cases hroom : (union b c).card ≤ maxProfiles
  · rw [if_pos hroom, Option.bind_some, mergeChannelOptions_eq ha (wellFormed_joined hb hc hroom), union_joined_right]
  · have hmore : ¬(union a b ∪ c.profiles.toFinset).card ≤ maxProfiles := fun h => by
      refine hroom (Nat.le_trans (Finset.card_le_card ?_) h)
      rw [union, union, Finset.union_assoc]
      exact Finset.subset_union_right
    rw [if_neg hroom, if_neg hmore, Option.bind_none]

theorem mergeChannelOptions_assoc (ha : WellFormed a) (hb : WellFormed b) (hc : WellFormed c) :
    ((mergeChannelOptions a b).bind fun m => mergeChannelOptions m c) =
      (mergeChannelOptions b c).bind fun m => mergeChannelOptions a m := by
  rw [merge_merge_left ha hb hc, merge_merge_right ha hb hc, joined_assoc ha hb hc]

/-- The sorted union of the profiles, and the maximum of every other field. -/
structure UnionOf (a b m : RohcOption) : Prop where
  ascends : m.profiles.Pairwise (· < ·)
  profiles : m.profiles.toFinset = union a b
  maxCid : m.maxCid = max a.maxCid b.maxCid
  mrru : m.mrru = max a.mrru b.mrru
  maxHeader : m.maxHeader = max a.maxHeader b.maxHeader

theorem mergeChannelOptions_spec (ha : WellFormed a) (hb : WellFormed b) :
    ((mergeChannelOptions a b).isSome = true ↔ (union a b).card ≤ maxProfiles) ∧
      ∀ m, mergeChannelOptions a b = some m → UnionOf a b m := by
  rw [mergeChannelOptions_eq ha hb]
  split
  case isTrue hroom =>
    refine ⟨iff_of_true rfl hroom, fun m hm => ?_⟩
    obtain rfl := Option.some.inj hm
    exact ⟨pairwise_merge ha.ascends hb.ascends, toFinset_merge, rfl, rfl, rfl⟩
  case isFalse hroom => exact ⟨iff_of_false (by simp) hroom, fun m hm => absurd hm (Option.some_ne_none m).symm⟩

/-- **The PPP option.** What is written is read back, what is read ascends, and merging is a partial union: defined as long
as the profiles have room, commutative, idempotent and associative. -/
theorem ppp_option_laws :
    (∀ option capacity, WellFormed option → 12 + option.profiles.length * 2 ≤ capacity →
      ∃ out, writeRohcOption option capacity = some out ∧ parseRohcOption out = some option) ∧
    (∀ data option, parseRohcOption data = some option → option.profiles.Pairwise (· < ·)) ∧
    (∀ a b, WellFormed a → WellFormed b →
      ((mergeChannelOptions a b).isSome = true ↔ (union a b).card ≤ maxProfiles) ∧
        (∀ m, mergeChannelOptions a b = some m → UnionOf a b m) ∧
        mergeChannelOptions a b = mergeChannelOptions b a ∧ mergeChannelOptions a a = some a) ∧
    (∀ a b c, WellFormed a → WellFormed b → WellFormed c →
      ((mergeChannelOptions a b).bind fun m => mergeChannelOptions m c) =
        (mergeChannelOptions b c).bind fun m => mergeChannelOptions a m) := by
  refine ⟨fun option capacity h hroom => ?_, fun data option h => (parseRohcOption_wellFormed h).ascends,
    fun a b ha hb => ?_, fun a b c ha hb hc => mergeChannelOptions_assoc ha hb hc⟩
  · exact ⟨_, writeRohcOption_eq h.valid hroom, parseRohcOption_written h⟩
  · obtain ⟨hsome, hunion⟩ := mergeChannelOptions_spec ha hb
    exact ⟨hsome, hunion, mergeChannelOptions_comm ha hb, mergeChannelOptions_self ha⟩

/-- An option of the IP and the UDP profile. -/
def smallOption : RohcOption where
  maxCid := 15
  profiles := [0x0002, 0x0004]

def rtpOption : RohcOption where
  maxCid := 200
  mrru := 1500
  profiles := [0x0001, 0x0002]

def espOption : RohcOption where
  profiles := [0x0003]

/-- The three of them, written, read and merged. -/
theorem ppp_option_laws_small :
    (∃ out, writeRohcOption smallOption 16 = some out ∧ parseRohcOption out = some smallOption) ∧
      mergeChannelOptions smallOption smallOption = some smallOption ∧
      ∃ m, mergeChannelOptions smallOption rtpOption = some m ∧ m.profiles = [0x0001, 0x0002, 0x0004] ∧
        UnionOf smallOption rtpOption m ∧ mergeChannelOptions rtpOption smallOption = some m ∧
        mergeChannelOptions m espOption =
          (mergeChannelOptions rtpOption espOption).bind fun m' => mergeChannelOptions smallOption m' := by
  have hsmall : WellFormed smallOption := ⟨by decide, by decide, by decide, by decide⟩
  have hrtp : WellFormed rtpOption := ⟨by decide, by decide, by decide, by decide⟩
  have hesp : WellFormed espOption := ⟨by decide, by decide, by decide, by decide⟩
  obtain ⟨hcodec, -, hmerge, hassoc⟩ := ppp_option_laws
  obtain ⟨hroom, hunion, hcomm, hself⟩ := hmerge smallOption rtpOption hsmall hrtp
  obtain ⟨m, hm⟩ := Option.isSome_iff_exists.mp (hroom.mpr (by decide))
  have hthree := hassoc smallOption rtpOption espOption hsmall hrtp hesp
  rw [hm, Option.bind_some] at hthree
  have hprofiles : (mergeChannelOptions smallOption rtpOption).map (·.profiles) = some [0x0001, 0x0002, 0x0004] := by
    decide +kernel
  rw [hm] at hprofiles
  exact ⟨hcodec smallOption 16 hsmall (by decide), hself, m, hm, Option.some.inj hprofiles, hunion m hm, hcomm ▸ hm, hthree⟩

end Ppp

end Rohccxx
