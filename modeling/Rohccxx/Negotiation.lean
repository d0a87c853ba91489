import Rohccxx.Context

/-!
# ROHCoIPsec channel parameters

`ChannelParameters` of `core/rohcoipsec.hpp` and the negotiation each end runs on its own set and the set of its peer.

- a negotiation succeeds exactly when the sets share a profile and an algorithm and the ICV length of the peer fits the
  algorithm chosen (`negotiate_isSome_iff`), so it fails on some common ground (`settlesCommonGround_iff`);
- the two ends choose by their own preference, so they agree only when the preferences do (`agree_iff`).
-/

set_option autoImplicit false

namespace Rohccxx

open Octets

/-! ## Parameters -/

def maxCidLimit : UInt16 := 16383

def maxProfiles : Nat := 16

def maxIntegrityAlgorithms : Nat := 8

/-- `IntegrityAlgorithm::None` on the wire. -/
def integrityNone : UInt16 := 0

/-- `IntegrityAlgorithm::HmacSha256` on the wire. -/
def integrityHmacSha256 : UInt16 := 12

/-- Every profile of the enumeration but the link-layer assisted one. -/
def isSupportedRohcv2Profile (profile : UInt16) : Bool :=
  profile == Profile.uncompressed.toWire || profile == Profile.rtp.toWire || profile == Profile.udp.toWire ||
    profile == Profile.esp.toWire || profile == Profile.ip.toWire || profile == Profile.rtpUdpLite.toWire ||
    profile == Profile.udpLite.toWire

def isSupportedIntegrityAlgorithm (algorithm : UInt16) : Bool :=
  algorithm == integrityNone || algorithm == integrityHmacSha256

/-- The arrays with their counts are lists; a count over the size of its array is a longer list. -/
structure ChannelParameters where
  maxCid : UInt16 := 0
  profiles : List UInt16 := []
  integrityAlgorithms : List UInt16 := []
  icvLen : UInt16 := 0
  hasIcvLen : Bool := false
  mrru : UInt16 := 0
  hasMrru : Bool := false
deriving DecidableEq, Repr

/-- The nested loops of `valid`: every entry is supported and no later entry repeats it. -/
def distinctSupported (supported : UInt16 → Bool) : List UInt16 → Bool
  | [] => true
  | x :: xs => supported x && !xs.contains x && distinctSupported supported xs

namespace ChannelParameters

/-- The flag `has_keyed_integrity`. -/
def hasKeyedIntegrity (params : ChannelParameters) : Bool :=
  params.integrityAlgorithms.any (· != integrityNone)

def icvLenValid (params : ChannelParameters) : Bool :=
  if !params.hasIcvLen then true
  else if !params.hasKeyedIntegrity then params.icvLen == 0
  else 0 < params.icvLen && params.icvLen ≤ 32

def valid (params : ChannelParameters) : Bool :=
  if params.maxCid > maxCidLimit || params.profiles.length == 0 || params.profiles.length > maxProfiles ||
      params.integrityAlgorithms.length == 0 || params.integrityAlgorithms.length > maxIntegrityAlgorithms then
    false
  else
    distinctSupported isSupportedRohcv2Profile params.profiles &&
      distinctSupported isSupportedIntegrityAlgorithm params.integrityAlgorithms && params.icvLenValid

def supportsProfile (params : ChannelParameters) (profile : UInt16) : Bool := params.profiles.contains profile

def supportsIntegrity (params : ChannelParameters) (algorithm : UInt16) : Bool :=
  params.integrityAlgorithms.contains algorithm

def appendProfile (params : ChannelParameters) (profile : UInt16) : Option ChannelParameters :=
  if params.profiles.length ≥ maxProfiles || !isSupportedRohcv2Profile profile || params.supportsProfile profile then
    none
  else some { params with profiles := params.profiles ++ [profile] }

def appendIntegrity (params : ChannelParameters) (algorithm : UInt16) : Option ChannelParameters :=
  if params.integrityAlgorithms.length ≥ maxIntegrityAlgorithms || !isSupportedIntegrityAlgorithm algorithm ||
      params.supportsIntegrity algorithm then
    none
  else some { params with integrityAlgorithms := params.integrityAlgorithms ++ [algorithm] }

end ChannelParameters

open ChannelParameters

/-! ## Negotiation -/

/-- The profiles of the local end the peer supports, in the order of the local end. -/
def appendSharedProfiles (peer : ChannelParameters) :
    List UInt16 → ChannelParameters → Option ChannelParameters
  | [], negotiated => some negotiated
  | profile :: rest, negotiated =>
    if peer.supportsProfile profile then
      match negotiated.appendProfile profile with
      | some negotiated => appendSharedProfiles peer rest negotiated
      | none => none
    else appendSharedProfiles peer rest negotiated

/-- The first algorithm of the local end the peer supports, and no other. -/
def appendFirstShared (peer : ChannelParameters) :
    List UInt16 → ChannelParameters → Option ChannelParameters
  | [], negotiated => some negotiated
  | algorithm :: rest, negotiated =>
    if peer.supportsIntegrity algorithm then negotiated.appendIntegrity algorithm
    else appendFirstShared peer rest negotiated

/-- What `negotiate` takes from the peer as it stands. -/
def peerParameters (peer : ChannelParameters) : ChannelParameters where
  maxCid := peer.maxCid
  mrru := peer.mrru
  hasMrru := peer.hasMrru
  icvLen := if peer.hasIcvLen then peer.icvLen else 0
  hasIcvLen := peer.hasIcvLen

def negotiate (localParams peer : ChannelParameters) : Option ChannelParameters := do
  guard (localParams.valid && peer.valid)
  let negotiated ← appendSharedProfiles peer localParams.profiles (peerParameters peer)
  let negotiated ← appendFirstShared peer localParams.integrityAlgorithms negotiated
  guard negotiated.valid
  return if negotiated.supportsIntegrity integrityNone then { negotiated with icvLen := 0 } else negotiated

/-! ## Valid sets -/

theorem distinctSupported_iff (supported : UInt16 → Bool) (xs : List UInt16) :
    distinctSupported supported xs = true ↔ (∀ x ∈ xs, supported x = true) ∧ xs.Nodup := by
  induction xs with
  | nil => simp [distinctSupported]
  | cons x xs ih =>
    rw [distinctSupported, Bool.and_eq_true, Bool.and_eq_true, ih]
    simp only [Bool.not_eq_true', List.contains_eq_mem, decide_eq_false_iff_not, List.forall_mem_cons,
      List.nodup_cons]
    tauto

/-- What `valid` checks. -/
structure Valid (params : ChannelParameters) : Prop where
  maxCid : params.maxCid ≤ maxCidLimit
  profiles_ne : params.profiles ≠ []
  profiles_le : params.profiles.length ≤ maxProfiles
  profiles_supported : ∀ p ∈ params.profiles, isSupportedRohcv2Profile p = true
  profiles_nodup : params.profiles.Nodup
  algorithms_ne : params.integrityAlgorithms ≠ []
  algorithms_le : params.integrityAlgorithms.length ≤ maxIntegrityAlgorithms
  algorithms_supported : ∀ a ∈ params.integrityAlgorithms, isSupportedIntegrityAlgorithm a = true
  algorithms_nodup : params.integrityAlgorithms.Nodup
  icvLen : params.icvLenValid = true

theorem valid_iff (params : ChannelParameters) : params.valid = true ↔ Valid params := by
  unfold ChannelParameters.valid
  split
  case isTrue h =>
    simp only [Bool.or_eq_true, decide_eq_true_eq, beq_iff_eq, List.length_eq_zero_iff] at h
    refine ⟨nofun, fun v => ?_⟩
    rcases h with (((h | h) | h) | h) | h
    · exact absurd v.maxCid (UInt16.not_le.mpr h)
    · exact absurd h v.profiles_ne
    · exact absurd v.profiles_le (Nat.not_le.mpr h)
    · exact absurd h v.algorithms_ne
    · exact absurd v.algorithms_le (Nat.not_le.mpr h)
  case isFalse h =>
    simp only [Bool.or_eq_true, decide_eq_true_eq, beq_iff_eq, List.length_eq_zero_iff, not_or] at h
    obtain ⟨⟨⟨⟨hcid, hp⟩, hple⟩, ha⟩, hale⟩ := h
    rw [Bool.and_eq_true, Bool.and_eq_true, distinctSupported_iff, distinctSupported_iff]
    constructor
    · rintro ⟨⟨⟨hps, hpn⟩, has, han⟩, hicv⟩
      exact ⟨UInt16.not_lt.mp hcid, hp, Nat.not_lt.mp hple, hps, hpn, ha, Nat.not_lt.mp hale, has, han, hicv⟩
    · intro v
      exact ⟨⟨⟨v.profiles_supported, v.profiles_nodup⟩, v.algorithms_supported, v.algorithms_nodup⟩, v.icvLen⟩

theorem algorithm_cases {algorithm : UInt16} (h : isSupportedIntegrityAlgorithm algorithm = true) :
    algorithm = integrityNone ∨ algorithm = integrityHmacSha256 := by
  unfold isSupportedIntegrityAlgorithm at h
  rw [Bool.or_eq_true, beq_iff_eq, beq_iff_eq] at h
  exact h

/-! ## What a negotiation offers -/

/-- The set before the last validity check: the profiles both ends have, and the first shared algorithm. -/
def offer (localParams peer : ChannelParameters) : ChannelParameters :=
  { peerParameters peer with
    profiles := localParams.profiles.filter peer.supportsProfile
    integrityAlgorithms := (localParams.integrityAlgorithms.find? peer.supportsIntegrity).toList }

theorem appendProfile_of_fresh {params : ChannelParameters} {profile : UInt16}
    (supported : isSupportedRohcv2Profile profile = true) (fresh : profile ∉ params.profiles)
    (room : params.profiles.length < maxProfiles) :
    params.appendProfile profile = some { params with profiles := params.profiles ++ [profile] } := by
  have hfresh : params.supportsProfile profile = false := by
    unfold supportsProfile
    rwa [List.contains_eq_mem, decide_eq_false_iff_not]
  unfold appendProfile
  rw [supported, hfresh, if_neg]
  simp only [Bool.not_true, Bool.or_false, decide_eq_true_eq]
  omega

theorem appendIntegrity_of_fresh {params : ChannelParameters} {algorithm : UInt16}
    (supported : isSupportedIntegrityAlgorithm algorithm = true) (fresh : algorithm ∉ params.integrityAlgorithms)
    (room : params.integrityAlgorithms.length < maxIntegrityAlgorithms) :
    params.appendIntegrity algorithm =
      some { params with integrityAlgorithms := params.integrityAlgorithms ++ [algorithm] } := by
  have hfresh : params.supportsIntegrity algorithm = false := by
    unfold supportsIntegrity
    rwa [List.contains_eq_mem, decide_eq_false_iff_not]
  unfold appendIntegrity
  rw [supported, hfresh, if_neg]
  simp only [Bool.not_true, Bool.or_false, decide_eq_true_eq]
  omega

/-- An append within the bounds of a valid list never fails, so the loop is a filter. -/
theorem appendSharedProfiles_eq (peer : ChannelParameters) (ps : List UInt16) (negotiated : ChannelParameters)
    (supported : ∀ p ∈ ps, isSupportedRohcv2Profile p = true) (nodup : (negotiated.profiles ++ ps).Nodup)
    (room : negotiated.profiles.length + ps.length ≤ maxProfiles) :
    appendSharedProfiles peer ps negotiated =
      some { negotiated with profiles := negotiated.profiles ++ ps.filter peer.supportsProfile } := by
  induction ps generalizing negotiated with
  | nil => simp [appendSharedProfiles]
  | cons p ps ih =>
    rw [List.length_cons] at room
    have hps : ∀ q ∈ ps, isSupportedRohcv2Profile q = true := fun q hq => supported q (List.mem_cons_of_mem _ hq)
    unfold appendSharedProfiles
    by_cases hp : peer.supportsProfile p = true
    · have hfresh : p ∉ negotiated.profiles := fun hm => (List.nodup_append.mp nodup).2.2 p hm p List.mem_cons_self rfl
      rw [if_pos hp, appendProfile_of_fresh (supported p List.mem_cons_self) hfresh (by omega)]
      simp only
      rw [ih _ hps (by simpa using nodup) (by simp only [List.length_append, List.length_singleton]; omega),
        List.filter_cons_of_pos hp]
      simp
    · rw [if_neg hp, List.filter_cons_of_neg hp]
      exact ih negotiated hps (nodup.sublist (by simp)) (by omega)

theorem appendFirstShared_eq (peer : ChannelParameters) (as : List UInt16) (negotiated : ChannelParameters)
    (supported : ∀ a ∈ as, isSupportedIntegrityAlgorithm a = true) (empty : negotiated.integrityAlgorithms = []) :
    appendFirstShared peer as negotiated =
      some { negotiated with integrityAlgorithms := (as.find? peer.supportsIntegrity).toList } := by
  induction as with
  | nil =>
    rw [appendFirstShared, List.find?_nil, Option.toList_none, ← empty]
  | cons a as ih =>
    unfold appendFirstShared
    by_cases ha : peer.supportsIntegrity a = true
    · rw [if_pos ha, List.find?_cons_of_pos ha]
      rw [appendIntegrity_of_fresh (supported a List.mem_cons_self) (by rw [empty]; exact List.not_mem_nil)
        (by rw [empty]; decide), empty]
      rfl
    · rw [if_neg ha, List.find?_cons_of_neg ha]
      exact ih fun b hb => supported b (List.mem_cons_of_mem _ hb)

/-- The length is cleared after the check that has already refused every other length: the last step changes nothing. -/
theorem icvLen_of_none {params : ChannelParameters} (h : params.icvLenValid = true)
    (absent : params.hasIcvLen = false → params.icvLen = 0) (single : params.integrityAlgorithms = [integrityNone]) :
    params.icvLen = 0 := by
  cases hicv : params.hasIcvLen with
  | false => exact absent hicv
  | true =>
    unfold icvLenValid hasKeyedIntegrity at h
    rw [hicv, single] at h
    simpa using h

variable {a b : ChannelParameters}

theorem offer_icvLen (h : (offer a b).icvLenValid = true) (none : (offer a b).supportsIntegrity integrityNone = true) :
    (offer a b).icvLen = 0 := by
  refine icvLen_of_none h (fun hicv => ?_) ?_
  · change (if b.hasIcvLen then b.icvLen else 0) = 0
    rw [show b.hasIcvLen = false from hicv]
    rfl
  · change (a.integrityAlgorithms.find? b.supportsIntegrity).toList = [integrityNone]
    change ((a.integrityAlgorithms.find? b.supportsIntegrity).toList).contains integrityNone = true at none
    cases hf : a.integrityAlgorithms.find? b.supportsIntegrity with
    | none => rw [hf] at none; cases none
    | some alg =>
      rw [hf] at none
      simp only [Option.toList_some, List.contains_eq_mem, List.mem_singleton, decide_eq_true_eq] at none
      rw [← none]
      rfl

theorem negotiate_eq (ha : Valid a) (hb : Valid b) :
    negotiate a b = if (offer a b).valid then some (offer a b) else none := by
  have hprofiles := appendSharedProfiles_eq b a.profiles (peerParameters b) ha.profiles_supported
    (by simpa [peerParameters] using ha.profiles_nodup) (by simpa [peerParameters] using ha.profiles_le)
  have hintegrity : appendFirstShared b a.integrityAlgorithms
      { peerParameters b with profiles := (peerParameters b).profiles ++ a.profiles.filter b.supportsProfile } =
        some (offer a b) :=
    appendFirstShared_eq b a.integrityAlgorithms _ ha.algorithms_supported rfl
  have hboth : (a.valid && b.valid) = true := by rw [(valid_iff a).mpr ha, (valid_iff b).mpr hb, Bool.and_self]
  unfold negotiate
  rw [guard_bind hboth, hprofiles, Option.bind_eq_bind, Option.bind_some, hintegrity]
  change (guard ((offer a b).valid = true) >>= _) = _
  by_cases hv : (offer a b).valid = true
  · rw [if_pos hv, guard_bind hv, Option.pure_def, Option.some.injEq]
    split
    case isTrue hn => rw [← offer_icvLen ((valid_iff _).mp hv).icvLen hn]
    case isFalse => rfl
  · rw [if_neg hv, guard_bind_of_not hv]

/-- The ends have a profile in common. -/
def SharesProfile (a b : ChannelParameters) : Prop := ∃ p ∈ a.profiles, b.supportsProfile p = true

/-- The algorithm an end prefers among those the peer has. -/
def preferred (localParams peer : ChannelParameters) : Option UInt16 :=
  localParams.integrityAlgorithms.find? peer.supportsIntegrity

/-- The set states an ICV length and offers an algorithm that needs one. -/
def keyedIcvLen (params : ChannelParameters) : Bool := params.hasIcvLen && params.hasKeyedIntegrity

theorem preferred_supported (ha : Valid a) {alg : UInt16} (h : preferred a b = some alg) :
    isSupportedIntegrityAlgorithm alg = true :=
  ha.algorithms_supported alg (List.mem_of_find?_eq_some h)

/-- The length of the peer fits the algorithm chosen unless the peer states a keyed length and none is chosen. -/
theorem offer_icvLenValid_iff (ha : Valid a) (hb : Valid b) {alg : UInt16} (h : preferred a b = some alg) :
    (offer a b).icvLenValid = true ↔ ¬(alg = integrityNone ∧ keyedIcvLen b = true) := by
  have hset : (offer a b).integrityAlgorithms = [alg] := by
    change (preferred a b).toList = [alg]
    rw [h]
    rfl
  have hb' := hb.icvLen
  unfold icvLenValid at hb' ⊢
  change (if !b.hasIcvLen then true else if !(offer a b).hasKeyedIntegrity then
    (if b.hasIcvLen then b.icvLen else 0) == 0 else 0 < (if b.hasIcvLen then b.icvLen else 0) &&
    (if b.hasIcvLen then b.icvLen else 0) ≤ 32) = true ↔ _
  unfold hasKeyedIntegrity keyedIcvLen
  rw [hset]
  cases hicv : b.hasIcvLen with
  | false => simp
  | true =>
    rw [hicv] at hb'
    have hmem : alg ∈ b.integrityAlgorithms := by simpa [supportsIntegrity] using List.find?_some h
    rcases algorithm_cases (preferred_supported ha h) with rfl | rfl
    · cases hk : b.hasKeyedIntegrity with
      | false =>
        rw [hk] at hb'
        simpa using hb'
      | true =>
        rw [hk] at hb'
        simp only [Bool.not_true, Bool.false_eq_true, if_false, Bool.and_eq_true, decide_eq_true_eq] at hb'
        have hne : b.icvLen ≠ 0 := fun e => absurd hb'.1 (by rw [e]; decide)
        simpa using hne
    · have hk : b.hasKeyedIntegrity = true := List.any_eq_true.mpr ⟨_, hmem, by decide⟩
      rw [hk] at hb'
      simpa [show integrityHmacSha256 ≠ integrityNone by decide] using hb'

theorem offer_valid_iff (ha : Valid a) (hb : Valid b) :
    (offer a b).valid = true ↔
      SharesProfile a b ∧ ∃ alg, preferred a b = some alg ∧ ¬(alg = integrityNone ∧ keyedIcvLen b = true) := by
  rw [valid_iff]
  constructor
  · intro v
    refine ⟨?_, ?_⟩
    · obtain ⟨p, hp⟩ := List.exists_mem_of_ne_nil _ v.profiles_ne
      obtain ⟨hp, hq⟩ := List.mem_filter.mp hp
      exact ⟨p, hp, hq⟩
    · cases hf : preferred a b with
      | none => exact absurd (show (preferred a b).toList = [] by rw [hf]; rfl) v.algorithms_ne
      | some alg => exact ⟨alg, rfl, (offer_icvLenValid_iff ha hb hf).mp v.icvLen⟩
  · rintro ⟨⟨p, hp, hq⟩, alg, hf, hicv⟩
    have hset : (offer a b).integrityAlgorithms = [alg] := by
      change (preferred a b).toList = [alg]
      rw [hf]
      rfl
    have hsub : List.Sublist (offer a b).profiles a.profiles := List.filter_sublist
    refine ⟨hb.maxCid, List.ne_nil_of_mem (List.mem_filter.mpr ⟨hp, hq⟩), Nat.le_trans hsub.length_le ha.profiles_le,
      fun q hq => ha.profiles_supported q (hsub.subset hq), ha.profiles_nodup.sublist hsub, ?_, ?_, ?_, ?_,
      (offer_icvLenValid_iff ha hb hf).mpr hicv⟩
    · rw [hset]; exact List.cons_ne_nil _ _
    · rw [hset]
      exact show 1 ≤ 8 by decide
    · rw [hset]
      intro x hx
      rw [List.mem_singleton.mp hx]
      exact preferred_supported ha hf
    · rw [hset]; simp

theorem negotiate_isSome_iff (ha : Valid a) (hb : Valid b) :
    (negotiate a b).isSome = true ↔
      SharesProfile a b ∧ ∃ alg, preferred a b = some alg ∧ ¬(alg = integrityNone ∧ keyedIcvLen b = true) := by
  rw [negotiate_eq ha hb, ← offer_valid_iff ha hb]
  split <;> simp_all

theorem negotiate_eq_some (ha : Valid a) (hb : Valid b) {m : ChannelParameters} (h : negotiate a b = some m) :
    m = offer a b := by
  rw [negotiate_eq ha hb] at h
  split at h
  · exact (Option.some.inj h).symm
  · cases h

/-! ## Common ground -/

/-- The ends have an integrity algorithm in common. -/
def SharesIntegrity (a b : ChannelParameters) : Prop := ∃ alg ∈ a.integrityAlgorithms, b.supportsIntegrity alg = true

theorem sharesIntegrity_iff : SharesIntegrity a b ↔ ∃ alg, preferred a b = some alg := by
  rw [← Option.isSome_iff_exists]
  exact List.find?_isSome.symm

/-- A valid set of the common profiles in the order of the local end and the first algorithm of the local end the peer
has, within the bounds of the peer. -/
structure CommonPart (localParams peer negotiated : ChannelParameters) : Prop where
  valid : negotiated.valid = true
  profiles : negotiated.profiles = localParams.profiles.filter peer.supportsProfile
  algorithm : ∃ alg, preferred localParams peer = some alg ∧ negotiated.integrityAlgorithms = [alg] ∧
    (alg = integrityNone → negotiated.icvLen = 0)
  maxCid : negotiated.maxCid = peer.maxCid
  mrru : negotiated.mrru = peer.mrru ∧ negotiated.hasMrru = peer.hasMrru

/-- A negotiation succeeds exactly when the ends have a profile and an algorithm in common, and settles on these. -/
structure SettlesCommonGround (a b : ChannelParameters) : Prop where
  succeeds : (negotiate a b).isSome = true ↔ SharesProfile a b ∧ SharesIntegrity a b
  settled : ∀ m, negotiate a b = some m → CommonPart a b m

/-- Whatever a negotiation returns is the common part. -/
theorem commonPart_of_negotiate (ha : Valid a) (hb : Valid b) {m : ChannelParameters} (h : negotiate a b = some m) :
    CommonPart a b m := by
  obtain ⟨-, alg, hf, -⟩ := (negotiate_isSome_iff ha hb).mp (Option.isSome_iff_exists.mpr ⟨m, h⟩)
  have hvalid : (offer a b).valid = true := by
    rw [negotiate_eq ha hb] at h
    by_contra hv
    rw [if_neg hv] at h
    cases h
  obtain rfl : m = offer a b := negotiate_eq_some ha hb h
  have hset : (offer a b).integrityAlgorithms = [alg] := by
    show (preferred a b).toList = [alg]
    rw [hf, Option.toList_some]
  refine ⟨hvalid, rfl, ⟨alg, hf, hset, fun hnone => ?_⟩, rfl, rfl, rfl⟩
  refine offer_icvLen ((valid_iff _).mp hvalid).icvLen ?_
  rw [supportsIntegrity, hset, hnone]
  rfl

/-- A negotiation does what it is for unless the ends come to no integrity and the peer states the length of a keyed
ICV: the length is checked against the chosen algorithm before the statement that clears it. -/
theorem settlesCommonGround_iff (ha : a.valid = true) (hb : b.valid = true) :
    SettlesCommonGround a b ↔
      ¬(SharesProfile a b ∧ preferred a b = some integrityNone ∧ keyedIcvLen b = true) := by
  rw [valid_iff] at ha hb
  constructor
  · rintro h ⟨hp, hf, hk⟩
    have hsome := h.succeeds.mpr ⟨hp, sharesIntegrity_iff.mpr ⟨_, hf⟩⟩
    obtain ⟨-, alg, hf', hne⟩ := (negotiate_isSome_iff ha hb).mp hsome
    exact hne ⟨Option.some.inj (hf'.symm.trans hf), hk⟩
  · intro h
    refine ⟨?_, fun m hm => commonPart_of_negotiate ha hb hm⟩
    rw [negotiate_isSome_iff ha hb, sharesIntegrity_iff]
    constructor
    · rintro ⟨hp, alg, hf, -⟩
      exact ⟨hp, alg, hf⟩
    · rintro ⟨hp, alg, hf⟩
      refine ⟨hp, alg, hf, ?_⟩
      rintro ⟨rfl, hk⟩
      exact h ⟨hp, hf, hk⟩

/-! ## The two ends -/

theorem sharesProfile_comm : SharesProfile a b ↔ SharesProfile b a := by
  unfold SharesProfile supportsProfile
  simp only [List.contains_eq_mem, decide_eq_true_eq]
  exact ⟨fun ⟨p, ha, hb⟩ => ⟨p, hb, ha⟩, fun ⟨p, hb, ha⟩ => ⟨p, ha, hb⟩⟩

/-- An end prefers some shared algorithm exactly when the other does. -/
theorem preferred_isSome_comm : (preferred a b).isSome = (preferred b a).isSome := by
  rw [Bool.eq_iff_iff]
  unfold preferred supportsIntegrity
  simp only [List.find?_isSome, List.contains_eq_mem, decide_eq_true_eq]
  exact ⟨fun ⟨x, ha, hb⟩ => ⟨x, hb, ha⟩, fun ⟨x, hb, ha⟩ => ⟨x, ha, hb⟩⟩

theorem offer_supportsProfile_comm (p : UInt16) : (offer a b).supportsProfile p = (offer b a).supportsProfile p := by
  rw [Bool.eq_iff_iff]
  unfold supportsProfile offer supportsProfile
  simp only [List.contains_eq_mem, List.mem_filter, decide_eq_true_eq]
  exact And.comm

/-- The two ends of a security association: both negotiations fail, or both succeed with the same profiles and the same
integrity algorithm. -/
structure Agree (a b : ChannelParameters) : Prop where
  succeed : (negotiate a b).isSome = (negotiate b a).isSome
  same : ∀ m n, negotiate a b = some m → negotiate b a = some n →
    (∀ p, m.supportsProfile p = n.supportsProfile p) ∧ m.integrityAlgorithms = n.integrityAlgorithms

/-- Where the sets have a profile and an algorithm in common, they rank the same common algorithm first, and where that
is no integrity at all, an ICV length for a keyed algorithm is stated by both ends or by neither. -/
def SameRanking (a b : ChannelParameters) : Prop :=
  SharesProfile a b → (preferred a b).isSome = true →
    preferred a b = preferred b a ∧
      (preferred a b = some integrityNone → (keyedIcvLen a = true ↔ keyedIcvLen b = true))

/-- Without a common profile or algorithm neither end succeeds. -/
theorem agree_of_nothing_shared (ha : Valid a) (hb : Valid b)
    (h : ¬(SharesProfile a b ∧ (preferred a b).isSome = true)) : Agree a b := by
  have hab : negotiate a b = none := by
    rw [← Option.not_isSome_iff_eq_none, negotiate_isSome_iff ha hb]
    exact fun ⟨hp, alg, hf, _⟩ => h ⟨hp, by rw [hf]; rfl⟩
  have hba : negotiate b a = none := by
    rw [← Option.not_isSome_iff_eq_none, negotiate_isSome_iff hb ha]
    exact fun ⟨hp, alg, hf, _⟩ => h ⟨sharesProfile_comm.mpr hp, by rw [preferred_isSome_comm, hf]; rfl⟩
  refine ⟨by rw [hab, hba], fun m n hm _ => ?_⟩
  rw [hab] at hm
  cases hm

/-- With the same first choice on both sides, only the ICV lengths decide. -/
theorem agree_iff_of_preferred_eq (ha : Valid a) (hb : Valid b) (hp : SharesProfile a b) {alg : UInt16}
    (hab : preferred a b = some alg) (hba : preferred b a = some alg) :
    Agree a b ↔ (alg = integrityNone → (keyedIcvLen a = true ↔ keyedIcvLen b = true)) := by
  have succeeds_ab : (negotiate a b).isSome = true ↔ ¬(alg = integrityNone ∧ keyedIcvLen b = true) := by
    rw [negotiate_isSome_iff ha hb, hab]
    simp [hp]
  have succeeds_ba : (negotiate b a).isSome = true ↔ ¬(alg = integrityNone ∧ keyedIcvLen a = true) := by
    rw [negotiate_isSome_iff hb ha, hba]
    simp [sharesProfile_comm.mp hp]
  constructor
  · intro agree halg
    have h := agree.succeed
    rw [Bool.eq_iff_iff, succeeds_ab, succeeds_ba] at h
    tauto
  · intro h
    refine ⟨?_, fun m n hm hn => ?_⟩
    · rw [Bool.eq_iff_iff, succeeds_ab, succeeds_ba]
      tauto
    · rw [negotiate_eq_some ha hb hm, negotiate_eq_some hb ha hn]
      refine ⟨offer_supportsProfile_comm, ?_⟩
      change (preferred a b).toList = (preferred b a).toList
      rw [hab, hba]

/-- An end that prefers a keyed algorithm always succeeds, and the other end then has another algorithm or none. -/
theorem not_agree_of_preferred_ne (ha : Valid a) (hb : Valid b) (hp : SharesProfile a b) {x y : UInt16}
    (hab : preferred a b = some x) (hba : preferred b a = some y) (hne : x ≠ y) : ¬ Agree a b := by
  intro agree
  have succeeds_ab : x ≠ integrityNone → (negotiate a b).isSome = true := fun hx =>
    (negotiate_isSome_iff ha hb).mpr ⟨hp, x, hab, fun h => hx h.1⟩
  have succeeds_ba : y ≠ integrityNone → (negotiate b a).isSome = true := fun hy =>
    (negotiate_isSome_iff hb ha).mpr ⟨sharesProfile_comm.mp hp, y, hba, fun h => hy h.1⟩
  have hboth : (negotiate a b).isSome = true ∧ (negotiate b a).isSome = true := by
    have hsucceed := agree.succeed
    by_cases hx : x = integrityNone
    · have := succeeds_ba (fun hy => hne (hx.trans hy.symm))
      exact ⟨hsucceed.trans this, this⟩
    · have := succeeds_ab hx
      exact ⟨this, hsucceed.symm.trans this⟩
  obtain ⟨m, hm⟩ := Option.isSome_iff_exists.mp hboth.1
  obtain ⟨n, hn⟩ := Option.isSome_iff_exists.mp hboth.2
  have hsame := (agree.same m n hm hn).2
  rw [negotiate_eq_some ha hb hm, negotiate_eq_some hb ha hn] at hsame
  change (preferred a b).toList = (preferred b a).toList at hsame
  rw [hab, hba] at hsame
  exact hne (List.singleton_inj.mp hsame)

/-- The ends of a security association agree exactly when they rank their common algorithms alike. -/
theorem agree_iff (ha : a.valid = true) (hb : b.valid = true) : Agree a b ↔ SameRanking a b := by
  rw [valid_iff] at ha hb
  by_cases hshared : SharesProfile a b ∧ (preferred a b).isSome = true
  · obtain ⟨hp, hsome⟩ := hshared
    obtain ⟨x, hab⟩ := Option.isSome_iff_exists.mp hsome
    obtain ⟨y, hba⟩ := Option.isSome_iff_exists.mp (preferred_isSome_comm.symm.trans hsome)
    unfold SameRanking
    by_cases hxy : x = y
    · subst hxy
      rw [agree_iff_of_preferred_eq ha hb hp hab hba, hab, hba]
      simp [hp]
    · refine iff_of_false (not_agree_of_preferred_ne ha hb hp hab hba hxy) fun h => ?_
      have := (h hp hsome).1
      rw [hab, hba] at this
      exact hxy (Option.some.inj this)
  · refine iff_of_true (agree_of_nothing_shared ha hb hshared) fun hp hsome => ?_
    exact absurd ⟨hp, hsome⟩ hshared

/-- A set of one profile with the given algorithms. -/
def ipChannel (algorithms : List UInt16) (hasIcvLen : Bool) (icvLen : UInt16) : ChannelParameters where
  maxCid := 15
  profiles := [Profile.ip.toWire]
  integrityAlgorithms := algorithms
  hasIcvLen := hasIcvLen
  icvLen := icvLen

/-- A peer with a keyed length is no obstacle to an end that takes its keyed algorithm. -/
theorem settlesCommonGround_keyed : SettlesCommonGround (ipChannel [12, 0] true 16) (ipChannel [0, 12] true 12) :=
  (settlesCommonGround_iff (by decide) (by decide)).mpr fun h => absurd h.2.1 (by decide)

/-- Both ends can do without integrity, and the negotiation fails. -/
theorem common_ground_refused :
    (negotiate (ipChannel [0] false 0) (ipChannel [0, 12] true 12) = none ∧
      SharesProfile (ipChannel [0] false 0) (ipChannel [0, 12] true 12) ∧
      SharesIntegrity (ipChannel [0] false 0) (ipChannel [0, 12] true 12)) ∧
    ¬ ∀ a b : ChannelParameters, a.valid = true → b.valid = true → SettlesCommonGround a b := by
  have hp : SharesProfile (ipChannel [0] false 0) (ipChannel [0, 12] true 12) := ⟨Profile.ip.toWire, by decide, by decide⟩
  have ha : SharesIntegrity (ipChannel [0] false 0) (ipChannel [0, 12] true 12) := ⟨0, by decide, by decide⟩
  refine ⟨⟨by decide, hp, ha⟩, fun h => ?_⟩
  have := (h (ipChannel [0] false 0) (ipChannel [0, 12] true 12) (by decide) (by decide)).succeeds.mpr ⟨hp, ha⟩
  exact absurd this (by decide)

/-- Two ends that rank the keyed algorithm first agree, whatever their ICV lengths. -/
theorem agree_of_keyed_first :
    Agree (ipChannel [12, 0] true 16) (ipChannel [12] true 12) :=
  (agree_iff (by decide) (by decide)).mpr (by unfold SameRanking SharesProfile; decide)

/-- Opposite rankings run with different integrity; and an end that prefers none fails on a peer with a keyed length,
which the peer does not notice. -/
theorem ends_disagree :
    (∃ m n, negotiate (ipChannel [0, 12] false 0) (ipChannel [12, 0] false 0) = some m ∧
      negotiate (ipChannel [12, 0] false 0) (ipChannel [0, 12] false 0) = some n ∧
      m.integrityAlgorithms = [integrityNone] ∧ n.integrityAlgorithms = [integrityHmacSha256]) ∧
    (negotiate (ipChannel [0] false 0) (ipChannel [0, 12] true 12) = none ∧
      (negotiate (ipChannel [0, 12] true 12) (ipChannel [0] false 0)).isSome = true) ∧
    ¬ ∀ a b : ChannelParameters, a.valid = true → b.valid = true → Agree a b := by
  refine ⟨⟨_, _, rfl, rfl, by decide, by decide⟩, ⟨by decide, by decide⟩, fun h => ?_⟩
  have := (h (ipChannel [0] false 0) (ipChannel [0, 12] true 12) (by decide) (by decide)).succeed
  exact absurd this (by decide)

end Rohccxx
