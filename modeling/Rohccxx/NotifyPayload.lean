import Mathlib.Data.Nat.Bitwise
import Rohccxx.Negotiation
import Rohccxx.Protocols

/-!
# The ROHC_SUPPORTED payload

The notify payload of `core/rohcoipsec.hpp` in which an end states its channel parameters: a list of attributes, each a
type with a value of two octets (TV) or a type with a length and that many octets. The reader knows five TV types and
skips everything else.

`complete` reads a payload from one attribute to the next (`complete_wire`); a payload is accepted only if it is a list of
attributes (`complete_eq_some_iff`), and then the result is what the attributes say one after another. The round trip and
the law about skipped attributes are facts about lists of attributes.
-/

set_option autoImplicit false

namespace Rohccxx

open Octets ChannelParameters

/-! ## The source -/

def tvAttributeFlag : UInt16 := 0x8000

def attributeTypeMask : UInt16 := 0x7FFF

inductive AttributeType
  | maxCid
  | profile
  | integrity
  | icvLength
  | mrru
deriving DecidableEq, Repr

namespace AttributeType

def toWire : AttributeType → UInt16
  | maxCid => 1
  | profile => 2
  | integrity => 3
  | icvLength => 4
  | mrru => 5

/-- The cases of the switch over `static_cast<AttributeType>(type)`. -/
def ofWire (type : UInt16) : Option AttributeType :=
  if type = maxCid.toWire then some maxCid
  else if type = profile.toWire then some profile
  else if type = integrity.toWire then some integrity
  else if type = icvLength.toWire then some icvLength
  else if type = mrru.toWire then some mrru
  else none

end AttributeType

namespace Rohcoipsec

def writeU16 (capacity : Nat) (value : UInt16) (out : Bytes) : Option Bytes := put capacity (be16 value) out

def readU16 (data : Bytes) (pos : Nat) : Option UInt16 := if pos + 2 > data.length then none else some (u16At data pos)

def writeTvAttribute (capacity : Nat) (type : AttributeType) (value : UInt16) (out : Bytes) : Option Bytes := do
  let out ← writeU16 capacity (tvAttributeFlag ||| type.toWire) out
  writeU16 capacity value out

/-- One attribute for each entry of an array. -/
def writeTvAttributes (capacity : Nat) (type : AttributeType) : List UInt16 → Bytes → Option Bytes
  | [], out => some out
  | value :: values, out => do
    let out ← writeTvAttribute capacity type value out
    writeTvAttributes capacity type values out

/-- The attribute of an optional field. -/
def writeTvAttributeIf (present : Bool) (capacity : Nat) (type : AttributeType) (value : UInt16) (out : Bytes) :
    Option Bytes :=
  if present then writeTvAttribute capacity type value out else some out

def writeSupportedNotifyPayload (params : ChannelParameters) (capacity : Nat) : Option Bytes := do
  guard params.valid
  let out ← writeTvAttribute capacity .maxCid params.maxCid []
  let out ← writeTvAttributes capacity .profile params.profiles out
  let out ← writeTvAttributes capacity .integrity params.integrityAlgorithms out
  let out ← writeTvAttributeIf params.hasIcvLen capacity .icvLength params.icvLen out
  writeTvAttributeIf params.hasMrru capacity .mrru params.mrru out

/-- The parameters read so far, and the flag `saw_max_cid`. -/
structure NotifyState where
  params : ChannelParameters := {}
  sawMaxCid : Bool := false
deriving DecidableEq, Repr

/-- The switch over the types of TV attributes. -/
def NotifyState.applyTv (st : NotifyState) (type value : UInt16) : Option NotifyState :=
  match AttributeType.ofWire type with
  | some .maxCid =>
    if st.sawMaxCid || value > maxCidLimit then none
    else some { params := { st.params with maxCid := value }, sawMaxCid := true }
  | some .profile => (st.params.appendProfile value).map fun params => { st with params := params }
  | some .integrity => (st.params.appendIntegrity value).map fun params => { st with params := params }
  | some .icvLength =>
    if st.params.hasIcvLen then none
    else some { st with params := { st.params with icvLen := value, hasIcvLen := true } }
  | some .mrru =>
    if st.params.hasMrru then none
    else some { st with params := { st.params with mrru := value, hasMrru := true } }
  | none => some st

/-- One round of the loop: the new state and the new position. -/
def parseAttribute (data : Bytes) (pos : Nat) (st : NotifyState) : Option (NotifyState × Nat) := do
  let typeField ← readU16 data pos
  let value ← readU16 data (pos + 2)
  let pos := pos + 4
  if typeField &&& tvAttributeFlag = 0 then
    if pos + value.toNat > data.length then none else some (st, pos + value.toNat)
  else (st.applyTv (typeField &&& attributeTypeMask) value).map fun st => (st, pos)

/-- A round takes four octets at least, and stays within the payload. -/
theorem parseAttribute_advances {data : Bytes} {pos pos' : Nat} {st st' : NotifyState}
    (h : parseAttribute data pos st = some (st', pos')) : pos + 4 ≤ pos' ∧ pos' ≤ data.length := by
  unfold parseAttribute at h
  obtain ⟨typeField, htype, h⟩ := Option.bind_eq_some_iff.mp h
  obtain ⟨value, hvalue, h⟩ := Option.bind_eq_some_iff.mp h
  have hlen : pos + 4 ≤ data.length := by
    unfold readU16 at hvalue
    split at hvalue
    · cases hvalue
    · omega
  simp only at h
  split at h
  · split at h
    · cases h
    · obtain ⟨-, rfl⟩ := Prod.mk.inj (Option.some.inj h)
      omega
  · obtain ⟨st₁, -, h⟩ := Option.map_eq_some_iff.mp h
    obtain ⟨-, rfl⟩ := Prod.mk.inj h
    omega

/-- The loop. Every round moves on, so it ends. -/
def parseAttributes (data : Bytes) (pos : Nat) (st : NotifyState) : Option (NotifyState × Nat) :=
  if pos + 4 ≤ data.length then
    match h : parseAttribute data pos st with
    | none => none
    | some next => parseAttributes data next.2 next.1
  else some (st, pos)
termination_by data.length - pos
decreasing_by
  have := parseAttribute_advances (Prod.eta next ▸ h)
  omega

def parseSupportedNotifyPayload (data : Bytes) : Option ChannelParameters := do
  let (st, pos) ← parseAttributes data 0 {}
  guard (pos = data.length && st.sawMaxCid && st.params.valid)
  return st.params

/-! ## Attributes -/

/-- A type without the flag of the TV format. -/
abbrev TypeField := { type : UInt16 // type &&& tvAttributeFlag = 0 }

/-- An attribute: a type and a value, or a type and octets behind their length. -/
inductive Attribute
  | tv (type : TypeField) (value : UInt16)
  | tlv (type : TypeField) (octets : { octets : Bytes // octets.length < 65536 })

namespace Attribute

def wire : Attribute → Bytes
  | tv type value => be16 (tvAttributeFlag ||| type.val) ++ be16 value
  | tlv type octets => be16 type.val ++ be16 (UInt16.ofNat octets.val.length) ++ octets.val

/-- What an attribute says. -/
def apply (st : NotifyState) : Attribute → Option NotifyState
  | tv type value => st.applyTv type.val value
  | tlv _ _ => some st

/-- Attributes the reader passes over: every one that is not TV, and TV of unknown type. -/
def Skipped : Attribute → Prop
  | tv type _ => AttributeType.ofWire type.val = none
  | tlv _ _ => True

theorem apply_skipped {a : Attribute} (h : a.Skipped) (st : NotifyState) : a.apply st = some st := by
  cases a with
  | tv type value =>
    show st.applyTv type.val value = some st
    unfold NotifyState.applyTv
    rw [show AttributeType.ofWire type.val = none from h]
  | tlv type octets => rfl

/-- A TV attribute of a known type. -/
def known (type : AttributeType) (value : UInt16) : Attribute := .tv ⟨type.toWire, by cases type <;> decide⟩ value

end Attribute

/-- Attributes one after another. -/
def wires (attributes : List Attribute) : Bytes := attributes.flatMap Attribute.wire

/-- What the attributes say one after another. -/
def applyAll (st : NotifyState) (attributes : List Attribute) : Option NotifyState := attributes.foldlM Attribute.apply st

/-- Read a payload from the first attribute to the last octet. -/
def complete (data : Bytes) (st : NotifyState) : Option NotifyState := do
  let (st, pos) ← parseAttributes data 0 st
  guard (pos = data.length)
  return st

/-! ## One attribute -/

section Rounds

variable {data rest : Bytes} {pos pos' : Nat} {st st' : NotifyState} {a : Attribute}

theorem readU16_of_drop {value : UInt16} (h : data.drop pos = be16 value ++ rest) :
    readU16 data pos = some value ∧ data.drop (pos + 2) = rest := by
  have hlen := congrArg List.length h
  rw [List.length_drop, List.length_append, length_be16] at hlen
  have hvalue : u16At data pos = value := by
    have := u16At_drop data pos 0
    rw [h] at this
    exact this.symm.trans (ofBe16_be16 value)
  refine ⟨?_, ?_⟩
  · rw [readU16, if_neg (by omega), hvalue]
  · rw [← List.drop_drop, h]
    rfl

theorem drop_of_readU16 {value : UInt16} (h : readU16 data pos = some value) :
    data.drop pos = be16 value ++ data.drop (pos + 2) := by
  unfold readU16 at h
  split at h
  · cases h
  case isFalse hlen =>
    rw [← Option.some.inj h, u16At, u8At, u8At, be16_slice (by omega)]
    exact (slice_append_drop rfl).symm

theorem flag_cases (typeField : UInt16) :
    typeField &&& tvAttributeFlag = 0 ∨ typeField &&& tvAttributeFlag = tvAttributeFlag := by
  have h : (typeField &&& tvAttributeFlag).toNat = (typeField.toNat.testBit 15).toNat * 2 ^ 15 := by
    rw [UInt16.toNat_and]
    exact Nat.and_two_pow _ 15
  cases hbit : typeField.toNat.testBit 15 with
  | false =>
    rw [hbit] at h
    exact .inl (UInt16.toNat_inj.mp h)
  | true =>
    rw [hbit] at h
    exact .inr (UInt16.toNat_inj.mp h)

theorem or_and_word (a b c : UInt16) : (a ||| b) &&& c = (a &&& c) ||| (b &&& c) :=
  UInt16.toBitVec_inj.mp BitVec.and_or_distrib_right

/-- The flag and the type make up the first word. -/
theorem flag_or_mask (typeField : UInt16) :
    (typeField &&& tvAttributeFlag) ||| (typeField &&& attributeTypeMask) = typeField := by
  rw [UInt16.and_comm typeField, UInt16.and_comm typeField, ← or_and_word]
  exact UInt16.neg_one_and

theorem TypeField.and_mask (type : TypeField) : type.val &&& attributeTypeMask = type.val := by
  have h := flag_or_mask type.val
  rwa [type.property, UInt16.zero_or] at h

theorem TypeField.flag (type : TypeField) : (tvAttributeFlag ||| type.val) &&& tvAttributeFlag ≠ 0 := by
  rw [or_and_word, type.property]
  decide

theorem TypeField.mask (type : TypeField) : (tvAttributeFlag ||| type.val) &&& attributeTypeMask = type.val := by
  rw [or_and_word, type.and_mask, show tvAttributeFlag &&& attributeTypeMask = 0 from by decide,
    UInt16.zero_or]

/-- A word with the flag is the flag and a type. -/
theorem exists_typeField {typeField : UInt16} (h : typeField &&& tvAttributeFlag ≠ 0) :
    ∃ type : TypeField, typeField = tvAttributeFlag ||| type.val ∧ typeField &&& attributeTypeMask = type.val := by
  have hflag := (flag_cases typeField).resolve_left h
  refine ⟨⟨typeField &&& attributeTypeMask, ?_⟩, ?_, rfl⟩
  · rw [UInt16.and_assoc, show attributeTypeMask &&& tvAttributeFlag = 0 from by decide, UInt16.and_zero]
  · show typeField = tvAttributeFlag ||| (typeField &&& attributeTypeMask)
    exact (flag_or_mask typeField).symm.trans (congrArg (· ||| (typeField &&& attributeTypeMask)) hflag)

theorem parseAttribute_wire (h : data.drop pos = a.wire ++ rest) :
    parseAttribute data pos st = (a.apply st).map fun st => (st, pos + a.wire.length) := by
  have hlen := congrArg List.length h
  rw [List.length_drop, List.length_append] at hlen
  unfold parseAttribute
  cases a with
  | tv type value =>
    rw [Attribute.wire, List.append_assoc] at h
    obtain ⟨htype, h⟩ := readU16_of_drop h
    obtain ⟨hvalue, -⟩ := readU16_of_drop h
    rw [htype, hvalue]
    simp only [Option.bind_eq_bind, Option.bind_some]
    rw [if_neg type.flag, type.mask]
    rfl
  | tlv type octets =>
    rw [Attribute.wire, List.append_assoc, List.append_assoc] at h
    obtain ⟨htype, h⟩ := readU16_of_drop h
    obtain ⟨hvalue, -⟩ := readU16_of_drop h
    have hoctets : (UInt16.ofNat octets.val.length).toNat = octets.val.length := by
      rw [UInt16.toNat_ofNat', Nat.mod_eq_of_lt octets.property]
    have hwire : (Attribute.tlv type octets).wire.length = 4 + octets.val.length := by
      simp only [Attribute.wire, List.length_append, length_be16]
    rw [htype, hvalue]
    simp only [Option.bind_eq_bind, Option.bind_some]
    rw [if_pos type.property, hoctets, hwire, if_neg (by omega), Nat.add_assoc]
    rfl

/-- A round that succeeds read an attribute. -/
theorem parseAttribute_eq_some (h : parseAttribute data pos st = some (st', pos')) :
    ∃ a : Attribute, data.drop pos = a.wire ++ data.drop pos' ∧ a.apply st = some st' := by
  unfold parseAttribute at h
  obtain ⟨typeField, htype, h⟩ := Option.bind_eq_some_iff.mp h
  obtain ⟨value, hvalue, h⟩ := Option.bind_eq_some_iff.mp h
  have hfront : data.drop pos = be16 typeField ++ (be16 value ++ data.drop (pos + 4)) := by
    rw [drop_of_readU16 htype, drop_of_readU16 hvalue]
  simp only at h
  split at h
  case isTrue hflag =>
    split at h
    · cases h
    case isFalse hroom =>
      obtain ⟨rfl, rfl⟩ := Prod.mk.inj (Option.some.inj h)
      have hoctets : (slice data (pos + 4) value.toNat).length = value.toNat := length_slice (by omega)
      refine ⟨.tlv ⟨typeField, hflag⟩ ⟨slice data (pos + 4) value.toNat, by rw [hoctets]; exact value.toNat_lt⟩, ?_, rfl⟩
      show _ = be16 typeField ++ be16 (UInt16.ofNat (slice data (pos + 4) value.toNat).length) ++
        slice data (pos + 4) value.toNat ++ _
      rw [hoctets, UInt16.ofNat_toNat, hfront, List.append_assoc, List.append_assoc, slice_append_drop rfl]
  case isFalse hflag =>
    obtain ⟨st₁, happly, h⟩ := Option.map_eq_some_iff.mp h
    obtain ⟨rfl, rfl⟩ := Prod.mk.inj h
    obtain ⟨type, hword, hmask⟩ := exists_typeField hflag
    refine ⟨.tv type value, ?_, ?_⟩
    · rw [Attribute.wire, ← hword, List.append_assoc, hfront]
    · rw [hmask] at happly
      exact happly

theorem Attribute.length_wire (a : Attribute) : 4 ≤ a.wire.length := by
  cases a with
  | tv type value => exact Nat.le_refl 4
  | tlv type octets =>
    simp only [wire, List.length_append, length_be16]
    omega

end Rounds

/-! ## The loop -/

section Loop

variable {data rest : Bytes} {st st' : NotifyState} {a : Attribute} {attributes : List Attribute}

theorem readU16_drop (data : Bytes) (n pos : Nat) : readU16 (data.drop n) pos = readU16 data (n + pos) := by
  unfold readU16
  rw [u16At_drop, List.length_drop]
  by_cases h : n + pos + 2 > data.length
  · rw [if_pos (by omega), if_pos h]
  · rw [if_neg (by omega), if_neg h]

/-- A round looks at what is left of the payload only. -/
theorem parseAttribute_drop (data : Bytes) (n pos : Nat) (st : NotifyState) :
    parseAttribute data (n + pos) st = (parseAttribute (data.drop n) pos st).map fun r => (r.1, n + r.2) := by
  unfold parseAttribute
  rw [readU16_drop, readU16_drop, ← Nat.add_assoc]
  cases htype : readU16 data (n + pos) with
  | none => rfl
  | some typeField =>
    cases hvalue : readU16 data (n + pos + 2) with
    | none => rfl
    | some value =>
      have hlen : n + pos + 4 ≤ data.length := by
        unfold readU16 at hvalue
        split at hvalue
        · cases hvalue
        · omega
      simp only [Option.bind_eq_bind, Option.bind_some, List.length_drop]
      split
      · by_cases hroom : n + pos + 4 + value.toNat > data.length
        · rw [if_pos hroom, if_pos (by omega)]
          rfl
        · rw [if_neg hroom, if_neg (by omega), Nat.add_assoc n pos 4, Nat.add_assoc n]
          rfl
      · rw [Option.map_map, Nat.add_assoc]
        rfl

theorem parseAttributes_eq (data : Bytes) (pos : Nat) (st : NotifyState) :
    parseAttributes data pos st =
      if pos + 4 ≤ data.length then (parseAttribute data pos st).bind fun next => parseAttributes data next.2 next.1
      else some (st, pos) := by
  rw [parseAttributes]
  split
  · split
    case h_1 hround => rw [hround, Option.bind_none]
    case h_2 next hround => rw [hround, Option.bind_some]
  · rfl

theorem parseAttributes_drop (data : Bytes) (n pos : Nat) (st : NotifyState) :
    parseAttributes data (n + pos) st = (parseAttributes (data.drop n) pos st).map fun r => (r.1, n + r.2) := by
  fun_induction parseAttributes (data.drop n) pos st with
  | case1 pos st hlen hround =>
    rw [List.length_drop] at hlen
    rw [parseAttributes_eq, if_pos (by omega), parseAttribute_drop, hround]
    rfl
  | case2 pos st hlen next hround ih =>
    rw [List.length_drop] at hlen
    rw [parseAttributes_eq, if_pos (by omega), parseAttribute_drop, hround]
    exact ih
  | case3 pos st hlen =>
    rw [List.length_drop] at hlen
    rw [parseAttributes_eq, if_neg (by omega)]
    rfl

/-- **One attribute at a time.** -/
theorem complete_wire (a : Attribute) (rest : Bytes) (st : NotifyState) :
    complete (a.wire ++ rest) st = (a.apply st).bind (complete rest) := by
  unfold complete
  have hlen := a.length_wire
  have hfront : (a.wire ++ rest).drop 0 = a.wire ++ rest := rfl
  rw [parseAttributes_eq, if_pos (by rw [List.length_append]; omega), parseAttribute_wire hfront]
  cases happly : a.apply st with
  | none => rfl
  | some st₁ =>
    simp only [Option.map_some, Option.bind_some, Nat.zero_add]
    rw [show a.wire.length = a.wire.length + 0 from rfl, parseAttributes_drop, List.drop_left]
    cases parseAttributes rest 0 st₁ with
    | none => rfl
    | some r =>
      simp only [Option.map_some, Option.bind_eq_bind, Option.bind_some, List.length_append, Nat.add_left_cancel_iff]

theorem complete_wires (attributes : List Attribute) (rest : Bytes) (st : NotifyState) :
    complete (wires attributes ++ rest) st = (applyAll st attributes).bind (complete rest) := by
  induction attributes generalizing st with
  | nil => rfl
  | cons a as ih =>
    rw [wires, List.flatMap_cons, List.append_assoc, complete_wire, applyAll, List.foldlM_cons]
    cases a.apply st with
    | none => rfl
    | some st₁ => exact ih st₁

theorem complete_short (h : data.length < 4) : complete data st = if data = [] then some st else none := by
  unfold complete
  rw [parseAttributes_eq, if_neg (by omega)]
  by_cases hnil : data = []
  · subst hnil
    rfl
  · have hpos := List.length_pos_iff.mpr hnil
    rw [if_neg hnil, Option.bind_eq_bind, Option.bind_some]
    exact guard_bind_of_not (by omega) _

/-- A payload is read to its end exactly if it is a list of attributes. -/
theorem complete_eq_some_iff :
    complete data st = some st' ↔ ∃ attributes, data = wires attributes ∧ applyAll st attributes = some st' := by
  constructor
  · intro h
    induction hn : data.length using Nat.strong_induction_on generalizing data st with
    | _ n ih =>
    by_cases hlen : data.length < 4
    · rw [complete_short hlen] at h
      split at h
      case isTrue hnil => exact ⟨[], hnil, h⟩
      case isFalse => cases h
    · have hround := h
      unfold complete at hround
      rw [parseAttributes_eq, if_pos (by omega)] at hround
      cases hparse : parseAttribute data 0 st with
      | none =>
        rw [hparse] at hround
        cases hround
      | some next =>
        have hnext : parseAttribute data 0 st = some (next.1, next.2) := hparse
        obtain ⟨a, hfront, happly⟩ := parseAttribute_eq_some hnext
        rw [List.drop_zero] at hfront
        rw [hfront, complete_wire, happly, Option.bind_some] at h
        have hshort : (data.drop next.2).length < n := by
          have := a.length_wire
          have hsplit := congrArg List.length hfront
          rw [List.length_append] at hsplit
          omega
        obtain ⟨attributes, hrest, hall⟩ := ih _ hshort h rfl
        refine ⟨a :: attributes, ?_, ?_⟩
        · rw [wires, List.flatMap_cons, ← wires, ← hrest]
          exact hfront
        · rw [applyAll, List.foldlM_cons, happly]
          exact hall
  · rintro ⟨attributes, rfl, hall⟩
    have hend : complete [] st' = some st' := (complete_short (by decide)).trans (if_pos rfl)
    rw [← List.append_nil (wires attributes), complete_wires, hall, Option.bind_some, hend]

/-- The result of a payload read to its end. -/
def NotifyState.accepted (st : NotifyState) : Option ChannelParameters :=
  if st.sawMaxCid && st.params.valid then some st.params else none

theorem parseSupportedNotifyPayload_eq (data : Bytes) :
    parseSupportedNotifyPayload data = (complete data {}).bind NotifyState.accepted := by
  unfold parseSupportedNotifyPayload complete
  cases parseAttributes data 0 {} with
  | none => rfl
  | some r =>
    obtain ⟨st, pos⟩ := r
    show (guard _ >>= fun _ => _) = Option.bind (guard _ >>= fun _ => _) _
    by_cases hpos : pos = data.length
    · rw [guard_bind hpos]
      simp only [hpos, decide_true, Bool.true_and, Option.pure_def, Option.bind_some]
      unfold NotifyState.accepted
      split
      case isTrue h => rw [guard_bind h]
      case isFalse h => rw [guard_bind_of_not h]
    · rw [guard_bind_of_not hpos, guard_bind_of_not (by simp [hpos])]
      rfl

end Loop

/-! ## Written payloads -/

section Written

variable {capacity : Nat} {out : Bytes} {params : ChannelParameters} {st : NotifyState}

/-- The attribute of an optional field, if the field is there. -/
def knownIf (present : Bool) (type : AttributeType) (value : UInt16) : List Attribute :=
  if present then [Attribute.known type value] else []

/-- The attributes of a parameter set, in the order of the writer. -/
def attributesOf (params : ChannelParameters) : List Attribute :=
  Attribute.known .maxCid params.maxCid ::
    (params.profiles.map (Attribute.known .profile) ++
      (params.integrityAlgorithms.map (Attribute.known .integrity) ++
        (knownIf params.hasIcvLen .icvLength params.icvLen ++ knownIf params.hasMrru .mrru params.mrru)))

/-- Four octets for each attribute. -/
def notifyPayloadLen (params : ChannelParameters) : Nat := 4 * (attributesOf params).length

theorem wires_cons (a : Attribute) (as : List Attribute) : wires (a :: as) = a.wire ++ wires as := List.flatMap_cons

theorem wires_append (xs ys : List Attribute) : wires (xs ++ ys) = wires xs ++ wires ys := List.flatMap_append

theorem length_wire_known (type : AttributeType) (value : UInt16) : (Attribute.known type value).wire.length = 4 := rfl

theorem length_wires_known (type : AttributeType) (values : List UInt16) :
    (wires (values.map (Attribute.known type))).length = 4 * values.length := by
  induction values with
  | nil => rfl
  | cons value values ih =>
    rw [List.map_cons, wires_cons, List.length_append, ih, length_wire_known, List.length_cons]
    exact Nat.add_comm 4 _

theorem length_wires_knownIf (present : Bool) (type : AttributeType) (value : UInt16) :
    (wires (knownIf present type value)).length = 4 * (knownIf present type value).length := by
  cases present <;> rfl

theorem writeTvAttribute_of_le {type : AttributeType} {value : UInt16} (h : out.length + 4 ≤ capacity) :
    writeTvAttribute capacity type value out = some (out ++ (Attribute.known type value).wire) := by
  unfold writeTvAttribute writeU16
  rw [put_of_le (by rw [length_be16]; omega), Option.bind_eq_bind, Option.bind_some,
    put_of_le (by rw [List.length_append, length_be16, length_be16]; omega), List.append_assoc]
  rfl

theorem writeTvAttributes_of_le {type : AttributeType} {values : List UInt16}
    (h : out.length + 4 * values.length ≤ capacity) :
    writeTvAttributes capacity type values out = some (out ++ wires (values.map (Attribute.known type))) := by
  induction values generalizing out with
  | nil => rw [writeTvAttributes, List.map_nil, wires, List.flatMap_nil, List.append_nil]
  | cons value values ih =>
    rw [List.length_cons] at h
    rw [writeTvAttributes, writeTvAttribute_of_le (by omega), Option.bind_eq_bind, Option.bind_some,
      ih (by rw [List.length_append, length_wire_known]; omega), List.append_assoc]
    rfl

theorem writeTvAttributeIf_of_le {present : Bool} {type : AttributeType} {value : UInt16}
    (h : out.length + 4 * (knownIf present type value).length ≤ capacity) :
    writeTvAttributeIf present capacity type value out = some (out ++ wires (knownIf present type value)) := by
  cases present with
  | false => exact congrArg some (List.append_nil out).symm
  | true => exact writeTvAttribute_of_le h

theorem writeSupportedNotifyPayload_eq (hvalid : params.valid = true) (hroom : notifyPayloadLen params ≤ capacity) :
    writeSupportedNotifyPayload params capacity = some (wires (attributesOf params)) := by
  unfold notifyPayloadLen attributesOf at hroom
  simp only [List.length_cons, List.length_append, List.length_map] at hroom
  have hp := length_wires_known .profile params.profiles
  have ha := length_wires_known .integrity params.integrityAlgorithms
  have hi := length_wires_knownIf params.hasIcvLen .icvLength params.icvLen
  unfold writeSupportedNotifyPayload attributesOf
  rw [guard_bind hvalid, writeTvAttribute_of_le (by rw [List.length_nil]; omega)]
  simp only [Option.bind_eq_bind, Option.bind_some]
  rw [writeTvAttributes_of_le (by rw [List.nil_append, length_wire_known]; omega), Option.bind_some,
    writeTvAttributes_of_le (by rw [List.nil_append, List.length_append, length_wire_known, hp]; omega), Option.bind_some,
    writeTvAttributeIf_of_le (by simp only [List.nil_append, List.length_append, length_wire_known, hp, ha]; omega),
    Option.bind_some, writeTvAttributeIf_of_le (by simp only [List.nil_append, List.length_append, length_wire_known, hp, ha, hi]; omega)]
  simp only [wires_cons, wires_append, List.append_assoc, List.nil_append]

/-! ## Reading a written payload -/

theorem applyAll_append (st : NotifyState) (xs ys : List Attribute) :
    applyAll st (xs ++ ys) = (applyAll st xs).bind fun st => applyAll st ys := List.foldlM_append

theorem apply_known (st : NotifyState) (type : AttributeType) (value : UInt16) :
    (Attribute.known type value).apply st = st.applyTv type.toWire value := rfl

/-- Values that an attribute type appends to a list, one after another. -/
theorem applyAll_known {type : AttributeType} {state : List UInt16 → NotifyState} {front values : List UInt16}
    (step : ∀ xs v ys, xs ++ v :: ys = front ++ values →
      (Attribute.known type v).apply (state xs) = some (state (xs ++ [v]))) :
    applyAll (state front) (values.map (Attribute.known type)) = some (state (front ++ values)) := by
  induction values generalizing front with
  | nil => rw [List.append_nil]; rfl
  | cons v vs ih =>
    rw [List.map_cons, applyAll, List.foldlM_cons, step front v vs rfl]
    refine (ih fun xs w ys h => step xs w ys ?_).trans ?_
    · rw [h, List.append_assoc, List.singleton_append]
    · rw [List.append_assoc, List.singleton_append]

/-- An entry of a list without repetitions is not among those in front of it. -/
theorem fresh_of_nodup {xs ys : List UInt16} {v : UInt16} (h : (xs ++ v :: ys).Nodup) : v ∉ xs :=
  fun hm => (List.nodup_append.mp h).2.2 v hm v List.mem_cons_self rfl

/-- Profiles that may stand in one set are appended one after another. -/
theorem applyAll_profiles (v : Valid params) (st : NotifyState) :
    applyAll { st with params := { st.params with profiles := [] } } (params.profiles.map (Attribute.known .profile)) =
      some { st with params := { st.params with profiles := params.profiles } } := by
  refine @applyAll_known .profile (fun ps => { st with params := { st.params with profiles := ps } }) [] params.profiles
    fun xs p ys h => ?_
  rw [List.nil_append] at h
  have hmem : p ∈ params.profiles := h ▸ List.mem_append_right xs List.mem_cons_self
  have hroom := v.profiles_le
  rw [← h, List.length_append, List.length_cons] at hroom
  rw [apply_known]
  show Option.map _ (appendProfile _ p) = _
  rw [appendProfile_of_fresh (v.profiles_supported p hmem) (fresh_of_nodup (h ▸ v.profiles_nodup)) (by dsimp only; omega)]
  rfl

theorem applyAll_algorithms (v : Valid params) (st : NotifyState) :
    applyAll { st with params := { st.params with integrityAlgorithms := [] } }
        (params.integrityAlgorithms.map (Attribute.known .integrity)) =
      some { st with params := { st.params with integrityAlgorithms := params.integrityAlgorithms } } := by
  refine @applyAll_known .integrity (fun as => { st with params := { st.params with integrityAlgorithms := as } }) []
    params.integrityAlgorithms fun xs a ys h => ?_
  rw [List.nil_append] at h
  have hmem : a ∈ params.integrityAlgorithms := h ▸ List.mem_append_right xs List.mem_cons_self
  have hroom := v.algorithms_le
  rw [← h, List.length_append, List.length_cons] at hroom
  rw [apply_known]
  show Option.map _ (appendIntegrity _ a) = _
  rw [appendIntegrity_of_fresh (v.algorithms_supported a hmem) (fresh_of_nodup (h ▸ v.algorithms_nodup))
    (by dsimp only; omega)]
  rfl

/-- Fields that are absent are zero: what the writer leaves out the reader leaves at its default. -/
def AbsentZero (params : ChannelParameters) : Prop :=
  (params.hasIcvLen = false → params.icvLen = 0) ∧ (params.hasMrru = false → params.mrru = 0)

instance (params : ChannelParameters) : Decidable (AbsentZero params) := inferInstanceAs (Decidable (_ ∧ _))

theorem applyAll_attributesOf (hvalid : params.valid = true) (habsent : AbsentZero params) :
    applyAll {} (attributesOf params) = some { params := params, sawMaxCid := true } := by
  have v := (valid_iff params).mp hvalid
  have hcid : (Attribute.known .maxCid params.maxCid).apply {} =
      some { params := { maxCid := params.maxCid }, sawMaxCid := true } := by
    rw [apply_known]
    exact if_neg (by simpa using v.maxCid)
  have hp := applyAll_profiles v { params := { maxCid := params.maxCid }, sawMaxCid := true }
  have ha := applyAll_algorithms v
    { params := { maxCid := params.maxCid, profiles := params.profiles }, sawMaxCid := true }
  rw [attributesOf, applyAll, List.foldlM_cons, hcid]
  show applyAll _ _ = _
  rw [applyAll_append]
  refine (congrArg (Option.bind · _) hp).trans ?_
  rw [Option.bind_some, applyAll_append]
  refine (congrArg (Option.bind · _) ha).trans ?_
  rw [Option.bind_some, applyAll_append]
  obtain ⟨hicv, hmrru⟩ := habsent
  obtain ⟨maxCid, profiles, algorithms, icvLen, hasIcvLen, mrru, hasMrru⟩ := params
  cases hasIcvLen with
  | false =>
    obtain rfl : icvLen = 0 := hicv rfl
    cases hasMrru with
    | false =>
      obtain rfl : mrru = 0 := hmrru rfl
      rfl
    | true => rfl
  | true =>
    cases hasMrru with
    | false =>
      obtain rfl : mrru = 0 := hmrru rfl
      rfl
    | true => rfl

end Written

/-! ## The laws -/

/-- A skipped attribute makes no difference, wherever it stands between others and whatever follows. -/
theorem parseSupportedNotifyPayload_skipped (front : List Attribute) {a : Attribute} (h : a.Skipped) (rest : Bytes) :
    parseSupportedNotifyPayload (wires front ++ a.wire ++ rest) = parseSupportedNotifyPayload (wires front ++ rest) := by
  rw [parseSupportedNotifyPayload_eq, parseSupportedNotifyPayload_eq, List.append_assoc, complete_wires, complete_wires]
  congr 2
  funext st
  rw [complete_wire, Attribute.apply_skipped h, Option.bind_some]

theorem parseSupportedNotifyPayload_written {params : ChannelParameters} (hvalid : params.valid = true)
    (habsent : AbsentZero params) : parseSupportedNotifyPayload (wires (attributesOf params)) = some params := by
  have hcomplete : complete (wires (attributesOf params)) {} = some { params := params, sawMaxCid := true } :=
    complete_eq_some_iff.mpr ⟨_, rfl, applyAll_attributesOf hvalid habsent⟩
  rw [parseSupportedNotifyPayload_eq, hcomplete, Option.bind_some]
  exact if_pos hvalid

/-- An accepted payload is a list of attributes, and its loop ends at the last octet. -/
theorem parseSupportedNotifyPayload_eq_some {data : Bytes} {params : ChannelParameters}
    (h : parseSupportedNotifyPayload data = some params) :
    ∃ st attributes, parseAttributes data 0 {} = some (st, data.length) ∧ data = wires attributes ∧
      applyAll {} attributes = some st ∧ st.params = params := by
  rw [parseSupportedNotifyPayload_eq] at h
  obtain ⟨st, hcomplete, haccepted⟩ := Option.bind_eq_some_iff.mp h
  obtain ⟨attributes, hdata, hall⟩ := complete_eq_some_iff.mp hcomplete
  refine ⟨st, attributes, ?_, hdata, hall, ?_⟩
  · unfold complete at hcomplete
    obtain ⟨⟨st', pos⟩, hloop, hend⟩ := Option.bind_eq_some_iff.mp hcomplete
    obtain ⟨hpos, hst⟩ := guard_bind_eq_some.mp (show (guard (pos = data.length) >>= fun _ => some st') = some st from hend)
    rw [hloop, hpos, Option.some.inj hst]
  · unfold NotifyState.accepted at haccepted
    split at haccepted
    · exact Option.some.inj haccepted
    · cases haccepted

/-- **The ROHC_SUPPORTED payload.** A written set is read back; attributes the reader does not know change nothing;
what is accepted is a list of attributes read to the last octet; and every round of the loop takes four octets or more
of the payload, so there are finitely many. -/
theorem notify_payload_codec :
    (∀ params capacity, params.valid = true → AbsentZero params → notifyPayloadLen params ≤ capacity →
      ∃ out, writeSupportedNotifyPayload params capacity = some out ∧
        parseSupportedNotifyPayload out = some params) ∧
    (∀ (front : List Attribute) (a : Attribute) (rest : Bytes), a.Skipped →
      parseSupportedNotifyPayload (wires front ++ a.wire ++ rest) =
        parseSupportedNotifyPayload (wires front ++ rest)) ∧
    (∀ data params, parseSupportedNotifyPayload data = some params →
      ∃ st attributes, parseAttributes data 0 {} = some (st, data.length) ∧ data = wires attributes ∧
        applyAll {} attributes = some st ∧ st.params = params) ∧
    (∀ data pos st st' pos', parseAttribute data pos st = some (st', pos') → pos + 4 ≤ pos' ∧ pos' ≤ data.length) := by
  refine ⟨fun params capacity hvalid habsent hroom => ?_, fun front a rest h => ?_, fun data params h => ?_,
    fun data pos st st' pos' h => parseAttribute_advances h⟩
  · exact ⟨_, writeSupportedNotifyPayload_eq hvalid hroom, parseSupportedNotifyPayload_written hvalid habsent⟩
  · exact parseSupportedNotifyPayload_skipped front h rest
  · exact parseSupportedNotifyPayload_eq_some h

theorem notify_payload_codec_keyed :
    ∃ out, writeSupportedNotifyPayload (ipChannel [12, 0] true 16) 20 = some out ∧
      parseSupportedNotifyPayload out = some (ipChannel [12, 0] true 16) :=
  notify_payload_codec.1 _ _ (by decide) (by decide) (by decide)

end Rohcoipsec

end Rohccxx
