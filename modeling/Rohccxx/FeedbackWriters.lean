import Rohccxx.FeedbackPackets

/-!
# Written feedback

The two writers of `core/feedback.hpp`. An element of `write_feedback_packet` is read back by `read_feedback_packet` in
front of any octets, and what that reader takes is never empty, so that the loops over feedback in front of a unit end.

* `readFeedbackOptions_write` — the option list, by induction on the options.
* `readFeedbackPacket_write` — a whole element: its size in the first octet or in a second one, its Add-CID octet, its
  options.
* `feedback_packet_round_trip` — the round trip with the bounds on what a reader takes.
-/

set_option autoImplicit false

namespace Rohccxx

open Octets

/-! ## The writer -/

def feedbackAckType : FeedbackType → UInt8
  | .ack => 0
  | .nack => 1
  | .staticNack => 2

/-- `feedback_options_wire_len` -/
def feedbackOptionsWireLen (options : List FeedbackOption) : Nat := (options.map fun o => 2 + o.value.length).sum

/-- The code octet of a feedback element. -/
def feedbackCode (type : FeedbackType) (mode : Option Mode) (hasOptions : Bool) : UInt8 :=
  ((feedbackAckType type &&& 0x03) <<< 6) ||| (if mode.isSome then 0x20 else 0) ||| (if hasOptions then 0x10 else 0) |||
    (match mode with
      | some mode => mode.toWire &&& 0x03
      | none => 0)

/-- The octets of an option. -/
def feedbackOptionOctets (option : FeedbackOption) : Bytes :=
  [option.type, UInt8.ofNat option.value.length] ++ option.value

/-- `write_feedback_packet` -/
def writeFeedbackPacket (cap : Nat) (feedback : Feedback) : Option Bytes :=
  if feedback.cid > 0x0F then none
  else
    let optionsLen := feedbackOptionsWireLen feedback.options
    let hasOptions := decide (optionsLen > 0)
    let hasAddCid := decide (feedback.cid > 0)
    let feedbackDataLen := 2 + if hasOptions then 1 + optionsLen else 0
    let bodyLen := (if hasAddCid then 1 else 0) + feedbackDataLen
    let extendedSize := decide (bodyLen > 7)
    let requiredLen := 1 + (if extendedSize then 1 else 0) + bodyLen
    if optionsLen > 0xFF ∨ bodyLen > 0xFF ∨ cap < requiredLen then none
    else
      some ([0xF0 ||| if extendedSize then 0 else UInt8.ofNat bodyLen] ++
        (if extendedSize then [UInt8.ofNat bodyLen] else []) ++
        (if hasAddCid then [0xE0 ||| (UInt8.ofNat feedback.cid &&& 0x0F)] else []) ++
        [feedbackCode feedback.type feedback.mode hasOptions, 0] ++
        if hasOptions then UInt8.ofNat optionsLen :: feedback.options.flatMap feedbackOptionOctets else [])

/-- A feedback value in the ranges of its fields: a small CID, and up to four options of up to four octets. -/
structure Feedback.Fits (feedback : Feedback) : Prop where
  cid : feedback.cid ≤ 15
  options : feedback.options.length ≤ 4
  values : ∀ option ∈ feedback.options, option.value.length ≤ 4

/-- What is read back: the element carries these four fields. -/
def Feedback.onWire (feedback : Feedback) : Feedback :=
  { cid := feedback.cid, type := feedback.type, mode := feedback.mode, options := feedback.options }

/-! ## Options -/

section Options

variable {options : List FeedbackOption}

theorem length_feedbackOptions (options : List FeedbackOption) :
    (options.flatMap feedbackOptionOctets).length = feedbackOptionsWireLen options := by
  induction options with
  | nil => rfl
  | cons option options ih =>
    rw [List.flatMap_cons, List.length_append, ih]
    simp only [feedbackOptionsWireLen, feedbackOptionOctets, List.map_cons, List.sum_cons, List.length_append,
      List.length_cons, List.length_nil]

theorem feedbackOptionsWireLen_le {m : Nat} (hvalues : ∀ option ∈ options, option.value.length ≤ 4)
    (hlen : options.length ≤ m) : feedbackOptionsWireLen options ≤ 6 * m := by
  induction options generalizing m with
  | nil => exact Nat.zero_le _
  | cons option options ih =>
    have hfirst := hvalues _ List.mem_cons_self
    rw [List.length_cons] at hlen
    have hrest := @ih (m - 1) (fun o ho => hvalues o (List.mem_cons_of_mem _ ho)) (by omega)
    simp only [feedbackOptionsWireLen, List.map_cons, List.sum_cons] at hrest ⊢
    omega

theorem feedbackOptionsWireLen_pos : 0 < feedbackOptionsWireLen options ↔ options ≠ [] := by
  cases options with
  | nil => simp [feedbackOptionsWireLen]
  | cons option options =>
    simp only [feedbackOptionsWireLen, List.map_cons, List.sum_cons, ne_eq, reduceCtorEq, not_false_eq_true, iff_true]
    omega

theorem length_le_feedbackOptionsWireLen (options : List FeedbackOption) :
    options.length ≤ feedbackOptionsWireLen options := by
  induction options with
  | nil => exact Nat.le_refl _
  | cons option options ih =>
    simp only [feedbackOptionsWireLen, List.map_cons, List.sum_cons, List.length_cons] at ih ⊢
    omega

/-- **Options are read back** behind those that were read before them. -/
theorem readFeedbackOptions_write {fuel : Nat} {acc : List FeedbackOption}
    (hvalues : ∀ option ∈ options, option.value.length ≤ 4) (hcount : acc.length + options.length ≤ 4)
    (hfuel : options.length < fuel) :
    readFeedbackOptions fuel (options.flatMap feedbackOptionOctets) acc = some (acc ++ options) := by
  induction options generalizing fuel acc with
  | nil =>
    obtain ⟨fuel, rfl⟩ := Nat.exists_eq_succ_of_ne_zero (Nat.pos_iff_ne_zero.mp hfuel)
    rw [List.append_nil]
    rfl
  | cons option options ih =>
    obtain ⟨fuel, rfl⟩ := Nat.exists_eq_succ_of_ne_zero (Nat.pos_iff_ne_zero.mp (Nat.zero_lt_of_lt hfuel))
    have hfirst := hvalues _ List.mem_cons_self
    rw [List.length_cons] at hcount hfuel
    have hlen : (UInt8.ofNat option.value.length).toNat = option.value.length := by
      rw [UInt8.toNat_ofNat']; omega
    have hoctets : (option :: options).flatMap feedbackOptionOctets =
        option.type :: UInt8.ofNat option.value.length ::
          (option.value ++ options.flatMap feedbackOptionOctets) := rfl
    rw [hoctets, readFeedbackOptions]
    · have hroom : ¬ ((option.type :: UInt8.ofNat option.value.length ::
          (option.value ++ options.flatMap feedbackOptionOctets)).length < 2 ∨ acc.length ≥ 4) := by
        simp only [List.length_cons]
        omega
      have hvalue : ¬ (option.value.length > 4 ∨
          (option.value ++ options.flatMap feedbackOptionOctets).length < option.value.length) := by
        rw [List.length_append]
        omega
      rw [if_neg hroom]
      simp only [u8At, List.getD_cons_succ, List.getD_cons_zero, hlen, List.drop_succ_cons, List.drop_zero,
        List.drop_left, List.take_left, if_neg hvalue]
      rw [ih (fun o ho => hvalues o (List.mem_cons_of_mem _ ho)) (by simp only [List.length_append, List.length_singleton]; omega)
        (by omega), List.append_assoc]
      rfl
    · intro h
      cases h

end Options

/-! ## Elements -/

section Elements

variable {feedback : Feedback}

/-- A code octet holds its parts, and does not look like an Add-CID octet. -/
theorem feedbackCode_fields (type : FeedbackType) (mode : Option Mode) (hasOptions : Bool) :
    feedbackTypeFromAckType ((feedbackCode type mode hasOptions >>> 6) &&& 0x03) = some type ∧
      (if feedbackCode type mode hasOptions &&& 0x20 ≠ 0 then
        (feedbackMode (feedbackCode type mode hasOptions &&& 0x03)).map some else some none) = some mode ∧
      (feedbackCode type mode hasOptions &&& 0x10 ≠ 0 ↔ hasOptions = true) ∧
      feedbackCode type mode hasOptions &&& 0xF0 ≠ 0xE0 := by
  have hmode : mode = none ∨ mode = some .uncompressed ∨ mode = some .optimistic ∨ mode = some .reliable := by
    cases mode with
    | none => exact .inl rfl
    | some mode => cases mode <;> simp
  cases type <;> cases hasOptions <;> rcases hmode with rfl | rfl | rfl | rfl <;> decide

/-- The octets behind the size of an element, without its Add-CID octet. -/
def feedbackData (feedback : Feedback) : Bytes :=
  let hasOptions := decide (feedbackOptionsWireLen feedback.options > 0)
  [feedbackCode feedback.type feedback.mode hasOptions, 0] ++
    if hasOptions then
      UInt8.ofNat (feedbackOptionsWireLen feedback.options) :: feedback.options.flatMap feedbackOptionOctets
    else []

theorem length_feedbackData (feedback : Feedback) :
    (feedbackData feedback).length = 2 + if decide (feedbackOptionsWireLen feedback.options > 0) then
      1 + feedbackOptionsWireLen feedback.options else 0 := by
  unfold feedbackData
  dsimp only
  rw [List.length_append]
  split
  · simp only [List.length_cons, List.length_nil, length_feedbackOptions]
    omega
  · rfl

/-- The data of an element are read back. -/
theorem readFeedbackBody_write (h : feedback.Fits) (cid : Nat) :
    readFeedbackBody cid (feedbackData feedback) =
      some { cid := cid, type := feedback.type, mode := feedback.mode, options := feedback.options } := by
  have hwire := feedbackOptionsWireLen_le h.values h.options
  have hlen := length_feedbackData feedback
  obtain ⟨htype, hmode, hflag, -⟩ := feedbackCode_fields feedback.type feedback.mode
    (decide (feedbackOptionsWireLen feedback.options > 0))
  have hcode : u8At (feedbackData feedback) 0 = feedbackCode feedback.type feedback.mode
      (decide (feedbackOptionsWireLen feedback.options > 0)) := rfl
  have hmode : readFeedbackMode (feedbackData feedback) = some feedback.mode := by
    unfold readFeedbackMode
    rw [hcode]
    exact hmode
  rw [readFeedbackBody_eq, if_neg (by omega), hcode, htype, Option.bind_some, hmode, Option.bind_some]
  suffices htail : readFeedbackTail (feedbackData feedback) = some feedback.options by rw [htail]; rfl
  unfold readFeedbackTail
  rw [hcode]
  by_cases hpos : feedbackOptionsWireLen feedback.options > 0
  · have hdrop : (feedbackData feedback).drop 2 =
        UInt8.ofNat (feedbackOptionsWireLen feedback.options) :: feedback.options.flatMap feedbackOptionOctets := by
      simp [feedbackData, hpos]
    have hoctet : (UInt8.ofNat (feedbackOptionsWireLen feedback.options)).toNat =
        feedbackOptionsWireLen feedback.options := by
      rw [UInt8.toNat_ofNat']; omega
    rw [if_pos (hflag.mpr (decide_eq_true hpos)), hdrop]
    have hsize : ¬ ((UInt8.ofNat (feedbackOptionsWireLen feedback.options) ::
          feedback.options.flatMap feedbackOptionOctets).length < 1 ∨
        (UInt8.ofNat (feedbackOptionsWireLen feedback.options) ::
          feedback.options.flatMap feedbackOptionOctets).length - 1 ≠
          (u8At (UInt8.ofNat (feedbackOptionsWireLen feedback.options) ::
            feedback.options.flatMap feedbackOptionOctets) 0).toNat) := by
      simp only [List.length_cons, length_feedbackOptions, u8At, List.getD_cons_zero, hoctet]
      omega
    rw [if_neg hsize]
    exact readFeedbackOptions_write h.values (by simpa using h.options) (by
      rw [List.length_cons, length_feedbackOptions]
      have := length_le_feedbackOptionsWireLen feedback.options
      omega)
  · have hnil : feedback.options = [] := by
      by_contra hne
      exact hpos (feedbackOptionsWireLen_pos.mpr hne)
    have hoff : ¬ (feedbackCode feedback.type feedback.mode
        (decide (feedbackOptionsWireLen feedback.options > 0)) &&& 0x10 ≠ 0) := fun hne =>
      hpos (of_decide_eq_true (hflag.mp hne))
    rw [if_neg hoff]
    simp [feedbackData, hnil, feedbackOptionsWireLen]

/-- The first octets of an element with a body of `n` octets. -/
def feedbackSize (n : Nat) : Bytes := if n > 7 then [0xF0, UInt8.ofNat n] else [0xF0 ||| UInt8.ofNat n]

/-- The octets behind the size of an element. -/
def feedbackBody (feedback : Feedback) : Bytes :=
  (if feedback.cid > 0 then [0xE0 ||| (UInt8.ofNat feedback.cid &&& 0x0F)] else []) ++ feedbackData feedback

def feedbackElement (feedback : Feedback) : Bytes :=
  feedbackSize (feedbackBody feedback).length ++ feedbackBody feedback

theorem length_feedbackBody_le (h : feedback.Fits) :
    2 ≤ (feedbackBody feedback).length ∧ (feedbackBody feedback).length ≤ 28 := by
  have hwire := feedbackOptionsWireLen_le h.values h.options
  have hlen := length_feedbackData feedback
  unfold feedbackBody
  rw [List.length_append]
  constructor
  · omega
  · have hcid : (if feedback.cid > 0 then [(0xE0 : UInt8) ||| (UInt8.ofNat feedback.cid &&& 0x0F)] else []).length ≤ 1 := by
      split
      · exact Nat.le_refl 1
      · exact Nat.zero_le 1
    split at hlen <;> omega

/-- The writer's octets. -/
theorem writeFeedbackPacket_eq (h : feedback.Fits) (cap : Nat) : writeFeedbackPacket cap feedback =
    if cap < (feedbackElement feedback).length then none else some (feedbackElement feedback) := by
  have hwire := feedbackOptionsWireLen_le h.values h.options
  have hbody := length_feedbackBody_le h
  have hlen : (feedbackBody feedback).length = (if decide (feedback.cid > 0) then 1 else 0) +
      (2 + if decide (feedbackOptionsWireLen feedback.options > 0) then 1 + feedbackOptionsWireLen feedback.options
        else 0) := by
    unfold feedbackBody
    rw [List.length_append, length_feedbackData]
    congr 1
    by_cases hcid : feedback.cid > 0 <;> simp [hcid]
  have hcid := h.cid
  unfold writeFeedbackPacket
  rw [if_neg (by omega)]
  dsimp only
  rw [← hlen]
  have helement : (feedbackElement feedback).length = 1 + (if decide ((feedbackBody feedback).length > 7) then 1 else 0) +
      (feedbackBody feedback).length := by
    unfold feedbackElement feedbackSize
    rw [List.length_append]
    by_cases hext : (feedbackBody feedback).length > 7 <;> simp [hext]
  rw [← helement]
  have hfit : (feedbackOptionsWireLen feedback.options > 0xFF ∨ (feedbackBody feedback).length > 0xFF ∨
      cap < (feedbackElement feedback).length) ↔ cap < (feedbackElement feedback).length := by omega
  simp only [hfit]
  split
  · rfl
  · congr 1
    unfold feedbackElement
    generalize (feedbackBody feedback).length = n
    unfold feedbackSize feedbackBody feedbackData
    by_cases hext : n > 7 <;> by_cases hpos : feedback.cid > 0 <;> simp [hext, hpos]

/-- **The size is read back**, in one octet or in two. -/
theorem readFeedbackPacket_frame {body : Bytes} (hpos : 1 ≤ body.length) (hle : body.length ≤ 255) (rest : Bytes) :
    readFeedbackPacket (feedbackSize body.length ++ body ++ rest) =
      (readFeedbackAddCid body).map fun feedback => (feedback, (feedbackSize body.length ++ body).length) := by
  have hshort : ∀ n : Fin 8, isFeedbackPacketStart ((0xF0 : UInt8) ||| UInt8.ofNat n) = true ∧
      ((0xF0 : UInt8) ||| UInt8.ofNat n) &&& 0x07 = UInt8.ofNat n ∧ (UInt8.ofNat n).toNat = n := by decide
  rw [readFeedbackPacket_eq]
  by_cases hext : body.length > 7
  · have hsize : feedbackSize body.length = [0xF0, UInt8.ofNat body.length] := if_pos hext
    have hn : (UInt8.ofNat body.length).toNat = body.length := by rw [UInt8.toNat_ofNat']; omega
    have hcode : ((0xF0 : UInt8) &&& 0x07) = 0 := by decide
    have hstart : isFeedbackPacketStart 0xF0 = true := by decide
    rw [hsize]
    simp only [List.cons_append, List.nil_append, u8At, List.getD_cons_zero, List.getD_cons_succ, hcode, hn, if_true,
      List.drop_succ_cons, List.drop_zero, List.take_left, hstart, List.length_cons, List.length_append]
    rw [if_neg (by simp only [Bool.not_true, Bool.false_eq_true, false_or]; omega), Nat.add_comm 2]
  · have hsize : feedbackSize body.length = [0xF0 ||| UInt8.ofNat body.length] := if_neg hext
    obtain ⟨hstart, hcode, hn⟩ := hshort ⟨body.length, by omega⟩
    dsimp only at hstart hcode hn
    have hne : ¬ UInt8.ofNat body.length = 0 := fun h => by
      have hzero : (0 : UInt8).toNat = body.length := h ▸ hn
      rw [UInt8.toNat_zero] at hzero
      omega
    rw [hsize]
    simp only [List.cons_append, List.nil_append, u8At, List.getD_cons_zero, hcode, hn, hne, if_false,
      List.drop_succ_cons, List.drop_zero, List.take_left, hstart, List.length_cons, List.length_append]
    rw [if_neg (by simp only [Bool.not_true, Bool.false_eq_true, false_or]; omega), Nat.add_comm 1]

/-- The Add-CID octet of a small CID is read back, and a code octet is not taken for one. -/
theorem readFeedbackAddCid_write (h : feedback.Fits) : readFeedbackAddCid (feedbackBody feedback) = some feedback.onWire := by
  obtain ⟨-, -, -, hcode⟩ := feedbackCode_fields feedback.type feedback.mode
    (decide (feedbackOptionsWireLen feedback.options > 0))
  have hread := readFeedbackBody_write h feedback.cid
  unfold readFeedbackAddCid feedbackBody
  by_cases hcid : feedback.cid > 0
  · have hkey : ∀ m : Fin 16, ((0xE0 : UInt8) ||| (UInt8.ofNat m &&& 0x0F)) &&& 0xF0 = 0xE0 ∧
        (((0xE0 : UInt8) ||| (UInt8.ofNat m &&& 0x0F)) &&& 0x0F).toNat = m := by decide
    have hle := h.cid
    obtain ⟨htag, hvalue⟩ := hkey ⟨feedback.cid, by omega⟩
    dsimp only at htag hvalue
    rw [if_pos hcid]
    simp only [List.cons_append, List.nil_append, u8At, List.getD_cons_zero, htag, hvalue, if_true, List.drop_succ_cons,
      List.drop_zero]
    rw [if_neg (by omega), hread]
    rfl
  · have hzero : feedback.cid = 0 := by omega
    rw [if_neg hcid]
    have hfirst : u8At (([] : Bytes) ++ feedbackData feedback) 0 = feedbackCode feedback.type feedback.mode
        (decide (feedbackOptionsWireLen feedback.options > 0)) := rfl
    rw [hfirst, if_neg hcode, List.nil_append]
    rw [hzero] at hread
    rw [hread, Feedback.onWire, hzero]

/-- **An element is read back** in front of any octets. -/
theorem readFeedbackPacket_write (h : feedback.Fits) (rest : Bytes) :
    readFeedbackPacket (feedbackElement feedback ++ rest) = some (feedback.onWire, (feedbackElement feedback).length) := by
  obtain ⟨hpos, hle⟩ := length_feedbackBody_le h
  have hframe := @readFeedbackPacket_frame (feedbackBody feedback) (by omega) (by omega) rest
  rw [readFeedbackAddCid_write h] at hframe
  exact hframe

end Elements

/-! ## Loops over elements -/

section Loops

variable {input : Bytes} {feedback : Feedback} {consumed : Nat}

theorem length_of_readFeedbackBody {cid : Nat} {body : Bytes} (h : readFeedbackBody cid body = some feedback) :
    2 ≤ body.length := by
  rw [readFeedbackBody_eq] at h
  split at h
  · cases h
  · omega

theorem length_of_readFeedbackAddCid {body : Bytes} (h : readFeedbackAddCid body = some feedback) : 2 ≤ body.length := by
  unfold readFeedbackAddCid at h
  split at h
  · split at h
    · cases h
    · have hlen := length_of_readFeedbackBody h
      rw [List.length_drop] at hlen
      omega
  · exact length_of_readFeedbackBody h

/-- A reader takes at least three octets and no more than there are. -/
theorem readFeedbackPacket_bounds (h : readFeedbackPacket input = some (feedback, consumed)) :
    3 ≤ consumed ∧ consumed ≤ input.length := by
  rw [readFeedbackPacket_eq] at h
  dsimp only at h
  have hstart : 1 ≤ (if u8At input 0 &&& 0x07 = 0 then 2 else 1) := by split <;> omega
  generalize (if u8At input 0 &&& 0x07 = 0 then 2 else 1) = start at h hstart
  generalize (if u8At input 0 &&& 0x07 = 0 then (u8At input 1).toNat else (u8At input 0 &&& 0x07).toNat) = bodyLen at h
  split at h
  · cases h
  rename_i hok
  simp only [not_or] at hok
  obtain ⟨-, -, hpos, hroom⟩ := hok
  obtain ⟨read, hread, heq⟩ := Option.map_eq_some_iff.mp h
  have hbody := length_of_readFeedbackAddCid hread
  rw [List.length_take, List.length_drop] at hbody
  rw [← (Prod.mk.inj heq).2]
  omega

/-- What is left behind an element needs less fuel. -/
theorem length_drop_le {fuel : Nat} (h : readFeedbackPacket input = some (feedback, consumed))
    (hfuel : input.length ≤ fuel + 1) : (input.drop consumed).length ≤ fuel := by
  have hbounds := readFeedbackPacket_bounds h
  rw [List.length_drop]
  omega

/-- The loop of the decompressor does not run out of fuel: more of it than octets makes no difference. -/
theorem skipFeedback_fuel {m n : Nat} (hm : input.length ≤ m) (hn : input.length ≤ n) :
    skipFeedback m input = skipFeedback n input := by
  have hnil : ∀ fuel, skipFeedback fuel [] = some [] := fun fuel => by cases fuel <;> rfl
  induction m generalizing input n with
  | zero =>
    obtain rfl := List.eq_nil_of_length_eq_zero (Nat.le_zero.mp hm)
    rw [hnil, hnil]
  | succ m ih =>
    cases n with
    | zero =>
      obtain rfl := List.eq_nil_of_length_eq_zero (Nat.le_zero.mp hn)
      rw [hnil, hnil]
    | succ n =>
      rw [skipFeedback, skipFeedback]
      split
      · rfl
      · cases hread : readFeedbackPacket input with
        | none => rfl
        | some read => exact ih (length_drop_le hread hm) (length_drop_le hread hn)

/-- The same for the loop of the compressor. -/
theorem deliverFeedbackElements_fuel {m n : Nat} {comp : Compressor} {delivered : Bool} (hm : input.length ≤ m)
    (hn : input.length ≤ n) :
    deliverFeedbackElements m comp input delivered = deliverFeedbackElements n comp input delivered := by
  have hnil : ∀ fuel comp delivered, deliverFeedbackElements fuel comp [] delivered = (some delivered, comp) :=
    fun fuel comp delivered => by cases fuel <;> rfl
  induction m generalizing input n comp delivered with
  | zero =>
    obtain rfl := List.eq_nil_of_length_eq_zero (Nat.le_zero.mp hm)
    rw [hnil, hnil]
  | succ m ih =>
    cases n with
    | zero =>
      obtain rfl := List.eq_nil_of_length_eq_zero (Nat.le_zero.mp hn)
      rw [hnil, hnil]
    | succ n =>
      rw [deliverFeedbackElements, deliverFeedbackElements]
      split
      · rfl
      · cases hread : readFeedbackPacket input with
        | none => rfl
        | some read => exact ih (length_drop_le hread hm) (length_drop_le hread hn)

/-- One round of the decompressor's loop, the fuel always the octets left. -/
theorem skipFeedback_round (input : Bytes) : skipFeedback input.length input =
    if input = [] ∨ !isFeedbackPacketStart (u8At input 0) then some input
    else (readFeedbackPacket input).bind fun read => skipFeedback (input.drop read.2).length (input.drop read.2) := by
  rw [@skipFeedback_fuel input input.length (input.length + 1) (Nat.le_refl _) (Nat.le_succ _), skipFeedback]
  split
  · rfl
  · cases hread : readFeedbackPacket input with
    | none => rfl
    | some read => exact skipFeedback_fuel (length_drop_le hread (Nat.le_succ _)) (Nat.le_refl _)

/-- One round of the compressor's loop. -/
theorem deliverFeedbackElements_round (comp : Compressor) (input : Bytes) (delivered : Bool) :
    deliverFeedbackElements input.length comp input delivered =
      if input = [] ∨ !isFeedbackPacketStart (u8At input 0) then (some delivered, comp)
      else (readFeedbackPacket input).elim (none, comp) fun read =>
        deliverFeedbackElements (input.drop read.2).length (comp.takeFeedback read.1) (input.drop read.2)
          (delivered || (comp.contexts.get read.1.cid).isSome || read.1.mode.isSome) := by
  rw [@deliverFeedbackElements_fuel input input.length (input.length + 1) comp delivered (Nat.le_refl _) (Nat.le_succ _),
    deliverFeedbackElements]
  split
  · rfl
  · cases hread : readFeedbackPacket input with
    | none => rfl
    | some read => exact deliverFeedbackElements_fuel (length_drop_le hread (Nat.le_succ _)) (Nat.le_refl _)

end Loops

/-- **Feedback packets.** What the writer writes is read back in front of any octets, and exactly its octets are taken;
what a reader accepts takes at least three octets of the input, so the two loops over elements end by themselves: each
is its own first round. -/
theorem feedback_packet_round_trip :
    (∀ feedback : Feedback, feedback.Fits →
      (∀ cap, 30 ≤ cap → (writeFeedbackPacket cap feedback).isSome = true) ∧
        ∀ (cap : Nat) (out rest : Bytes), writeFeedbackPacket cap feedback = some out →
          ∃ read, readFeedbackPacket (out ++ rest) = some (read, out.length) ∧ read.cid = feedback.cid ∧
            read.type = feedback.type ∧ read.mode = feedback.mode ∧ read.options = feedback.options) ∧
      (∀ (input : Bytes) (feedback : Feedback) (consumed : Nat),
        readFeedbackPacket input = some (feedback, consumed) → 3 ≤ consumed ∧ consumed ≤ input.length) ∧
      (∀ input : Bytes, skipFeedback input.length input =
        if input = [] ∨ !isFeedbackPacketStart (u8At input 0) then some input
        else (readFeedbackPacket input).bind fun read => skipFeedback (input.drop read.2).length (input.drop read.2)) ∧
      ∀ (comp : Compressor) (input : Bytes) (delivered : Bool),
        deliverFeedbackElements input.length comp input delivered =
          if input = [] ∨ !isFeedbackPacketStart (u8At input 0) then (some delivered, comp)
          else (readFeedbackPacket input).elim (none, comp) fun read =>
            deliverFeedbackElements (input.drop read.2).length (comp.takeFeedback read.1) (input.drop read.2)
              (delivered || (comp.contexts.get read.1.cid).isSome || read.1.mode.isSome) := by
  refine ⟨fun feedback h => ⟨fun cap hcap => ?_, fun cap out rest hwrite => ?_⟩,
    fun input feedback consumed h => readFeedbackPacket_bounds h, skipFeedback_round, deliverFeedbackElements_round⟩
  · have hlen := length_feedbackBody_le h
    have hsize : (feedbackSize (feedbackBody feedback).length).length ≤ 2 := by
      unfold feedbackSize
      split
      · exact Nat.le_refl 2
      · exact Nat.le_succ 1
    have helement : ¬ cap < (feedbackElement feedback).length := by
      unfold feedbackElement
      rw [List.length_append]
      omega
    rw [writeFeedbackPacket_eq h, if_neg helement]
    rfl
  · rw [writeFeedbackPacket_eq h] at hwrite
    split at hwrite
    · cases hwrite
    · obtain rfl := Option.some.inj hwrite
      exact ⟨feedback.onWire, readFeedbackPacket_write h rest, rfl, rfl, rfl, rfl⟩

/-- A STATIC-NACK for CID 3 with a mode and two options: ten octets of body behind an extended size. -/
theorem feedback_packet_round_trip_extended :
    ∃ read, readFeedbackPacket ([0xF0, 0x0A, 0xE3, 0xB1, 0x00, 0x06, 0x02, 0x02, 0x12, 0x34, 0x04, 0x00] ++ [0x45]) =
        some (read, 12) ∧
      read.cid = 3 ∧ read.type = .staticNack ∧ read.mode = some .optimistic ∧
        read.options = [⟨2, [0x12, 0x34]⟩, ⟨4, []⟩] :=
  (feedback_packet_round_trip.1
    { cid := 3, type := .staticNack, mode := some .optimistic, options := [⟨2, [0x12, 0x34]⟩, ⟨4, []⟩] }
    ⟨by decide, by decide, by decide⟩).2 40 _ [0x45] (by decide)

end Rohccxx
