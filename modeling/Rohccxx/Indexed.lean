import Rohccxx.CompFeedback
import Rohccxx.Decompress
import Rohccxx.InBounds

/-!
# Parsers that read by index

The parsers that look at octets by their index, once more as the source has them: every read, difference of lengths and
copy is checked and faults outside its bounds. Each equals its plain form, so it never faults. With the readers of
`InBounds` this covers whatever looks at the octets of a unit before its CRC has been checked.
-/

set_option autoImplicit false

namespace Rohccxx

open Octets

namespace Checked

open Outcome

theorem octetAt_eq {bs : Bytes} {i : Nat} (h : i < bs.length) : octetAt bs i = .ok (u8At bs i) := octetAt_of_lt h

theorem wordAt_eq {bs : Bytes} {i : Nat} (h : i + 1 < bs.length) : wordAt bs i = .ok (u16At bs i) := wordAt_of_lt h

/-! ## Units -/

/-- `cid::read_large`. -/
def readLarge (p : Bytes) : Outcome (Nat × Nat) :=
  if p.length = 0 then .reject
  else do
    let b ← octetAt p 0
    if b &&& 0x80 = 0 then return ((b &&& 0x7F).toNat, 1)
    else if b &&& 0xC0 = 0x80 then
      if p.length < 2 then .reject
      else do
        let b' ← octetAt p 1
        let value := (b &&& 0x3F).toNat * 256 + b'.toNat
        if value ≤ 0x7F then .reject else return (value, 2)
    else .reject

theorem readLarge_eq (p : Bytes) : readLarge p = ofOption (Cid.readLarge p) := by
  unfold readLarge Cid.readLarge
  match p with
  | [] => rfl
  | [b] =>
    change (if b &&& 0x80 = 0 then _ else _) = _
    dsimp only
    split
    · rfl
    · split <;> rfl
  | b :: b' :: rest =>
    change (if b &&& 0x80 = 0 then _ else _) = _
    dsimp only
    split
    · rfl
    · split
      · change (if (b &&& 0x3F).toNat * 256 + b'.toNat ≤ 0x7F then _ else _) = _
        split <;> rfl
      · rfl

/-- `is_uncompressed_ip_payload`. -/
def isUncompressedIpPayload (ip : Bytes) : Outcome Bool :=
  if ip.length = 0 then return false
  else do
    let first ← octetAt ip 0
    if first >>> 4 = 4 then
      if ip.length < 20 then return false
      else do
        let ihl := (first &&& 0x0F).toNat * 4
        let totalLen ← wordAt ip 2
        return decide (20 ≤ ihl) && decide (ihl ≤ ip.length) && decide (totalLen.toNat = ip.length)
    else if first >>> 4 = 6 then
      if ip.length < 40 then return false
      else do
        let payloadLen ← wordAt ip 4
        return decide (payloadLen.toNat + 40 = ip.length)
    else return false

theorem isUncompressedIpPayload_eq (ip : Bytes) :
    isUncompressedIpPayload ip = .ok (Rohccxx.isUncompressedIpPayload ip) := by
  unfold isUncompressedIpPayload Rohccxx.isUncompressedIpPayload
  by_cases hip : ip = []
  · rw [if_pos (List.length_eq_zero_iff.mpr hip), if_pos hip]
    rfl
  · have hpos := List.length_pos_iff.mpr hip
    rw [if_neg (by omega), if_neg hip, octetAt_eq hpos, ok_bind]
    dsimp only
    by_cases h₄ : u8At ip 0 >>> 4 = 4
    · rw [if_pos h₄, if_pos h₄]
      by_cases hl : ip.length < 20
      · rw [if_pos hl, if_pos hl]
        rfl
      · rw [if_neg hl, if_neg hl, wordAt_eq (by omega)]
        rfl
    · rw [if_neg h₄, if_neg h₄]
      by_cases h₆ : u8At ip 0 >>> 4 = 6
      · rw [if_pos h₆, if_pos h₆]
        by_cases hl : ip.length < 40
        · rw [if_pos hl, if_pos hl]
          rfl
        · rw [if_neg hl, if_neg hl, wordAt_eq (by omega)]
          rfl
      · rw [if_neg h₆, if_neg h₆]
        rfl

def readPacketCid (packet : Bytes) (type : RohcPacketType) (addCid : Option Nat) (largeCidSpace : Bool) :
    Outcome (Nat × Nat × Bool) :=
  if largeCidSpace ∧ type ≠ .uncompressed then
    if packet.length < 2 then .reject
    else do
      let (cid, cidLen) ← readLarge (← rest packet 1)
      return (cid, cidLen, true)
  else return (addCid.getD 0, 0, false)

theorem readPacketCid_eq (packet : Bytes) (type : RohcPacketType) (addCid : Option Nat) (space : Bool) :
    readPacketCid packet type addCid space = ofOption (Rohccxx.readPacketCid packet type addCid space) := by
  unfold readPacketCid Rohccxx.readPacketCid
  split
  · by_cases hl : packet.length < 2
    · rw [if_pos hl, if_pos hl]
      rfl
    · rw [if_neg hl, if_neg hl, rest_of_le (by omega), ok_bind, readLarge_eq, ofOption_map]
      rfl
  · rfl

/-- `parse_rohc_packet` behind the Add-CID octet. -/
def parseRohcPacketBody (wire packet : Bytes) (addCid : Option Nat) (largeCidSpace : Bool) : Outcome ParsedRohcPacket :=
  if packet.length = 0 then .reject
  else do
    let first ← octetAt packet 0
    let uncompressed ← isUncompressedIpPayload packet
    let type := if uncompressed then .uncompressed else detectPacketType first
    let (cid, cidLen, hasLarge) ← readPacketCid packet type addCid largeCidSpace
    let profilePos := if largeCidSpace then 1 + cidLen else 1
    if type = .ir ∨ type = .irDyn then
      if packet.length ≤ profilePos then .reject
      else do
        let profileId ← octetAt packet profilePos
        return ⟨wire, packet, cid, addCid.isSome, hasLarge, cidLen, type, profileId⟩
    else
      let cid := if type = .foRtp ∧ !largeCidSpace ∧ addCid = none then ((first >>> 2) &&& 0x0F).toNat else cid
      if type = .unknown then .reject else return ⟨wire, packet, cid, addCid.isSome, hasLarge, cidLen, type, 0⟩

theorem parseRohcPacketBody_eq (wire packet : Bytes) (addCid : Option Nat) (space : Bool) :
    parseRohcPacketBody wire packet addCid space = ofOption (Rohccxx.parseRohcPacketBody wire packet addCid space) := by
  unfold parseRohcPacketBody Rohccxx.parseRohcPacketBody
  by_cases hp : packet = []
  · rw [if_pos (List.length_eq_zero_iff.mpr hp), if_pos hp]
    rfl
  · have hpos := List.length_pos_iff.mpr hp
    rw [if_neg (by omega), if_neg hp, octetAt_eq hpos, ok_bind, isUncompressedIpPayload_eq, ok_bind]
    dsimp only
    rw [readPacketCid_eq, ofOption_bind]
    refine congrArg _ (funext fun r => ?_)
    obtain ⟨cid, cidLen, hasLarge⟩ := r
    unfold packetTypeOf
    dsimp only
    generalize (if Rohccxx.isUncompressedIpPayload packet = true then RohcPacketType.uncompressed
      else detectPacketType (u8At packet 0)) = type
    split
    · by_cases hl : packet.length ≤ if space then 1 + cidLen else 1
      · rw [if_pos hl, if_pos hl]
        rfl
      · rw [if_neg hl, if_neg hl, octetAt_eq (by omega)]
        rfl
    · split <;> rfl

/-- `parse_rohc_packet`. -/
def parseRohcPacket (input : Bytes) (largeCidSpace : Bool) : Outcome ParsedRohcPacket :=
  if input.length = 0 then .reject
  else do
    let first ← octetAt input 0
    if !largeCidSpace ∧ first &&& 0xF0 = 0xE0 then
      if input.length < 2 then .reject
      else do
        parseRohcPacketBody input (← rest input 1) (some (first &&& 0x0F).toNat) largeCidSpace
    else parseRohcPacketBody input input none largeCidSpace

theorem parseRohcPacket_eq (input : Bytes) (space : Bool) :
    parseRohcPacket input space = ofOption (Rohccxx.parseRohcPacket input space) := by
  unfold parseRohcPacket Rohccxx.parseRohcPacket
  by_cases hi : input = []
  · rw [if_pos (List.length_eq_zero_iff.mpr hi), if_pos hi]
    rfl
  · have hpos := List.length_pos_iff.mpr hi
    rw [if_neg (by omega), if_neg hi, octetAt_eq hpos, ok_bind]
    split
    · by_cases hl : input.length < 2
      · rw [if_pos hl, if_pos hl]
        rfl
      · rw [if_neg hl, if_neg hl, rest_of_le (by omega), ok_bind]
        exact parseRohcPacketBody_eq _ _ _ _
    · exact parseRohcPacketBody_eq _ _ _ _

/-- `payload_after_header`. -/
def payloadAfterHeader (packet : Bytes) (headerLen : Nat) : Outcome Bytes :=
  if headerLen > packet.length then .reject else rest packet headerLen

theorem payloadAfterHeader_eq (packet : Bytes) (headerLen : Nat) :
    payloadAfterHeader packet headerLen = ofOption (Rohccxx.payloadAfterHeader packet headerLen) := by
  unfold payloadAfterHeader Rohccxx.payloadAfterHeader
  split
  · rfl
  · rw [rest_of_le (by omega)]
    rfl

/-! ## The CRC and the lengths it is taken over -/

/-- `crc8_exact_matches`, which works on a copy of at most 1024 octets. -/
def crc8ExactMatches (bs : Bytes) (crcLen crcIndex : Nat) (receivedCrc : UInt8) : Outcome Bool :=
  if crcLen > 1024 ∨ bs.length < crcLen ∨ crcIndex ≥ crcLen then return false
  else do
    let crcBuf ← copyFrom bs 0 crcLen 1024
    return crc8 (crcBuf.set crcIndex 0x00) = receivedCrc

theorem crc8ExactMatches_eq (bs : Bytes) (crcLen crcIndex : Nat) (receivedCrc : UInt8) :
    crc8ExactMatches bs crcLen crcIndex receivedCrc = .ok (Rohccxx.crc8ExactMatches bs crcLen crcIndex receivedCrc) := by
  unfold crc8ExactMatches Rohccxx.crc8ExactMatches
  split
  · rfl
  · rw [copyFrom_of_le (by omega) (by omega)]
    rfl

/-- `extra_len > 0 && extra_len <= bound && len - marker_pos - 1U >= extra_len`. -/
def extraWithin (bs : Bytes) (markerPos bound extraLen : Nat) : Outcome Nat :=
  if extraLen > 0 ∧ extraLen ≤ bound then do
    let left ← minus bs.length markerPos
    let left ← minus left 1
    if left ≥ extraLen then return extraLen else .reject
  else .reject

theorem extraWithin_eq {bs : Bytes} {markerPos : Nat} (h : markerPos < bs.length) (bound extraLen : Nat) :
    extraWithin bs markerPos bound extraLen = ofOption
      (if extraLen > 0 ∧ extraLen ≤ bound ∧ bs.length - markerPos - 1 ≥ extraLen then some extraLen else none) := by
  unfold extraWithin
  rw [minus_of_le (Nat.le_of_lt h), ok_bind, minus_of_le (by omega), ok_bind]
  by_cases hb : extraLen > 0 ∧ extraLen ≤ bound
  · rw [if_pos hb]
    by_cases hl : bs.length - markerPos - 1 ≥ extraLen
    · rw [if_pos hl, if_pos ⟨hb.1, hb.2, hl⟩]
      rfl
    · rw [if_neg hl, if_neg fun h => hl h.2.2]
      rfl
  · rw [if_neg hb, if_neg fun h => hb ⟨h.1, h.2.1⟩]
    rfl

/-- `ipv4_options_extra_len`. -/
def ipv4OptionsExtraLen (bs : Bytes) (markerPos : Nat) : Outcome Nat :=
  if markerPos ≥ bs.length then .reject
  else do
    let marker ← octetAt bs markerPos
    if isEmptyList marker then return 0
    else if marker &&& 0xC0 ≠ ipv4OptionsListMarker then .reject
    else extraWithin bs markerPos 40 (marker &&& 0x3F).toNat

theorem ipv4OptionsExtraLen_eq (bs : Bytes) (markerPos : Nat) :
    ipv4OptionsExtraLen bs markerPos = ofOption (Rohccxx.ipv4OptionsExtraLen bs markerPos) := by
  unfold ipv4OptionsExtraLen Rohccxx.ipv4OptionsExtraLen
  by_cases h : markerPos ≥ bs.length
  · rw [if_pos h, List.getElem?_eq_none h]
    rfl
  · have hlt : markerPos < bs.length := by omega
    rw [if_neg h, octetAt, List.getElem?_eq_getElem hlt, Option.bind_eq_bind, Option.bind_some]
    dsimp only
    rw [ok_bind, ofOption_ite, ofOption_ite, extraWithin_eq hlt]
    rfl

/-- `ip_dynamic_extra_len`. -/
def ipDynamicExtraLen (bs : Bytes) (dynamicPos : Nat) (ctx : Context) : Outcome Nat :=
  if ctx.ipVersion = 6 then
    if dynamicPos + 6 ≥ bs.length then .reject
    else do
      let marker ← octetAt bs (dynamicPos + 6)
      if isEmptyList marker then return 0
      else if marker &&& 0x80 ≠ ipv6ExtensionsListMarker then .reject
      else extraWithin bs (dynamicPos + 6) 127 (marker &&& 0x7F).toNat
  else ipv4OptionsExtraLen bs (dynamicPos + 5)

theorem ipDynamicExtraLen_eq (bs : Bytes) (dynamicPos : Nat) (ctx : Context) :
    ipDynamicExtraLen bs dynamicPos ctx = ofOption (Rohccxx.ipDynamicExtraLen bs dynamicPos ctx) := by
  unfold ipDynamicExtraLen Rohccxx.ipDynamicExtraLen
  rw [ofOption_ite, ipv4OptionsExtraLen_eq]
  refine ite_congr rfl (fun _ => ?_) fun _ => rfl
  dsimp only
  by_cases h : dynamicPos + 6 ≥ bs.length
  · rw [if_pos h, List.getElem?_eq_none h]
    rfl
  · have hlt : dynamicPos + 6 < bs.length := by omega
    rw [if_neg h, octetAt, List.getElem?_eq_getElem hlt, Option.bind_eq_bind, Option.bind_some]
    dsimp only
    rw [ok_bind, ofOption_ite, ofOption_ite, extraWithin_eq hlt]
    rfl

/-- `rtp_dynamic_extra_len`. -/
def rtpDynamicExtraLen (bs : Bytes) (markerPos : Nat) : Outcome Nat :=
  if markerPos ≥ bs.length then .reject
  else do
    let marker ← octetAt bs markerPos
    if isEmptyList marker then return 0
    else if marker ≠ rtpExtrasListMarker then .reject
    else do
      let (bodyLen, consumed) ← readLarge (← rest bs (markerPos + 1))
      if bodyLen < 5 ∨ bodyLen > Cid.largeCidMax then .reject
      else do
        let left ← minus bs.length markerPos
        let left ← minus left 1
        let left ← minus left consumed
        if left < bodyLen then .reject else return consumed + bodyLen

theorem rtpDynamicExtraLen_eq (bs : Bytes) (markerPos : Nat) :
    rtpDynamicExtraLen bs markerPos = ofOption (Rohccxx.rtpDynamicExtraLen bs markerPos) := by
  unfold rtpDynamicExtraLen Rohccxx.rtpDynamicExtraLen
  by_cases h : markerPos ≥ bs.length
  · rw [if_pos h, List.getElem?_eq_none h]
    rfl
  · have hlt : markerPos < bs.length := by omega
    rw [if_neg h, octetAt, List.getElem?_eq_getElem hlt, Option.bind_eq_bind, Option.bind_some]
    dsimp only
    rw [ok_bind, ofOption_ite, ofOption_ite, rest_of_le (by omega), ok_bind, readLarge_eq]
    unfold readSdvl14
    cases hr : Cid.readLarge (bs.drop (markerPos + 1)) with
    | none => rfl
    | some r =>
      obtain ⟨bodyLen, consumed⟩ := r
      have hle := readLarge_le hr
      rw [List.length_drop] at hle
      dsimp only at hle
      rw [ofOption_some, ok_bind, minus_of_le (Nat.le_of_lt hlt), ok_bind, minus_of_le (by omega), ok_bind,
        minus_of_le (by omega), ok_bind, Option.bind_eq_bind, Option.bind_some]
      refine ite_congr rfl (fun _ => rfl) fun _ => ite_congr rfl (fun _ => rfl) fun _ => ?_
      dsimp only
      by_cases hb : bodyLen < 5 ∨ bodyLen > Cid.largeCidMax
      · rw [if_pos hb, if_pos (hb.imp_right Or.inl)]
        rfl
      · rw [if_neg hb]
        by_cases hl : bs.length - markerPos - 1 - consumed < bodyLen
        · rw [if_pos hl, if_pos (Or.inr (Or.inr hl))]
          rfl
        · rw [if_neg hl, if_neg fun h => h.elim (fun h => hb (Or.inl h)) fun h => h.elim (fun h => hb (Or.inr h)) hl]
          rfl

/-! ## Feedback elements -/

/-- The octets from `pos` up to `bodyEnd`. -/
def window (bs : Bytes) (pos bodyEnd : Nat) : Bytes := (bs.drop pos).take (bodyEnd - pos)

section Window

variable {bs : Bytes} {pos bodyEnd i k : Nat}

theorem length_window (h : bodyEnd ≤ bs.length) : (window bs pos bodyEnd).length = bodyEnd - pos := by
  rw [window, List.length_take, List.length_drop]
  omega

theorem u8At_window (hi : pos + i < bodyEnd) : u8At (window bs pos bodyEnd) i = u8At bs (pos + i) := by
  rw [window, u8At, u8At, List.getD_eq_getElem?_getD, List.getD_eq_getElem?_getD, List.getElem?_take_of_lt (by omega),
    List.getElem?_drop]

theorem u16At_window (hi : pos + i + 1 < bodyEnd) : u16At (window bs pos bodyEnd) i = u16At bs (pos + i) := by
  rw [u16At, u16At, u8At_window (by omega), u8At_window (by omega), Nat.add_assoc]

theorem octetAt_window (h : bodyEnd ≤ bs.length) (hi : pos + i < bodyEnd) :
    octetAt bs (pos + i) = .ok (u8At (window bs pos bodyEnd) i) := by
  rw [octetAt_eq (by omega), u8At_window hi]

theorem octetAt_window_start (h : bodyEnd ≤ bs.length) (hpos : pos < bodyEnd) :
    octetAt bs pos = .ok (u8At (window bs pos bodyEnd) 0) := octetAt_window (i := 0) h hpos

theorem drop_window : (window bs pos bodyEnd).drop k = window bs (pos + k) bodyEnd := by
  rw [window, window, List.drop_take, List.drop_drop, Nat.sub_sub]

theorem take_window (h : pos + k ≤ bodyEnd) : (window bs pos bodyEnd).take k = (bs.drop pos).take k := by
  rw [window, List.take_take, Nat.min_eq_left (by omega)]

end Window

/-- The option loop of `read_feedback_packet`; every round takes at least two octets. An option's value is copied to
four octets of one of four records. -/
def readFeedbackOptions (bs : Bytes) (bodyEnd : Nat) : Nat → Nat → List FeedbackOption → Outcome (List FeedbackOption)
  | 0, _, _ => .reject
  | fuel + 1, pos, options =>
    if pos < bodyEnd then do
      let left ← minus bodyEnd pos
      if left < 2 ∨ options.length ≥ 4 then .reject
      else do
        let type ← octetAt bs pos
        let optionLen ← octetAt bs (pos + 1)
        let left ← minus bodyEnd (pos + 2)
        if optionLen.toNat > 4 ∨ left < optionLen.toNat then .reject
        else do
          let value ← copyFrom bs (pos + 2) optionLen.toNat 4
          readFeedbackOptions bs bodyEnd fuel (pos + 2 + optionLen.toNat) (options ++ [⟨type, value⟩])
    else return options

theorem readFeedbackOptions_eq {bs : Bytes} {bodyEnd : Nat} (h : bodyEnd ≤ bs.length) (fuel pos : Nat)
    (options : List FeedbackOption) :
    readFeedbackOptions bs bodyEnd fuel pos options =
      ofOption (Rohccxx.readFeedbackOptions fuel (window bs pos bodyEnd) options) := by
  induction fuel generalizing pos options with
  | zero => rfl
  | succ fuel ih =>
    have hlen := @length_window bs pos bodyEnd h
    unfold readFeedbackOptions
    by_cases hpos : pos < bodyEnd
    · rw [if_pos hpos, minus_of_le (Nat.le_of_lt hpos), ok_bind]
      cases hw : window bs pos bodyEnd with
      | nil =>
        rw [hw, List.length_nil] at hlen
        omega
      | cons b rest =>
        rw [Rohccxx.readFeedbackOptions]
        · rw [← hw, hlen]
          by_cases hs : bodyEnd - pos < 2 ∨ options.length ≥ 4
          · rw [if_pos hs, if_pos hs]
            rfl
          · rw [if_neg hs, if_neg hs, octetAt_window_start h hpos, ok_bind, octetAt_window h (by omega), ok_bind,
              minus_of_le (by omega), ok_bind]
            dsimp only
            rw [drop_window, length_window h]
            by_cases ho : (u8At (window bs pos bodyEnd) 1).toNat > 4 ∨
                bodyEnd - (pos + 2) < (u8At (window bs pos bodyEnd) 1).toNat
            · rw [if_pos ho, if_pos ho]
              rfl
            · rw [if_neg ho, if_neg ho, copyFrom_of_le (by omega) (by omega), ok_bind, ih, drop_window,
                take_window (by omega)]
        · intro hnil
          cases hnil
    · rw [if_neg hpos]
      have hw : window bs pos bodyEnd = [] := List.length_eq_zero_iff.mp (by omega)
      rw [hw]
      rfl

/-- The options of a feedback element behind its two fixed octets. -/
def readFeedbackOptionList (bs : Bytes) (bodyEnd : Nat) (code : UInt8) (pos : Nat) : Outcome (List FeedbackOption) :=
  if code &&& 0x10 ≠ 0 then
    if pos ≥ bodyEnd then .reject
    else do
      let optionsLen ← octetAt bs pos
      let left ← minus bodyEnd (pos + 1)
      if left ≠ optionsLen.toNat then .reject else readFeedbackOptions bs bodyEnd (left + 1) (pos + 1) []
  else if pos ≠ bodyEnd then .reject
  else return []

theorem readFeedbackOptionList_eq {bs : Bytes} {bodyEnd pos : Nat} (h : bodyEnd ≤ bs.length) (hpos : pos ≤ bodyEnd)
    (code : UInt8) : readFeedbackOptionList bs bodyEnd code pos = ofOption (
      if code &&& 0x10 ≠ 0 then
        if (window bs pos bodyEnd).length < 1 ∨
            (window bs pos bodyEnd).length - 1 ≠ (u8At (window bs pos bodyEnd) 0).toNat then none
        else Rohccxx.readFeedbackOptions (window bs pos bodyEnd).length ((window bs pos bodyEnd).drop 1) []
      else if window bs pos bodyEnd = [] then some [] else none) := by
  unfold readFeedbackOptionList
  rw [ofOption_ite, length_window h]
  refine ite_congr rfl (fun _ => ?_) fun _ => ?_
  · by_cases hend : pos ≥ bodyEnd
    · rw [if_pos hend, if_pos (Or.inl (by omega))]
      rfl
    · rw [if_neg hend, octetAt_window_start h (by omega), ok_bind, minus_of_le (by omega), ok_bind]
      by_cases ho : bodyEnd - (pos + 1) ≠ (u8At (window bs pos bodyEnd) 0).toNat
      · rw [if_pos ho, if_pos (Or.inr (by omega))]
        rfl
      · rw [if_neg ho, if_neg (by omega), drop_window, readFeedbackOptions_eq h,
          show bodyEnd - (pos + 1) + 1 = bodyEnd - pos by omega]
  · have hnil : window bs pos bodyEnd = [] ↔ pos = bodyEnd := by
      rw [← List.length_eq_zero_iff, length_window h]
      omega
    by_cases hend : pos = bodyEnd
    · rw [if_neg (not_not_intro hend), if_pos (hnil.mpr hend)]
      rfl
    · rw [if_pos hend, if_neg (mt hnil.mp hend)]
      rfl

/-- The body of a feedback element from its code octet on. -/
def readFeedbackBody (bs : Bytes) (bodyEnd cid pos : Nat) : Outcome Feedback := do
  let left ← minus bodyEnd pos
  if left < 2 then .reject
  else do
    let code ← octetAt bs pos
    let type ← ofOption (feedbackTypeFromAckType ((code >>> 6) &&& 0x03))
    let mode ← ofOption (if code &&& 0x20 ≠ 0 then (feedbackMode (code &&& 0x03)).map some else some none)
    let options ← readFeedbackOptionList bs bodyEnd code (pos + 2)
    return { cid := cid, type := type, mode := mode, options := options }

theorem readFeedbackBody_eq {bs : Bytes} {bodyEnd pos : Nat} (h : bodyEnd ≤ bs.length) (hpos : pos ≤ bodyEnd) (cid : Nat) :
    readFeedbackBody bs bodyEnd cid pos = ofOption (Rohccxx.readFeedbackBody cid (window bs pos bodyEnd)) := by
  unfold readFeedbackBody Rohccxx.readFeedbackBody
  rw [minus_of_le hpos, ok_bind, length_window h]
  by_cases hl : bodyEnd - pos < 2
  · rw [if_pos hl, if_pos hl]
    rfl
  · rw [if_neg hl, if_neg hl, octetAt_window_start h (by omega), ok_bind, readFeedbackOptionList_eq h (by omega)]
    dsimp only
    rw [ofOption_bind]
    refine congrArg _ (funext fun type => ?_)
    -- the source goes on behind each test, so the options stand in every branch of the mode
    simp only [drop_window]
    split_ifs <;> simp only [ofOption_bind] <;> rfl

/-- A feedback element whose body has `bodyLen` octets from `pos` on. -/
def readFeedbackElement (input : Bytes) (pos bodyLen : Nat) : Outcome (Feedback × Nat) :=
  if bodyLen = 0 then .reject
  else do
    let left ← minus input.length pos
    if left < bodyLen then .reject
    else do
      let b ← octetAt input pos
      if b &&& 0xF0 = 0xE0 then
        if (b &&& 0x0F).toNat = 0 then .reject
        else do
          let feedback ← readFeedbackBody input (pos + bodyLen) (b &&& 0x0F).toNat (pos + 1)
          return (feedback, pos + bodyLen)
      else do
        let feedback ← readFeedbackBody input (pos + bodyLen) 0 pos
        return (feedback, pos + bodyLen)

/-- `read_feedback_packet`. -/
def readFeedbackPacket (input : Bytes) : Outcome (Feedback × Nat) :=
  if input.length < 2 then .reject
  else do
    let first ← octetAt input 0
    if !isFeedbackPacketStart first then .reject
    else if first &&& 0x07 = 0 then do
      let bodyLen ← octetAt input 1
      readFeedbackElement input 2 bodyLen.toNat
    else readFeedbackElement input 1 (first &&& 0x07).toNat

theorem readFeedbackElement_eq {input : Bytes} {pos : Nat} (hpos : pos ≤ input.length) (bodyLen : Nat) :
    readFeedbackElement input pos bodyLen = ofOption (
      if bodyLen = 0 ∨ input.length - pos < bodyLen then none
      else do
        let body := (input.drop pos).take bodyLen
        let cid := (u8At body 0 &&& 0x0F).toNat
        let feedback ←
          if u8At body 0 &&& 0xF0 = 0xE0 then
            if cid = 0 then none else Rohccxx.readFeedbackBody cid (body.drop 1)
          else Rohccxx.readFeedbackBody 0 body
        return (feedback, pos + bodyLen)) := by
  unfold readFeedbackElement
  rw [minus_of_le hpos, ok_bind]
  by_cases hz : bodyLen = 0
  · rw [if_pos hz, if_pos (Or.inl hz)]
    rfl
  · rw [if_neg hz]
    by_cases hb : input.length - pos < bodyLen
    · rw [if_pos hb, if_pos (Or.inr hb)]
      rfl
    · have hwindow : (input.drop pos).take bodyLen = window input pos (pos + bodyLen) := by
        rw [window, Nat.add_sub_cancel_left]
      rw [if_neg hb, if_neg (not_or.mpr ⟨hz, hb⟩), hwindow, octetAt_window_start (show pos + bodyLen ≤ _ by omega)
        (by omega), ok_bind, readFeedbackBody_eq (by omega) (by omega), readFeedbackBody_eq (by omega) (by omega)]
      dsimp only
      rw [drop_window]
      split_ifs
      · rfl
      · rw [ofOption_bind]
        rfl
      · rw [ofOption_bind]
        rfl

theorem readFeedbackPacket_eq (input : Bytes) :
    readFeedbackPacket input = ofOption (Rohccxx.readFeedbackPacket input) := by
  unfold readFeedbackPacket Rohccxx.readFeedbackPacket
  by_cases hl : input.length < 2
  · rw [if_pos hl, if_pos (Or.inl hl)]
    rfl
  · rw [if_neg hl, octetAt_eq (by omega), ok_bind]
    by_cases hs : (!isFeedbackPacketStart (u8At input 0)) = true
    · rw [if_pos hs, if_pos (Or.inr hs)]
      rfl
    · rw [if_neg hs, if_neg (not_or.mpr ⟨hl, hs⟩)]
      dsimp only
      by_cases hc : u8At input 0 &&& 0x07 = 0
      · simp only [if_pos hc]
        rw [octetAt_eq (by omega), ok_bind, readFeedbackElement_eq (by omega)]
      · simp only [if_neg hc]
        rw [readFeedbackElement_eq (by omega)]

/-- The option loop of `read_feedback2_v1`; the only option known takes one octet. -/
def readFeedback2Options (bs : Bytes) (bodyEnd : Nat) : Nat → Nat → Outcome (Except FeedbackStatus Bool)
  | 0, _ => .reject
  | fuel + 1, pos =>
    if pos < bodyEnd then do
      let option ← octetAt bs pos
      let left ← minus bodyEnd (pos + 1)
      if (option &&& 0x0F).toNat > left then return .error .malformed
      else if option >>> 4 ≠ 3 then return .error .unsupported
      else if option &&& 0x0F ≠ 0 then return .error .malformed
      else do
        let options ← readFeedback2Options bs bodyEnd fuel (pos + 1)
        return options.map fun _ => true
    else return .ok false

theorem readFeedback2Options_eq {bs : Bytes} {bodyEnd : Nat} (h : bodyEnd ≤ bs.length) {fuel pos : Nat}
    (hfuel : bodyEnd - pos < fuel) :
    readFeedback2Options bs bodyEnd fuel pos = .ok (Rohccxx.readFeedback2Options (window bs pos bodyEnd)) := by
  induction fuel generalizing pos with
  | zero => omega
  | succ fuel ih =>
    have hlen := @length_window bs pos bodyEnd h
    unfold readFeedback2Options
    by_cases hpos : pos < bodyEnd
    · rw [if_pos hpos, octetAt_window_start h hpos, ok_bind, minus_of_le (by omega), ok_bind, ih (by omega), ok_bind,
        ← drop_window]
      cases hw : window bs pos bodyEnd with
      | nil =>
        rw [hw, List.length_nil] at hlen
        omega
      | cons option rest =>
        rw [hw, List.length_cons] at hlen
        rw [Rohccxx.readFeedback2Options, u8At_cons_zero, show bodyEnd - (pos + 1) = rest.length by omega]
        split_ifs <;> rfl
    · rw [if_neg hpos, List.length_eq_zero_iff.mp (show (window bs pos bodyEnd).length = 0 by omega)]
      rfl

/-- The body of an element of `read_feedback2_v1` from its code octet on; the CRC is taken over a copy of 260 octets. -/
def readFeedback2Body (input : Bytes) (bodyEnd cid pos : Nat) : Outcome (Except FeedbackStatus Feedback) := do
  let left ← minus bodyEnd pos
  if left < 3 then return .error .malformed
  else do
    let code ← octetAt input pos
    match feedbackTypeFromAckType (code >>> 6) with
    | none => return .error .unsupported
    | some type => do
      let number ← wordAt input pos
      let receivedCrc ← octetAt input (pos + 2)
      let bodyLen ← minus bodyEnd 1
      if bodyLen > 260 then return .error .malformed
      else do
        let copy ← copyFrom input 1 bodyLen 260
        let crcIndex ← minus (pos + 2) 1
        let options ← readFeedback2Options input bodyEnd (bodyEnd - (pos + 3) + 1) (pos + 3)
        match options with
        | .error status => return .error status
        | .ok notValid =>
          if bodyEnd ≠ input.length ∨ crc8 (copy.set crcIndex 0) ≠ receivedCrc then return .error .malformed
          else return .ok {
            cid := cid, type := type, acknowledgmentNumber := number &&& 0x3FFF, acknowledgmentBits := 14
            acknowledgmentValid := !notValid, crcPresent := true, crcValid := true }

/-- `read_feedback2_v1`. -/
def readFeedback2V1 (input : Bytes) : Outcome (Except FeedbackStatus Feedback) :=
  if input.length < 4 then return .error .malformed
  else do
    let first ← octetAt input 0
    let bodyLen := (first &&& 0x07).toNat
    if !isFeedbackPacketStart first ∨ bodyLen = 0 ∨ input.length < 1 + bodyLen then return .error .malformed
    else do
      let b ← octetAt input 1
      if b &&& 0xF0 ≠ 0xE0 then readFeedback2Body input (1 + bodyLen) 0 1
      else if (b &&& 0x0F).toNat = 0 then return .error .malformed
      else readFeedback2Body input (1 + bodyLen) (b &&& 0x0F).toNat 2

theorem readFeedback2Body_eq {input : Bytes} {bodyLen p : Nat} (hlen : 1 + bodyLen ≤ input.length) (hmax : bodyLen ≤ 7)
    (hp : p ≤ bodyLen) (cid : Nat) :
    readFeedback2Body input (1 + bodyLen) cid (1 + p) =
      .ok (Rohccxx.readFeedback2Body cid p (window input 1 (1 + bodyLen)) (decide (1 + bodyLen = input.length))) := by
  unfold readFeedback2Body Rohccxx.readFeedback2Body
  have hbody : (input.drop 1).take bodyLen = window input 1 (1 + bodyLen) := by
    rw [window, Nat.add_sub_cancel_left]
  rw [minus_of_le (by omega), ok_bind, length_window hlen]
  by_cases hl : bodyLen - p < 3
  · rw [if_pos (by omega), if_pos (by omega)]
    rfl
  · rw [if_neg (by omega), if_neg (by omega), octetAt_window hlen (by omega), ok_bind]
    cases feedbackTypeFromAckType (u8At (window input 1 (1 + bodyLen)) p >>> 6) with
    | none => rfl
    | some type =>
      dsimp only
      rw [wordAt_eq (by omega), ok_bind, ← u16At_window (show 1 + p + 1 < 1 + bodyLen by omega),
        show 1 + p + 2 = 1 + (p + 2) by omega, octetAt_window hlen (by omega), ok_bind, minus_of_le (by omega), ok_bind,
        if_neg (by omega), copyFrom_of_le (by omega) (by omega), ok_bind, minus_of_le (by omega), ok_bind,
        readFeedback2Options_eq hlen (by omega), ok_bind, drop_window, Nat.add_sub_cancel_left, Nat.add_sub_cancel_left,
        hbody, show 1 + p + 3 = 1 + (p + 3) by omega]
      cases Rohccxx.readFeedback2Options (window input (1 + (p + 3)) (1 + bodyLen)) with
      | error status => rfl
      | ok notValid =>
        dsimp only
        have hc : (1 + bodyLen ≠ input.length ∨ crc8 ((window input 1 (1 + bodyLen)).set (p + 2) 0) ≠
              u8At (window input 1 (1 + bodyLen)) (p + 2)) ↔
            ((!decide (1 + bodyLen = input.length)) = true ∨ crc8 ((window input 1 (1 + bodyLen)).set (p + 2) 0) ≠
              u8At (window input 1 (1 + bodyLen)) (p + 2)) := by
          simp
        rw [if_congr hc rfl rfl]
        split_ifs <;> rfl

theorem readFeedback2V1_eq (input : Bytes) : readFeedback2V1 input = .ok (Rohccxx.readFeedback2V1 input) := by
  unfold readFeedback2V1 Rohccxx.readFeedback2V1
  dsimp only
  by_cases hl : input.length < 4
  · rw [if_pos hl, if_pos (Or.inl hl)]
    rfl
  · rw [if_neg hl, octetAt_eq (by omega), ok_bind]
    have hmax : (u8At input 0 &&& 0x07).toNat ≤ 7 := UInt8.le_iff_toNat_le.mp UInt8.and_le_right
    generalize (u8At input 0 &&& 0x07).toNat = bodyLen at hmax ⊢
    by_cases hm : (!isFeedbackPacketStart (u8At input 0)) = true ∨ bodyLen = 0 ∨ input.length < 1 + bodyLen
    · rw [if_pos hm, if_pos (Or.inr hm)]
      rfl
    · rw [if_neg hm, if_neg (not_or.mpr ⟨hl, hm⟩)]
      have hlen : 1 + bodyLen ≤ input.length := by
        refine Nat.not_lt.mp fun h => hm (Or.inr (Or.inr h))
      have hpos : bodyLen ≠ 0 := fun h => hm (Or.inr (Or.inl h))
      have hbody : (input.drop 1).take bodyLen = window input 1 (1 + bodyLen) := by
        rw [window, Nat.add_sub_cancel_left]
      rw [hbody, octetAt_window_start hlen (by omega), ok_bind]
      have h₀ := readFeedback2Body_eq (p := 0) hlen hmax (Nat.zero_le _) 0
      have h₁ := readFeedback2Body_eq (p := 1) hlen hmax (by omega) (u8At (window input 1 (1 + bodyLen)) 0 &&& 0x0F).toNat
      split_ifs
      · exact h₀
      · rfl
      · exact h₁

/-! ## The private RTP unit -/

/-- The loop of `read_bits`: `bits` bits from `bitpos` on. -/
def bitsAt (bs : Bytes) (bitpos : Nat) : Nat → Outcome Nat
  | 0 => return 0
  | bits + 1 => do
    let value ← bitsAt bs bitpos bits
    let b ← octetAt bs ((bitpos + bits) / 8)
    return value * 2 + (b.toNat.testBit (7 - (bitpos + bits) % 8)).toNat

theorem bitsAt_eq {bs : Bytes} {bitpos bits : Nat} (h : bitpos + bits ≤ bs.length * 8) :
    bitsAt bs bitpos bits = .ok (readBits bs bitpos bits) := by
  induction bits with
  | zero => rfl
  | succ bits ih =>
    rw [bitsAt, ih (by omega), ok_bind, octetAt_of_lt (by omega)]
    rfl

/-- `BitReader::read_bits`. -/
def readBits? (bs : Bytes) (bitpos bits : Nat) : Outcome Nat :=
  if bitpos ≤ bs.length * 8 then do
    let left ← minus (bs.length * 8) bitpos
    if bits ≤ left then bitsAt bs bitpos bits else .reject
  else .reject

theorem readBits?_eq (bs : Bytes) (bitpos bits : Nat) :
    readBits? bs bitpos bits = ofOption (Rohccxx.readBits? bs bitpos bits) := by
  unfold readBits? Rohccxx.readBits?
  by_cases hp : bitpos ≤ bs.length * 8
  · rw [if_pos hp, minus_of_le hp, ok_bind]
    by_cases hb : bits ≤ bs.length * 8 - bitpos
    · rw [if_pos hb, if_pos (by omega), bitsAt_eq (by omega)]
      rfl
    · rw [if_neg hb, if_neg (by omega)]
      rfl
  · rw [if_neg hp, if_neg (by omega)]
    rfl

/-- `validate_crc7_bits`, which is not told how many octets there are. -/
def validateCrc7Bits (bs : Bytes) (totalBits : Nat) : Outcome Bool :=
  if totalBits < 7 then return false
  else do
    let dataBits ← minus totalBits 7
    let dataBytes := (dataBits + 7) / 8
    let data ← copyFrom bs 0 dataBytes dataBytes
    let received ← bitsAt bs dataBits 7
    return (crc7 data &&& 0x7F).toNat = received

theorem validateCrc7Bits_eq {bs : Bytes} {totalBits : Nat} (h : totalBits ≤ bs.length * 8) :
    validateCrc7Bits bs totalBits = .ok (Rohccxx.validateCrc7Bits bs totalBits) := by
  unfold validateCrc7Bits Rohccxx.validateCrc7Bits
  by_cases ht : totalBits < 7
  · rw [if_pos ht, if_pos ht]
    rfl
  · rw [if_neg ht, if_neg ht, minus_of_le (by omega), ok_bind]
    dsimp only
    rw [copyFrom_of_le (by omega) (Nat.le_refl _), ok_bind, bitsAt_eq (by omega)]
    rfl

def decodeFoRtpCid (bs : Bytes) (ctx : Context) (embeddedCid : Nat) : Outcome Nat :=
  if ctx.largeCid then
    if embeddedCid ≠ 0 then .reject
    else do
      let (wireCid, cidLen) ← readLarge (← rest bs 1)
      if wireCid ≠ ctx.cid then .reject
      else do
        let left ← minus bs.length 1
        if cidLen > left then .reject else return (1 + cidLen) * 8
  else if embeddedCid ≠ ctx.cid then .reject
  else return 6

theorem decodeFoRtpCid_eq {bs : Bytes} (h : 0 < bs.length) (ctx : Context) (embeddedCid : Nat) :
    decodeFoRtpCid bs ctx embeddedCid = ofOption (Rohccxx.decodeFoRtpCid bs ctx embeddedCid) := by
  unfold decodeFoRtpCid Rohccxx.decodeFoRtpCid
  rw [rest_of_le h, ok_bind, readLarge_eq]
  by_cases hl : ctx.largeCid = true
  · rw [if_pos hl, if_pos hl]
    by_cases he : embeddedCid ≠ 0
    · rw [if_pos he, if_pos he]
      rfl
    · rw [if_neg he, if_neg he, ofOption_bind]
      refine congrArg _ (funext fun r => ?_)
      obtain ⟨wireCid, cidLen⟩ := r
      dsimp only
      rw [minus_of_le h, ok_bind]
      by_cases hw : wireCid ≠ ctx.cid
      · rw [if_pos hw, if_pos (Or.inl hw)]
        rfl
      · rw [if_neg hw]
        by_cases hc : cidLen > bs.length - 1
        · rw [if_pos hc, if_pos (Or.inr hc)]
          rfl
        · rw [if_neg hc, if_neg (not_or.mpr ⟨hw, hc⟩)]
          rfl
  · rw [if_neg hl, if_neg hl]
    split <;> rfl

/-- `decode_fo_rtp`. -/
def decodeFoRtp (bs : Bytes) (ctx : Context) : Outcome (Context × Nat) := do
  let indicator ← readBits? bs 0 1
  if indicator ≠ 0 then .reject
  else do
    let embeddedCid ← readBits? bs 2 4
    let bitpos ← decodeFoRtpCid bs ctx embeddedCid
    let k ← readBits? bs bitpos 6
    if k > 16 then .reject
    else do
      let seqLsb ← readBits? bs (bitpos + 6) k
      let tsLsb ← readBits? bs (bitpos + 6 + k) 8
      let payloadBytes := (bitpos + 6 + k + 8 + 7) / 8
      let _ ← readBits? bs (payloadBytes * 8) 7
      let totalBits := payloadBytes * 8 + 7
      let valid ← validateCrc7Bits bs totalBits
      if !valid then .reject
      else do
        let seq := UInt16.ofNat (decodeFieldLsb .rtpSequence seqLsb ctx.rtp.lastSeq.toNat k)
        let ts ← ofOption (decodeFoRtpTs ctx.rtp seq (UInt32.ofNat tsLsb))
        return (advanceFoRtp ctx seq ts, (totalBits + 7) / 8)

theorem le_of_readBits? {bs : Bytes} {bitpos bits n : Nat} (h : Rohccxx.readBits? bs bitpos bits = some n) :
    bitpos + bits ≤ bs.length * 8 := by
  unfold Rohccxx.readBits? at h
  split at h
  · assumption
  · cases h

theorem decodeFoRtp_eq (bs : Bytes) (ctx : Context) : decodeFoRtp bs ctx = ofOption (Rohccxx.decodeFoRtp bs ctx) := by
  unfold decodeFoRtp Rohccxx.decodeFoRtp
  rw [readBits?_eq]
  cases h₁ : Rohccxx.readBits? bs 0 1 with
  | none => rfl
  | some indicator =>
    have hlen := le_of_readBits? h₁
    rw [ofOption_some, ok_bind, ofOption_some_bind, ofOption_ite]
    refine ite_congr rfl (fun _ => rfl) fun _ => ?_
    rw [readBits?_eq, ofOption_bind]
    refine congrArg _ (funext fun embeddedCid => ?_)
    rw [decodeFoRtpCid_eq (by omega), ofOption_bind]
    refine congrArg _ (funext fun bitpos => ?_)
    rw [readBits?_eq, ofOption_bind]
    refine congrArg _ (funext fun k => ?_)
    rw [ofOption_ite]
    refine ite_congr rfl (fun _ => rfl) fun _ => ?_
    rw [readBits?_eq, ofOption_bind]
    refine congrArg _ (funext fun seqLsb => ?_)
    rw [readBits?_eq, ofOption_bind]
    refine congrArg _ (funext fun tsLsb => ?_)
    dsimp only
    rw [readBits?_eq]
    cases h₂ : Rohccxx.readBits? bs ((bitpos + 6 + k + 8 + 7) / 8 * 8) 7 with
    | none => rfl
    | some _ =>
      rw [ofOption_some, ok_bind, validateCrc7Bits_eq (le_of_readBits? h₂), ok_bind, ofOption_some_bind,
        ofOption_ite]
      refine ite_congr rfl (fun _ => rfl) fun _ => ?_
      rw [ofOption_bind]
      rfl

/-! ## Copies to the context -/

open Reader in
/-- `read_ipv4_options_list`, with the copy to the 40 octets of the context checked. -/
def readIpv4OptionsList (bs : Bytes) : Proc (Cursor Context) Unit := do
  available bs 1
  let marker ← u8 bs
  update fun ctx => { ctx with ipv4OptionsLen := 0, ipv4Options := Vector.replicate 40 0 }
  if isEmptyList marker then return ()
  else do
    Proc.require (marker &&& 0xC0 = ipv4OptionsListMarker)
    let optionsLen := (marker &&& 0x3F).toNat
    Proc.require (optionsLen ≠ 0 ∧ optionsLen ≤ 40)
    need bs optionsLen
    let options ← takeInto bs optionsLen 40
    update fun ctx => { ctx with ipv4OptionsLen := optionsLen, ipv4Options := fillCopy 40 options }

theorem readIpv4OptionsList_eq (bs : Bytes) : readIpv4OptionsList bs = Rohccxx.readIpv4OptionsList bs := by
  unfold readIpv4OptionsList Rohccxx.readIpv4OptionsList
  refine congrArg _ (funext fun _ => congrArg _ (funext fun marker => congrArg _ (funext fun _ => ?_)))
  refine ite_congr rfl (fun _ => rfl) fun _ => congrArg _ (funext fun _ => ?_)
  refine Proc.require_bind_congr fun h => ?_
  rw [decide_eq_true_eq] at h
  rw [Reader.takeInto_of_le h.2]

open Reader in
/-- `read_ipv6_extensions_list`, with the copy to the 128 octets of the context checked. -/
def readIpv6ExtensionsList (bs : Bytes) : Proc (Cursor Context) Unit := do
  available bs 1
  let marker ← u8 bs
  update fun ctx => { ctx with ipv6ExtensionLen := 0, ipv6Extensions := Vector.replicate 128 0 }
  if isEmptyList marker then return ()
  else do
    Proc.require (marker &&& 0x80 = ipv6ExtensionsListMarker)
    let extLen := (marker &&& 0x7F).toNat
    Proc.require (extLen ≠ 0 ∧ extLen ≤ 128)
    need bs extLen
    let extensions ← takeInto bs extLen 128
    update fun ctx => { ctx with ipv6ExtensionLen := extLen, ipv6Extensions := fillCopy 128 extensions }

theorem readIpv6ExtensionsList_eq (bs : Bytes) : readIpv6ExtensionsList bs = Rohccxx.readIpv6ExtensionsList bs := by
  unfold readIpv6ExtensionsList Rohccxx.readIpv6ExtensionsList
  refine congrArg _ (funext fun _ => congrArg _ (funext fun marker => congrArg _ (funext fun _ => ?_)))
  refine ite_congr rfl (fun _ => rfl) fun _ => congrArg _ (funext fun _ => ?_)
  refine Proc.require_bind_congr fun h => ?_
  rw [decide_eq_true_eq] at h
  rw [Reader.takeInto_of_le h.2]

open Reader in
/-- `read_rtp_extras_list`, with the copies to the 60, 256 and 255 octets of the context checked. -/
def readRtpExtrasList (bs : Bytes) : Proc (Cursor Context) Unit := do
  update fun ctx => ctx.withRtp RtpContext.clearExtras
  available bs 1
  let marker ← u8 bs
  if isEmptyList marker then update fun ctx => ctx.withRtp fun rtp => { rtp with vpxcc := rtp.vpxcc &&& 0xC0 }
  else do
    Proc.require (marker = rtpExtrasListMarker)
    let (bodyLen, consumed) ← scan readSdvl14 bs
    Proc.require (bodyLen ≥ 5)
    let _ ← take bs consumed
    need bs bodyLen
    let flags ← u8 bs
    Proc.require (flags &&& ~~~0x07 = 0)
    let csrcCount ← u8 bs
    let extensionLen ← u16 bs
    let paddingLen ← u8 bs
    let ctx ← value
    Proc.require (rtpExtrasHeaderOk ctx.rtp.vpxcc flags csrcCount extensionLen.toNat paddingLen.toNat bodyLen)
    let csrcList ← takeInto bs (csrcCount.toNat * 4) 60
    let extensionBytes ← takeInto bs extensionLen.toNat 256
    let paddingBytes ← takeInto bs paddingLen.toNat 255
    update fun ctx => ctx.withRtp fun rtp =>
      { rtp with
        csrcListLen := csrcCount.toNat * 4, csrcList := fillCopy 60 csrcList
        extensionLen := extensionLen.toNat, extensionBytes := fillCopy 256 extensionBytes
        paddingLen := paddingLen.toNat, paddingBytes := fillCopy 255 paddingBytes }
    let ctx ← value
    Proc.require (rtpExtrasBodyLen ctx.rtp = some bodyLen)

theorem readRtpExtrasList_eq (bs : Bytes) : readRtpExtrasList bs = Rohccxx.readRtpExtrasList bs := by
  unfold readRtpExtrasList Rohccxx.readRtpExtrasList
  refine congrArg _ (funext fun _ => congrArg _ (funext fun _ => congrArg _ (funext fun marker => ?_)))
  refine ite_congr rfl (fun _ => rfl) fun _ => congrArg _ (funext fun _ => congrArg _ (funext fun r => ?_))
  obtain ⟨bodyLen, consumed⟩ := r
  dsimp only
  refine congrArg _ (funext fun _ => congrArg _ (funext fun _ => congrArg _ (funext fun _ => ?_)))
  refine congrArg _ (funext fun flags => congrArg _ (funext fun _ => congrArg _ (funext fun csrcCount => ?_)))
  refine congrArg _ (funext fun extensionLen => congrArg _ (funext fun paddingLen => congrArg _ (funext fun ctx => ?_)))
  refine Proc.require_bind_congr fun h => ?_
  simp only [rtpExtrasHeaderOk, Bool.and_eq_true, decide_eq_true_eq] at h
  rw [Reader.takeInto_of_le (by omega), Reader.takeInto_of_le (by omega), Reader.takeInto_of_le (by omega)]

end Checked

/-! ## The result -/

/-- The octets `bs`, from whoever they come, stay within bounds for a context. The parsers and lengths that work by index
equal their plain forms, which have no fault; the readers do not fault. -/
structure WithinBounds (bs : Bytes) (largeCidSpace : Bool) (ctx : Context) : Prop where
  parse : Checked.parseRohcPacket bs largeCidSpace = .ofOption (parseRohcPacket bs largeCidSpace)
  payload : ∀ headerLen, Checked.payloadAfterHeader bs headerLen = .ofOption (payloadAfterHeader bs headerLen)
  feedback : Checked.readFeedbackPacket bs = .ofOption (readFeedbackPacket bs)
  feedback2 : Checked.readFeedback2V1 bs = .ok (readFeedback2V1 bs)
  largeCid : Checked.readLarge bs = .ofOption (Cid.readLarge bs)
  irStandard : ∀ profile profileId, (decodeIrStandard profile profileId bs ⟨0, ctx⟩).1 ≠ .fault
  irLegacy : ∀ profile, (decodeIrLegacyOf profile bs ⟨0, ctx⟩).1 ≠ .fault
  irDyn : ∀ profile, (Frame.decodeIrDynOf profile bs ⟨0, ctx⟩).1 ≠ .fault
  irDynCrc : ∀ crcLen crcIndex crc,
    Checked.crc8ExactMatches bs crcLen crcIndex crc = .ok (crc8ExactMatches bs crcLen crcIndex crc)
  ipExtra : ∀ pos, Checked.ipDynamicExtraLen bs pos ctx = .ofOption (ipDynamicExtraLen bs pos ctx)
  rtpExtra : ∀ pos, Checked.rtpDynamicExtraLen bs pos = .ofOption (rtpDynamicExtraLen bs pos)
  udpFo : (decodeUdpFo bs ⟨0, ctx⟩).1 ≠ .fault
  ipFo : (decodeIpFo bs ⟨0, ctx⟩).1 ≠ .fault
  espFo : (decodeEspFo bs ⟨0, ctx⟩).1 ≠ .fault
  udpLiteFo : (decodeUdpLiteFo bs ⟨0, ctx⟩).1 ≠ .fault
  rtpFo : Checked.decodeFoRtp bs ctx = .ofOption (decodeFoRtp bs ctx)
  ipv4Options : Checked.readIpv4OptionsList bs = readIpv4OptionsList bs
  ipv6Extensions : Checked.readIpv6ExtensionsList bs = readIpv6ExtensionsList bs
  rtpExtras : Checked.readRtpExtrasList bs = readRtpExtrasList bs

theorem inBounds_decodeIrLegacyOf (profile : Profile) (bs : Bytes) : InBounds bs (decodeIrLegacyOf profile bs) := by
  cases profile with
  | rtp => exact inBounds_decodeIrRtpLegacy bs
  | udp => exact inBounds_decodeIrUdpLegacy bs
  | esp => exact inBounds_decodeIrEspLegacy bs
  | ip => exact inBounds_decodeIrIpLegacy bs
  | rtpUdpLite => exact inBounds_decodeIrRtpUdpLiteLegacy bs
  | udpLite => exact inBounds_decodeIrUdpLiteLegacy bs
  | uncompressed => exact InBounds.reject
  | llaRtp => exact InBounds.reject

theorem inBounds_decodeIrDynOf (profile : Profile) (bs : Bytes) : InBounds bs (Frame.decodeIrDynOf profile bs) := by
  cases profile with
  | rtp => exact inBounds_decodeIrDynRtp bs
  | udp => exact inBounds_decodeIrDynUdp bs
  | esp => exact inBounds_decodeIrDynEsp bs
  | ip => exact inBounds_decodeIrDynIp bs
  | rtpUdpLite => exact inBounds_decodeIrDynRtpUdpLite bs
  | udpLite => exact inBounds_decodeIrDynUdpLite bs
  | uncompressed => exact InBounds.reject
  | llaRtp => exact InBounds.reject

/-- **No read is out of bounds**, for any octets, CID space and context. -/
theorem reads_withinBounds (bs : Bytes) (largeCidSpace : Bool) (ctx : Context) : WithinBounds bs largeCidSpace ctx where
  parse := Checked.parseRohcPacket_eq bs largeCidSpace
  payload := Checked.payloadAfterHeader_eq bs
  feedback := Checked.readFeedbackPacket_eq bs
  feedback2 := Checked.readFeedback2V1_eq bs
  largeCid := Checked.readLarge_eq bs
  irStandard profile profileId := (inBounds_decodeIrStandard profile profileId bs).ne_fault ctx
  irLegacy profile := (inBounds_decodeIrLegacyOf profile bs).ne_fault ctx
  irDyn profile := (inBounds_decodeIrDynOf profile bs).ne_fault ctx
  irDynCrc := Checked.crc8ExactMatches_eq bs
  ipExtra pos := Checked.ipDynamicExtraLen_eq bs pos ctx
  rtpExtra := Checked.rtpDynamicExtraLen_eq bs
  udpFo := (inBounds_decodeUdpFo bs).ne_fault ctx
  ipFo := (inBounds_decodeIpFo bs).ne_fault ctx
  espFo := (inBounds_decodeEspFo bs).ne_fault ctx
  udpLiteFo := (inBounds_decodeUdpLiteFo bs).ne_fault ctx
  rtpFo := Checked.decodeFoRtp_eq bs ctx
  ipv4Options := Checked.readIpv4OptionsList_eq bs
  ipv6Extensions := Checked.readIpv6ExtensionsList_eq bs
  rtpExtras := Checked.readRtpExtrasList_eq bs

end Rohccxx
