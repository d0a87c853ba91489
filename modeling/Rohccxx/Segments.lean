import Rohccxx.FirstPacket
import Rohccxx.Labels
import Rohccxx.Nesting
import Rohccxx.Twins

/-!
# Segmentation from end to end

A unit too long for the caller's buffer leaves the compressor in segments, each with as much of it as the buffer of its
call has room for (`train_of_longUnit`). A decompressor collects them and calls itself on the unit. Between the two
stands `Train`: the unit cut anywhere, numbered, the last segment marked.

Handed to a decompressor in order, a train whose segments all name a context is worth the unit it was cut from
(`worth_of_collects`); one that has a segment without a context is refused (`refused_front`, `refused_last`). In the
small-CID space every segment names context 0; in the large-CID space `parse_rohc_packet` reads the sequence number as a
CID before it looks at segments, so that a long train ends at the first number that names none
(`segments_transparent_iff`).
-/

set_option autoImplicit false

namespace Rohccxx

open Octets Runs

/-- The unit cut into segments numbered from `sequence` on. -/
inductive Train : UInt16 → Bytes → List Bytes → Prop where
  | last {sequence : UInt16} {payload : Bytes} (payloadNe : payload ≠ []) :
    Train sequence payload [segmentOctets true sequence payload]
  | cons {sequence : UInt16} {payload rest : Bytes} {segments : List Bytes} (payloadNe : payload ≠ [])
    (more : Train (sequence + 1) rest segments) :
    Train sequence (payload ++ rest) (segmentOctets false sequence payload :: segments)

theorem Train.ne_nil {sequence : UInt16} {unit : Bytes} {segments : List Bytes} (h : Train sequence unit segments) :
    segments ≠ [] := by
  cases h with
  | last => exact List.cons_ne_nil _ _
  | cons => exact List.cons_ne_nil _ _

/-- The last segment of a train. -/
theorem Train.of_single {sequence : UInt16} {unit segment : Bytes} (h : Train sequence unit [segment]) :
    unit ≠ [] ∧ segment = segmentOctets true sequence unit := by
  cases h with
  | last payloadNe => exact ⟨payloadNe, rfl⟩
  | cons payloadNe more => exact absurd rfl more.ne_nil

/-- A segment of a train that is not the last. -/
theorem Train.of_cons {sequence : UInt16} {unit segment : Bytes} {segments : List Bytes}
    (h : Train sequence unit (segment :: segments)) (hne : segments ≠ []) :
    ∃ payload rest, payload ≠ [] ∧ unit = payload ++ rest ∧ segment = segmentOctets false sequence payload ∧
      Train (sequence + 1) rest segments := by
  cases h with
  | last payloadNe => exact absurd rfl hne
  | cons payloadNe more => exact ⟨_, _, payloadNe, rfl, rfl, more⟩

/-! ## The compressor -/

namespace Compressor

/-- `rohc_comp_has_segment`. -/
def hasSegment (comp : Compressor) : Bool := comp.pendingSegmentPos < comp.pendingSegment.length

/-- What is left of the unit that is being sent. -/
def leftOver (comp : Compressor) : Bytes := comp.pendingSegment.drop comp.pendingSegmentPos

/-- `rohc_comp_get_segment`, call after call: the segments written, and the handle afterwards. -/
def getSegments (comp : Compressor) : List Nat → List Bytes × Compressor
  | [] => ([], comp)
  | cap :: caps =>
    let (segment, comp') := writeNextSegment comp cap
    let (segments, comp'') := comp'.getSegments caps
    (segment.toList ++ segments, comp'')

theorem hasSegment_iff (comp : Compressor) : comp.hasSegment = true ↔ comp.leftOver ≠ [] := by
  unfold hasSegment leftOver
  rw [decide_eq_true_iff, Ne, List.drop_eq_nil_iff, Nat.not_le]

/-- One call: nothing is written and nothing changes, or the next segment is. -/
inductive WritesSegment (comp : Compressor) (cap : Nat) : Option Bytes × Compressor → Prop where
  | nothing (reason : cap ≤ segmentHeaderLen ∨ comp.hasSegment = false) : WritesSegment comp cap (none, comp)
  | last {comp' : Compressor} (room : ¬cap ≤ segmentHeaderLen) (more : comp.hasSegment = true) (done : comp'.hasSegment = false) :
    WritesSegment comp cap (some (segmentOctets true comp.nextSegmentSequence comp.leftOver), comp')
  | next {comp' : Compressor} {payload : Bytes} (room : ¬cap ≤ segmentHeaderLen) (payloadNe : payload ≠ [])
    (cut : comp.leftOver = payload ++ comp'.leftOver) (more : comp'.hasSegment = true)
    (sequence : comp'.nextSegmentSequence = comp.nextSegmentSequence + 1) :
    WritesSegment comp cap (some (segmentOctets false comp.nextSegmentSequence payload), comp')

theorem writeSegmentPacket_eq {cap : Nat} {final : Bool} {sequence : UInt16} {payload : Bytes}
    (h : payload.length + 2 ≤ cap) : writeSegmentPacket cap final sequence payload = some (segmentOctets final sequence payload) := by
  unfold writeSegmentPacket
  rw [if_neg (by omega)]
  rfl

theorem writesSegment (comp : Compressor) (cap : Nat) : comp.WritesSegment cap (writeNextSegment comp cap) := by
  unfold writeNextSegment
  by_cases hno : cap ≤ segmentHeaderLen ∨ comp.pendingSegmentPos ≥ comp.pendingSegment.length
  · rw [if_pos hno]
    exact .nothing (hno.imp_right fun h => decide_eq_false (Nat.not_lt.mpr h))
  · rw [if_neg hno]
    obtain ⟨hcap, hpos⟩ := not_or.mp hno
    have hpos := Nat.not_le.mp hpos
    have hroom := Nat.not_le.mp hcap
    unfold segmentHeaderLen at hroom ⊢
    have hfit : ((comp.pendingSegment.drop comp.pendingSegmentPos).take
        (min (comp.pendingSegment.length - comp.pendingSegmentPos) (cap - 2))).length + 2 ≤ cap := by
      rw [List.length_take, List.length_drop]
      omega
    dsimp only
    rw [writeSegmentPacket_eq hfit]
    dsimp only
    by_cases hlast : min (comp.pendingSegment.length - comp.pendingSegmentPos) (cap - 2) =
        comp.pendingSegment.length - comp.pendingSegmentPos
    · rw [if_pos hlast, decide_eq_true hlast, hlast, List.take_of_length_le (Nat.le_of_eq List.length_drop)]
      exact .last hcap (decide_eq_true hpos) rfl
    · rw [if_neg hlast, decide_eq_false hlast]
      refine .next hcap ?_ ?_ ?_ rfl
      · rw [Ne, ← List.length_eq_zero_iff, List.length_take, List.length_drop]
        omega
      · unfold leftOver
        dsimp only
        rw [← List.drop_drop, List.take_append_drop]
      · unfold hasSegment
        dsimp only
        exact decide_eq_true (by omega)

theorem getSegments_of_done {comp : Compressor} (done : comp.hasSegment = false) (caps : List Nat) :
    comp.getSegments caps = ([], comp) := by
  induction caps with
  | nil => rfl
  | cons cap caps ih =>
    have hnothing : writeNextSegment comp cap = (none, comp) := by
      unfold writeNextSegment
      exact if_pos (.inr (Nat.not_lt.mp (of_decide_eq_false done)))
    unfold getSegments
    rw [hnothing]
    dsimp only
    rw [ih]
    rfl

/-- **The segments of a unit**, whatever room each call has, are a train, once there is no more to come. -/
theorem train_getSegments {caps : List Nat} {comp : Compressor} (more : comp.hasSegment = true)
    (done : (comp.getSegments caps).2.hasSegment = false) :
    Train comp.nextSegmentSequence comp.leftOver (comp.getSegments caps).1 := by
  induction caps generalizing comp with
  | nil => exact absurd (more.symm.trans done) (by decide)
  | cons cap caps ih =>
    unfold getSegments at done ⊢
    have hwrites := comp.writesSegment cap
    generalize writeNextSegment comp cap = ret at done hwrites
    cases hwrites with
    | nothing => exact ih more done
    | last room _ done₁ =>
      dsimp only
      rw [getSegments_of_done done₁]
      exact .last ((hasSegment_iff comp).mp more)
    | next room payloadNe cut more₁ sequence =>
      rw [cut]
      exact .cons payloadNe (sequence ▸ ih more₁ done)

/-- Every call with room writes an octet at least. -/
theorem hasSegment_getSegments {caps : List Nat} {comp : Compressor} (room : ∀ cap ∈ caps, segmentHeaderLen < cap)
    (enough : comp.leftOver.length ≤ caps.length) : (comp.getSegments caps).2.hasSegment = false := by
  induction caps generalizing comp with
  | nil =>
    by_contra hmore
    have hne := (hasSegment_iff comp).mp (Bool.not_eq_false _ ▸ hmore)
    exact hne (List.length_eq_zero_iff.mp (Nat.le_zero.mp enough))
  | cons cap caps ih =>
    have hcaps : ∀ cap ∈ caps, segmentHeaderLen < cap := fun cap h => room cap (List.mem_cons_of_mem _ h)
    have hroom := room cap List.mem_cons_self
    unfold getSegments
    have hwrites := comp.writesSegment cap
    generalize writeNextSegment comp cap = ret at hwrites
    cases hwrites with
    | nothing reason =>
      have hdone : comp.hasSegment = false := reason.resolve_left (Nat.not_le.mpr hroom)
      dsimp only
      rw [getSegments_of_done hdone]
      exact hdone
    | last _ _ done₁ =>
      dsimp only
      rw [getSegments_of_done done₁]
      exact done₁
    | next _ payloadNe cut more₁ sequence =>
      refine ih hcaps ?_
      have hpos := List.length_pos_iff.mpr payloadNe
      have hlen := congrArg List.length cut
      rw [List.length_append] at hlen
      rw [List.length_cons] at enough
      omega

/-- A packet and the segments of its unit. -/
def sendSegments (comp : Compressor) (packet : Bytes) (cap : Nat) (caps : List Nat) : List Bytes × Compressor :=
  let (first, comp') := rohcCompress4 comp packet cap
  let (segments, comp'') := comp'.getSegments caps
  (first.toList ++ segments, comp'')

/-- A unit too long for the buffer is cut. -/
theorem rohcCompress4_longUnit {comp : Compressor} {packet unit : Bytes} {cap : Nat}
    (hunit : (rohcCompress4 comp packet segmentBufferMax).1 = some unit) (room : segmentHeaderLen < cap)
    (long : cap < unit.length) (hmrru : unit.length ≤ comp.mrru) :
    unit.length ≤ segmentBufferMax ∧ ∃ comp' : Compressor, comp'.leftOver = unit ∧ comp'.nextSegmentSequence = 0 ∧
      rohcCompress4 comp packet cap = writeNextSegment comp' cap := by
  have hsame : (compressInner comp packet).2.mrru = comp.mrru := by
    unfold compressInner
    cases parseIpView packet with
    | none => rfl
    | some view =>
      dsimp only
      cases comp.contexts.get comp.currentCid with
      | none => rfl
      | some before =>
        dsimp only
        split <;> rfl
  unfold rohcCompress4 at hunit ⊢
  rw [if_neg (by decide)] at hunit
  rw [if_neg (Nat.not_le.mpr room)]
  generalize compressInner comp packet = inner at hunit hsame
  obtain ⟨made, comp₁⟩ := inner
  dsimp only at hunit hsame ⊢
  cases made with
  | none => cases hunit
  | some body =>
    dsimp only at hunit ⊢
    cases hicv : withIcv comp₁ packet body with
    | none =>
      rw [hicv] at hunit
      cases hunit
    | some full =>
      rw [hicv] at hunit
      dsimp only at hunit ⊢
      by_cases hfit : full.length ≤ segmentBufferMax
      · rw [if_pos hfit] at hunit
        cases hunit
        refine ⟨hfit, { comp₁ with pendingSegment := unit, pendingSegmentPos := 0, nextSegmentSequence := 0 }, rfl, rfl, ?_⟩
        rw [if_neg (Nat.not_le.mpr long), if_neg (by omega)]
      · rw [if_neg hfit, if_pos (by omega)] at hunit
        cases hunit

/-- **A unit too long for the buffer** leaves as a train, and enough calls with room bring all of it. -/
theorem train_of_longUnit {comp : Compressor} {packet unit : Bytes} {cap : Nat} {caps : List Nat}
    (hunit : (rohcCompress4 comp packet segmentBufferMax).1 = some unit) (room : segmentHeaderLen < cap)
    (long : cap < unit.length) (hmrru : unit.length ≤ comp.mrru) : unit.length ≤ segmentBufferMax ∧
      ((comp.sendSegments packet cap caps).2.hasSegment = false → Train 0 unit (comp.sendSegments packet cap caps).1) ∧
      ((∀ cap ∈ caps, segmentHeaderLen < cap) → unit.length ≤ caps.length →
        (comp.sendSegments packet cap caps).2.hasSegment = false) := by
  obtain ⟨hfit, comp', hleft, hsequence, hcut⟩ := rohcCompress4_longUnit hunit room long hmrru
  have hsend : comp.sendSegments packet cap caps = comp'.getSegments (cap :: caps) := by
    unfold sendSegments
    rw [hcut]
    rfl
  rw [hsend, ← hleft, ← hsequence]
  refine ⟨hleft ▸ hfit, train_getSegments ((hasSegment_iff comp').mpr ?_), fun hcaps henough => ?_⟩
  · rw [hleft]
    rintro rfl
    exact absurd long (Nat.not_lt_zero _)
  · refine hasSegment_getSegments (fun cap' h => ?_) (by rw [List.length_cons]; omega)
    rcases List.mem_cons.mp h with rfl | h
    · exact room
    · exact hcaps cap' h

end Compressor

/-! ## The decompressor -/

/-- One call: the octets handed over, the buffer and the room in it. -/
structure Handing where
  input : Bytes
  out : Bytes
  cap : Nat

namespace Decompressor

def hand (dec : Decompressor) (call : Handing) : Return := rohcDecompress4 dec call.input call.out call.cap

/-- What the calls return, one after another. -/
def handAll (dec : Decompressor) : List Handing → List Return
  | [] => []
  | call :: calls => dec.hand call :: (dec.hand call).2.handle.handAll calls

/-- The handle after the calls. -/
def after (dec : Decompressor) : List Handing → Decompressor
  | [] => dec
  | call :: calls => (dec.hand call).2.handle.after calls

/-- A segment names a CID that has a context. -/
def Names (dec : Decompressor) (segment : Bytes) : Prop :=
  ∃ cid before, readPacketCid segment .segment none dec.largeCidSpace = some cid ∧ dec.contexts.get cid.1 = some before

/-- In the small-CID space every segment is one of CID 0. -/
theorem names_of_small {dec : Decompressor} (h : dec.largeCidSpace = false) (segment : Bytes) : dec.Names segment := by
  obtain ⟨before, hget⟩ := Option.isSome_iff_exists.mp (ContextTable.get_isSome.mpr (Nat.zero_le dec.contexts.maxCid))
  refine ⟨(0, 0, false), before, ?_, hget⟩
  unfold readPacketCid
  rw [if_neg fun hspace => by rw [h] at hspace; exact absurd hspace.1 (by decide)]
  rfl

end Decompressor

/-- The labels of a call do not tell twins apart. -/
theorem Live.Twin.relabel {a b : Live} (h : a.Twin b) (labelled : b.handle.Labelled) {cid : Nat} {before : Context}
    (hget : b.handle.contexts.get cid = some before) : a.Twin (b.setCtx cid (labelContext b.handle cid before)) := by
  have hlabel : before.Twin (labelContext b.handle cid before) := by
    refine ⟨⟨rfl, fun hused => if_neg hused⟩, fun hs => ?_⟩
    exact labelContext_eq (labelled cid before hget hs) hs
  have hmax : (b.setCtx cid (labelContext b.handle cid before)).handle.contexts.maxCid = b.handle.contexts.maxCid :=
    ContextTable.maxCid_set _ _ _
  refine ⟨h.out, h.outLen, h.mode, ⟨h.settings.1, h.settings.2, h.settings.3, h.settings.4⟩, hmax.trans h.maxCid, ?_,
    h.active, h.collected, h.expected⟩
  intro cid' x y hx hy
  by_cases hc : cid = cid'
  · subst hc
    rw [Live.setCtx, ContextTable.get_set_self (by rw [hget]; rfl)] at hy
    cases hy
    exact (h.contexts hx hget).trans hlabel
  · rw [Live.setCtx, ContextTable.get_set_of_ne hc] at hy
    exact h.contexts hx hy

/-- A call has reset the length already. -/
theorem guardLength_rohcDecompress4 (dec : Decompressor) (input out : Bytes) (cap : Nat) :
    guardLength (rohcDecompress4 dec input out cap) = rohcDecompress4 dec input out cap := by
  have hguard : ∀ ret : Return, guardLength (guardLength ret) = guardLength ret := by
    intro ret
    unfold guardLength
    by_cases hcode : ret.1 = 0
    · rw [if_pos hcode, if_pos hcode]
    · rw [if_neg hcode, if_neg hcode]
  rw [rohcDecompress4_unfold]
  exact hguard _

/-- The handle has collected `octets` of a unit and waits for the segment `sequence`; otherwise it is the twin of `dec`. -/
structure Collects (dec : Decompressor) (sequence : UInt16) (octets : Bytes) (now : Decompressor) : Prop where
  labelled : now.Labelled
  begun : now.reassemblyActive = true ∨ sequence = 0
  expected : now.expectedSequence = sequence
  collected : now.collected = octets
  twin : ∀ out cap, Live.Twin ⟨dec, out, cap⟩ (⟨now, out, cap⟩ : Live).completed

namespace Collects

variable {dec now : Decompressor} {sequence : UInt16} {octets payload : Bytes}

theorem start (labelled : dec.Labelled) (idle : dec.reassemblyActive = false) : Collects dec 0 [] dec where
  labelled := labelled
  begun := .inr rfl
  expected := expectedSequence_of_idle idle
  collected := collected_of_idle idle
  twin out cap := by
    refine ⟨rfl, rfl, rfl, ⟨rfl, rfl, rfl, rfl⟩, rfl, fun {_ x y} hx hy => ?_, idle.symm, ?_, ?_⟩
    · cases hx.symm.trans hy
      exact .refl x
    · exact (collected_of_idle rfl).trans (collected_of_idle idle).symm
    · exact (expectedSequence_of_idle rfl).trans (expectedSequence_of_idle idle).symm

theorem settings (h : Collects dec sequence octets now) : SameSettings dec now := by
  have hs := (h.twin [] 0).settings
  exact ⟨hs.1, hs.2, hs.3, hs.4⟩

theorem names (h : Collects dec sequence octets now) {segment : Bytes} (names : dec.Names segment) : now.Names segment := by
  obtain ⟨cid, before, hcid, hget⟩ := names
  refine ⟨cid, ?_⟩
  rw [h.settings.largeCidSpace]
  rcases (h.twin [] 0).get_cases cid.1 with ⟨hnone, -⟩ | ⟨x, y, -, hy, -⟩
  · exact absurd (hnone.symm.trans hget) (by simp)
  · exact ⟨y, hcid, hy⟩

/-- A segment that is not the last is collected. -/
theorem next {call : Handing} (h : Collects dec sequence octets now) (names : dec.Names call.input)
    (hinput : call.input = segmentOctets false sequence payload) (payloadNe : payload ≠ [])
    (limit : (octets ++ payload).length ≤ dec.reassemblyLimit) :
    (now.hand call).1 = 1 ∧ Collects dec (sequence + 1) (octets ++ payload) (now.hand call).2.handle := by
  obtain ⟨cid, before, hcid, hget⟩ := h.names names
  rw [hinput, ← h.expected] at hcid
  have hlimit : (now.collected ++ payload).length ≤ now.reassemblyLimit := by
    unfold Decompressor.reassemblyLimit
    rw [h.collected, h.settings.mrru]
    exact limit
  have hcall : now.hand call = guardLength (1, ((⟨now, call.out, call.cap⟩ : Live).clearFeedback.setCtx cid.1
      (labelContext now cid.1 before)).collecting (now.collected ++ payload) (now.expectedSequence + 1)) := by
    unfold Decompressor.hand
    rw [rohcDecompress4_unfold, hinput, ← h.expected]
    exact @decompressCall_segmentOctets _ ⟨now, call.out, call.cap⟩ false payload cid before hcid hget payloadNe
      (h.expected.symm ▸ h.begun) hlimit
  have hlabelled : (now.hand call).2.handle.Labelled := rohcDecompress4_labelled h.labelled _ _ _
  rw [hcall] at hlabelled ⊢
  refine ⟨rfl, hlabelled, .inl rfl, ?_, ?_, fun out cap => ?_⟩
  · exact congrArg (· + 1) h.expected
  · exact congrArg (· ++ payload) h.collected
  · have htwin := (h.twin out cap).relabel (fun cid' ctx hget' => h.labelled cid' ctx hget') hget
    exact htwin.feedback dec.lastFeedback now.lastFeedback dec.hasFeedback false

/-- **The last segment** is worth the unit. -/
theorem last {call : Handing} (h : Collects dec sequence octets now) (names : dec.Names call.input)
    (hinput : call.input = segmentOctets true sequence payload) (payloadNe : payload ≠ [])
    (limit : (octets ++ payload).length ≤ dec.reassemblyLimit) :
    SameCourse (rohcDecompress4 dec (octets ++ payload) call.out call.cap) (now.hand call) := by
  obtain ⟨cid, before, hcid, hget⟩ := h.names names
  rw [hinput, ← h.expected] at hcid
  have hlimit : (now.collected ++ payload).length ≤ now.reassemblyLimit := by
    unfold Decompressor.reassemblyLimit
    rw [h.collected, h.settings.mrru]
    exact limit
  have hcall : now.hand call = guardLength (rohcDecompress4 ((⟨now, call.out, call.cap⟩ : Live).clearFeedback.setCtx cid.1
      (labelContext now cid.1 before)).completed.handle (octets ++ payload) call.out call.cap) := by
    unfold Decompressor.hand
    rw [rohcDecompress4_unfold, hinput, ← h.expected, ← h.collected]
    exact @decompressCall_segmentOctets _ ⟨now, call.out, call.cap⟩ true payload cid before hcid hget payloadNe
      (h.expected.symm ▸ h.begun) hlimit
  have htwin := ((h.twin call.out call.cap).relabel (fun cid' ctx hget' => h.labelled cid' ctx hget') hget).feedback
    dec.lastFeedback now.lastFeedback dec.hasFeedback false
  rw [hcall, guardLength_rohcDecompress4]
  exact rohcDecompress4_twin htwin (octets ++ payload)

end Collects

/-- A segment that names no context is refused. -/
theorem hand_unnamed {dec now : Decompressor} {sequence : UInt16} {octets payload : Bytes} {call : Handing} {final : Bool}
    (h : Collects dec sequence octets now) (names : ¬dec.Names call.input)
    (hinput : call.input = segmentOctets final sequence payload) : (now.hand call).1 = -1 := by
  unfold Decompressor.hand
  rw [rohcDecompress4_unfold, hinput]
  refine decompressCall_of_enter_none (enter_segmentOctets_none fun cid hcid => ?_)
  rw [hinput] at names
  cases hget : now.contexts.get cid.1 with
  | none => rfl
  | some before =>
    refine absurd ⟨cid, ?_⟩ names
    rw [← h.settings.largeCidSpace]
    rcases (h.twin [] 0).get_cases cid.1 with ⟨-, hnone⟩ | ⟨x, y, hx, -, -⟩
    · exact absurd (hnone.symm.trans hget) (by simp)
    · exact ⟨x, hcid, hx⟩

section Worth

variable {dec now : Decompressor} {sequence : UInt16} {octets unit : Bytes} {front : List Handing} {final : Handing}

theorem inputs_ne_nil (front : List Handing) (final : Handing) : (front ++ [final]).map Handing.input ≠ [] := by simp

/-- The segments before the last are collected, if they name contexts. -/
theorem collects_front (h : Collects dec sequence octets now)
    (train : Train sequence unit ((front ++ [final]).map Handing.input))
    (limit : (octets ++ unit).length ≤ dec.reassemblyLimit) (names : ∀ call ∈ front, dec.Names call.input) :
    (∀ ret ∈ now.handAll front, ret.1 = 1) ∧ ∃ sequence' octets' payload, Collects dec sequence' octets' (now.after front) ∧
      octets' ++ payload = octets ++ unit ∧ payload ≠ [] ∧ final.input = segmentOctets true sequence' payload := by
  induction front generalizing now sequence octets unit with
  | nil =>
    obtain ⟨unitNe, hinput⟩ := Train.of_single train
    exact ⟨fun ret hret => absurd hret List.not_mem_nil, sequence, octets, unit, h, rfl, unitNe, hinput⟩
  | cons call front ih =>
    obtain ⟨payload, rest, payloadNe, rfl, hinput, more⟩ :=
      Train.of_cons train (inputs_ne_nil front final)
    have hlimit : (octets ++ payload).length ≤ dec.reassemblyLimit := by
      simp only [List.length_append] at limit ⊢
      omega
    obtain ⟨hcode, hnext⟩ := h.next (names call List.mem_cons_self) hinput payloadNe hlimit
    rw [← List.append_assoc] at limit ⊢
    obtain ⟨hcodes, hlast⟩ := ih hnext more limit fun call hmem => names call (List.mem_cons_of_mem _ hmem)
    refine ⟨fun ret hret => ?_, hlast⟩
    rcases List.mem_cons.mp hret with rfl | hret
    · exact hcode
    · exact hcodes ret hret

/-- **A train is worth the unit it was cut from**, as far as it still has to come. -/
theorem worth_of_collects (h : Collects dec sequence octets now)
    (train : Train sequence unit ((front ++ [final]).map Handing.input))
    (limit : (octets ++ unit).length ≤ dec.reassemblyLimit) (names : ∀ call ∈ front ++ [final], dec.Names call.input) :
    (∀ ret ∈ now.handAll front, ret.1 = 1) ∧
      SameCourse (rohcDecompress4 dec (octets ++ unit) final.out final.cap) ((now.after front).hand final) := by
  obtain ⟨hcodes, sequence', octets', payload, hcollects, hunit, payloadNe, hinput⟩ :=
    collects_front h train limit fun call hmem => names call (List.mem_append_left _ hmem)
  rw [← hunit] at limit ⊢
  exact ⟨hcodes, hcollects.last (names final (List.mem_append_right _ List.mem_cons_self)) hinput payloadNe limit⟩

/-- A segment before the last that names no context is refused. -/
theorem refused_front (h : Collects dec sequence octets now)
    (train : Train sequence unit ((front ++ [final]).map Handing.input))
    (limit : (octets ++ unit).length ≤ dec.reassemblyLimit) (unnamed : ∃ call ∈ front, ¬dec.Names call.input) :
    ∃ ret ∈ now.handAll front, ret.1 = -1 := by
  induction front generalizing now sequence octets unit with
  | nil =>
    obtain ⟨call, hmem, -⟩ := unnamed
    exact absurd hmem List.not_mem_nil
  | cons call front ih =>
    obtain ⟨payload, rest, payloadNe, rfl, hinput, more⟩ :=
      Train.of_cons train (inputs_ne_nil front final)
    by_cases hcall : dec.Names call.input
    · have hlimit : (octets ++ payload).length ≤ dec.reassemblyLimit := by
        simp only [List.length_append] at limit ⊢
        omega
      obtain ⟨-, hnext⟩ := h.next hcall hinput payloadNe hlimit
      rw [← List.append_assoc] at limit
      obtain ⟨other, hmem, hno⟩ := unnamed
      have hmem : other ∈ front := (List.mem_cons.mp hmem).resolve_left fun heq => hno (heq ▸ hcall)
      obtain ⟨ret, hret, hcode⟩ := ih hnext more limit ⟨other, hmem, hno⟩
      exact ⟨ret, List.mem_cons_of_mem _ hret, hcode⟩
    · exact ⟨_, List.mem_cons_self, hand_unnamed h hcall hinput⟩

/-- So is the last one. -/
theorem refused_last (h : Collects dec sequence octets now)
    (train : Train sequence unit ((front ++ [final]).map Handing.input))
    (limit : (octets ++ unit).length ≤ dec.reassemblyLimit) (names : ∀ call ∈ front, dec.Names call.input)
    (unnamed : ¬dec.Names final.input) : ((now.after front).hand final).1 = -1 := by
  obtain ⟨-, sequence', octets', payload, hcollects, -, -, hinput⟩ := collects_front h train limit names
  exact hand_unnamed hcollects unnamed hinput

end Worth

/-! ## Both ends -/

/-- Two calls with the same return code, output and contexts. -/
structure SameOutcome (r s : Return) : Prop where
  code : s.1 = r.1
  out : s.2.out = r.2.out
  outLen : s.2.outLen = r.2.outLen
  contexts : ∀ {cid x y}, r.2.handle.contexts.get cid = some x → s.2.handle.contexts.get cid = some y → x.Twin y

theorem SameCourse.outcome {r s : Return} (h : SameCourse r s) : SameOutcome r s :=
  ⟨h.1, h.2.out, h.2.outLen, h.2.contexts⟩

/-- Every segment but the last is collected, and the last returns, writes and leaves what the unit itself would. -/
def Decompressor.Transparent (dec : Decompressor) (unit : Bytes) (front : List Handing) (final : Handing) : Prop :=
  (∀ ret ∈ dec.handAll front, ret.1 = 1) ∧
    SameOutcome (rohcDecompress4 dec unit final.out final.cap) ((dec.after front).hand final)

theorem Context.Twin.symm {a b : Context} (h : a.Twin b) : b.Twin a := by
  have hfields := h.keeps.fields
  have htx : b.txCount = a.txCount := by rw [hfields]
  refine ⟨⟨?_, fun hused => ?_⟩, fun hs => (h.used (by rw [← h.state]; exact hs)).symm⟩
  · rw [hfields]
  · exact (h.keeps.mode (by rw [← htx, ← h.state]; exact hused)).symm

/-- A context that is kept, and labelled before and after, is the same once it is in use. -/
theorem KeepsContext.twin {a b : Context} (h : KeepsContext a b) {space : Bool} {cid : Nat} (ha : a.Labelled space cid)
    (hb : b.Labelled space cid) : a.Twin b := by
  refine ⟨h, fun hs => ?_⟩
  have hstate : b.rohcState = a.rohcState := by rw [h.fields]
  obtain ⟨hcid, hlarge⟩ := Prod.mk.inj ((hb (by rw [hstate]; exact hs)).trans (ha hs).symm)
  have hfields := h.fields
  rw [hcid, hlarge, h.mode fun hfresh => hs hfresh.2] at hfields
  exact hfields

/-- A refused call leaves twins of the contexts. -/
theorem twin_of_refused {dec : Decompressor} (labelled : dec.Labelled) {input out : Bytes} {cap : Nat}
    (refused : (rohcDecompress4 dec input out cap).1 ≠ 0) {cid : Nat} {a b : Context}
    (ha : dec.contexts.get cid = some a)
    (hb : (rohcDecompress4 dec input out cap).2.handle.contexts.get cid = some b) : a.Twin b := by
  have hkept : Spared ⟨dec, out, cap⟩ (rohcDecompress4 dec input out cap).2 := decompressNested_preserves _ _ _ refused
  obtain ⟨b', hb', hkeeps⟩ := hkept.contexts cid a ha
  cases hb'.symm.trans hb
  refine hkeeps.twin (labelled cid a ha) ?_
  have hb'' := rohcDecompress4_labelled labelled input out cap cid b hb
  rw [hkept.settings.largeCidSpace] at hb''
  exact hb''

/-- Two refusals, one of the unit and one behind its first segments, come to the same. -/
theorem outcome_of_refused {dec now : Decompressor} {sequence : UInt16} {octets : Bytes} (labelled : dec.Labelled)
    (h : Collects dec sequence octets now) {input : Bytes} {call : Handing}
    (whole : (rohcDecompress4 dec input call.out call.cap).1 = -1) (last : (now.hand call).1 = -1) :
    SameOutcome (rohcDecompress4 dec input call.out call.cap) (now.hand call) := by
  have hwhole : (rohcDecompress4 dec input call.out call.cap).1 ≠ 0 := by
    rw [whole]
    decide
  have hlast : (rohcDecompress4 now call.input call.out call.cap).1 ≠ 0 := by
    change (now.hand call).1 ≠ 0
    rw [last]
    decide
  have hkept := decompressNested_preserves _ ⟨dec, call.out, call.cap⟩ input hwhole
  have hkept' := decompressNested_preserves _ ⟨now, call.out, call.cap⟩ call.input hlast
  refine ⟨last.trans whole.symm, hkept'.out.trans hkept.out.symm, ?_, fun {cid x y} hx hy => ?_⟩
  · exact (guardLength_outLen hlast).trans (guardLength_outLen hwhole).symm
  · have hdec : (dec.contexts.get cid).isSome := by
      have hmax : (rohcDecompress4 dec input call.out call.cap).2.handle.contexts.maxCid = dec.contexts.maxCid :=
        hkept.maxCid
      rw [ContextTable.get_isSome, ← hmax, ← ContextTable.get_isSome, hx]
      rfl
    obtain ⟨a, ha⟩ := Option.isSome_iff_exists.mp hdec
    rcases (h.twin call.out call.cap).get_cases cid with ⟨hnone, -⟩ | ⟨a', b, ha', hb, hab⟩
    · exact absurd (hnone.symm.trans ha) (by simp)
    · have hx' := twin_of_refused labelled hwhole ha' hx
      exact hx'.symm.trans (hab.trans (twin_of_refused h.labelled hlast hb hy))

/-- A unit that leaves the compressor in segments, and the calls that hand these to a decompressor with no reassembly in
progress. -/
structure SentInSegments (comp : Compressor) (packet unit : Bytes) (dec : Decompressor) (front : List Handing)
    (final : Handing) : Prop where
  made : (rohcCompress4 comp packet segmentBufferMax).1 = some unit
  mrru : unit.length ≤ comp.mrru
  limit : unit.length ≤ dec.mrru
  idle : dec.reassemblyActive = false
  /-- All of the unit is sent, and handed over in order. -/
  handed : ∃ cap caps, segmentHeaderLen < cap ∧ cap < unit.length ∧
    (comp.sendSegments packet cap caps).2.hasSegment = false ∧
    (front ++ [final]).map Handing.input = (comp.sendSegments packet cap caps).1

/-- **When segmentation is transparent**: exactly when the segments name CIDs that have contexts, as in the small-CID space
they always do. Only of a unit that is refused as a whole the last segment may be refused as well. -/
theorem segments_transparent_iff {comp : Compressor} {packet unit : Bytes} {ok : DecompHandle → DecompCall → Prop}
    {maxCid : Nat} {labels : List (DecompCall × Option Acceptance)} {handle : DecompHandle}
    (run : Reaches (decompMachine.Step ok) (.fresh maxCid) labels handle) {front : List Handing} {final : Handing}
    (sent : SentInSegments comp packet unit handle.core front final) :
    (handle.core.largeCidSpace = false → ∀ call ∈ front ++ [final], handle.core.Names call.input) ∧
    ((rohcDecompress4 handle.core unit final.out final.cap).1 ≠ -1 →
      (handle.core.Transparent unit front final ↔ ∀ call ∈ front ++ [final], handle.core.Names call.input)) ∧
    ((rohcDecompress4 handle.core unit final.out final.cap).1 = -1 →
      (handle.core.Transparent unit front final ↔ ∀ call ∈ front, handle.core.Names call.input)) := by
  obtain ⟨cap, caps, room, long, done, handed⟩ := sent.handed
  obtain ⟨hfit, htrain, -⟩ := Compressor.train_of_longUnit sent.made room long sent.mrru
  have train := htrain done
  rw [← handed] at train
  have labelled : handle.core.Labelled := labelled_of_reaches run
  have start := Collects.start labelled sent.idle
  have hlimit : ([] ++ unit).length ≤ handle.core.reassemblyLimit := Nat.le_min.mpr ⟨sent.limit, hfit⟩
  have hworth : (∀ call ∈ front ++ [final], handle.core.Names call.input) → handle.core.Transparent unit front final := by
    intro hnames
    obtain ⟨hcodes, hcourse⟩ := worth_of_collects start train hlimit hnames
    exact ⟨hcodes, hcourse.outcome⟩
  have hfront : handle.core.Transparent unit front final → ∀ call ∈ front, handle.core.Names call.input := by
    intro h call hmem
    by_contra hno
    obtain ⟨ret, hret, hcode⟩ := refused_front start train hlimit ⟨call, hmem, hno⟩
    exact absurd (hcode.symm.trans (h.1 ret hret)) (by decide)
  have hall : (∀ call ∈ front, handle.core.Names call.input) → handle.core.Names final.input →
      ∀ call ∈ front ++ [final], handle.core.Names call.input := by
    intro hnames hfinal call hmem
    rcases List.mem_append.mp hmem with hmem | hmem
    · exact hnames call hmem
    · rw [List.mem_singleton.mp hmem]
      exact hfinal
  refine ⟨fun hsmall call _ => Decompressor.names_of_small hsmall _, fun htaken => ⟨fun h => ?_, hworth⟩,
    fun hrefused => ⟨hfront, fun hnames => ?_⟩⟩
  · refine hall (hfront h) ?_
    by_contra hno
    have hcode := refused_last start train hlimit (hfront h) hno
    exact htaken (h.2.code.symm.trans hcode)
  · by_cases hfinal : handle.core.Names final.input
    · exact hworth (hall hnames hfinal)
    · obtain ⟨hcodes, _, _, _, hcollects, -⟩ := collects_front start train hlimit hnames
      exact ⟨hcodes, outcome_of_refused labelled hcollects hrefused (refused_last start train hlimit hnames hfinal)⟩

/-- Both ends have CIDs 0 to 16, in the large-CID space. -/
def largeCompressor : Compressor := { contexts := .init 16, largeCidSpace := true, mrru := 4096 }

def largeHandle : DecompHandle := decompMachine.after (.fresh 16) [.setMrru 4096]

/-- The IR of `shortUdpPacket` there. -/
def largeUdpIr : Bytes :=
  [253, 0, 2, 65, 64, 17, 10, 0, 0, 1, 10, 0, 0, 2, 3, 232, 7, 208, 6, 0, 64, 0, 1, 0, 0, 0, 1, 0, 7]

/-- Its segments of one octet each, handed over with room for the packet. -/
def octetSegments : List Handing :=
  (largeCompressor.sendSegments shortUdpPacket 3 (List.replicate 28 3)).1.map fun segment => ⟨segment, [], 29⟩

/-- The eighteenth of them spells CID 17, which has no context. -/
theorem segmentation_not_transparent :
    ¬∀ (comp : Compressor) (packet unit : Bytes) (labels : List (DecompCall × Option Acceptance)) (handle : DecompHandle)
      (front : List Handing) (final : Handing), Reaches (decompMachine.Step fun _ _ => True) (.fresh 16) labels handle →
      handle.core.mrru = comp.mrru → handle.core.largeCidSpace = comp.largeCidSpace →
      handle.core.integrity = comp.integrity → SentInSegments comp packet unit handle.core front final →
      handle.core.Transparent unit front final := by
  intro h
  have sent : SentInSegments largeCompressor shortUdpPacket largeUdpIr largeHandle.core octetSegments.dropLast
      (octetSegments.getLastD ⟨[], [], 0⟩) :=
    ⟨by decide +kernel, by decide, by decide, rfl,
      3, List.replicate 28 3, by decide, by decide, by decide +kernel, by decide +kernel⟩
  have run : Reaches (decompMachine.Step fun _ _ => True) (.fresh 16)
      (decompMachine.trace (.fresh 16) [.setMrru 4096]) largeHandle := Machine.reaches_trace ⟨trivial, trivial⟩
  have hcodes := (h largeCompressor shortUdpPacket largeUdpIr _ largeHandle _ _ run rfl rfl rfl sent).1
  have hrefused : (largeHandle.core.handAll octetSegments.dropLast).any (fun ret => ret.1 = -1) = true := by
    decide +kernel
  obtain ⟨ret, hret, hcode⟩ := List.any_eq_true.mp hrefused
  rw [hcodes ret hret] at hcode
  exact absurd hcode (by decide)

/-- In buffers of 20 octets the same unit is two segments, which spell CIDs 0 and 1. -/
theorem segments_transparent_largeUdp :
    largeHandle.core.Transparent largeUdpIr [⟨segmentOctets false 0 (largeUdpIr.take 18), [], 29⟩]
      ⟨segmentOctets true 1 (largeUdpIr.drop 18), [], 29⟩ := by
  have run : Reaches (decompMachine.Step fun _ _ => True) (.fresh 16)
      (decompMachine.trace (.fresh 16) [.setMrru 4096]) largeHandle := Machine.reaches_trace ⟨trivial, trivial⟩
  have hcontext : ∀ cid : Nat, cid ≤ 16 → ∃ before, largeHandle.core.contexts.get cid = some before := fun cid hcid =>
    Option.isSome_iff_exists.mp (ContextTable.get_isSome.mpr hcid)
  obtain ⟨first, hfirst⟩ := hcontext 0 (by decide)
  obtain ⟨second, hsecond⟩ := hcontext 1 (by decide)
  have sent : SentInSegments largeCompressor shortUdpPacket largeUdpIr largeHandle.core
      [⟨segmentOctets false 0 (largeUdpIr.take 18), [], 29⟩] ⟨segmentOctets true 1 (largeUdpIr.drop 18), [], 29⟩ :=
    ⟨by decide +kernel, by decide, by decide, rfl, 20, [20], by decide, by decide, by decide +kernel, by decide +kernel⟩
  refine ((segments_transparent_iff run sent).2.1 (by decide +kernel)).mpr ?_
  intro call hmem
  rcases List.mem_cons.mp hmem with rfl | hmem
  · exact ⟨(0, 1, true), first, by decide +kernel, hfirst⟩
  · rw [List.mem_singleton.mp hmem]
    exact ⟨(1, 1, true), second, by decide +kernel, hsecond⟩

end Rohccxx
