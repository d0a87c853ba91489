import Rohccxx.Bounds

/-!
# Contexts are isolated

In the space of small CIDs the Add-CID octet of a unit names its context, CID 0 when there is none (`namedCid`). The parser
also finds a CID in the first octet of a private RTP unit, and the call may settle on that one; every block then refuses
the unit (`Frame.unnamed_refused`), so no call touches a context its unit does not name (`cid_isolation`). A compressor
touches the context of its current CID.
-/

set_option autoImplicit false

namespace Rohccxx

open Octets

/-! ## The CID a unit names -/

/-- The CID in the Add-CID octet behind the feedback elements, or 0. -/
def namedCid (input : Bytes) : Nat :=
  match skipFeedback input.length input with
  | some unit => if u8At unit 0 &&& 0xF0 = 0xE0 then (u8At unit 0 &&& 0x0F).toNat else 0
  | none => 0

/-- A segment: the octet behind feedback and Add-CID is 0xFE or 0xFF. -/
def isSegment (input : Bytes) : Bool :=
  match skipFeedback input.length input with
  | some unit => u8At unit (if u8At unit 0 &&& 0xF0 = 0xE0 then 1 else 0) &&& 0xFE = 0xFE
  | none => false

/-- What the parser says of a unit with small CIDs: its Add-CID octet, its type octet and its CID. -/
structure ParsedSmall (unit : Bytes) (parsed : ParsedRohcPacket) : Prop where
  addCid : parsed.hasAddCid = decide (u8At unit 0 &&& 0xF0 = 0xE0)
  first : u8At parsed.packet 0 = u8At unit (if u8At unit 0 &&& 0xF0 = 0xE0 then 1 else 0)
  cid : parsed.cid = (if u8At unit 0 &&& 0xF0 = 0xE0 then (u8At unit 0 &&& 0x0F).toNat else 0) ∨
    parsed.type = .foRtp ∧ parsed.hasAddCid = false

theorem cid_parseRohcPacketBody {wire packet : Bytes} {addCid : Option Nat} {parsed : ParsedRohcPacket}
    (h : parseRohcPacketBody wire packet addCid false = some parsed) :
    parsed.hasAddCid = addCid.isSome ∧ (parsed.cid = addCid.getD 0 ∨ parsed.type = .foRtp ∧ addCid = none) := by
  unfold parseRohcPacketBody at h
  split at h
  · cases h
  · simp only [readPacketCid, Bool.false_eq_true, false_and, if_false, Option.bind_eq_bind, Option.bind_some,
      Option.pure_def] at h
    split at h
    · obtain ⟨-, h⟩ := Option.ite_none_left_eq_some.mp h
      cases h
      exact ⟨rfl, .inl rfl⟩
    · obtain ⟨-, h⟩ := Option.ite_none_left_eq_some.mp h
      cases h
      refine ⟨rfl, ?_⟩
      by_cases hfo : packetTypeOf packet = .foRtp ∧ addCid = none
      · exact .inr hfo
      · refine .inl ?_
        dsimp only
        rw [if_neg]
        rintro ⟨h₁, -, h₂⟩
        exact hfo ⟨h₁, h₂⟩

theorem parseRohcPacket_small {unit : Bytes} {parsed : ParsedRohcPacket} (h : parseRohcPacket unit false = some parsed) :
    ParsedSmall unit parsed := by
  unfold parseRohcPacket at h
  split at h
  · cases h
  · split at h
    · rename_i hadd
      split at h
      · cases h
      · obtain ⟨hhas, hcid⟩ := cid_parseRohcPacketBody h
        have hpacket := packet_parseRohcPacketBody h
        have hadd : u8At unit 0 &&& 0xF0 = 0xE0 := hadd.2
        refine ⟨?_, ?_, ?_⟩
        · rw [hhas, decide_eq_true hadd]
          rfl
        · rw [hpacket, if_pos hadd]
          simp [u8At]
        · rw [if_pos hadd]
          rcases hcid with hcid | ⟨-, hnone⟩
          · exact .inl hcid
          · cases hnone
    · rename_i hadd
      have hadd : ¬(u8At unit 0 &&& 0xF0 = 0xE0) := fun e => hadd ⟨rfl, e⟩
      obtain ⟨hhas, hcid⟩ := cid_parseRohcPacketBody h
      refine ⟨?_, ?_, ?_⟩
      · rw [hhas, decide_eq_false hadd]
        rfl
      · rw [packet_parseRohcPacketBody h, if_neg hadd]
      · rw [if_neg hadd]
        exact hcid.imp_right fun hfo => ⟨hfo.1, by rw [hhas, hfo.2]; rfl⟩

/-- Taking the ICV off the end does not change the front of a unit. -/
theorem ParsedSmall.of_take {unit : Bytes} {n : Nat} {parsed : ParsedRohcPacket}
    (hparse : parseRohcPacket (unit.take n) false = some parsed) : ParsedSmall unit parsed := by
  have h := parseRohcPacket_small hparse
  have htake : ∀ {i}, i < (unit.take n).length → u8At (unit.take n) i = u8At unit i := by
    intro i hi
    rw [List.length_take] at hi
    simp [u8At, show i < n by omega]
  have hne : 0 < (unit.take n).length := by
    rw [List.length_pos_iff]
    intro he
    rw [he] at hparse
    cases hparse
  have hsecond : u8At (unit.take n) 0 &&& 0xF0 = 0xE0 → 1 < (unit.take n).length := by
    intro hadd
    by_contra hshort
    unfold parseRohcPacket at hparse
    rw [if_neg (List.length_pos_iff.mp hne), if_pos ⟨rfl, hadd⟩, if_pos (by omega)] at hparse
    cases hparse
  rw [htake hne] at hsecond
  have hindex : (if u8At unit 0 &&& 0xF0 = 0xE0 then 1 else 0) < (unit.take n).length := by
    split
    · exact hsecond ‹_›
    · exact hne
  obtain ⟨h₁, h₂, h₃⟩ := h
  rw [htake hne] at h₁ h₂ h₃
  rw [htake hindex] at h₂
  exact ⟨h₁, h₂, h₃⟩

theorem openUnit_small {decomp : Decompressor} {unit icv : Bytes} {parsed : ParsedRohcPacket}
    (hspace : decomp.largeCidSpace = false) (h : openUnit decomp unit = some (parsed, icv)) :
    ParsedSmall unit parsed := by
  simp only [openUnit, hspace, Option.bind_eq_bind, Option.bind_eq_some_iff] at h
  obtain ⟨whole, hw, h⟩ := h
  split at h
  · cases h
    exact parseRohcPacket_small hw
  · split at h
    · cases h
      exact parseRohcPacket_small hw
    · split at h
      · cases h
      · obtain ⟨body, hb, e⟩ := Option.map_eq_some_iff.mp h
        cases e
        exact .of_take hb

/-! ## A CID that is not named -/

namespace Frame

/-- A private RTP unit without Add-CID, met by a context other than that of CID 0. -/
structure Unnamed (f : Frame) : Prop where
  type : f.parsed.type = .foRtp
  addCid : f.parsed.hasAddCid = false
  cid : f.cid ≠ 0

/-- The CID a call settles on is the parsed one, or 0 for a unit without Add-CID. -/
theorem selectCid_cases (decomp : Decompressor) (parsed : ParsedRohcPacket) :
    (selectCid decomp parsed).2 = parsed.cid ∨ (selectCid decomp parsed).2 = 0 ∧ parsed.hasAddCid = false := by
  unfold selectCid
  dsimp only
  split
  · rename_i h
    simp only [Bool.and_eq_true, Bool.not_eq_true'] at h
    rw [ite_self]
    exact .inr ⟨rfl, h.1.1.1.2⟩
  · split
    · rename_i h
      exact .inr ⟨rfl, by simpa using h.2.1⟩
    · exact .inl rfl

/-- In the space of small CIDs a unit meets the context it names, or it is refused below. -/
theorem enter_named {live : Live} {input unit : Bytes} {f : Frame} (hspace : live.handle.largeCidSpace = false)
    (h : enter live input = some (unit, f)) : f.cid = namedCid input ∨ f.Unnamed := by
  simp only [enter, Option.bind_eq_bind, Option.bind_eq_some_iff] at h
  obtain ⟨unit', hskip, ⟨parsed, icv⟩, hopen, before, hget, h⟩ := h
  obtain ⟨hadd, -, hcid⟩ := openUnit_small hspace hopen
  cases h
  change (selectCid live.handle parsed).2 = _ ∨ _
  unfold namedCid
  rw [hskip]
  dsimp only
  rcases selectCid_cases live.handle parsed with e | ⟨e, hno⟩
  · rcases hcid with hcid | ⟨hfo, hno⟩
    · exact .inl (e.trans hcid)
    · by_cases h0 : (selectCid live.handle parsed).2 = 0
      · refine .inl ?_
        rw [h0, if_neg (of_decide_eq_false (hadd.symm.trans hno))]
      · exact .inr ⟨hfo, hno, h0⟩
  · refine .inl ?_
    rw [e, if_neg (of_decide_eq_false (hadd.symm.trans hno))]

/-- **No block takes a unit that does not name its context.** -/
theorem unnamed_refused {f : Frame} (h : f.Unnamed) (again : Live → Bytes → Return) (live : Live) :
    (f.decode again live).1 ≠ 0 := by
  have hlive : ∀ ctx, livePt0ContextSupported ctx f.largeCidSpace f.cid f.parsed.hasAddCid = false := by
    intro ctx
    have hcid : (f.parsed.hasAddCid == decide (f.cid ≠ 0)) = false := by simp [h.addCid, h.cid]
    unfold livePt0ContextSupported
    split
    · rfl
    · dsimp only
      rw [hcid]
      split <;> simp
  have hpt0 : f.livePt0 = false := hlive f.before
  have halias : f.espPt0AliasContext = false := by simp [espPt0AliasContext, h.addCid, h.cid]
  have hover : f.privateFoOverlap = false := by simp [privateFoOverlap, hpt0]
  have hcorrected : f.correctedType = .foRtp := by
    unfold correctedType
    split
    · rfl
    · exact h.type
  have hlast : f.resolveOverlap f.correctedType = .foRtp := by simp [resolveOverlap, hover, hcorrected]
  have hcand : f.rtpPt0Crc3Candidate f.correctedType = false := by simp [rtpPt0Crc3Candidate, hpt0]
  have h₁ : f.normalPacket live = none := by simp [normalPacket, h.type]
  have h₂ : f.uncompressedIr live = none := by simp [uncompressedIr, h.type]
  have h₃ : f.rtpPt0Crc7 live = none := by simp [rtpPt0Crc7, h.type]
  have h₄ : f.espPt0Crc7 live = none := by simp [espPt0Crc7, h.type]
  have h₅ : f.pt1SeqId live = none := by simp [pt1SeqId, h.type]
  have h₆ : f.udpPt0Crc3 live = none := by simp [udpPt0Crc3, hpt0]
  have h₇ : f.espPt0Crc3 live = none := by simp [espPt0Crc3, halias]
  have h₈ : f.ipPt0Crc3 live = none := by simp [ipPt0Crc3, hpt0]
  have h₉ : f.rtpPt0Crc3 f.correctedType live = none := by simp [rtpPt0Crc3, hcand]
  have h₁₀ : f.conflictingMeanings live = none := by simp [conflictingMeanings, hover]
  have hunit : f.decodeUnit .foRtp false = none := by
    have htakes : f.takesPt0 false = false := by simp [takesPt0, hlive]
    simp [decodeUnit, htakes, decodePrivateRtpUnit, h.addCid]
  unfold decode
  simp only [hlast, hcand, h₁, h₂, h₃, h₄, h₅, h₆, h₇, h₈, h₉, h₁₀, Option.getD_none, Bool.false_and, feedbackUnit,
    segmentUnit, decodeInPlace, hunit]
  exact failDecode_ne_zero live

end Frame

/-! ## Calls -/

/-- A call that is not given a segment decodes the unit in front of it. -/
theorem enter_of_isSegment_false {live : Live} {input unit : Bytes} {f : Frame}
    (hspace : live.handle.largeCidSpace = false) (hseg : isSegment input = false)
    (h : enter live input = some (unit, f)) : f.parsed.type ≠ .segment := by
  have hreg := (enter_meets h).regular
  simp only [enter, Option.bind_eq_bind, Option.bind_eq_some_iff] at h
  obtain ⟨unit', hskip, ⟨parsed, icv⟩, hopen, before, hget, h⟩ := h
  have hfirst := (openUnit_small hspace hopen).first
  cases h
  intro htype
  have htype : packetTypeOf parsed.packet = .segment := hreg.type.symm.trans htype
  unfold packetTypeOf at htype
  split at htype
  · cases htype
  · have hmask := Frame.detectPacketType_segment htype
    rw [hfirst] at hmask
    unfold isSegment at hseg
    rw [hskip] at hseg
    exact of_decide_eq_false hseg hmask

/-- What a call of `rohc_decompress4` does to the contexts it was not sent for. -/
theorem decompress_isolated {decomp : Decompressor} {input out : Bytes} {cap cid : Nat} {x : Context}
    (hspace : decomp.largeCidSpace = false) (hseg : isSegment input = false) (hcid : cid ≠ namedCid input)
    (hx : decomp.contexts.get cid = some x) :
    ∃ y, (rohcDecompress4 decomp input out cap).2.handle.contexts.get cid = some y ∧ KeepsContext x y := by
  by_cases h : (rohcDecompress4 decomp input out cap).1 = 0
  · obtain ⟨unit, f, mid, ctx, octets, d⟩ := rohcDecompress4_zero h
    obtain ⟨unit', f', henter, hdecode⟩ := decompressCall_zero h
    have htype := enter_of_isSegment_false hspace hseg henter
    have he : some (unit, f, mid) = some (unit', f', Live.clearFeedback ⟨decomp, out, cap⟩) := by
      rw [← d.decoded]
      simp only [decodedBy, decodes, henter, Option.bind_eq_bind, Option.bind_some, if_neg htype, Option.pure_def]
    cases he
    have hnamed : f.cid = namedCid input := by
      refine (Frame.enter_named hspace henter).resolve_right fun hno => ?_
      rw [rohcDecompress4, decompressNested, hdecode] at h
      exact Frame.unnamed_refused hno _ _ h
    refine ⟨x, ?_, .refl x⟩
    rw [d.delivered.contexts, ContextTable.get_set_of_ne (by rw [hnamed]; exact Ne.symm hcid)]
    exact hx
  · exact (decompressNested_preserves _ _ _ h).toKept.contexts cid x hx

/-- What a call of `rohc_compress4` does to the contexts of other CIDs. -/
theorem compress_isolated {comp : Compressor} {packet : Bytes} {cap cid : Nat} (hcid : cid ≠ comp.currentCid) :
    (rohcCompress4 comp packet cap).2.contexts.get cid = comp.contexts.get cid := by
  by_cases hcap : cap ≤ segmentHeaderLen
  · unfold rohcCompress4
    rw [if_pos hcap]
  · rw [(rohcCompress4_same comp packet hcap).contexts]
    cases hv : parseIpView packet with
    | none => rw [compressInner_of_none (.inl hv)]
    | some view =>
      cases hb : comp.contexts.get comp.currentCid with
      | none => rw [compressInner_of_none (.inr hb)]
      | some before =>
        rcases hr : runBranch comp packet view before with ⟨result, ctx⟩
        rw [compressInner_of_branch hv hb hr]
        exact ContextTable.get_set_of_ne (Ne.symm hcid)

/-- **CID isolation.** With small CIDs a call of `rohc_decompress4` that is not given a segment leaves every context as it
was, labels apart, but the one its unit names; `rohc_compress4` leaves every context as it was but the current one. -/
theorem cid_isolation :
    (∀ (decomp : Decompressor) (input out : Bytes) (cap cid : Nat) (x : Context), decomp.largeCidSpace = false →
      isSegment input = false → cid ≠ namedCid input → decomp.contexts.get cid = some x →
        ∃ y, (rohcDecompress4 decomp input out cap).2.handle.contexts.get cid = some y ∧ KeepsContext x y) ∧
    ∀ (comp : Compressor) (packet : Bytes) (cap cid : Nat), cid ≠ comp.currentCid →
      (rohcCompress4 comp packet cap).2.contexts.get cid = comp.contexts.get cid :=
  ⟨fun _ _ _ _ _ _ hspace hseg hcid hx => decompress_isolated hspace hseg hcid hx,
    fun _ _ _ _ hcid => compress_isolated hcid⟩

/-- An IR for CID 0 is received and a packet is compressed on CID 0: CID 3 stays as it was. -/
theorem cid_isolation_third :
    (∃ y, (rohcDecompress4 (DecompHandle.fresh 15).core optionsIrUnit [] 100).2.handle.contexts.get 3 = some y ∧
      KeepsContext {} y) ∧
    (rohcCompress4 (CompHandle.fresh 15 .uplink).core shortUdpPacket 100).2.contexts.get 3 =
      (CompHandle.fresh 15 .uplink).core.contexts.get 3 :=
  ⟨cid_isolation.1 _ _ _ _ 3 _ (by decide) (by decide +kernel) (by decide +kernel) (ContextTable.get_init (by decide)),
    cid_isolation.2 _ _ _ 3 (by decide)⟩

end Rohccxx
