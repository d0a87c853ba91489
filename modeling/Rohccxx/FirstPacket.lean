import Rohccxx.Delivery
import Rohccxx.LiteReceive
import Rohccxx.Sender

/-!
# The first packet of a CID

A fresh compressor sends the first packet of a CID as an IR. Whether a fresh decompressor takes it depends on the profile
(`FirstReadable`), and whether the packet comes out as it went in depends on the fields the builders compute
(`RegularPacket`).
-/

set_option autoImplicit false

namespace Rohccxx

open Octets

/-! ## Fresh handles -/

/-- A compressor as `rohc_comp_new2`, `rohc_comp_set_cid` and `rohc_comp_set_mode` leave it. -/
def Compressor.fresh (maxCid cid : Nat) (mode : Mode) : Option Compressor := do
  let comp ← Compressor.new2 maxCid
  let comp ← comp.setCid cid
  return comp.setMode mode

/-- A context nobody has used yet, with its labels. -/
def unusedContext (cid : Nat) (largeCidSpace : Bool) (mode : Mode) : Context :=
  { ({} : Context) with cid := cid, largeCid := largeCidSpace, mode := mode }

/-- What is known of a fresh compressor. -/
structure Compressor.IsFresh (comp : Compressor) (cid : Nat) (operating : Mode) : Prop where
  plain : comp.Plain
  mode : comp.mode = operating
  currentCid : comp.currentCid = cid
  valid : Cid.isValidForSpace cid comp.largeCidSpace = true
  context : comp.contexts.get cid = some { ({} : Context) with mode := operating }

theorem Compressor.isFresh {maxCid cid : Nat} {mode : Mode} {comp : Compressor}
    (h : Compressor.fresh maxCid cid mode = some comp) : comp.IsFresh cid mode ∧ cid ≤ maxCid ∧
      comp.largeCidSpace = decide (maxCid > Cid.smallCidMax) := by
  simp only [Compressor.fresh, Option.bind_eq_bind, Option.bind_eq_some_iff, Option.pure_def, Option.some.injEq] at h
  obtain ⟨comp₁, h₁, comp₂, h₂, rfl⟩ := h
  unfold Compressor.new2 at h₁
  split at h₁
  · cases h₁
  · cases h₁
    unfold Compressor.setCid at h₂
    split at h₂
    · cases h₂
    · rename_i hcid
      cases h₂
      simp only [not_or, Nat.not_lt, Bool.not_eq_true, Bool.not_eq_false'] at hcid
      have hle : cid ≤ maxCid := hcid.1
      have hget := ContextTable.get_init hle
      refine ⟨⟨⟨rfl, rfl⟩, rfl, rfl, hcid.2, ?_⟩, hle, rfl⟩
      simp only [Compressor.setMode, hget]
      exact ContextTable.get_set_self (by rw [hget]; rfl)

theorem Compressor.IsFresh.prepareContext {comp : Compressor} {cid : Nat} {mode : Mode} (h : comp.IsFresh cid mode)
    (profile : Profile) :
    Rohccxx.prepareContext comp { ({} : Context) with mode := mode } profile =
      unusedContext cid comp.largeCidSpace mode := by
  unfold Rohccxx.prepareContext replaceProfile requireConfirmationBeforePt0Alias formalPt0ForwardLimit
  simp only [Bool.false_eq_true, false_and, if_false, h.currentCid]
  split <;> rfl

/-- What is known of a fresh decompressor. -/
structure Decompressor.IsFresh (dec : Decompressor) (cid : Nat) : Prop where
  integrity : dec.integrity = none
  mode : dec.mode = .optimistic
  context : dec.contexts.get cid = some {}

theorem Decompressor.isFresh {maxCid cid : Nat} {dec : Decompressor} (h : Decompressor.new2 maxCid = some dec)
    (hcid : cid ≤ maxCid) : dec.IsFresh cid ∧ dec.largeCidSpace = decide (maxCid > Cid.smallCidMax) := by
  unfold Decompressor.new2 at h
  split at h
  · cases h
  · cases h
    exact ⟨⟨rfl, rfl, ContextTable.get_init hcid⟩, rfl⟩

/-! ## Reading the first unit -/

/-- Can a fresh decompressor read the first unit? A standard IR must not have a second, legacy reading; the UDP-Lite
profiles need a mode their decoder knows, and the transport right behind the IPv6 header. -/
def Job.FirstReadable (job : Job) (largeCidSpace : Bool) : Prop :=
  let profile := chooseProfile job.packet job.view
  let previous := unusedContext job.cid largeCidSpace job.mode
  match profile with
  | .udpLite | .rtpUdpLite => job.mode ≠ .uncompressed ∧ (job.view.isIpv6 = true → job.view.extensionLen = 0)
  | .uncompressed | .llaRtp => True
  | _ => irAmbiguous profile (job.captured previous profile) (unusedContext job.cid largeCidSpace .optimistic)
      (job.payloadOf previous profile) = false

/-- What comes of the unit: it is refused, or a packet of the right length is delivered. -/
inductive Received (dec : Decompressor) (packet unit out : Bytes) (cap : Nat) (readable regular : Prop) : Prop where
  | refused (code : (rohcDecompress4 dec unit out cap).1 ≠ 0) (reason : ¬readable ∨ cap < packet.length)
  | delivered {cid : Nat} {ctx : Context} {octets : Bytes}
    (delivered : Delivered ⟨dec, out, cap⟩ cid ctx octets (rohcDecompress4 dec unit out cap)) (isReadable : readable)
    (room : packet.length ≤ cap) (same : octets = packet ↔ regular)

section FirstReceived

variable {dec : Decompressor} {job : Job} {unit : Bytes} {profile : Profile}

/-- A fresh context is labelled and decoded into. -/
theorem irBase_unused (hmode : dec.mode = .optimistic) (profile : Profile) (c : Context) :
    irBase dec profile c {} = unusedContext c.cid dec.largeCidSpace .optimistic := by
  unfold irBase Frame.irContext
  rw [if_neg (by rintro ⟨h, -⟩; exact h rfl), if_neg (by rintro ⟨h, -⟩; exact h rfl), ← hmode]
  rfl

/-- The chains of a UDP-Lite IR agree on the protocol when nothing stands between IPv6 and the transport. -/
theorem legacyConsistent_iff {c : Context} {packet : Bytes} {view : ParsedIpView} (h : HasIp c packet view)
    (hp : c.ipv4Protocol = view.terminalProtocol) :
    LegacyConsistent c ↔ (view.isIpv6 = true → view.extensionLen = 0) := by
  unfold LegacyConsistent
  rw [h.version_eq_six]
  refine imp_congr_right fun h6 => ?_
  obtain ⟨hc, -⟩ := h.v6 h6
  obtain ⟨-, -, -, -, -, hnext⟩ := parseIpView_ipv6 h.parsed h6
  rw [hnext, hp, hc.nextHeader]
  exact eq_comm

/-- **The first unit of a CID at a fresh decompressor**. -/
theorem received_first (job : Job) (hdec : dec.IsFresh job.cid) (hchoose : chooseProfile job.packet job.view = profile)
    (hv : parseIpView job.packet = some job.view)
    (h : job.FirstUnit (unusedContext job.cid dec.largeCidSpace job.mode) profile unit)
    (hlen : unit.length ≤ segmentBufferMax) (out : Bytes) (cap : Nat) :
    Received dec job.packet unit out cap (job.FirstReadable dec.largeCidSpace)
      (RegularPacket job.packet job.view profile) := by
  have hchosen := chosen_of_chooseProfile hv hchoose
  cases h with
  | standard isStandard sends holds version =>
    have hread : job.FirstReadable dec.largeCidSpace ↔ irAmbiguous profile
        (job.captured (unusedContext job.cid dec.largeCidSpace job.mode) profile)
        (unusedContext job.cid dec.largeCidSpace .optimistic)
        (job.payloadOf (unusedContext job.cid dec.largeCidSpace job.mode) profile) = false := by
      unfold Job.FirstReadable
      rw [hchoose]
      cases profile <;> first | exact Iff.rfl | cases isStandard
    rw [List.length_append] at hlen
    generalize job.captured (unusedContext job.cid dec.largeCidSpace job.mode) profile = c at *
    generalize job.payloadOf (unusedContext job.cid dec.largeCidSpace job.mode) profile = payload at *
    have hcid : c.cid = job.cid := holds.cid
    have hspace : dec.largeCidSpace = c.largeCid := holds.largeCid.symm
    have hget : dec.contexts.get c.cid = some {} := by rw [hcid]; exact hdec.context
    have hbase := irBase_unused hdec.mode profile c
    have hlists : profile = .rtp → NoLists (irBase dec profile c {}).rtp := by
      intro _
      rw [hbase]
      exact ⟨rfl, rfl, rfl⟩
    rw [hcid] at hbase
    have hsent : SentIr job profile _ payload c :=
      ⟨isStandard, hchosen (by rintro rfl; cases isStandard), sends, holds, version, by omega⟩
    rw [← hbase] at hread
    cases hamb : irAmbiguous profile c (irBase dec profile c {}) payload with
    | true =>
      exact .refused (hsent.refused_of_ambiguous hdec.integrity hspace hget hamb out cap)
        (Or.inl (by rw [hread, hamb]; decide))
    | false =>
      by_cases hcap : job.packet.length ≤ cap
      · obtain ⟨octets, hd, hiff⟩ := hsent.delivered hlists hdec.integrity hspace hget hamb out hcap
        exact .delivered hd (hread.mpr hamb) hcap hiff
      · exact .refused (hsent.refused_of_no_room hlists hdec.integrity hspace hget hamb out (by omega))
          (Or.inr (by omega))
  | lite isLite sends holds =>
    have hread : job.FirstReadable dec.largeCidSpace ↔
        job.mode ≠ .uncompressed ∧ (job.view.isIpv6 = true → job.view.extensionLen = 0) := by
      unfold Job.FirstReadable
      rw [hchoose]
      rcases isLite with ⟨rfl, -⟩ | rfl <;> exact Iff.rfl
    rw [List.length_append] at hlen
    generalize job.captured (unusedContext job.cid dec.largeCidSpace job.mode) profile = c at *
    generalize job.payloadOf (unusedContext job.cid dec.largeCidSpace job.mode) profile = payload at *
    have hcid : c.cid = job.cid := holds.cid
    have hspace : dec.largeCidSpace = c.largeCid := holds.largeCid.symm
    have hget : dec.contexts.get c.cid = some {} := by rw [hcid]; exact hdec.context
    have hsent : SentLiteIr job profile _ payload c _ :=
      ⟨isLite, hchosen (by rintro rfl; rcases isLite with ⟨h, -⟩ | h <;> cases h), sends, holds, by omega⟩
    have hacc : LiteAccepted c ↔ job.FirstReadable dec.largeCidSpace := by
      rw [hread, LiteAccepted, legacyConsistent_iff holds.ip holds.protocol, holds.mode]
      exact and_comm
    by_cases hcap : job.packet.length ≤ cap
    · by_cases hok : LiteAccepted c
      · obtain ⟨octets, hd, hiff⟩ := hsent.delivered hdec.integrity hspace hget out hok hcap
        exact .delivered hd (hacc.mp hok) hcap hiff
      · exact .refused (receive_liteIr_refused hdec.integrity hspace hget isLite sends hsent.protocol payload out cap hok)
          (Or.inl (mt hacc.mpr hok))
    · exact .refused (hsent.refused_of_no_room hdec.integrity hspace hget out (by omega)) (Or.inr (by omega))
  | whole fits isWhole =>
    have hread : job.FirstReadable dec.largeCidSpace := by
      unfold Job.FirstReadable
      rw [hchoose]
      trivial
    have hget : dec.contexts.get (unusedContext job.cid dec.largeCidSpace job.mode).cid = some {} := hdec.context
    by_cases hcap : job.packet.length ≤ cap
    · exact .delivered (receive_whole_delivered hdec.integrity rfl fits hget isWhole out hcap) hread hcap
        ⟨fun _ => Or.inl rfl, fun _ => rfl⟩
    · exact .refused (receive_whole_refused hdec.integrity rfl fits hget isWhole out (by omega)) (Or.inr (by omega))

end FirstReceived

/-! ## Round trip of first packets -/

theorem fresh_eq (mode : Mode) : Compressor.fresh 15 0 mode = some (freshCompressor.setMode mode) := rfl

theorem new2_eq : Decompressor.new2 15 = some freshDecompressor := rfl

/-- The IR of `shortUdpPacket`. -/
def shortUdpIr : Bytes :=
  [253, 2, 166, 64, 17, 10, 0, 0, 1, 10, 0, 0, 2, 3, 232, 7, 208, 6, 0, 64, 0, 1, 0, 0, 0, 1, 0, 7]

theorem compress_shortUdp (mode : Mode) : rohcCompress4 (freshCompressor.setMode mode) shortUdpPacket 100 =
    (some shortUdpIr, (rohcCompress4 (freshCompressor.setMode mode) shortUdpPacket 100).2) := by
  refine Prod.ext ?_ rfl
  cases mode <;> decide +kernel

/-- An IPv4/UDP-Lite packet of 29 octets. -/
def shortUdpLitePacket : Bytes :=
  [69, 0, 0, 29, 0, 1, 64, 0, 64, 136, 38, 86, 10, 0, 0, 1, 10, 0, 0, 2, 16, 0, 32, 0, 0, 8, 0, 0, 1]

/-- The IR of `shortUdpLitePacket` in mode U. -/
def shortUdpLiteIr : Bytes :=
  [253, 8, 70, 64, 136, 10, 0, 0, 1, 10, 0, 0, 2, 16, 0, 32, 0, 0, 64, 0, 1, 2, 0, 0, 8, 0, 0, 0, 1]

theorem compress_shortUdpLite :
    rohcCompress4 (freshCompressor.setMode .uncompressed) shortUdpLitePacket 100 =
      (some shortUdpLiteIr, (rohcCompress4 (freshCompressor.setMode .uncompressed) shortUdpLitePacket 100).2) :=
  Prod.ext (by decide +kernel) rfl

/-- `shortUdpPacket` with a UDP length of 8, one octet short. -/
def misstatedUdpPacket : Bytes := shortUdpPacket.set 25 8

theorem compress_misstatedUdp :
    rohcCompress4 (freshCompressor.setMode .optimistic) misstatedUdpPacket 100 =
      (some shortUdpIr, (rohcCompress4 (freshCompressor.setMode .optimistic) misstatedUdpPacket 100).2) :=
  Prod.ext (by decide +kernel) rfl

section RoundTrip

variable {maxCid maxCid' cid : Nat} {mode : Mode} {comp comp' : Compressor} {dec : Decompressor} {packet unit : Bytes}
  {unitCap : Nat}

/-- Can the first unit for this packet be read? -/
def FirstReadable (mode : Mode) (cid : Nat) (largeCidSpace : Bool) (packet : Bytes) : Prop :=
  ∀ view, parseIpView packet = some view →
    Job.FirstReadable ⟨mode, cid, packet, view, segmentBufferMax⟩ largeCidSpace

/-- Is the packet regular for the profile it is given? -/
def FirstRegular (packet : Bytes) : Prop :=
  ∀ view, parseIpView packet = some view → RegularPacket packet view (chooseProfile packet view)

theorem received_of_fresh (hcomp : Compressor.fresh maxCid cid mode = some comp)
    (hdec : Decompressor.new2 maxCid' = some dec) (hspace : dec.largeCidSpace = comp.largeCidSpace)
    (hcid : cid ≤ maxCid') (hsend : rohcCompress4 comp packet unitCap = (some unit, comp')) (out : Bytes) (cap : Nat) :
    Received dec packet unit out cap (FirstReadable mode cid comp.largeCidSpace packet) (FirstRegular packet) := by
  obtain ⟨hfresh, -, -⟩ := Compressor.isFresh hcomp
  obtain ⟨hdfresh, -⟩ := Decompressor.isFresh hdec hcid
  obtain ⟨view, before, ctx, hv, hb, hr, -, -⟩ := rohcCompress4_ok hfresh.plain hsend
  rw [hfresh.currentCid, hfresh.context] at hb
  cases hb
  unfold runBranch at hr
  dsimp only at hr
  rw [hfresh.prepareContext, hfresh.mode, hfresh.currentCid] at hr
  obtain ⟨hfirst, hlen⟩ := Job.compressAs_first ⟨mode, cid, packet, view, segmentBufferMax⟩ hv rfl rfl hr
  rw [← hspace] at hfirst ⊢
  have h := received_first ⟨mode, cid, packet, view, segmentBufferMax⟩ hdfresh rfl hv hfirst hlen out cap
  have hview : ∀ P : ParsedIpView → Prop, (∀ v, parseIpView packet = some v → P v) ↔ P view := by
    intro P
    constructor
    · exact fun h => h view hv
    · intro h v hv'
      rw [hv] at hv'
      cases hv'
      exact h
  unfold FirstReadable FirstRegular
  rw [hview, hview]
  exact h

/-- **First units**: a fresh decompressor with room for the packet takes the first unit of a fresh compressor if and
only if that can be read. -/
theorem firstUnit_accepted_iff (hcomp : Compressor.fresh maxCid cid mode = some comp)
    (hdec : Decompressor.new2 maxCid' = some dec) (hspace : dec.largeCidSpace = comp.largeCidSpace)
    (hcid : cid ≤ maxCid') (hsend : rohcCompress4 comp packet unitCap = (some unit, comp')) (out : Bytes) {cap : Nat}
    (hcap : packet.length ≤ cap) :
    (rohcDecompress4 dec unit out cap).1 = 0 ↔ FirstReadable mode cid comp.largeCidSpace packet := by
  cases received_of_fresh hcomp hdec hspace hcid hsend out cap with
  | refused code reason =>
    constructor
    · exact fun h => absurd h code
    · intro h
      rcases reason with hn | hn
      · exact absurd h hn
      · omega
  | delivered delivered isReadable => exact ⟨fun _ => isReadable, fun _ => delivered.rc⟩

theorem view_shortUdp {view : ParsedIpView} (h : parseIpView shortUdpPacket = some view) :
    view = ⟨false, 20, 0, 17⟩ ∧ chooseProfile shortUdpPacket view = .udp := by
  have hparsed : parseIpView shortUdpPacket = some ⟨false, 20, 0, 17⟩ := rfl
  obtain rfl := Option.some.inj (h.symm.trans hparsed)
  exact ⟨rfl, rfl⟩

theorem firstReadable_shortUdp (mode : Mode) : FirstReadable mode 0 false shortUdpPacket := by
  intro view hview
  obtain ⟨rfl, hchoose⟩ := view_shortUdp hview
  unfold Job.FirstReadable
  rw [hchoose]
  cases mode <;> decide +kernel

/-- The first unit of `shortUdpPacket` has one reading, and is accepted. -/
theorem firstUnit_accepted_shortUdp :
    ∃ unit comp', rohcCompress4 (freshCompressor.setMode .reliable) shortUdpPacket 100 = (some unit, comp') ∧
      FirstReadable .reliable 0 false shortUdpPacket ∧ (rohcDecompress4 freshDecompressor unit [] 29).1 = 0 :=
  ⟨shortUdpIr, _, compress_shortUdp .reliable, firstReadable_shortUdp .reliable,
    (firstUnit_accepted_iff (fresh_eq .reliable) new2_eq rfl (by decide) (compress_shortUdp .reliable) [] (by decide)).mpr
      (firstReadable_shortUdp .reliable)⟩

/-- In mode U the last octet of a UDP-Lite IR is one that no decoder takes. -/
theorem firstUnit_not_accepted :
    ¬∀ (maxCid cid : Nat) (mode : Mode) (comp comp' : Compressor) (dec : Decompressor) (packet unit out : Bytes)
      (unitCap cap : Nat), Compressor.fresh maxCid cid mode = some comp → Decompressor.new2 maxCid = some dec →
      rohcCompress4 comp packet unitCap = (some unit, comp') → packet.length ≤ cap →
      (rohcDecompress4 dec unit out cap).1 = 0 := by
  intro h
  have hcode := h 15 0 .uncompressed (freshCompressor.setMode .uncompressed) _ freshDecompressor shortUdpLitePacket
    shortUdpLiteIr [] 100 100 (fresh_eq _) new2_eq compress_shortUdpLite (by decide)
  revert hcode
  decide +kernel

/-- **Irregular first packets**: the unit is refused or gives back the packet if and only if it cannot be read, or has
no room, or the packet was regular. -/
theorem firstPacket_unaltered_iff (hcomp : Compressor.fresh maxCid cid mode = some comp)
    (hdec : Decompressor.new2 maxCid' = some dec) (hspace : dec.largeCidSpace = comp.largeCidSpace)
    (hcid : cid ≤ maxCid') (hsend : rohcCompress4 comp packet unitCap = (some unit, comp')) (out : Bytes) (cap : Nat) :
    ((rohcDecompress4 dec unit out cap).1 = 0 →
      (rohcDecompress4 dec unit out cap).2.out.take (rohcDecompress4 dec unit out cap).2.outLen = packet) ↔
      (FirstReadable mode cid comp.largeCidSpace packet ∧ packet.length ≤ cap → FirstRegular packet) := by
  cases received_of_fresh hcomp hdec hspace hcid hsend out cap with
  | refused code reason =>
    constructor
    · rintro - ⟨hr, hc⟩
      rcases reason with hn | hn
      · exact absurd hr hn
      · omega
    · exact fun _ h => absurd h code
  | delivered delivered isReadable room same =>
    rw [delivered.output, same]
    exact ⟨fun h _ => h delivered.rc, fun h _ => h ⟨isReadable, room⟩⟩

theorem firstRegular_shortUdp : FirstRegular shortUdpPacket := by
  intro view hview
  obtain ⟨rfl, hchoose⟩ := view_shortUdp hview
  rw [hchoose]
  exact .inr ⟨⟨⟨rfl, rfl⟩, fun _ => by unfold ReservedClear; decide⟩, rfl⟩

theorem accepted_shortUdp : (rohcDecompress4 freshDecompressor shortUdpIr [] 29).1 = 0 := by
  cases received_of_fresh (fresh_eq .optimistic) new2_eq rfl (by decide) (compress_shortUdp .optimistic) [] 29 with
  | refused _ reason =>
    rcases reason with hn | hn
    · exact absurd (firstReadable_shortUdp .optimistic) hn
    · exact absurd hn (by decide)
  | delivered delivered => exact delivered.rc

/-- The first unit of `shortUdpPacket` gives it back. -/
theorem firstPacket_unaltered_shortUdp :
    ∃ unit comp', rohcCompress4 (freshCompressor.setMode .optimistic) shortUdpPacket 100 = (some unit, comp') ∧
      FirstReadable .optimistic 0 false shortUdpPacket ∧ FirstRegular shortUdpPacket ∧
      (rohcDecompress4 freshDecompressor unit [] 29).1 = 0 ∧
        (rohcDecompress4 freshDecompressor unit [] 29).2.out.take (rohcDecompress4 freshDecompressor unit [] 29).2.outLen =
          shortUdpPacket := by
  refine ⟨shortUdpIr, _, compress_shortUdp .optimistic, firstReadable_shortUdp .optimistic, firstRegular_shortUdp,
    accepted_shortUdp, ?_⟩
  exact (firstPacket_unaltered_iff (fresh_eq .optimistic) new2_eq rfl (by decide) (compress_shortUdp .optimistic) [] 29).mpr
    (fun _ => firstRegular_shortUdp) accepted_shortUdp

/-- A UDP length that is one octet short comes back corrected. -/
theorem firstPacket_altered :
    ¬∀ (maxCid cid : Nat) (mode : Mode) (comp comp' : Compressor) (dec : Decompressor) (packet unit out : Bytes)
      (unitCap cap : Nat), Compressor.fresh maxCid cid mode = some comp → Decompressor.new2 maxCid = some dec →
      rohcCompress4 comp packet unitCap = (some unit, comp') → (rohcDecompress4 dec unit out cap).1 = 0 →
      (rohcDecompress4 dec unit out cap).2.out.take (rohcDecompress4 dec unit out cap).2.outLen = packet := by
  intro h
  have hcode := h 15 0 .optimistic (freshCompressor.setMode .optimistic) _ freshDecompressor
    misstatedUdpPacket shortUdpIr [] 100 100 (fresh_eq _) new2_eq compress_misstatedUdp (by decide +kernel)
  revert hcode
  decide +kernel

end RoundTrip

end Rohccxx
