import Rohccxx.Flow

/-!
# Private units of one flow

A private CRC-8 unit carries its fields in full; everything else of the packet is in the context, and the CRC covers it.
Nothing in it is relative to the unit before. So in IPv4 flows in which the rest never changes (`HeaderKey`) a receiver that
has that rest (`Keyed`) reads every unit, however many it missed (`reads_decodePrivateFo`).
-/

set_option autoImplicit false

namespace Rohccxx

open Octets Reader Context

/-! ## The rest of the packet -/

/-- The header fields of an IPv4 flow over UDP or UDP-Lite that private units do not carry. -/
structure HeaderKey where
  tos : UInt8
  ttl : UInt8
  flags : UInt8
  protocol : UInt8
  saddr : UInt32
  daddr : UInt32
  sport : UInt16
  dport : UInt16
deriving DecidableEq, Repr

/-- The key of a packet without IPv4 options. -/
def headerKeyOf (packet : Bytes) : HeaderKey :=
  ⟨u8At packet 1, u8At packet 8, Job.wireFlags packet, u8At packet 9, u32At packet 12, u32At packet 16, u16At packet 20,
    u16At packet 22⟩

def Context.headerKey (ctx : Context) : HeaderKey :=
  ⟨ctx.ipv4Tos, ctx.ipv4Ttl, ctx.ipv4Flags, ctx.ipv4Protocol, ctx.ipv4Saddr, ctx.ipv4Daddr, ctx.udpSport, ctx.udpDport⟩

/-- The context of a small CID that has the key. -/
structure Keyed (key : HeaderKey) (profile : Profile) (cid : Nat) (ctx : Context) : Prop where
  version : ctx.ipVersion = 4
  options : ctx.ipv4OptionsLen = 0
  key : ctx.headerKey = key
  profile : ctx.profile = profile
  labels : ctx.labels = (cid, false)

namespace Keyed

variable {key : HeaderKey} {profile : Profile} {cid : Nat} {c d : Context}

theorem largeCid (h : Keyed key profile cid d) : d.largeCid = false := congrArg Prod.snd h.labels

theorem of_sameFlow (h : Keyed key profile cid c) (same : SameFlow c d) (labels : d.labels = c.labels) :
    Keyed key profile cid d := by
  refine ⟨?_, ?_, ?_, same.profile.trans h.profile, labels.trans h.labels⟩
  · rw [same.ipv4]
    exact h.version
  · rw [same.ipv4]
    exact h.options
  · unfold Context.headerKey
    rw [same.ipv4, same.transport]
    exact h.key

theorem of_keeps (h : Keyed key profile cid c) (keeps : KeepsContext c d)
    (labels : d.labels = (cid, false) ∨ d.labels = c.labels) : Keyed key profile cid d := by
  have hlabels : d.labels = (cid, false) := labels.elim id fun e => e.trans h.labels
  have e := keeps.fields
  have hversion : d.ipVersion = c.ipVersion := by rw [e]
  have hoptions : d.ipv4OptionsLen = c.ipv4OptionsLen := by rw [e]
  have hkey : d.headerKey = c.headerKey := by rw [e]; rfl
  have hprofile : d.profile = c.profile := by rw [e]
  exact ⟨hversion.trans h.version, hoptions.trans h.options, hkey.trans h.key, hprofile.trans h.profile, hlabels⟩

/-- **The CRC of a private unit** depends on nothing but the unit and the key. -/
theorem privateUdpFoCrc8_eq (hc : Keyed key profile cid c) (hd : Keyed key profile cid d) (header : Bytes) :
    privateUdpFoCrc8 header d = privateUdpFoCrc8 header c := by
  have hkey := hd.key.trans hc.key.symm
  unfold Context.headerKey at hkey
  obtain ⟨htos, httl, hflags, hprotocol, hsaddr, hdaddr, hsport, hdport⟩ := HeaderKey.mk.inj hkey
  obtain ⟨hcid, hlarge⟩ := Prod.mk.inj (hd.labels.trans hc.labels.symm)
  have hip : privateFoIpContext d = privateFoIpContext c := by
    unfold privateFoIpContext
    rw [if_pos hd.version, if_pos hc.version, hd.version, hc.version, hd.options, hc.options, hd.profile, hc.profile, hcid,
      hlarge, htos, httl, hflags, hprotocol, hsaddr, hdaddr]
    rfl
  unfold privateUdpFoCrc8 privateFoCrc8 appendPrivateFoIpContext
  rw [hip, hsport, hdport]

end Keyed

/-! ## The units -/

/-- The octets of a private unit of a small CID. -/
def privateUnit (marker : UInt8) (crc : Bytes → Context → UInt8) (fields : Bytes) (ctx : Context) : Bytes :=
  marker :: crc (marker :: 0x00 :: fields) ctx :: fields

theorem emitPrivateFo_small {marker : UInt8} {crc : Bytes → Context → UInt8} {fields : Context → Bytes} {cap : Nat}
    {ctx : Context} {unit : Bytes} (h : emitPrivateFo marker crc fields cap ctx = some unit) (hsmall : ctx.largeCid = false) :
    unit = privateUnit marker crc (fields ctx) ctx := by
  unfold emitPrivateFo at h
  split at h
  · cases h
  · rw [hsmall] at h
    obtain ⟨-, h⟩ := Option.ite_none_left_eq_some.mp h
    cases h
    rfl

/-- **A private unit is read back** by a receiver that computes the same CRC. -/
theorem reads_decodePrivateFo {marker : UInt8} {crc : Bytes → Context → UInt8} {profile : Profile}
    {readFields : Bytes → Proc (Cursor Context) Unit} {c d d' : Context} {fields : Bytes} {fieldsLen : Nat}
    (hsmall : d.largeCid = false) (hlen : fields.length = fieldsLen) (hshort : fieldsLen ≤ 14)
    (hcrc : crc (marker :: 0x00 :: fields) d = crc (marker :: 0x00 :: fields) c)
    (hfields : ∀ front, Reads readFields front fields d () d') :
    Reads (decodePrivateFo marker fieldsLen crc profile readFields) [] (privateUnit marker crc fields c) d
      (2 + fieldsLen) (finishIrDyn profile d') := by
  unfold decodePrivateFo privateUnit
  refine .value ?_
  dsimp only
  have hlarge : (if d.largeCid = true then Cid.encodedLen d.cid else 0) = 0 := by
    rw [hsmall]
    rfl
  rw [hlarge, Nat.add_zero]
  refine .require (fun rest => ?_) (.u8 (.require (fun _ => by simp) ?_))
  · simp only [List.nil_append, List.cons_append, List.length_cons, List.length_append, hlen, decide_eq_true_eq]
    omega
  have hcid : ∀ front, Reads (fun bs => readLargeCidIfPresent bs d) front [] d () d := by
    intro front
    unfold readLargeCidIfPresent
    rw [hsmall]
    exact reads_pure _ _ _
  refine (hcid _).bind_nil (.require (fun _ => by simp; omega) (.pos (.u8 (.require (fun rest => ?_) ?_))))
  · simp only [List.nil_append, List.cons_append, List.length_cons, List.length_nil, decide_eq_true_eq]
    rw [Nat.add_comm 2 fieldsLen, List.take_succ_cons, List.take_succ_cons, ← hlen, List.take_left, ← hcrc]
    rfl
  · exact (hfields _).bind_last (.update (reads_pure _ _ _))

theorem reads_decodeUdpFo {key : HeaderKey} {cid : Nat} {c d : Context} (hc : Keyed key .udp cid c) (hd : Keyed key .udp cid d) :
    Reads decodeUdpFo [] (privateUnit 0x7A privateUdpFoCrc8 (be16 c.ipv4Id ++ be16 c.udpCheck) c) d 6
      (finishIrDyn .udp { d with ipv4Id := c.ipv4Id, udpCheck := c.udpCheck }) := by
  refine reads_decodePrivateFo hd.largeCid (by simp) (by decide) (hc.privateUdpFoCrc8_eq hd _) fun front => ?_
  refine .u16 ((Reads.u16 (w := []) ?_))
  exact .update_last

/-! ## The blocks -/

/-- A private reading is what the decoder of the unit leaves. -/
theorem Frame.privateReading_eq {f : Frame} {decode : Bytes → Proc (Cursor Context) Nat} {ctx : Context} {headerLen : Nat}
    (h : exec (decode f.packet) f.before = (some headerLen, ctx)) : f.privateReading decode = some (ctx, headerLen) := by
  unfold privateReading
  rw [h]

/-- **The way of a private unit** in a context of UDP or UDP-Lite. -/
theorem Frame.decode_private {f : Frame} (again : Live → Bytes → Return) (live : Live)
    (htype : f.parsed.type = .foUdp ∨ f.parsed.type = .foUdpLite)
    (hprofile : f.before.profile = .udp ∨ f.before.profile = .udpLite) :
    f.decode again live = (f.udpPt0Crc3 live).getD ((f.conflictingMeanings live).getD
      ((f.feedbackUnit (f.resolveOverlap f.parsed.type) live).getD
        ((f.segmentUnit (f.resolveOverlap f.parsed.type) again live).getD
          (f.decodeInPlace (f.resolveOverlap f.parsed.type) false live)))) := by
  have hcorrected : f.correctedType = f.parsed.type := by
    rcases htype with h | h <;> simp [Frame.correctedType, h]
  have hcand : f.rtpPt0Crc3Candidate f.parsed.type = false := by
    rcases htype with h | h <;> simp [Frame.rtpPt0Crc3Candidate, h]
  have h₁ : f.normalPacket live = none := by
    rcases htype with h | h <;> simp [Frame.normalPacket, h]
  have h₂ : f.uncompressedIr live = none := by
    rcases htype with h | h <;> simp [Frame.uncompressedIr, h]
  have h₃ : f.rtpPt0Crc7 live = none := by
    rcases htype with h | h <;> simp [Frame.rtpPt0Crc7, h]
  have h₄ : f.espPt0Crc7 live = none := by
    rcases htype with h | h <;> simp [Frame.espPt0Crc7, h]
  have h₅ : f.pt1SeqId live = none := by
    rcases htype with h | h <;> simp [Frame.pt1SeqId, h]
  have h₆ : f.espPt0Crc3 live = none := by
    rcases hprofile with h | h <;> simp [Frame.espPt0Crc3, Frame.espPt0AliasContext, h]
  have h₇ : f.ipPt0Crc3 live = none := by
    rcases hprofile with h | h <;> simp [Frame.ipPt0Crc3, h]
  have h₈ : f.rtpPt0Crc3 f.parsed.type live = none := by simp [Frame.rtpPt0Crc3, hcand]
  unfold Frame.decode
  simp only [hcorrected, hcand, h₁, h₂, h₃, h₄, h₅, h₆, h₇, h₈, Option.getD_none, Bool.false_and]

/-- A private unit that does not authenticate as a PT-0 is decoded in place. -/
theorem Frame.decode_private_inPlace {f : Frame} (again : Live → Bytes → Return) (live : Live)
    (htype : f.parsed.type = .foUdp ∨ f.parsed.type = .foUdpLite)
    (hprofile : f.before.profile = .udp ∨ f.before.profile = .udpLite) (hpt0 : f.udpPt0Crc3 live = none)
    (hformal : f.livePt0 = true → f.tryFormalPt0.isSome = false) :
    f.decode again live = f.decodeInPlace f.parsed.type false live := by
  have hresolve : f.resolveOverlap f.parsed.type = f.parsed.type := by
    unfold Frame.resolveOverlap Frame.privateFoOverlap
    refine if_neg fun h => ?_
    simp only [Bool.and_eq_true] at h
    rw [hformal h.1.2] at h
    exact Bool.false_ne_true h.2
  have hconflict : f.conflictingMeanings live = none := by
    unfold Frame.conflictingMeanings
    by_cases hover : f.privateFoOverlap = true
    · rw [if_pos hover]
      have hlive : f.livePt0 = true := by
        unfold Frame.privateFoOverlap at hover
        simp only [Bool.and_eq_true] at hover
        exact hover.2
      rw [Option.isSome_eq_false_iff, Option.isNone_iff_eq_none] at hformal
      rw [hformal hlive]
    · rw [if_neg hover]
  rw [decode_private again live htype hprofile, hpt0, hconflict, hresolve]
  rcases htype with h | h <;> simp [h, Frame.feedbackUnit, Frame.segmentUnit]

/-! ## Packets of the flow -/

/-- A standard chain carries the flags of a packet whose reserved flag is clear. -/
theorem dfOnly_wireFlags {packet : Bytes} (h : Ipv4.isFragmented (u16At packet 6) = false) (hclear : ReservedClear packet) :
    dfOnly (Job.wireFlags packet) = Job.wireFlags packet := by
  obtain ⟨h₇, h₆⟩ := flagOctets_of_whole h
  unfold ReservedClear at hclear
  rw [Job.wireFlags, u16At]
  change u8At packet (6 + 1) = 0 at h₇
  rw [h₇]
  generalize u8At packet 6 = b at h₆ hclear
  refine forall_octet (P := fun b => b &&& 0x3F = 0 → b &&& 0x80 = 0 →
    dfOnly ((ofBe16 b 0 >>> 13) &&& 0x07).toUInt8 = ((ofBe16 b 0 >>> 13) &&& 0x07).toUInt8) ?_ b h₆ hclear
  decide +kernel

section Packets

variable {profile : Profile} {cid : Nat} {c d : Context} {packet : Bytes} {view : ParsedIpView}
  (hparsed : parseIpView packet = some view) (h6 : view.isIpv6 = false) (h20 : view.headerLen = 20)

include hparsed h6 h20

/-- A context with the headers of a packet has its key. -/
theorem keyed_of_headers (hip : HasIp c packet view) (hudp : HasUdp c packet view.headerLen)
    (flags : c.ipv4Flags = Job.wireFlags packet) (hprofile : c.profile = profile) (labels : c.labels = (cid, false)) :
    Keyed (headerKeyOf packet) profile cid c := by
  obtain ⟨-, -, hhead, -⟩ := parseIpView_ipv4 hparsed h6
  have hv4 := hip.v4 h6
  rw [h20] at hudp
  refine ⟨hv4.version, ?_, ?_, hprofile, labels⟩
  · have := hv4.headerLen
    omega
  · unfold Context.headerKey headerKeyOf
    rw [hv4.tos, hv4.ttl, flags, hv4.protocol, hv4.saddr, hv4.daddr, hudp.sport, hudp.dport]

/-- With the IP-ID and the checksum, a context that has the key has the headers of the packet. -/
theorem Keyed.headers (h : Keyed (headerKeyOf packet) profile cid d) (hid : d.ipv4Id = u16At packet 4)
    (hcheck : d.udpCheck = u16At packet 26) :
    HasIp d packet view ∧ HasUdp d packet view.headerLen ∧ d.ipv4Flags = Job.wireFlags packet := by
  obtain ⟨-, -, hhead, -⟩ := parseIpView_ipv4 hparsed h6
  obtain ⟨htos, httl, hflags, hprotocol, hsaddr, hdaddr, hsport, hdport⟩ := HeaderKey.mk.inj h.key
  refine ⟨⟨hparsed, fun _ => ?_, fun hv => by simp [h6] at hv⟩, ?_, hflags⟩
  · refine ⟨h.version, htos, hid, httl, hprotocol, hsaddr, hdaddr, ?_, ?_⟩
    · rw [h.options]
      omega
    · rw [h.options]
      simp [slice]
  · rw [h20]
    exact ⟨hsport, hdport, hcheck⟩

end Packets

end Rohccxx
