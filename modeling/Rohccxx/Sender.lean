import Rohccxx.Atomicity
import Rohccxx.Headers

/-!
# A call of the compressor

Without ICV and without segments, a call that returns 0 hands out the unit of its branch (`rohcCompress4_ok`). The first
unit of a CID is an IR of the profile the packet was given, and it holds the headers of the packet (`FirstUnit`).
-/

set_option autoImplicit false

namespace Rohccxx

open Octets

/-! ## Calls without ICV and segments -/

/-- Neither ICV nor segments. -/
structure Compressor.Plain (comp : Compressor) : Prop where
  integrity : comp.integrity = none
  mrru : comp.mrru = 0

theorem rohcCompress4_ok {comp comp' : Compressor} {packet unit : Bytes} {cap : Nat} (hplain : comp.Plain)
    (h : rohcCompress4 comp packet cap = (some unit, comp')) :
    ∃ view before ctx, parseIpView packet = some view ∧ comp.contexts.get comp.currentCid = some before ∧
      runBranch comp packet view before = (.ok unit, ctx) ∧ comp' = afterBranch comp ctx ∧ unit.length ≤ cap := by
  unfold rohcCompress4 at h
  split at h
  · cases h
  · cases hv : parseIpView packet with
    | none => simp [compressInner, hv] at h
    | some view =>
      cases hb : comp.contexts.get comp.currentCid with
      | none => simp [compressInner, hv, hb] at h
      | some before =>
        rcases hr : runBranch comp packet view before with ⟨out, ctx⟩
        cases out with
        | ok made =>
          have hicv : withIcv (afterBranch comp ctx) packet made = some made := by
            simp [withIcv, afterBranch, hplain.integrity]
          have hmrru : (afterBranch comp ctx).mrru = 0 := hplain.mrru
          simp only [compressInner_of_ok hv hb hr, hicv, hmrru, true_or, if_true] at h
          split at h
          · rename_i hfit
            cases h
            exact ⟨view, before, ctx, rfl, rfl, hr, rfl, hfit⟩
          · cases h
        | reject => simp [compressInner_of_fail hv hb hr rfl] at h
        | fault => simp [compressInner_of_fail hv hb hr rfl] at h

/-! ## Captured contexts of all profiles -/

namespace Job

/-- What the branch of a profile captures. -/
def captured (job : Job) (previous : Context) : Profile → Context
  | .rtpUdpLite => (job.capturedRtp .rtpUdpLite previous).2
  | .rtp => (job.capturedRtp .rtp previous).2
  | .udp => job.capturedUdp previous
  | .ip => job.capturedIpOnly previous
  | .esp => job.capturedEsp previous
  | .udpLite => job.capturedUdpLite previous
  | _ => capturedWhole previous

/-- The octets the branch of a profile sends behind its header. -/
def payloadOf (job : Job) (previous : Context) : Profile → Bytes
  | .rtpUdpLite => (job.rtpView .rtpUdpLite previous).elim [] job.rtpPayload
  | .rtp => (job.rtpView .rtp previous).elim [] job.rtpPayload
  | .udp | .esp | .udpLite => job.packet.drop (job.view.headerLen + 8)
  | .ip => job.packet.drop job.view.headerLen
  | _ => job.packet

/-! ## First units -/

/-- The first unit of a CID, by profile. -/
inductive FirstUnit (job : Job) (previous : Context) : Profile → Bytes → Prop where
  | standard {profile : Profile} (isStandard : profileUsesFormalPt0 profile = true)
    (sends : SendsIr profile (job.captured previous profile))
    (holds : Holds job profile previous (job.payloadOf previous profile) (job.captured previous profile))
    (version : profile = .rtp → (job.captured previous profile).rtp.vpxcc >>> 6 = 2) :
    FirstUnit job previous profile (irUnit profile (job.captured previous profile) ++ job.payloadOf previous profile)
  | lite {profile : Profile} {bodyLen : Nat} (isLite : profile = .udpLite ∧ bodyLen = 0 ∨ profile = .rtpUdpLite)
    (sends : SendsLite profile (job.captured previous profile) bodyLen)
    (holds : Holds job profile previous (job.payloadOf previous profile) (job.captured previous profile)) :
    FirstUnit job previous profile
      (liteIrUnit profile (job.captured previous profile) bodyLen ++ job.payloadOf previous profile)
  | whole (fits : CidFits previous) (isWhole : isUncompressedIpPayload job.packet = true) :
    FirstUnit job previous .uncompressed (irSealed (irFront previous 0xFD 0x00) [] ++ job.packet)

variable {job : Job} {before previous : Context} {profile : Profile}

theorem not_compact {ctx : Context} (h0 : ctx.txCount = 0) : ¬Compact ctx := by
  intro h
  have := h.ir
  simp [shouldEmitIr, h0] at this

theorem rtpVersion (hchosen : Chosen job.packet job.view .rtp) {payload : Bytes} {ctx : Context}
    (h : HasUpper ctx job.packet job.view .rtp payload) : ctx.rtp.vpxcc >>> 6 = 2 := by
  have ht := hchosen.transport
  have hv : u8At job.packet (job.view.headerLen + 8) >>> 6 = 2 := by
    unfold classifyTransport rtpFits at ht
    split_ifs at ht
    simp_all
  cases h with
  | rtp header rtp extras fits protocol =>
    rw [rtp.vpxcc, u8At_drop]
    exact hv

/-- **The first unit of a CID**: whatever branch it comes from, it is an IR with the headers of the packet. -/
theorem compressAs_first (job : Job) (hv : parseIpView job.packet = some job.view)
    (hchoose : chooseProfile job.packet job.view = profile) (h0 : previous.txCount = 0) {unit : Bytes} {after : Context}
    (h : job.compressAs before profile previous = (.ok unit, after)) :
    FirstUnit job previous profile unit ∧ unit.length ≤ job.cap := by
  have hchosen := chosen_of_chooseProfile hv hchoose
  cases profile with
  | llaRtp => exact absurd hchoose (chooseProfile_ne_llaRtp _ _)
  | uncompressed =>
    obtain ⟨hip, hfits, rfl, hlen, -⟩ := compressUncompressed_ensures previous unit after h
    exact ⟨.whole hfits hip, hlen⟩
  | udp =>
    obtain ⟨header, state, hok, hsend, hfits, rfl, hlen, -⟩ := compressUdp_ensures previous unit after h
    have hh := holds_capturedUdp hv hok (hchosen nofun)
    refine ⟨?_, hlen⟩
    cases hsend with
    | refresh hr =>
      rw [hr.header]
      exact .standard rfl hr.sends hh nofun
    | pt0 compact => exact absurd compact (not_compact (hh.txCount.trans h0))
    | privateFo compact => exact absurd compact (not_compact (hh.txCount.trans h0))
  | esp =>
    obtain ⟨header, state, hok, hsend, hfits, rfl, hlen, -⟩ := compressEsp_ensures previous unit after h
    have hh := holds_capturedEsp hv hok (hchosen nofun) hfits
    refine ⟨?_, hlen⟩
    cases hsend with
    | refresh hr =>
      rw [hr.header]
      exact .standard rfl hr.sends hh nofun
    | pt0 compact => exact absurd compact (not_compact (hh.txCount.trans h0))
  | ip =>
    obtain ⟨header, state, hok, hsend, hfits, rfl, hlen, -⟩ := compressIp_ensures previous unit after h
    have hh := holds_capturedIpOnly hv hok
    refine ⟨?_, hlen⟩
    cases hsend with
    | refresh hr =>
      rw [hr.header]
      exact .standard rfl hr.sends hh nofun
    | pt0 compact => exact absurd compact (not_compact (hh.txCount.trans h0))
    | privateFo compact => exact absurd compact (not_compact (hh.txCount.trans h0))
  | rtp =>
    obtain ⟨header, state, view, hok, hview, hsend, rfl, hlen, -⟩ := compressRtp_ensures before previous unit after h
    have hh := holds_capturedRtp_rtp hv hok (hchosen nofun) hview
    have hpay : job.rtpPayload view = job.payloadOf previous .rtp := by simp [payloadOf, hview]
    refine ⟨?_, hlen⟩
    cases hsend with
    | refresh hr =>
      rw [hr.header, hpay]
      exact .standard rfl hr.sends (hpay ▸ hh) fun _ => rtpVersion (hchosen nofun) hh.upper
    | pt0 compact => exact absurd compact (not_compact (hh.txCount.trans h0))
    | privateFo compact => exact absurd compact (not_compact (hh.txCount.trans h0))
  | udpLite =>
    obtain ⟨header, state, hok, hsend, hfits, rfl, hlen, -⟩ := compressUdpLite_ensures previous unit after h
    have hh := holds_capturedUdpLite hv hok (hchosen nofun)
    refine ⟨?_, hlen⟩
    cases hsend with
    | ir first sends => exact .lite (Or.inl ⟨rfl, rfl⟩) sends hh
    | irDyn sends later =>
      rw [shouldEmitIr, hh.txCount.trans h0] at later
      simp at later
    | privateFo compact => exact absurd compact (not_compact (hh.txCount.trans h0))
  | rtpUdpLite =>
    obtain ⟨header, state, view, hok, hview, hsend, rfl, hlen, -⟩ := compressRtpUdpLite_ensures previous unit after h
    have hh := holds_capturedRtp_lite hv hok (hchosen nofun) hview
    have hpay : job.rtpPayload view = job.payloadOf previous .rtpUdpLite := by simp [payloadOf, hview]
    refine ⟨?_, hlen⟩
    cases hsend with
    | ir state sends =>
      rw [hpay]
      exact .lite (Or.inr rfl) sends (hpay ▸ hh)
    | irDyn sends later =>
      rw [shouldEmitIr, hh.txCount.trans h0] at later
      simp at later
    | privateFo compact => exact absurd compact (not_compact (hh.txCount.trans h0))

end Job

end Rohccxx
