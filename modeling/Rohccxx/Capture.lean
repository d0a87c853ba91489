import Rohccxx.Compress
import Rohccxx.Packets

/-!
# What a capture takes from a packet

The capture functions fill a context from the octets of a packet. Afterwards the context has the headers of the packet
in the sense of `HasIpv4`, `HasIpv6`, `HasUdp`, `HasEsp` and `HasRtp`; the lists fit their arrays because the parser and
the capture functions check it.
-/

set_option autoImplicit false

namespace Rohccxx

open Octets

theorem stored_fillCopy_of_length {n len : Nat} {bs : Bytes} (hlen : bs.length = len) (h : len ≤ n) :
    stored (fillCopy n bs) len = bs := by
  subst hlen
  exact stored_fillCopy h

theorem toList_fillCopy {n : Nat} {bs : Bytes} (h : bs.length = n) : (fillCopy n bs).toList = bs := by
  have := stored_fillCopy_of_length h (Nat.le_refl n)
  rwa [stored, List.take_of_length_le (by simp)] at this

/-! ## Header views -/

theorem length_take_drop {packet : Bytes} {total : Nat} (h : total ≤ packet.length) :
    ((packet.take total).drop 40).length = total - 40 := by
  simp only [List.length_drop, List.length_take]
  omega

/-- Extension headers lie within the octets they were parsed from; without any, the next header is the transport. -/
theorem parseExtensions_eq {fuel : Nat} {next terminal : UInt8} {data : Bytes} {len : Nat}
    (h : Ipv6.parseExtensions fuel next data = some (terminal, len)) :
    len ≤ data.length ∧ Ipv6.isExtensionHeader terminal = false ∧ (len = 0 ↔ next = terminal) := by
  induction fuel generalizing next data len with
  | zero => cases h
  | succ fuel ih =>
    rw [Ipv6.parseExtensions] at h
    split at h
    · rename_i hn
      simp only [Option.some.injEq, Prod.mk.injEq] at h
      obtain ⟨rfl, rfl⟩ := h
      exact ⟨Nat.zero_le _, by simpa using hn, by simp⟩
    · rename_i hn
      simp only [Option.bind_eq_bind, Option.bind_eq_some_iff, Option.pure_def, Option.some.injEq, Prod.mk.injEq,
        Prod.exists] at h
      obtain ⟨extLen, hext, terminal', len', hrec, rfl, rfl⟩ := h
      obtain ⟨h₁, h₂, -⟩ := ih hrec
      have hpos : 0 < extLen ∧ extLen ≤ data.length := by
        unfold Ipv6.extensionHeaderLen at hext
        split at hext
        · split at hext
          · cases hext
            exact ⟨by omega, by omega⟩
          · cases hext
        · split at hext
          · cases hext
          · dsimp only at hext
            split at hext
            · cases hext
              exact ⟨by omega, by omega⟩
            · cases hext
      simp only [List.length_drop] at h₁
      refine ⟨by omega, h₂, ?_⟩
      constructor
      · intro h0
        omega
      · intro he
        subst he
        rw [h₂] at hn
        simp at hn

/-- What `parse_ip_view` says about an IPv4 packet. -/
theorem parseIpView_ipv4 {packet : Bytes} {view : ParsedIpView} (h : parseIpView packet = some view)
    (h6 : view.isIpv6 = false) :
    Ipv4Shaped packet ∧ Ipv4.parse packet = some view.headerLen ∧ view.headerLen = ipv4HeaderLen packet ∧
      view.terminalProtocol = u8At packet 9 := by
  unfold parseIpView at h
  split at h
  · rename_i hlen hp
    cases h
    obtain ⟨hs, he⟩ := ipv4Shaped_of_parse hp
    exact ⟨hs, hp, he, rfl⟩
  · split at h
    · cases h
      cases h6
    · cases h

/-- What `parse_ip_view` says about an IPv6 packet. -/
theorem parseIpView_ipv6 {packet : Bytes} {view : ParsedIpView} (h : parseIpView packet = some view)
    (h6 : view.isIpv6 = true) :
    Ipv6Shaped packet view.extensionLen ∧ Ipv4.parse packet = none ∧
      Ipv6.parse packet = some ⟨view.headerLen, view.terminalProtocol, view.extensionLen⟩ ∧
      view.headerLen = 40 + view.extensionLen ∧ Ipv6.isExtensionHeader view.terminalProtocol = false ∧
      (view.extensionLen = 0 ↔ u8At packet 6 = view.terminalProtocol) := by
  unfold parseIpView at h
  split at h
  · cases h
    cases h6
  · rename_i h4
    split at h
    · rename_i v hp
      cases h
      have hp' := hp
      unfold Ipv6.parse at hp
      split at hp
      · cases hp
      · split at hp
        · cases hp
        · dsimp only at hp
          split at hp
          · cases hp
          · rename_i hmin hver htot
            simp only [Option.bind_eq_bind, Option.bind_eq_some_iff, Option.pure_def, Option.some.injEq,
              Prod.exists] at hp
            obtain ⟨terminal, len, hext, rfl⟩ := hp
            obtain ⟨h₁, h₂, h₃⟩ := parseExtensions_eq hext
            rw [length_take_drop (by omega)] at h₁
            exact ⟨⟨by simpa using hver, by dsimp only; omega⟩, h4, hp', rfl, h₂, h₃⟩
    · cases h

/-! ## IP headers -/

section CaptureIp

variable {packet : Bytes} {view : ParsedIpView} {ctx ctx' : Context}

/-- A captured IPv4 header. -/
theorem captureIpContext_ipv4 (hv : parseIpView packet = some view) (h6 : view.isIpv6 = false)
    (h : captureIpContext ctx packet view = (true, ctx')) :
    HasIpv4 ctx' packet ∧ ctx'.ipv4Flags = ((u16At packet 6 >>> 13) &&& 0x07).toUInt8 := by
  obtain ⟨hs, -, hl, hp⟩ := parseIpView_ipv4 hv h6
  have hfit := hs.fits
  have hmin := hs.minLen
  unfold captureIpContext captureIpv4Options at h
  simp only [h6, Bool.not_false, if_true] at h
  rw [if_neg (by omega)] at h
  by_cases hopt : view.headerLen - 20 > 40 ∨ (view.headerLen - 20) % 4 ≠ 0
  · rw [if_pos hopt] at h
    cases h
  · rw [if_neg hopt] at h
    simp only [not_or, Nat.not_lt] at hopt
    cases h
    refine ⟨⟨rfl, rfl, rfl, rfl, hp, rfl, rfl, ?_, ?_⟩, rfl⟩
    · change 20 + (view.headerLen - 20) = ipv4HeaderLen packet
      omega
    · exact stored_fillCopy_of_length (length_slice (by omega)) hopt.1

/-- A captured IPv6 header. -/
theorem captureIpContext_ipv6 (hv : parseIpView packet = some view) (h6 : view.isIpv6 = true)
    (h : captureIpContext ctx packet view = (true, ctx')) :
    HasIpv6 ctx' packet ∧ ctx'.ipv6ExtensionLen = view.extensionLen ∧ ctx'.ipv4Protocol = view.terminalProtocol := by
  obtain ⟨hs, -⟩ := parseIpView_ipv6 hv h6
  have hfit := hs.fits
  unfold captureIpContext at h
  simp only [h6, Bool.not_true, Bool.false_eq_true, if_false, if_true] at h
  by_cases hext : view.extensionLen > 128
  · rw [if_pos hext] at h
    cases h
  · rw [if_neg hext] at h
    cases h
    refine ⟨⟨rfl, rfl, rfl, rfl, rfl, ?_, ?_, ?_⟩, rfl, rfl⟩
    · exact toList_fillCopy (length_slice (by omega))
    · exact toList_fillCopy (length_slice (by omega))
    · exact stored_fillCopy_of_length (length_slice (by omega)) (by change view.extensionLen ≤ 128; omega)

end CaptureIp

/-! ## RTP headers -/

/-- The fixed RTP header of the packet is in the context. -/
structure HasRtpHeader (rtp : RtpContext) (rtpPacket : Bytes) : Prop where
  vpxcc : rtp.vpxcc = u8At rtpPacket 0
  mpt : rtp.mpt = u8At rtpPacket 1
  seq : rtp.lastSeq = u16At rtpPacket 2
  ts : rtp.lastTs = u32At rtpPacket 4
  ssrc : rtp.ssrc = u32At rtpPacket 8

theorem padding_slice {rtpPacket : Bytes} {n : Nat} (h : n ≤ rtpPacket.length) :
    (rtpPacket.drop (rtpPacket.length - n)).length = n := by
  rw [List.length_drop]
  omega

/-- The lists of an RTP header, captured next to a fixed header. -/
theorem captureRtpExtras_eq {rtp rtp' : RtpContext} {rtpPacket : Bytes} {view : RtpPayloadView}
    (hh : HasRtpHeader rtp rtpPacket)
    (h : captureRtpExtras rtp rtpPacket = (some view, rtp')) : HasRtp rtp' rtpPacket view := by
  unfold captureRtpExtras at h
  dsimp only at h
  split at h
  · cases h
  · rename_i hcsrc
    simp only [not_or, Nat.not_lt] at hcsrc
    generalize hc : (u8At rtpPacket 0 &&& 0x0F).toNat * 4 = csrcLen at h hcsrc
    generalize he : (if u8At rtpPacket 0 &&& 0x10 ≠ 0 then 4 + (u16At rtpPacket (12 + csrcLen + 2)).toNat * 4 else 0) =
      extLen at h
    split at h
    · cases h
    · rename_i hext
      have hext' : extLen ≤ 256 ∧ 12 + csrcLen + extLen ≤ rtpPacket.length := by
        by_cases hx : u8At rtpPacket 0 &&& 0x10 ≠ 0
        · simp only [hx, not_or, Nat.not_lt, ne_eq, not_false_eq_true, true_and] at hext
          omega
        · rw [if_neg hx] at he
          omega
      generalize hp : (if u8At rtpPacket 0 &&& 0x20 ≠ 0 then (u8At rtpPacket (rtpPacket.length - 1)).toNat else 0) =
        padLen at h
      split at h
      · cases h
      · rename_i hpad
        have hpad' : padLen ≤ 255 ∧ padLen ≤ rtpPacket.length - (12 + csrcLen + extLen) := by
          by_cases hx : u8At rtpPacket 0 &&& 0x20 ≠ 0
          · simp only [hx, not_or, Nat.not_lt, ne_eq, not_false_eq_true, true_and] at hpad
            omega
          · rw [if_neg hx] at hp
            omega
        cases h
        refine ⟨hh.vpxcc, hh.mpt, hh.seq, hh.ts, hh.ssrc, ?_, ?_, ?_, rfl, ?_⟩
        · exact stored_fillCopy_of_length (length_slice (by omega)) hcsrc.2
        · exact stored_fillCopy_of_length (length_slice (by omega)) hext'.1
        · exact stored_fillCopy_of_length (padding_slice (by omega)) hpad'.1
        · dsimp only
          omega

theorem captureRtpContext_eq {ctx ctx' : Context} {rtpPacket : Bytes} {view : RtpPayloadView}
    (hh : HasRtpHeader ctx.rtp rtpPacket) (h : captureRtpContext ctx rtpPacket = (some view, ctx')) :
    HasRtp ctx'.rtp rtpPacket view ∧ (rtpExtrasBodyLen ctx'.rtp).isSome = true ∧
      ctx' = { ctx with rtp := ctx'.rtp } := by
  unfold captureRtpContext at h
  split at h
  · cases h
  · split at h
    · rename_i v rtp he
      have hcleared : HasRtpHeader ctx.rtp.clearExtras rtpPacket := ⟨hh.vpxcc, hh.mpt, hh.seq, hh.ts, hh.ssrc⟩
      have hr := captureRtpExtras_eq hcleared he
      split at h
      · rename_i hsome
        cases h
        exact ⟨hr, hsome, rfl⟩
      · cases h
    · cases h

end Rohccxx
