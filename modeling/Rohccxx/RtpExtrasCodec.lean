import Rohccxx.Lib.Consumes
import Rohccxx.StandardIr

/-!
# The RTP extras list, both ways

What `write_rtp_extras_list` writes for a consistent context is read back with all three parts, by a reader that knows the
first RTP octet (`reads_readRtpExtrasList`). The presence bits of a list stand in that octet, in the flag octet and in
three lengths, the body length is an SDVL number; the reader refuses any other spelling of them, so the octets it accepts
are the ones the writer writes for the context it leaves (`consumes_readRtpExtrasList`).
-/

set_option autoImplicit false

namespace Rohccxx

open Octets Reader

/-! ## The writer -/

theorem appends_writeSdvl14 {value : Nat} (h : value ≤ Cid.largeCidMax) (cap : Nat) :
    Appends cap (writeSdvl14 cap value) (Cid.largeOctets value) := by
  intro out hcap
  unfold writeSdvl14 Cid.writeLarge
  rw [if_neg (by omega)]
  exact put_of_le hcap

theorem rtpExtrasBodyLen_le {rtp : RtpContext} {bodyLen : Nat} (h : rtpExtrasBodyLen rtp = some bodyLen) :
    bodyLen ≤ Cid.largeCidMax := by
  have hok := (rtpExtrasBodyLen_iff rtp bodyLen).mp h
  have hext := extensionLen_le hok.extensionValid
  have hcsrc := hok.csrcLe
  have hpad := hok.paddingLe
  have hlen := hok.bodyLen_eq
  unfold Cid.largeCidMax
  split at hlen <;> omega

theorem appends_writeRtpExtrasList {rtp : RtpContext} {bodyLen : Nat} (h : rtpExtrasBodyLen rtp = some bodyLen)
    (cap : Nat) : Appends cap (writeRtpExtrasList cap rtp) (rtpExtrasOctets rtp bodyLen) := by
  intro out hcap
  unfold writeRtpExtrasList
  unfold rtpExtrasOctets at hcap ⊢
  rw [h]
  by_cases h0 : bodyLen = 0
  · rw [if_pos h0] at hcap ⊢
    simp only [Option.bind_eq_bind, Option.bind_some]
    rw [if_pos h0]
    exact put_of_le hcap
  · rw [if_neg h0, List.append_assoc] at hcap ⊢
    simp only [Option.bind_eq_bind, Option.bind_some]
    rw [if_neg h0]
    exact (appends_put cap _).bind ((appends_writeSdvl14 (rtpExtrasBodyLen_le h) cap).bind (appends_put cap _)) out hcap

/-! ## The reader -/

/-- The extras of `c` found in `r`, zero behind them. -/
structure RecoversExtras (c r : RtpContext) : Prop where
  csrcLen : r.csrcListLen = c.csrcListLen
  csrc : stored r.csrcList r.csrcListLen = stored c.csrcList c.csrcListLen
  csrcTail : ∀ i, r.csrcListLen ≤ i → r.csrcList.toList.getD i 0 = 0
  extensionLen : r.extensionLen = c.extensionLen
  extension : stored r.extensionBytes r.extensionLen = stored c.extensionBytes c.extensionLen
  extensionTail : ∀ i, r.extensionLen ≤ i → r.extensionBytes.toList.getD i 0 = 0
  paddingLen : r.paddingLen = c.paddingLen
  padding : stored r.paddingBytes r.paddingLen = stored c.paddingBytes c.paddingLen
  paddingTail : ∀ i, r.paddingLen ≤ i → r.paddingBytes.toList.getD i 0 = 0

theorem getD_fillCopy_of_le {n i : Nat} {bs : Bytes} (h : bs.length ≤ i) : (fillCopy n bs).toList.getD i 0 = 0 := by
  by_cases hi : i < n
  · simp [fillCopy, hi, List.getElem?_eq_none h]
  · simp [hi]

theorem stored_fillCopy_stored {n len : Nat} (v : Vector UInt8 n) (h : len ≤ n) :
    stored (fillCopy n (stored v len)) len = stored v len := by
  have hlen := length_stored v h
  have hcopy := @stored_fillCopy n (stored v len) (by omega)
  rwa [hlen] at hcopy

theorem recoversExtras_copyExtras {c : RtpContext} {bodyLen : Nat} (h : ExtrasOk c bodyLen) (d : RtpContext) :
    RecoversExtras c (copyExtras c d) := by
  have hext := extensionLen_le h.extensionValid
  refine ⟨rfl, stored_fillCopy_stored _ h.csrcLe, fun i hi => getD_fillCopy_of_le ?_, rfl,
    stored_fillCopy_stored _ hext, fun i hi => getD_fillCopy_of_le ?_, rfl, stored_fillCopy_stored _ h.paddingLe,
    fun i hi => getD_fillCopy_of_le ?_⟩
  · rw [length_stored _ h.csrcLe]
    exact hi
  · rw [length_stored _ hext]
    exact hi
  · rw [length_stored _ h.paddingLe]
    exact hi

/-- The flag octet, from its three bits. -/
theorem extrasFlags_of_bits {flags : UInt8} (h : flags &&& ~~~0x07 = 0) :
    flags = (if flags &&& rtpExtraCsrcPresent ≠ 0 then rtpExtraCsrcPresent else 0) |||
      (if flags &&& rtpExtraExtensionPresent ≠ 0 then rtpExtraExtensionPresent else 0) |||
      (if flags &&& rtpExtraPaddingPresent ≠ 0 then rtpExtraPaddingPresent else 0) :=
  forall_octet (P := fun flags => flags &&& ~~~0x07 = 0 →
    flags = (if flags &&& rtpExtraCsrcPresent ≠ 0 then rtpExtraCsrcPresent else 0) |||
      (if flags &&& rtpExtraExtensionPresent ≠ 0 then rtpExtraExtensionPresent else 0) |||
      (if flags &&& rtpExtraPaddingPresent ≠ 0 then rtpExtraPaddingPresent else 0)) (by decide) flags h

/-- The checks on the five octets that open the body leave the flag octet no choice. -/
theorem extrasFlags_of_headerOk {rtp : RtpContext} {flags csrcCount : UInt8} {extensionLen paddingLen bodyLen : Nat}
    (hflags : flags &&& ~~~0x07 = 0)
    (h : rtpExtrasHeaderOk rtp.vpxcc flags csrcCount extensionLen paddingLen bodyLen = true)
    (hc : rtp.csrcListLen = csrcCount.toNat * 4) (he : rtp.extensionLen = extensionLen)
    (hp : rtp.paddingLen = paddingLen) : flags = extrasFlags rtp := by
  unfold rtpExtrasHeaderOk at h
  simp only [Bool.and_eq_true, decide_eq_true_eq, eq_iff_iff] at h
  obtain ⟨⟨⟨⟨⟨⟨⟨⟨⟨-, -⟩, h₁⟩, -⟩, -⟩, h₂⟩, h₃⟩, -⟩, -⟩, -⟩ := h
  have e₂ : flags &&& rtpExtraExtensionPresent ≠ 0 ↔ extensionLen > 0 := by
    rw [Ne, h₂]
    omega
  have e₃ : flags &&& rtpExtraPaddingPresent ≠ 0 ↔ paddingLen > 0 := by
    rw [Ne, h₃]
    omega
  have hbits := extrasFlags_of_bits hflags
  simp only [h₁, e₂, e₃] at hbits
  rw [hbits, extrasFlags, hc, he, hp]

/-- A first octet without list bits goes with an empty list. -/
theorem rtpExtrasBodyLen_clear {rtp : RtpContext} (hclear : rtp.csrcListLen = 0 ∧ rtp.extensionLen = 0 ∧ rtp.paddingLen = 0)
    (h : rtp.vpxcc &&& 0xC0 = rtp.vpxcc) : rtpExtrasBodyLen rtp = some 0 := by
  have hbits : rtp.vpxcc &&& 0x0F = 0 ∧ rtp.vpxcc &&& 0x10 = 0 ∧ rtp.vpxcc &&& 0x20 = 0 :=
    forall_octet (P := fun v => v &&& 0xC0 = v → v &&& 0x0F = 0 ∧ v &&& 0x10 = 0 ∧ v &&& 0x20 = 0) (by decide) _ h
  obtain ⟨b₁, b₂, b₃⟩ := hbits
  obtain ⟨l₁, l₂, l₃⟩ := hclear
  unfold rtpExtrasBodyLen
  simp [b₁, b₂, b₃, l₁, l₂, l₃]

/-- The octets of a list, in terms of what its fields were read from. -/
theorem rtpExtrasOctets_of_read {rtp : RtpContext} {bodyLen : Nat} {flags csrcCount paddingLen : UInt8}
    {extensionLen : UInt16} {csrcList extensionBytes paddingBytes : Bytes}
    (hfive : 5 ≤ bodyLen) (hflags : flags &&& ~~~0x07 = 0)
    (hheader : rtpExtrasHeaderOk rtp.vpxcc flags csrcCount extensionLen.toNat paddingLen.toNat bodyLen = true)
    (hcsrc : rtp.csrcListLen = csrcCount.toNat * 4 ∧ rtp.csrcList = fillCopy 60 csrcList)
    (hext : rtp.extensionLen = extensionLen.toNat ∧ rtp.extensionBytes = fillCopy 256 extensionBytes)
    (hpad : rtp.paddingLen = paddingLen.toNat ∧ rtp.paddingBytes = fillCopy 255 paddingBytes)
    (lcsrc : csrcList.length = csrcCount.toNat * 4) (lext : extensionBytes.length = extensionLen.toNat)
    (lpad : paddingBytes.length = paddingLen.toNat) :
    rtpExtrasOctets rtp bodyLen =
      rtpExtrasListMarker :: (Cid.largeOctets bodyLen ++ (flags :: csrcCount :: (be16 extensionLen ++
        (paddingLen :: (csrcList ++ (extensionBytes ++ (paddingBytes ++ []))))))) := by
  have hcopy := hheader
  unfold rtpExtrasHeaderOk at hcopy
  simp only [Bool.and_eq_true, decide_eq_true_eq] at hcopy
  obtain ⟨⟨⟨⟨⟨⟨⟨⟨⟨hcount, hcsrcLe⟩, -⟩, -⟩, -⟩, -⟩, -⟩, hextLe⟩, hpadLe⟩, -⟩ := hcopy
  have s₁ : stored rtp.csrcList rtp.csrcListLen = csrcList := by
    rw [hcsrc.1, hcsrc.2, ← lcsrc]
    exact stored_fillCopy (by omega)
  have s₂ : stored rtp.extensionBytes rtp.extensionLen = extensionBytes := by
    rw [hext.1, hext.2, ← lext]
    exact stored_fillCopy (by omega)
  have s₃ : stored rtp.paddingBytes rtp.paddingLen = paddingBytes := by
    rw [hpad.1, hpad.2, ← lpad]
    exact stored_fillCopy (by omega)
  rw [rtpExtrasOctets, if_neg (by omega), rtpExtrasBody_eq, s₁, s₂, s₃,
    ← extrasFlags_of_headerOk hflags hheader hcsrc.1 hext.1 hpad.1, ← hcount, hext.1, hpad.1, UInt16.ofNat_toNat,
    UInt8.ofNat_toNat]
  simp

/-- **The octets an accepting read consumed are those the writer has for the context it left.** -/
theorem consumes_readRtpExtrasList (bs rest : Bytes) (d : Context) :
    Consumes bs (readRtpExtrasList bs) rest d fun w _ d' => d'.rtp.vpxcc = d.rtp.vpxcc →
      ∃ bodyLen, rtpExtrasBodyLen d'.rtp = some bodyLen ∧ w = rtpExtrasOctets d'.rtp bodyLen := by
  unfold readRtpExtrasList
  refine .update (.available (.u8 fun marker _ _ => .ite (fun hempty => .update_last ?_) fun _ => ?_))
  · intro hv
    refine ⟨0, rtpExtrasBodyLen_clear ⟨rfl, rfl, rfl⟩ ?_, ?_⟩
    · rw [hv]
      exact hv
    · rw [rtpExtrasOctets, if_pos rfl, of_decide_eq_true hempty]
  · refine .require fun hmarker => .scan fun scanned hscan => .require fun hfive => ?_
    obtain ⟨bodyLen, consumed⟩ := scanned
    refine .take fun number rest' hrest hlen => ?_
    have hnumber : number = Cid.largeOctets bodyLen := by
      have hlen : number.length = consumed := hlen
      rw [← (Cid.readLarge_canonical hscan).2, hrest, ← hlen, List.take_left]
    refine .need (.u8 fun flags _ _ => .require fun hflags => .u8 fun csrcCount _ _ => .u16 fun extensionLen _ _ =>
      .u8 fun paddingLen _ _ => .value (.require fun hheader => ?_))
    refine .take fun csrcList _ _ hcsrc => .take fun extensionBytes _ _ hext => .take fun paddingBytes _ _ hpad => ?_
    refine .update (.value (.require_last fun hbody _ => ⟨bodyLen, of_decide_eq_true hbody, ?_⟩))
    rw [hnumber, of_decide_eq_true hmarker]
    refine (rtpExtrasOctets_of_read (of_decide_eq_true hfive) (of_decide_eq_true hflags) ?_ ?_ ?_ ?_ hcsrc hext hpad).symm
    · exact hheader
    · exact ⟨rfl, rfl⟩
    · exact ⟨rfl, rfl⟩
    · exact ⟨rfl, rfl⟩

/-- **For a context whose extras agree with its first RTP octet the writer has one list, of which a reader that knows that
octet consumes exactly the octets written, whatever follows them, and recovers CSRCs, extension and padding with zeros
behind them; and the octets of a list that a reader accepts without changing the octet are those the writer has for the
context it leaves.** -/
theorem rtp_extras_list_codec :
    (∀ (src : RtpContext) (bodyLen : Nat), rtpExtrasBodyLen src = some bodyLen →
      ∃ w : Bytes,
        (∀ cap out, out.length + w.length ≤ cap → writeRtpExtrasList cap src out = some (out ++ w)) ∧
        (∀ cap out r, writeRtpExtrasList cap src out = some r → r = out ++ w) ∧
        ∀ (d : Context) (front : Bytes), d.rtp.vpxcc = src.vpxcc →
          ∃ got, Reads readRtpExtrasList front w d () (d.withRtp fun _ => got) ∧ RecoversExtras src got) ∧
      (∀ (bs : Bytes) (c c' : Cursor Context), readRtpExtrasList bs c = (.ok (), c') →
        c'.st.rtp.vpxcc = c.st.rtp.vpxcc →
        ∃ w : Bytes, Took bs c c' w ∧
          ∀ cap out, out.length + w.length ≤ cap → writeRtpExtrasList cap c'.st.rtp out = some (out ++ w)) := by
  refine ⟨fun src bodyLen hbody => ?_, fun bs c c' hread hv => ?_⟩
  · have hok := (rtpExtrasBodyLen_iff src bodyLen).mp hbody
    refine ⟨rtpExtrasOctets src bodyLen, fun cap => appends_writeRtpExtrasList hbody cap, fun cap out r hwrite => ?_,
      fun d front hv => ⟨copyExtras src d.rtp, reads_readRtpExtrasList hok d hv front,
        recoversExtras_copyExtras hok d.rtp⟩⟩
    obtain ⟨bodyLen', hbody', rfl⟩ := writeRtpExtrasList_eq hwrite
    rw [hbody] at hbody'
    rw [Option.some.inj hbody']
  · obtain ⟨w, htook, hw⟩ := consumes_readRtpExtrasList bs (bs.drop c.pos) c.st c () c' rfl rfl hread
    obtain ⟨bodyLen, hbody, rfl⟩ := hw hv
    exact ⟨_, htook, fun cap => appends_writeRtpExtrasList hbody cap⟩

/-- Two CSRCs, a header extension of one word and three octets of padding. -/
def paddedExtras : RtpContext where
  vpxcc := 0xB2
  csrcListLen := 8
  csrcList := fillCopy 60 [0, 0, 0, 7, 0, 0, 0, 9]
  extensionLen := 8
  extensionBytes := fillCopy 256 [0xBE, 0xDE, 0, 1, 1, 2, 3, 4]
  paddingLen := 3
  paddingBytes := fillCopy 255 [0, 0, 3]

def paddedList : Bytes :=
  [128, 24, 7, 2, 0, 8, 3, 0, 0, 0, 7, 0, 0, 0, 9, 0xBE, 0xDE, 0, 1, 1, 2, 3, 4, 0, 0, 3]

theorem rtp_extras_list_codec_padded :
    writeRtpExtrasList 64 paddedExtras [9] = some ([9] ++ paddedList) ∧
      (∀ front, ∃ got, Reads readRtpExtrasList front paddedList { rtp := { vpxcc := 0xB2 } } ()
        (({ rtp := { vpxcc := 0xB2 } } : Context).withRtp fun _ => got) ∧ RecoversExtras paddedExtras got) := by
  have hlen : rtpExtrasBodyLen paddedExtras = some 24 := by decide +kernel
  have hwritten : writeRtpExtrasList 64 paddedExtras [9] = some ([9] ++ paddedList) := by decide +kernel
  obtain ⟨w, -, honly, hread⟩ := rtp_extras_list_codec.1 paddedExtras 24 hlen
  obtain rfl : paddedList = w := List.append_cancel_left (honly 64 [9] _ hwritten)
  exact ⟨hwritten, fun front => hread { rtp := { vpxcc := 0xB2 } } front rfl⟩

end Rohccxx
