import Rohccxx.DecodeIrDyn
import Rohccxx.IrRoundTrip

/-!
# Reading back the legacy chains

The chains the UDP-Lite profiles send: IP headers with their lists of options and extension headers, and the RTP extras
list. A piece of a reader has its own lemma; `copy…` says what it leaves in the context.
-/

set_option autoImplicit false

namespace Rohccxx

open Octets Reader

/-! ## Lists -/

theorem optionsMarker_fields {n : Nat} (h : n ≤ 40) (h0 : n ≠ 0) :
    isEmptyList (ipv4OptionsListMarker ||| UInt8.ofNat n) = false ∧
      (ipv4OptionsListMarker ||| UInt8.ofNat n) &&& 0xC0 = ipv4OptionsListMarker ∧
      ((ipv4OptionsListMarker ||| UInt8.ofNat n) &&& 0x3F).toNat = n := by
  have key : ∀ i : Fin 41, i.val ≠ 0 → isEmptyList (ipv4OptionsListMarker ||| UInt8.ofNat i) = false ∧
      (ipv4OptionsListMarker ||| UInt8.ofNat i) &&& 0xC0 = ipv4OptionsListMarker ∧
      ((ipv4OptionsListMarker ||| UInt8.ofNat i) &&& 0x3F).toNat = i := by decide
  exact key ⟨n, by omega⟩ h0

theorem extensionsMarker_fields {n : Nat} (h : n ≤ 127) :
    isEmptyList (ipv6ExtensionsListMarker ||| UInt8.ofNat n) = false ∧
      (ipv6ExtensionsListMarker ||| UInt8.ofNat n) &&& 0x80 = ipv6ExtensionsListMarker ∧
      ((ipv6ExtensionsListMarker ||| UInt8.ofNat n) &&& 0x7F).toNat = n := by
  have key : ∀ i : Fin 128, isEmptyList (ipv6ExtensionsListMarker ||| UInt8.ofNat i) = false ∧
      (ipv6ExtensionsListMarker ||| UInt8.ofNat i) &&& 0x80 = ipv6ExtensionsListMarker ∧
      ((ipv6ExtensionsListMarker ||| UInt8.ofNat i) &&& 0x7F).toNat = i := by decide
  exact key ⟨n, by omega⟩

/-- The options of `c` in another context. -/
def copyOptions (c d : Context) : Context :=
  { d with ipv4OptionsLen := c.ipv4OptionsLen, ipv4Options := fillCopy 40 (stored c.ipv4Options c.ipv4OptionsLen) }

theorem reads_readIpv4OptionsList {c : Context} (h : c.ipv4OptionsLen ≤ 40) (d : Context) (front : Bytes) :
    Reads readIpv4OptionsList front (writeIpv4OptionsList c) d () (copyOptions c d) := by
  unfold writeIpv4OptionsList readIpv4OptionsList copyOptions
  by_cases h0 : c.ipv4OptionsLen = 0
  · rw [if_pos h0]
    refine .available (by simp) (.u8 (.update (.ite_pos (by decide) ?_)))
    rw [h0, stored_zero, fillCopy_nil]
    exact reads_pure _ _ _
  · obtain ⟨h₁, h₂, h₃⟩ := optionsMarker_fields h h0
    have hlen := length_stored c.ipv4Options h
    rw [if_neg h0, if_neg (by omega)]
    refine .available (by simp) (.u8 (.update (.ite_neg (by simp [h₁]) ?_)))
    refine .require (fun _ => by simp [h₂]) (.require (fun _ => by rw [h₃]; simp [h0, h]) ?_)
    rw [h₃]
    exact .need (by simp [hlen]) (.take_last hlen .update_last)

/-- The extension headers of `c` in another context. -/
def copyExtensions (c d : Context) : Context :=
  { d with
    ipv6ExtensionLen := c.ipv6ExtensionLen
    ipv6Extensions := fillCopy 128 (stored c.ipv6Extensions c.ipv6ExtensionLen) }

theorem reads_readIpv6ExtensionsList {c : Context} (h : c.ipv6ExtensionLen ≤ 127) (d : Context) (front : Bytes) :
    Reads readIpv6ExtensionsList front (writeIpv6ExtensionsList c) d () (copyExtensions c d) := by
  unfold writeIpv6ExtensionsList readIpv6ExtensionsList copyExtensions
  by_cases h0 : c.ipv6ExtensionLen = 0
  · rw [if_pos h0]
    refine .available (by simp) (.u8 (.update (.ite_pos (by decide) ?_)))
    rw [h0, stored_zero, fillCopy_nil]
    exact reads_pure _ _ _
  · obtain ⟨h₁, h₂, h₃⟩ := extensionsMarker_fields h
    have hlen := length_stored c.ipv6Extensions (Nat.le_trans h (by decide))
    rw [if_neg h0, if_neg (by omega)]
    refine .available (by simp) (.u8 (.update (.ite_neg (by simp [h₁]) ?_)))
    refine .require (fun _ => by simp [h₂]) (.require (fun _ => by rw [h₃]; simp [h0]; omega) ?_)
    rw [h₃]
    exact .need (by simp [hlen]) (.take_last hlen .update_last)

/-! ## IP chains -/

/-- The context after the legacy static IP chain of `c`. -/
def copyLegacyStatic (c d : Context) : Context :=
  if c.ipVersion = 6 then
    { d with
      ipVersion := 6, ipv6NextHeader := c.ipv6NextHeader, ipv6Saddr := c.ipv6Saddr, ipv6Daddr := c.ipv6Daddr
      ipv4Protocol := c.ipv6NextHeader }
  else { d with ipVersion := 4, ipv4Protocol := c.ipv4Protocol, ipv4Saddr := c.ipv4Saddr, ipv4Daddr := c.ipv4Daddr }

theorem reads_readIpStaticChain (c d : Context) (front : Bytes) :
    Reads readIpStaticChain front (writeIpStaticWithProtocol c c.ipv4Protocol) d () (copyLegacyStatic c d) := by
  unfold writeIpStaticWithProtocol copyLegacyStatic
  by_cases h6 : c.ipVersion = 6
  · rw [if_pos h6, if_pos h6]
    have e : writeIpv6Static c =
        ipv6StaticChainTerminal :: c.ipv6NextHeader :: (c.ipv6Saddr.toList ++ (c.ipv6Daddr.toList ++ [])) := by
      simp [writeIpv6Static]
    rw [e]
    unfold readIpStaticChain
    refine .available (by simp) (.u8 (.ite_neg (by decide) (.ite_pos (by decide) (.update (.need (by simp) ?_)))))
    refine .u8 (.take (by simp) (.take (by simp) (.update_last_eq ?_)))
    rw [fillCopy_toList, fillCopy_toList]
  · rw [if_neg h6, if_neg h6]
    have e : writeIpv4StaticWithProtocol c c.ipv4Protocol =
        ipv4StaticChainTerminal :: c.ipv4Protocol :: (be32 c.ipv4Saddr ++ (be32 c.ipv4Daddr ++ [])) := by
      simp [writeIpv4StaticWithProtocol]
    rw [e]
    unfold readIpStaticChain
    refine .available (by simp) (.u8 (.ite_pos (by decide) (.update (.available (by simp) (.u8 (.update ?_))))))
    exact .need (by simp) (.u32 (.u32 .update_last))

/-- The context after the legacy dynamic IP chain of `c`. -/
def copyLegacyDynamic (c d : Context) : Context :=
  if c.ipVersion = 6 then
    copyExtensions c { d with
      ipv6TrafficClass := c.ipv6TrafficClass, ipv6FlowLabel := c.ipv6FlowLabel &&& 0x000FFFFF
      ipv6HopLimit := c.ipv6HopLimit, ipv4Protocol := c.ipv4Protocol }
  else
    copyOptions c { d with
      ipv4Tos := c.ipv4Tos, ipv4Ttl := c.ipv4Ttl, ipv4Id := c.ipv4Id, ipv4Flags := c.ipv4Flags }

/-- A flow label in three octets. -/
theorem flowLabel_octets (v : UInt32) :
    ((((v >>> 16) &&& 0x0F).toUInt8 &&& 0x0F).toUInt32 <<< 16) ||| ((v >>> 8).toUInt8.toUInt32 <<< 8) |||
      v.toUInt8.toUInt32 = v &&& 0x000FFFFF := by
  apply UInt32.toNat_inj.mp
  have hm : ∀ n : Nat, n &&& 0x000FFFFF = n % 2 ^ 20 := fun n => Nat.and_two_pow_sub_one_eq_mod n 20
  have hn : ∀ n : Nat, n &&& 15 = n % 2 ^ 4 := fun n => Nat.and_two_pow_sub_one_eq_mod n 4
  simp only [UInt32.toNat_or, UInt32.toNat_shiftLeft, UInt8.toNat_toUInt32, UInt32.toNat_toUInt8, UInt8.toNat_and,
    UInt32.toNat_and, UInt32.toNat_shiftRight, UInt32.reduceToNat, UInt8.reduceToNat, Nat.reduceMod, hm, hn,
    Nat.shiftRight_eq_div_pow]
  generalize v.toNat = n
  have s₁ : (n / 2 ^ 16 % 2 ^ 4 % 2 ^ 8 % 2 ^ 4) <<< 16 % 2 ^ 32 = ((n / 2 ^ 16 % 2 ^ 4) <<< 8) <<< 8 := by
    simp only [Nat.shiftLeft_eq]; omega
  have s₂ : (n / 2 ^ 8 % 2 ^ 8) <<< 8 % 2 ^ 32 = (n / 2 ^ 8 % 2 ^ 8) <<< 8 := by
    simp only [Nat.shiftLeft_eq]; omega
  have s₃ := Nat.shiftLeft_add_eq_or_of_lt (i := 8) (b := n / 2 ^ 8 % 2 ^ 8) (by omega) (n / 2 ^ 16 % 2 ^ 4)
  have s₄ := Nat.shiftLeft_add_eq_or_of_lt (i := 8) (b := n % 2 ^ 8) (by omega)
    ((n / 2 ^ 16 % 2 ^ 4) <<< 8 + n / 2 ^ 8 % 2 ^ 8)
  rw [s₁, s₂, ← Nat.shiftLeft_or_distrib, ← s₃, ← s₄]
  simp only [Nat.shiftLeft_eq]
  omega

theorem reads_readIpDynamicChain {c d : Context} (hip : LegacyIp c) (hd : d.ipVersion = 6 ↔ c.ipVersion = 6)
    (front : Bytes) : Reads readIpDynamicChain front (writeIpDynamic c) d () (copyLegacyDynamic c d) := by
  unfold writeIpDynamic copyLegacyDynamic readIpDynamicChain
  refine .value ?_
  by_cases h6 : c.ipVersion = 6
  · have hext : c.ipv6ExtensionLen ≤ 127 := by
      rcases hip with ⟨h4, -⟩ | ⟨-, h⟩
      · rw [h4] at h6
        cases h6
      · exact h
    rw [if_pos h6, if_pos h6]
    refine .ite_pos (hd.mpr h6) ?_
    unfold writeIpv6Dynamic
    simp only [List.cons_append, List.nil_append]
    refine .need ?_ (.u8 (.u8 (.u8 (.u8 (.u8 (.u8 (.update ?_)))))))
    · unfold writeIpv6ExtensionsList
      split_ifs
      · simp
      · omega
      · simp
    · rw [flowLabel_octets]
      exact reads_readIpv6ExtensionsList hext _ _
  · have hopt : c.ipv4OptionsLen ≤ 40 := by
      rcases hip with ⟨-, h⟩ | ⟨h, -⟩
      · exact h
      · exact absurd h h6
    rw [if_neg h6, if_neg h6]
    refine .ite_neg (fun h => h6 (hd.mp h)) ?_
    unfold writeIpv4Dynamic
    simp only [List.cons_append, List.nil_append, List.append_assoc]
    refine .need ?_ (.u8 (.u8 (.u16 (.u8 (.update ?_)))))
    · unfold writeIpv4OptionsList
      split_ifs <;> simp <;> omega
    · exact reads_readIpv4OptionsList hopt _ _

/-- The terminal protocol of both chains is the same. -/
def LegacyConsistent (c : Context) : Prop := c.ipVersion = 6 → c.ipv4Protocol = c.ipv6NextHeader

section Consistent

variable {c d : Context} (hip : LegacyIp c) (hv : d.ipVersion = c.ipVersion)
  (hnext : c.ipVersion = 6 → d.ipv6NextHeader = c.ipv6NextHeader) (front : Bytes)

include hv hnext

theorem legacyTerminal_eq : (decide ((copyLegacyDynamic c d).ipVersion ≠ 6 ∨
    (copyLegacyDynamic c d).ipv4Protocol = if d.ipVersion = 6 then d.ipv6NextHeader else d.ipv4Protocol)) = true ↔
    LegacyConsistent c := by
  unfold LegacyConsistent
  by_cases h6 : c.ipVersion = 6
  · simp [copyLegacyDynamic, copyExtensions, h6, hv, hnext h6]
  · simp [copyLegacyDynamic, copyOptions, h6, hv]

include hip

theorem reads_readLegacyIpDynamicConsistent (hc : LegacyConsistent c) :
    Reads readLegacyIpDynamicConsistent front (writeIpDynamic c) d () (copyLegacyDynamic c d) := by
  have e : writeIpDynamic c = writeIpDynamic c ++ [] := by simp
  rw [e]
  unfold readLegacyIpDynamicConsistent
  refine .value ((reads_readIpDynamicChain hip (by rw [hv]) front).bind (.value ?_))
  intro rest
  have hr := (legacyTerminal_eq hv hnext).mpr hc
  simp only [hr, Proc.require_true, List.append_nil]

theorem refuses_readLegacyIpDynamicConsistent (hc : ¬LegacyConsistent c) :
    Refuses readLegacyIpDynamicConsistent front (writeIpDynamic c) d := by
  have e : writeIpDynamic c = writeIpDynamic c ++ [] := by simp
  rw [e]
  unfold readLegacyIpDynamicConsistent
  refine .value ((reads_readIpDynamicChain hip (by rw [hv]) front).bind_refuses (.value (refuses_require ?_)))
  intro rest
  exact Bool.eq_false_iff.mpr fun h => hc ((legacyTerminal_eq hv hnext).mp h)

end Consistent

/-! ## RTP extras -/

/-- What `rtp_extras_body_len` checks. -/
structure ExtrasOk (rtp : RtpContext) (bodyLen : Nat) : Prop where
  csrcLen : rtp.csrcListLen = (rtp.vpxcc &&& 0x0F).toNat * 4
  csrcLe : rtp.csrcListLen ≤ 60
  extension : rtp.vpxcc &&& 0x10 ≠ 0 ↔ rtp.extensionLen ≠ 0
  extensionValid : rtpExtensionBytesValid rtp = true
  padding : rtp.vpxcc &&& 0x20 ≠ 0 ↔ rtp.paddingLen ≠ 0
  paddingLe : rtp.paddingLen ≤ 255
  paddingLast : rtp.paddingLen ≠ 0 → (rtp.paddingBytes.toList.getD (rtp.paddingLen - 1) 0).toNat = rtp.paddingLen
  bodyLen_eq : bodyLen = if rtp.csrcListLen = 0 ∧ rtp.extensionLen = 0 ∧ rtp.paddingLen = 0 then 0
    else 5 + rtp.csrcListLen + rtp.extensionLen + rtp.paddingLen

theorem extensionLen_le {rtp : RtpContext} (h : rtpExtensionBytesValid rtp = true) : rtp.extensionLen ≤ 256 := by
  unfold rtpExtensionBytesValid at h
  split at h
  · omega
  · split at h
    · cases h
    · omega

theorem rtpExtrasBodyLen_iff (rtp : RtpContext) (bodyLen : Nat) :
    rtpExtrasBodyLen rtp = some bodyLen ↔ ExtrasOk rtp bodyLen := by
  constructor
  · intro h
    unfold rtpExtrasBodyLen at h
    dsimp only at h
    split at h
    · cases h
    rename_i h₁
    split at h
    · cases h
    rename_i h₂
    split at h
    · cases h
    rename_i h₃
    split at h
    · cases h
    rename_i h₄
    split at h
    · cases h
    rename_i h₅
    have hext : rtp.vpxcc &&& 0x10 ≠ 0 ↔ rtp.extensionLen ≠ 0 := by tauto
    have hval : rtpExtensionBytesValid rtp = true := by
      by_cases hx : rtp.vpxcc &&& 0x10 ≠ 0
      · have := fun hv => h₂ ⟨hx, Or.inr hv⟩
        simpa using this
      · have : rtp.extensionLen = 0 := by tauto
        simp [rtpExtensionBytesValid, this]
    have hpad : rtp.vpxcc &&& 0x20 ≠ 0 ↔ rtp.paddingLen ≠ 0 := by tauto
    simp only [not_or, Nat.not_lt, ne_eq, Decidable.not_not] at h₁
    have hle : rtp.paddingLen ≤ 255 := by
      by_cases hx : rtp.vpxcc &&& 0x20 ≠ 0
      · exact Nat.le_of_not_lt fun hv => h₄ ⟨hx, Or.inr (Or.inl hv)⟩
      · have : rtp.paddingLen = 0 := by tauto
        omega
    have hlast : rtp.paddingLen ≠ 0 →
        (rtp.paddingBytes.toList.getD (rtp.paddingLen - 1) 0).toNat = rtp.paddingLen := by
      intro hp
      by_contra hv
      exact h₄ ⟨hpad.mpr hp, Or.inr (Or.inr hv)⟩
    refine ⟨h₁.1, by omega, hext, hval, hpad, hle, hlast, ?_⟩
    rw [← h₁.1] at h
    split at h
    · rename_i h0
      rw [if_pos h0]
      exact (Option.some.inj h).symm
    · rename_i h0
      rw [if_neg h0]
      split at h
      · exact (Option.some.inj h).symm
      · cases h
  · intro h
    have hel := extensionLen_le h.extensionValid
    have hcl := h.csrcLe
    have hpl := h.paddingLe
    unfold rtpExtrasBodyLen
    dsimp only
    rw [← h.csrcLen]
    rw [if_neg (by simp only [ne_eq, not_true, false_or]; omega)]
    rw [if_neg (by rintro ⟨hx, h0 | hv⟩; exact h.extension.mp hx h0; simp [h.extensionValid] at hv)]
    rw [if_neg (by rintro ⟨hx, h0⟩; exact hx (h.extension.mpr h0))]
    rw [if_neg (by
      rintro ⟨hx, h0 | h0 | h0⟩
      · exact h.padding.mp hx h0
      · omega
      · exact h0 (h.paddingLast (h.padding.mp hx)))]
    rw [if_neg (by rintro ⟨hx, h0⟩; exact hx (h.padding.mpr h0)), h.bodyLen_eq]
    split
    · rfl
    · rw [if_pos (by unfold Cid.largeCidMax; omega)]

/-- The lists of `c` in another RTP context. -/
def copyExtras (c d : RtpContext) : RtpContext :=
  { d with
    csrcListLen := c.csrcListLen, csrcList := fillCopy 60 (stored c.csrcList c.csrcListLen)
    extensionLen := c.extensionLen, extensionBytes := fillCopy 256 (stored c.extensionBytes c.extensionLen)
    paddingLen := c.paddingLen, paddingBytes := fillCopy 255 (stored c.paddingBytes c.paddingLen) }

theorem getElem_fillCopy_stored {n i : Nat} (v : Vector UInt8 n) (len : Nat) (hi : i < len) (hn : i < n) :
    (fillCopy n (stored v len))[i] = v[i] := by
  simp [fillCopy, stored, List.getElem?_take, hi]

/-- The check of a header extension looks at two octets of it. -/
theorem rtpExtensionBytesValid_congr {a b : RtpContext} (hl : a.extensionLen = b.extensionLen)
    (hb : 4 ≤ b.extensionLen → a.extensionBytes[2] = b.extensionBytes[2] ∧ a.extensionBytes[3] = b.extensionBytes[3]) :
    rtpExtensionBytesValid a = rtpExtensionBytesValid b := by
  unfold rtpExtensionBytesValid
  rw [hl]
  by_cases h4 : 4 ≤ b.extensionLen
  · rw [(hb h4).1, (hb h4).2]
  · rw [if_pos (Or.inl (by omega)), if_pos (Or.inl (by omega))]

theorem extrasOk_copyExtras {c : RtpContext} {bodyLen : Nat} (h : ExtrasOk c bodyLen) (d : RtpContext)
    (hv : d.vpxcc = c.vpxcc) : ExtrasOk (copyExtras c d) bodyLen := by
  have hel := extensionLen_le h.extensionValid
  refine ⟨?_, h.csrcLe, ?_, ?_, ?_, h.paddingLe, ?_, h.bodyLen_eq⟩
  · rw [copyExtras, hv]
    exact h.csrcLen
  · rw [copyExtras, hv]
    exact h.extension
  · rw [rtpExtensionBytesValid_congr (a := copyExtras c d) (b := c) rfl fun hlen => ?_]
    · exact h.extensionValid
    exact ⟨getElem_fillCopy_stored c.extensionBytes c.extensionLen (i := 2) (by omega) (by decide),
      getElem_fillCopy_stored c.extensionBytes c.extensionLen (i := 3) (by omega) (by decide)⟩
  · rw [copyExtras, hv]
    exact h.padding
  · intro hp
    have hp' : c.paddingLen ≠ 0 := hp
    have hl := h.paddingLe
    have hlast := h.paddingLast hp'
    have hlt : c.paddingLen - 1 < 255 := by omega
    have e : (copyExtras c d).paddingBytes.toList.getD (c.paddingLen - 1) 0 =
        c.paddingBytes.toList.getD (c.paddingLen - 1) 0 := by
      have := getElem_fillCopy_stored c.paddingBytes c.paddingLen (show c.paddingLen - 1 < c.paddingLen by omega) hlt
      simp [copyExtras, hlt, this]
    exact (congrArg UInt8.toNat e).trans hlast

/-- No list, no list bits. -/
theorem vpxcc_plain {v : UInt8} (h₁ : v &&& 0x0F = 0) (h₂ : v &&& 0x10 = 0) (h₃ : v &&& 0x20 = 0) : v &&& 0xC0 = v :=
  forall_octet (P := fun v => v &&& 0x0F = 0 → v &&& 0x10 = 0 → v &&& 0x20 = 0 → v &&& 0xC0 = v) (by decide)
    v h₁ h₂ h₃

theorem length_rtpExtrasBody {c : RtpContext} {bodyLen : Nat} (h : ExtrasOk c bodyLen) (h0 : bodyLen ≠ 0) :
    (rtpExtrasBody c).length = bodyLen := by
  have hel := extensionLen_le h.extensionValid
  have hb := h.bodyLen_eq
  split at hb
  · exact absurd hb h0
  · simp only [rtpExtrasBody, List.length_append, List.length_cons, List.length_nil, length_be16,
      length_stored _ h.csrcLe, length_stored _ hel, length_stored _ h.paddingLe]
    omega

/-- The three bits of the flag octet. -/
theorem extrasFlags_bits (p q r : Bool) :
    let flags := (if p then rtpExtraCsrcPresent else 0) ||| (if q then rtpExtraExtensionPresent else 0) |||
      (if r then rtpExtraPaddingPresent else 0)
    flags &&& ~~~0x07 = 0 ∧ (flags &&& rtpExtraCsrcPresent ≠ 0 ↔ p = true) ∧
      (flags &&& rtpExtraExtensionPresent ≠ 0 ↔ q = true) ∧ (flags &&& rtpExtraPaddingPresent ≠ 0 ↔ r = true) := by
  cases p <;> cases q <;> cases r <;> decide

/-- The flag octet of a list. -/
def extrasFlags (c : RtpContext) : UInt8 :=
  (if c.csrcListLen > 0 then rtpExtraCsrcPresent else 0) |||
    (if c.extensionLen > 0 then rtpExtraExtensionPresent else 0) |||
    (if c.paddingLen > 0 then rtpExtraPaddingPresent else 0)

/-- The five octets that open the list pass their checks. -/
theorem rtpExtrasHeaderOk_of {c : RtpContext} {bodyLen : Nat} (h : ExtrasOk c bodyLen) (h0 : bodyLen ≠ 0) :
    extrasFlags c &&& ~~~0x07 = 0 ∧ rtpExtrasHeaderOk c.vpxcc (extrasFlags c) (c.vpxcc &&& 0x0F) c.extensionLen
      c.paddingLen bodyLen = true := by
  have hel := extensionLen_le h.extensionValid
  have hcl := h.csrcLe
  have hc := h.csrcLen
  have hb := h.bodyLen_eq
  split at hb
  · exact absurd hb h0
  obtain ⟨hf, f₁, f₂, f₃⟩ := extrasFlags_bits (c.csrcListLen > 0) (c.extensionLen > 0) (c.paddingLen > 0)
  simp only [decide_eq_true_eq] at hf f₁ f₂ f₃
  change extrasFlags c &&& ~~~0x07 = 0 at hf
  change extrasFlags c &&& _ ≠ 0 ↔ _ at f₁ f₂ f₃
  have hx := h.extension
  have hp := h.padding
  refine ⟨hf, ?_⟩
  unfold rtpExtrasHeaderOk
  rw [← hc]
  simp only [Bool.and_eq_true, decide_eq_true_eq, eq_iff_iff, true_and]
  refine ⟨⟨⟨⟨⟨⟨⟨⟨hcl, f₁⟩, f₂.trans ?_⟩, f₃.trans ?_⟩, ?_⟩, ?_⟩, hel⟩, h.paddingLe⟩, by omega⟩
  · rw [hx]
    omega
  · rw [hp]
    omega
  · rw [← not_iff_not]
    exact f₂.trans (by omega)
  · rw [← not_iff_not]
    exact f₃.trans (by omega)

theorem rtpExtrasBody_eq (c : RtpContext) : rtpExtrasBody c = extrasFlags c :: (c.vpxcc &&& 0x0F) ::
    (be16 (UInt16.ofNat c.extensionLen) ++ (UInt8.ofNat c.paddingLen :: (stored c.csrcList c.csrcListLen ++
      (stored c.extensionBytes c.extensionLen ++ (stored c.paddingBytes c.paddingLen ++ []))))) := by
  simp [rtpExtrasBody, extrasFlags]

/-- **An extras list is read back**. -/
theorem reads_readRtpExtrasList {c : RtpContext} {bodyLen : Nat} (h : ExtrasOk c bodyLen) (d : Context)
    (hv : d.rtp.vpxcc = c.vpxcc) (front : Bytes) :
    Reads readRtpExtrasList front (rtpExtrasOctets c bodyLen) d () (d.withRtp (copyExtras c)) := by
  unfold rtpExtrasOctets readRtpExtrasList
  refine .update ?_
  by_cases h0 : bodyLen = 0
  · rw [if_pos h0]
    refine .available (by simp) (.u8 (.ite_pos (by decide) (.update_last_eq ?_)))
    have hb := h.bodyLen_eq
    rw [h0] at hb
    split at hb
    · rename_i hz
      obtain ⟨z₁, z₂, z₃⟩ := hz
      have hc := h.csrcLen
      have p₁ : c.vpxcc &&& 0x0F = 0 := by
        apply UInt8.toNat_inj.mp
        change (c.vpxcc &&& 0x0F).toNat = 0
        omega
      have p₂ : c.vpxcc &&& 0x10 = 0 := by
        by_contra hx
        exact h.extension.mp hx z₂
      have p₃ : c.vpxcc &&& 0x20 = 0 := by
        by_contra hx
        exact h.padding.mp hx z₃
      have hplain := vpxcc_plain p₁ p₂ p₃
      simp only [Context.withRtp, RtpContext.clearExtras, copyExtras, z₁, z₂, z₃, stored_zero, fillCopy_nil, hv, hplain]
    · omega
  · rw [if_neg h0]
    have hel := extensionLen_le h.extensionValid
    have hpl := h.paddingLe
    have hc := h.csrcLen
    have hbl : bodyLen ≤ Cid.largeCidMax := by
      have hb := h.bodyLen_eq
      have := h.csrcLe
      split at hb <;> unfold Cid.largeCidMax <;> omega
    have h5 : 5 ≤ bodyLen := by
      have hb := h.bodyLen_eq
      split at hb <;> omega
    obtain ⟨hflags, hok⟩ := rtpExtrasHeaderOk_of h h0
    have hbody := length_rtpExtrasBody h h0
    have hext : (UInt16.ofNat c.extensionLen).toNat = c.extensionLen := by
      simp only [UInt16.toNat_ofNat', Nat.reducePow]
      omega
    have hpad : (UInt8.ofNat c.paddingLen).toNat = c.paddingLen := by
      simp only [UInt8.toNat_ofNat', Nat.reducePow]
      omega
    simp only [List.cons_append, List.nil_append]
    refine .available (by simp) (.u8 (.ite_neg (by decide) (.require (fun _ => by decide) ?_)))
    refine .scan (b := (bodyLen, Cid.encodedLen bodyLen)) (fun rest => ?_) ?_
    · rw [List.append_assoc]
      exact Cid.readLarge_largeOctets hbl _
    refine .require (fun _ => by simpa using h5) (.take (Cid.length_largeOctets bodyLen) ?_)
    refine .need (Nat.le_of_eq hbody.symm) ?_
    rw [rtpExtrasBody_eq]
    refine .u8 (.require (fun _ => by simpa using hflags) (.u8 (.u16 (.u8 (.value ?_)))))
    rw [hext, hpad]
    refine .require (fun _ => ?_) ?_
    · change rtpExtrasHeaderOk d.rtp.vpxcc _ _ _ _ _ = true
      rw [hv]
      exact hok
    rw [← hc]
    refine .take (length_stored _ h.csrcLe) (.take (length_stored _ hel) (.take (length_stored _ hpl) ?_))
    refine .update (.value ?_)
    have hfinal : rtpExtrasBodyLen (copyExtras c d.rtp) = some bodyLen :=
      (rtpExtrasBodyLen_iff _ _).mpr (extrasOk_copyExtras h d.rtp hv)
    intro rest
    rw [List.append_nil]
    change Proc.require (decide (rtpExtrasBodyLen (copyExtras c d.rtp) = some bodyLen)) _ = _
    simp only [hfinal, decide_true, Proc.require_true]
    rfl

end Rohccxx
