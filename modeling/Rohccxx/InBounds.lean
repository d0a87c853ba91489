import Rohccxx.Lib.Checked
import Rohccxx.OptionWords

/-!
# No decoder reads out of bounds

Every decoder of IR, IR-DYN and private units has the room it needs for each of its reads, for every octet string and every
context: its own checks establish it, or the length that the CRC of an IR-DYN was taken over. The parsers that work by
index are written once more with checked reads, and equal the plain ones.
-/

set_option autoImplicit false

namespace Rohccxx

open Octets Reader

/-! ## IR units -/

section Room

variable {bs : Bytes} {k : Nat}

/-- A large CID takes no more than there is. -/
theorem readLarge_le {p : Bytes} {r : Nat × Nat} (h : Cid.readLarge p = some r) : r.2 ≤ p.length := by
  unfold Cid.readLarge at h
  split at h
  · cases h
  · split at h
    · cases h
      simp
    · split at h
      · split at h
        · cases h
        · dsimp only at h
          split at h
          · cases h
          · cases h
            simp
      · cases h

theorem room_readLargeCidIfPresent (ctx : Context) : Room bs 0 (fun _ => 0) (readLargeCidIfPresent bs ctx) :=
  .ite (fun _ => .pure) fun _ => .bind .available fun _ =>
    .bind ((Room.scan fun _ _ => readLarge_le).mono (Nat.zero_le 1) fun _ => Nat.le_refl _) fun _ =>
      .bind .require fun _ => .bind .take_all fun _ => .pure

/-- The large CID takes the octets that the CID of the context takes. -/
theorem room_readLargeCid_context (ctx : Context) :
    Room bs (k + if ctx.largeCid then Cid.encodedLen ctx.cid else 0) (fun _ => k) (readLargeCidIfPresent bs ctx) := by
  unfold readLargeCidIfPresent
  cases ctx.largeCid with
  | false => exact .pure
  | true =>
    refine .bind .available_keep fun _ => Safe.scan_bind (fun c hc => by omega) fun p r hr => Safe.require_bind fun hcid => ?_
    rw [decide_eq_true_eq] at hcid
    have hlen := readLarge_encodedLen hr
    rw [hcid] at hlen
    rw [if_pos rfl, ← hlen]
    exact Room.bind .take fun _ => .pure

theorem room_readLegacyMode : Room bs 0 (fun _ => 1) (readLegacyMode bs) :=
  .bind .available fun _ => .bind .peek fun _ => .bind .require fun _ => .bind .require fun _ => .update

theorem room_legacyIrTail (crc : Nat × UInt8) : Room bs 0 (fun _ => 0) (legacyIrTail bs crc) :=
  .bind .pos fun _ => .bind .require fun _ => .bind room_readLegacyMode fun _ => .bind .u8 fun _ => .pure

/-- The head of a legacy IR, from the start of the unit. -/
theorem safe_legacyIrHead (minLen : Nat) (profileId : UInt8) :
    Safe (fun c => c.pos = 0) (legacyIrHead bs minLen profileId) fun _ c => c.pos + 0 ≤ bs.length := by
  refine .value_bind fun ctx => .require_bind fun _ => ?_
  have hadd : Safe (fun c => c.pos = 0) (readAddCid bs ctx minLen) fun _ c => c.pos + 0 ≤ bs.length := by
    unfold readAddCid
    split
    · refine .require_bind fun h => ?_
      rw [decide_eq_true_eq] at h
      exact Room.at_start (.bind (Room.u8 (k := 0)) fun _ => .require) (by omega)
    · exact Room.at_start .pure (Nat.zero_le _)
  have hrest : Room bs 0 (fun _ => 0) (do
      available bs 1
      let packetType ← u8 bs
      Proc.require (packetType &&& 0xFE = 0xFC)
      readLargeCidIfPresent bs ctx
      available bs 2
      let profile ← u8 bs
      Proc.require (profile = profileId)
      let receivedCrc ← u8 bs
      return ((if (!ctx.largeCid && decide (ctx.cid > 0)) = true then 3
        else if ctx.largeCid then 2 + Cid.encodedLen ctx.cid else 2, receivedCrc) : Nat × UInt8)) :=
    .bind .available fun _ => .bind .u8 fun _ => .bind .require fun _ => .bind (room_readLargeCidIfPresent ctx) fun _ =>
      .bind .available fun _ => .bind .u8 fun _ => .bind .require fun _ => .bind .u8 fun _ => .pure
  exact .bind hadd fun _ => hrest

theorem room_readIpStaticChain : Room bs k (fun _ => 0) (readIpStaticChain bs) := by
  refine .bind .available fun _ => .bind .u8 fun _ => .ite (fun _ => ?_) fun _ => .ite (fun _ => ?_) fun _ => .reject
  · exact .bind .update fun _ => .bind .available fun _ => .bind .u8 fun _ => .bind .update fun _ => .bind .need fun _ =>
      .bind .u32 fun _ => .bind .u32 fun _ => .update
  · exact .bind .update fun _ => .bind .need fun _ => .bind (Room.u8 (k := 32)) fun _ =>
      .bind (Room.take (k := 16) (n := 16)) fun _ => .bind .take_all fun _ => .update

theorem room_readIpv4OptionsList : Room bs k (fun _ => 0) (readIpv4OptionsList bs) :=
  .bind .available fun _ => .bind .u8 fun _ => .bind .update fun _ => .ite (fun _ => .pure) fun _ =>
    .bind .require fun _ => .bind .require fun _ => .bind .need fun _ => .bind .take_all fun _ => .update

theorem room_readIpv6ExtensionsList : Room bs k (fun _ => 0) (readIpv6ExtensionsList bs) :=
  .bind .available fun _ => .bind .u8 fun _ => .bind .update fun _ => .ite (fun _ => .pure) fun _ =>
    .bind .require fun _ => .bind .require fun _ => .bind .need fun _ => .bind .take_all fun _ => .update

theorem room_readIpDynamicChain : Room bs k (fun _ => 0) (readIpDynamicChain bs) := by
  refine .bind .value fun _ => .ite (fun _ => ?_) fun _ => ?_
  · exact .bind .need fun _ => .bind .u8 fun _ => .bind .u8 fun _ => .bind .u8 fun _ => .bind .u8 fun _ =>
      .bind .u8 fun _ => .bind .u8 fun _ => .bind .update fun _ => room_readIpv6ExtensionsList
  · exact .bind .need fun _ => .bind .u8 fun _ => .bind .u8 fun _ => .bind .u16 fun _ => .bind .u8 fun _ =>
      .bind .update fun _ => room_readIpv4OptionsList

theorem room_readLegacyIpDynamicConsistent : Room bs k (fun _ => 0) (readLegacyIpDynamicConsistent bs) :=
  .bind .value fun _ => .bind room_readIpDynamicChain fun _ => .bind .value fun _ => .require

theorem room_readUdpPorts : Room bs (k + 4) (fun _ => k) (readUdpPorts bs) :=
  .bind (Room.u16 (k := k + 2)) fun _ => .bind .u16 fun _ => .update

/-- The parts of the list body, which fill it up. -/
theorem room_readExtras (bodyLen : Nat) (hbody : 5 ≤ bodyLen) : Room bs bodyLen (fun _ => 0) (do
    let flags ← u8 bs
    Proc.require (flags &&& ~~~0x07 = 0)
    let csrcCount ← u8 bs
    let extensionLen ← u16 bs
    let paddingLen ← u8 bs
    let ctx ← value
    Proc.require (rtpExtrasHeaderOk ctx.rtp.vpxcc flags csrcCount extensionLen.toNat paddingLen.toNat bodyLen)
    let csrcList ← take bs (csrcCount.toNat * 4)
    let extensionBytes ← take bs extensionLen.toNat
    let paddingBytes ← take bs paddingLen.toNat
    update fun ctx => ctx.withRtp fun rtp =>
      { rtp with
        csrcListLen := csrcCount.toNat * 4, csrcList := fillCopy 60 csrcList
        extensionLen := extensionLen.toNat, extensionBytes := fillCopy 256 extensionBytes
        paddingLen := paddingLen.toNat, paddingBytes := fillCopy 255 paddingBytes }
    let ctx ← value
    Proc.require (rtpExtrasBodyLen ctx.rtp = some bodyLen) : Proc (Cursor Context) Unit) := by
  obtain ⟨n, rfl⟩ := Nat.exists_eq_add_of_le' hbody
  refine .bind (Room.u8 (k := n + 4)) fun flags => .bind .require fun _ => .bind (Room.u8 (k := n + 3)) fun csrcCount =>
    .bind (Room.u16 (k := n + 1)) fun extensionLen => .bind (Room.u8 (k := n)) fun paddingLen =>
      .bind .value fun ctx => Safe.require_bind fun h => ?_
  have hlen : n = paddingLen.toNat + extensionLen.toNat + csrcCount.toNat * 4 := by
    simp only [rtpExtrasHeaderOk, Bool.and_eq_true, decide_eq_true_eq] at h
    omega
  rw [hlen]
  exact Room.bind .take fun _ => .bind .take fun _ => .bind .take_all fun _ => .bind .update fun _ =>
    .bind .value fun _ => .require

/-- The extras list: its length and its body. -/
theorem room_readRtpExtrasList : Room bs k (fun _ => 0) (readRtpExtrasList bs) := by
  refine .bind .update fun _ => .bind .available fun _ => .bind .u8 fun _ => .ite (fun _ => .update) fun _ => ?_
  refine .bind .require fun _ => .bind (Room.scan fun _ _ => readLarge_le) fun r => Safe.require_bind fun h => ?_
  rw [decide_eq_true_eq] at h
  exact Room.bind .take_all fun _ => .bind .need fun _ => room_readExtras r.1 h

theorem room_readRtpDynamicChain : Room bs 8 (fun _ => 0) (readRtpDynamicChain bs) :=
  .bind .u8 fun _ => .bind .u8 fun _ => .bind .u16 fun _ => .bind .u32 fun _ => .bind .update fun _ =>
    room_readRtpExtrasList

theorem room_readStandardIpStatic : Room bs k (fun _ => 0) (readStandardIpStatic bs) := by
  refine .bind .available fun _ => .bind .u8 fun _ => .bind .require fun _ => .ite (fun _ => ?_) fun _ => ?_
  · exact .bind .require fun _ => .bind .need fun _ => .bind (Room.u8 (k := 8)) fun _ => .bind (Room.u32 (k := 4)) fun _ =>
      .bind .u32 fun _ => .update
  · exact .bind .require fun _ => .bind .need fun _ => .bind (Room.u8 (k := 32)) fun _ =>
      .bind (Room.take (k := 16) (n := 16)) fun _ => .bind .take_all fun _ => .update

theorem room_readStandardIpv6Dynamic (endpoint : Bool) : Room bs k (fun _ => 0) (readStandardIpv6Dynamic bs endpoint) := by
  unfold readStandardIpv6Dynamic
  cases endpoint with
  | true =>
    exact .bind .need fun _ => .bind (Room.u8 (k := 4)) fun _ => .bind (Room.u8 (k := 3)) fun _ => .bind .update fun _ =>
      .bind .u8 fun _ => .bind .require fun _ => .bind .u16 fun _ => .update
  | false =>
    exact .bind .need fun _ => .bind (Room.u8 (k := 1)) fun _ => .bind .u8 fun _ => .bind .update fun _ => .pure

theorem room_readStandardIpv4Id (behavior : UInt8) : Room bs 0 (fun _ => 0) (readStandardIpv4Id bs behavior) :=
  .ite (fun _ => .bind .need fun _ => .bind .u16 fun _ => .update) fun _ => .update

theorem room_readStandardIpv4Dynamic (endpoint : Bool) : Room bs k (fun _ => 0) (readStandardIpv4Dynamic bs endpoint) := by
  refine .bind .need fun _ => .bind (Room.u8 (k := 2)) fun _ => .bind .require fun _ => .bind .update fun _ =>
    .bind (Room.u8 (k := 1)) fun _ => .bind .u8 fun _ => .bind .update fun _ => .bind (room_readStandardIpv4Id _) fun _ =>
      .ite (fun _ => ?_) fun _ => .pure
  exact .bind .need fun _ => .bind .u16 fun _ => .update

theorem room_readStandardIpDynamic (endpoint : Bool) : Room bs k (fun _ => 0) (readStandardIpDynamic bs endpoint) :=
  .bind .value fun _ => .ite (fun _ => room_readStandardIpv6Dynamic endpoint) fun _ =>
    room_readStandardIpv4Dynamic endpoint

theorem room_readStandardIrPrefix (expected : Context) (profileId : UInt8) :
    Room bs 0 (fun _ => 0) (readStandardIrPrefix bs expected profileId) := by
  have hadd : Room bs 0 (fun _ => 0) (readStandardAddCid bs expected) :=
    .ite (fun _ => .bind .available fun _ => .bind .u8 fun _ => .require) fun _ => .pure
  have hlarge : Room bs 0 (fun _ => 0) (readStandardLargeCid bs expected) :=
    .ite (fun _ => .bind (Room.scan fun _ _ => readLarge_le) fun _ => .bind .require fun _ => .bind .take_all fun _ =>
      .pure) fun _ => .pure
  exact .bind hadd fun _ => .bind .available fun _ => .bind .u8 fun _ => .bind .require fun _ => .bind hlarge fun _ =>
    .bind .need fun _ => .bind (Room.u8 (k := 1)) fun _ => .bind .require fun _ => .bind .pos fun _ => .bind .u8 fun _ =>
      .pure

theorem room_readStandardTransportStatic (profile : Profile) :
    Room bs 0 (fun _ => 0) (readStandardTransportStatic bs profile) := by
  cases profile with
  | udp => exact .bind .need fun _ => .bind room_readUdpPorts fun _ => .update
  | rtp =>
    exact .bind .need fun _ => .bind room_readUdpPorts fun _ => .bind .update fun _ => .bind .need fun _ =>
      .bind .u32 fun _ => .update
  | esp => exact .bind .need fun _ => .bind .u32 fun _ => .update
  | _ => exact .pure

theorem room_readStandardTransportDynamic (previous : Context) (profile : Profile) :
    Room bs 0 (fun _ => 0) (readStandardTransportDynamic bs previous profile) := by
  cases profile with
  | udp =>
    exact .bind .need fun _ => .bind (Room.u16 (k := 3)) fun _ => .bind (Room.u16 (k := 1)) fun _ => .bind .update fun _ =>
      .bind .u8 fun _ => .bind .require fun _ => .update
  | rtp =>
    exact .bind .need fun _ => .bind (Room.u16 (k := 8)) fun _ => .bind .update fun _ => .bind (Room.u8 (k := 7)) fun _ =>
      .bind .require fun _ => .bind (Room.u8 (k := 6)) fun _ => .bind (Room.u16 (k := 4)) fun _ => .bind .u32 fun _ =>
        .update
  | esp =>
    exact .bind .need fun _ => .bind (Room.u32 (k := 1)) fun _ => .bind .update fun _ => .bind .u8 fun _ =>
      .bind .require fun _ => .update
  | _ => exact .pure

end Room

/-! ### The decoders -/

/-- From the start of the unit the decoder does not fault, and what it consumes is within the unit. -/
def InBounds {α : Type} (bs : Bytes) (m : Proc (Cursor Context) α) : Prop :=
  Safe (fun c => c.pos = 0) m fun _ c => c.pos ≤ bs.length

theorem InBounds.ne_fault {α : Type} {bs : Bytes} {m : Proc (Cursor Context) α} (h : InBounds bs m) (ctx : Context) :
    (m ⟨0, ctx⟩).1 ≠ .fault := (h _ rfl).1

theorem InBounds.reject {α : Type} {bs : Bytes} : InBounds bs (Proc.reject : Proc (Cursor Context) α) :=
  @Room.at_start _ _ bs 0 (fun _ => 0) _ Room.reject (Nat.zero_le _)

theorem inBounds_decodeIrStandard (profile : Profile) (profileId : UInt8) (bs : Bytes) :
    InBounds bs (decodeIrStandard profile profileId bs) :=
  .value_bind fun previous => Room.at_start (.bind (room_readStandardIrPrefix previous profileId) fun _ =>
    .bind room_readStandardIpStatic fun _ => .bind .value fun _ => .bind .require fun _ => .bind .update fun _ =>
      .bind (room_readStandardTransportStatic profile) fun _ => .bind (room_readStandardIpDynamic _) fun _ =>
        .bind (room_readStandardTransportDynamic previous profile) fun _ => .bind .pos fun _ => .bind .require fun _ =>
          .update) (Nat.zero_le _)

theorem inBounds_decodeIrEspLegacy (bs : Bytes) : InBounds bs (decodeIrEspLegacy bs) :=
  .bind (safe_legacyIrHead 20 0x03) fun crc => Room.bind room_readIpStaticChain fun _ =>
    .bind room_readLegacyIpDynamicConsistent fun _ => .bind .value fun _ => .bind .require fun _ =>
      .bind (room_legacyIrTail crc) fun _ => .update

theorem inBounds_decodeIrIpLegacy (bs : Bytes) : InBounds bs (decodeIrIpLegacy bs) :=
  .bind (safe_legacyIrHead 20 0x04) fun crc => Room.bind room_readIpStaticChain fun _ =>
    .bind room_readLegacyIpDynamicConsistent fun _ => .bind .available fun _ =>
      .bind (room_legacyIrTail crc).forget fun _ => .update

theorem inBounds_decodeIrUdpLegacy (bs : Bytes) : InBounds bs (decodeIrUdpLegacy bs) :=
  .bind (safe_legacyIrHead 26 0x02) fun crc => Room.bind room_readIpStaticChain fun _ => .bind .available fun _ =>
    .bind room_readUdpPorts fun _ => .bind room_readLegacyIpDynamicConsistent fun _ => .bind .value fun _ =>
      .bind .require fun _ => .bind .available fun _ => .bind .u16 fun _ => .bind .update fun _ =>
        .bind .available fun _ => .bind (room_legacyIrTail crc).forget fun _ => .update

theorem inBounds_decodeIrUdpLiteLegacy (bs : Bytes) : InBounds bs (decodeIrUdpLiteLegacy bs) :=
  .bind (safe_legacyIrHead 28 0x08) fun crc => Room.bind room_readIpStaticChain fun _ => .bind .available fun _ =>
    .bind room_readUdpPorts fun _ => .bind room_readLegacyIpDynamicConsistent fun _ => .bind .value fun _ =>
      .bind .require fun _ => .bind .available fun _ => .bind (Room.u16 (k := 2)) fun _ => .bind .u16 fun _ =>
        .bind .update fun _ => .bind .available fun _ => .bind (room_legacyIrTail crc).forget fun _ => .update

theorem inBounds_decodeIrRtpLegacy (bs : Bytes) : InBounds bs (decodeIrRtpLegacy bs) :=
  .bind (safe_legacyIrHead 4 0x01) fun crc => Room.bind room_readIpStaticChain fun _ => .bind .available fun _ =>
    .bind (room_readUdpPorts (k := 4)) fun _ => .bind .u32 fun _ => .bind .update fun _ =>
      .bind room_readLegacyIpDynamicConsistent fun _ => .bind .value fun _ => .bind .require fun _ =>
        .bind (Room.available (n := 12)) fun _ => .bind (Room.u16 (k := 10)) fun _ => .bind .update fun _ =>
          .bind (room_readRtpDynamicChain.mono (by decide) fun _ => Nat.le_refl _) fun _ => .bind .available fun _ =>
            .bind (room_legacyIrTail crc).forget fun _ => .update

theorem inBounds_decodeIrRtpUdpLiteLegacy (bs : Bytes) : InBounds bs (decodeIrRtpUdpLiteLegacy bs) :=
  .bind (safe_legacyIrHead 41 0x07) fun crc => Room.bind room_readIpStaticChain fun _ => .bind .available fun _ =>
    .bind (room_readUdpPorts (k := 4)) fun _ => .bind .u32 fun _ => .bind .update fun _ =>
      .bind room_readLegacyIpDynamicConsistent fun _ => .bind .value fun _ => .bind .require fun _ =>
        .bind (Room.available (n := 12)) fun _ => .bind (Room.u16 (k := 10)) fun _ => .bind (Room.u16 (k := 8)) fun _ =>
          .bind .update fun _ => .bind room_readRtpDynamicChain fun _ => .bind .available fun _ =>
            .bind (room_legacyIrTail crc).forget fun _ => .update

/-! ## IR-DYN units -/

section IrDyn

variable {bs : Bytes} {k : Nat} {c c' : Cursor Context} {u : Unit}

theorem getElem?_of_u8_eq_ok {marker : UInt8} {c : Cursor Context} (h : u8 bs c = (.ok marker, c')) :
    bs[c.pos]? = some marker := by
  unfold u8 at h
  split at h
  · cases h
    assumption
  · cases h

theorem ipv4OptionsExtraLen_eq {p n : Nat} {marker : UInt8} (hm : bs[p]? = some marker)
    (hx : ipv4OptionsExtraLen bs p = some n) : n = if isEmptyList marker then 0 else (marker &&& 0x3F).toNat := by
  unfold ipv4OptionsExtraLen at hx
  rw [hm, Option.bind_eq_bind, Option.bind_some] at hx
  split at hx
  · cases hx
    rw [if_pos ‹_›]
  · rw [if_neg ‹_›]
    split at hx
    · cases hx
    · dsimp only at hx
      split at hx
      · cases hx
        rfl
      · cases hx

/-- What `ipv4_options_extra_len` measures is what the reader of the list takes. -/
theorem readIpv4OptionsList_pos {n : Nat} (hx : ipv4OptionsExtraLen bs c.pos = some n)
    (h : readIpv4OptionsList bs c = (.ok u, c')) : c'.pos = c.pos + (1 + n) := by
  obtain ⟨_, c₁, h₁, h⟩ := Proc.bind_eq_ok h
  obtain ⟨marker, c₂, h₂, h⟩ := Proc.bind_eq_ok h
  have hmarker := getElem?_of_u8_eq_ok h₂
  have hp₂ := Moves.u8 _ _ _ h₂
  rw [Moves.available _ _ _ h₁, Nat.add_zero] at hmarker hp₂
  obtain ⟨_, c₃, h₃, h⟩ := Proc.bind_eq_ok h
  have hp₃ := Moves.update _ _ _ h₃
  rw [ipv4OptionsExtraLen_eq hmarker hx]
  by_cases hempty : isEmptyList marker = true
  · rw [if_pos hempty] at h ⊢
    rw [Moves.pure _ _ _ h]
    omega
  · rw [if_neg hempty] at h ⊢
    rw [Moves.stay .require (fun _ => .stay .require fun _ => .stay .need fun _ => .bind .take fun _ => .update)
      _ _ _ h]
    omega

theorem ipv6ExtraLen_eq {p n : Nat} {ctx : Context} {marker : UInt8} (hv : ctx.ipVersion = 6)
    (hm : bs[p + 6]? = some marker) (hx : ipDynamicExtraLen bs p ctx = some n) :
    n = if isEmptyList marker then 0 else (marker &&& 0x7F).toNat := by
  unfold ipDynamicExtraLen at hx
  rw [if_pos hv] at hx
  dsimp only at hx
  rw [hm, Option.bind_eq_bind, Option.bind_some] at hx
  split at hx
  · cases hx
    rw [if_pos ‹_›]
  · rw [if_neg ‹_›]
    split at hx
    · cases hx
    · split at hx
      · cases hx
        rfl
      · cases hx

theorem readIpv6ExtensionsList_pos {p n : Nat} {ctx : Context} (hv : ctx.ipVersion = 6) (hp : c.pos = p + 6)
    (hx : ipDynamicExtraLen bs p ctx = some n) (h : readIpv6ExtensionsList bs c = (.ok u, c')) :
    c'.pos = c.pos + (1 + n) := by
  obtain ⟨_, c₁, h₁, h⟩ := Proc.bind_eq_ok h
  obtain ⟨marker, c₂, h₂, h⟩ := Proc.bind_eq_ok h
  have hmarker := getElem?_of_u8_eq_ok h₂
  have hp₂ := Moves.u8 _ _ _ h₂
  rw [Moves.available _ _ _ h₁, Nat.add_zero] at hmarker hp₂
  rw [hp] at hmarker
  rw [ipv6ExtraLen_eq hv hmarker hx]
  obtain ⟨_, c₃, h₃, h⟩ := Proc.bind_eq_ok h
  have hp₃ := Moves.update _ _ _ h₃
  by_cases hempty : isEmptyList marker = true
  · rw [if_pos hempty] at h ⊢
    rw [Moves.pure _ _ _ h]
    omega
  · rw [if_neg hempty] at h ⊢
    rw [Moves.stay .require (fun _ => .stay .require fun _ => .stay .need fun _ => .bind .take fun _ => .update)
      _ _ _ h]
    omega

/-- The dynamic chain of the IP header takes its fixed octets, the marker and what the marker announces. -/
theorem readLegacyIpDynamicConsistent_pos {n : Nat} (hx : ipDynamicExtraLen bs c.pos c.st = some n)
    (h : readLegacyIpDynamicConsistent bs c = (.ok u, c')) :
    c'.pos = c.pos + ((if c.st.ipVersion = 6 then 7 else 6) + n) := by
  obtain ⟨before, c₁, h₁, h⟩ := Proc.bind_eq_ok h
  cases h₁
  obtain ⟨_, c₂, h₂, h⟩ := Proc.bind_eq_ok h
  rw [(Moves.stay .value fun _ => .require) _ _ _ h, Nat.add_zero]
  obtain ⟨ctx, c₃, h₃, h₂⟩ := Proc.bind_eq_ok h₂
  cases h₃
  by_cases hv : c.st.ipVersion = 6
  · rw [if_pos hv] at h₂ ⊢
    obtain ⟨_, c₄, h₄, h₂⟩ := Proc.bind_eq_ok h₂
    obtain ⟨_, c₅, h₅, h₂⟩ := Proc.bind_eq_ok h₂
    obtain ⟨_, c₆, h₆, h₂⟩ := Proc.bind_eq_ok h₂
    obtain ⟨_, c₇, h₇, h₂⟩ := Proc.bind_eq_ok h₂
    obtain ⟨_, c₈, h₈, h₂⟩ := Proc.bind_eq_ok h₂
    obtain ⟨_, c₉, h₉, h₂⟩ := Proc.bind_eq_ok h₂
    obtain ⟨_, c₁₀, h₁₀, h₂⟩ := Proc.bind_eq_ok h₂
    obtain ⟨_, c₁₁, h₁₁, h₂⟩ := Proc.bind_eq_ok h₂
    have hp : c₁₁.pos = c.pos + 6 := by
      rw [Moves.update _ _ _ h₁₁, Moves.u8 _ _ _ h₁₀, Moves.u8 _ _ _ h₉, Moves.u8 _ _ _ h₈, Moves.u8 _ _ _ h₇,
        Moves.u8 _ _ _ h₆, Moves.u8 _ _ _ h₅, Moves.need _ _ _ h₄]
    rw [readIpv6ExtensionsList_pos hv hp hx h₂, hp]
    omega
  · rw [if_neg hv] at h₂ ⊢
    obtain ⟨_, c₄, h₄, h₂⟩ := Proc.bind_eq_ok h₂
    obtain ⟨_, c₅, h₅, h₂⟩ := Proc.bind_eq_ok h₂
    obtain ⟨_, c₆, h₆, h₂⟩ := Proc.bind_eq_ok h₂
    obtain ⟨_, c₇, h₇, h₂⟩ := Proc.bind_eq_ok h₂
    obtain ⟨_, c₈, h₈, h₂⟩ := Proc.bind_eq_ok h₂
    obtain ⟨_, c₉, h₉, h₂⟩ := Proc.bind_eq_ok h₂
    have hp : c₉.pos = c.pos + 5 := by
      rw [Moves.update _ _ _ h₉, Moves.u8 _ _ _ h₈, Moves.u16 _ _ _ h₇, Moves.u8 _ _ _ h₆, Moves.u8 _ _ _ h₅,
        Moves.need _ _ _ h₄]
    unfold ipDynamicExtraLen at hx
    rw [if_neg hv, ← hp] at hx
    rw [readIpv4OptionsList_pos hx h₂, hp]
    omega

/-- In front of a dynamic chain that is measured and fits, with `k` octets more, into the first `len` octets. -/
def AtDynamic (bs : Bytes) (len k : Nat) (c : Cursor Context) : Prop :=
  ∃ n, ipDynamicExtraLen bs c.pos c.st = some n ∧ c.pos + ((if c.st.ipVersion = 6 then 7 else 6) + n) + k ≤ len

/-- Behind the head of an IR-DYN. -/
def BehindHead (bs : Bytes) (c : Cursor Context) : Prop := c.pos = cidOctets c.st + 3 ∧ c.pos ≤ bs.length

theorem safe_irDynHead {ctx : Context} {minLen : Nat} {profileId : UInt8}
    (hmin : 5 + (if hasSmallCid ctx then 1 else 0) ≤ minLen) :
    Safe (fun c => c.pos = 0 ∧ c.st = ctx) (irDynHead bs minLen profileId) fun _ => BehindHead bs := by
  have hroom : Safe (fun c => c.pos = 0 ∧ c.st = ctx) (irDynHead bs minLen profileId) fun _ c =>
      c.pos + 0 ≤ bs.length := by
    rintro c ⟨hp, rfl⟩
    refine Safe.require_bind (P := fun c => c.pos = 0) (fun hlen => ?_) c hp
    rw [decide_eq_true_eq] at hlen
    have hadd : Room bs (5 + if hasSmallCid c.st then 1 else 0) (fun _ => 5) (irDynAddCid bs c.st) := by
      unfold irDynAddCid
      split
      · exact .bind .u8 fun _ => .require
      · exact .pure
    have hcid : Room bs 4 (fun _ => 2) (readLargeCidIfPresent bs c.st) := by
      refine (room_readLargeCid_context (k := 2) c.st).mono ?_ fun _ => Nat.le_refl _
      have := Cid.encodedLen_le c.st.cid
      split <;> omega
    exact Room.at_start (.bind hadd fun _ => .bind .u8 fun _ => .bind .require fun _ => .bind hcid fun _ =>
      .bind (Room.u8 (k := 1)) fun _ => .bind .require fun _ => .u8) (by omega)
  refine (hroom.and fun c a c' hc h => ?_).mono (fun _ hc => hc) fun _ _ hc => ⟨hc.2, hc.1⟩
  have hst := (Prod.mk.inj (keeps_irDynHead bs minLen profileId _ _ _ h)).1
  rw [irDynHead_moves h, hc.1, Nat.zero_add, cidOctets, cidOctets, hasSmallCid, hasSmallCid, hst]

/-- The CRC is taken over octets that are there. -/
theorem crc8ExactMatches_le {n i : Nat} {crc : UInt8} (h : crc8ExactMatches bs n i crc = true) : n ≤ bs.length := by
  unfold crc8ExactMatches at h
  split at h
  · cases h
  · omega

theorem safe_irDynCheck {n : Nat} (hn : 9 ≤ n) (crc : UInt8) :
    Safe (BehindHead bs) (irDynCheck bs n crc) fun len c => len ≤ bs.length ∧ AtDynamic bs len (n - 9) c := by
  refine .value_bind_eq fun ctx => .pos_bind_eq fun p => .scan_bind (fun c hc => hc.1.1.2) fun _ extra hx =>
    .require_bind fun hcrc => .pure ?_
  rintro c ⟨⟨⟨hp, -⟩, rfl⟩, rfl⟩
  refine ⟨crc8ExactMatches_le hcrc, extra, hx, ?_⟩
  split <;> omega

theorem safe_irDynRtpCheck {n udpLen : Nat} (hn : 9 ≤ n) (crc : UInt8) :
    Safe (BehindHead bs) (irDynRtpCheck bs n udpLen crc) fun len c => len ≤ bs.length ∧ AtDynamic bs len (n - 9) c := by
  refine .value_bind_eq fun ctx => .pos_bind_eq fun p => .scan_bind (fun c hc => hc.1.1.2) fun _ extra hx =>
    .scan_bind (fun c hc => hc.1.1.2) fun _ rtpExtra _ => .require_bind fun hcrc => .pure ?_
  rintro c ⟨⟨⟨hp, -⟩, rfl⟩, rfl⟩
  refine ⟨crc8ExactMatches_le hcrc, extra, hx, ?_⟩
  split <;> omega

/-- Head, check and chains of an IR-DYN: what comes behind the IP chain has `k` octets. -/
theorem inBounds_irDyn {ctx : Context} {minLen : Nat} {profileId : UInt8} {check : UInt8 → Proc (Cursor Context) Nat}
    {f : Nat → Proc (Cursor Context) Nat} (hmin : 5 + (if hasSmallCid ctx then 1 else 0) ≤ minLen)
    (hcheck : ∀ crc, Safe (BehindHead bs) (check crc) fun len c => len ≤ bs.length ∧ AtDynamic bs len k c)
    (hf : ∀ len, (bs.take len).length ≤ bs.length → Room (bs.take len) k (fun _ => 0) (f len)) :
    Safe (fun c => c.pos = 0 ∧ c.st = ctx) (do
      let crc ← irDynHead bs minLen profileId
      let len ← check crc
      readLegacyIpDynamicConsistent bs
      f len) fun _ c => c.pos ≤ bs.length := by
  refine .bind (safe_irDynHead hmin) fun crc => .bind (hcheck crc) fun len => ?_
  have hroom : Safe (fun c => len ≤ bs.length ∧ AtDynamic bs len k c) (readLegacyIpDynamicConsistent bs) fun _ c =>
      len ≤ bs.length ∧ c.pos + k ≤ (bs.take len).length := by
    rintro c ⟨hlen, n, hx, hle⟩
    refine ⟨(room_readLegacyIpDynamicConsistent (k := 0) c (by omega)).1, fun u c' h => ?_⟩
    refine ⟨hlen, ?_⟩
    rw [readLegacyIpDynamicConsistent_pos hx h, List.length_take_of_le hlen]
    exact hle
  have hlen : (bs.take len).length ≤ bs.length := by
    rw [List.length_take]
    exact Nat.min_le_right _ _
  exact .bind hroom fun _ => Safe.mono (hf len hlen) (fun _ hc => hc.2) fun _ _ hc => Nat.le_trans hc hlen

theorem room_readIrDynRtp (previous : Context) {len : Nat} (hlen : (bs.take len).length ≤ bs.length) :
    Room (bs.take len) 8 (fun _ => 0) (readIrDynRtp bs previous len) :=
  .bind (Room.u8_of_le hlen) fun _ => .bind (Room.u8_of_le hlen) fun _ => .bind .update fun _ =>
    .bind (Room.u16_of_le hlen) fun _ => .bind (Room.u32_of_le hlen) fun _ => .bind .update fun _ =>
      .bind room_readRtpExtrasList fun _ => .bind .pos fun _ => .require

theorem inBounds_decodeIrDynEsp (bs : Bytes) : InBounds bs (decodeIrDynEsp bs) :=
  .value_bind_eq fun _ => inBounds_irDyn (by omega) (safe_irDynCheck (by decide)) fun _ _ => .bind .update fun _ => .pure

theorem inBounds_decodeIrDynIp (bs : Bytes) : InBounds bs (decodeIrDynIp bs) :=
  .value_bind_eq fun _ => inBounds_irDyn (by omega) (safe_irDynCheck (by decide)) fun _ _ => .bind .update fun _ => .pure

theorem inBounds_decodeIrDynUdp (bs : Bytes) : InBounds bs (decodeIrDynUdp bs) :=
  .value_bind_eq fun _ => inBounds_irDyn (by omega) (safe_irDynCheck (by decide)) fun _ hlen =>
    .bind (Room.u16_of_le hlen) fun _ => .bind .update fun _ => .pure

theorem inBounds_decodeIrDynUdpLite (bs : Bytes) : InBounds bs (decodeIrDynUdpLite bs) :=
  .value_bind_eq fun _ => inBounds_irDyn (by omega) (safe_irDynCheck (by decide)) fun _ hlen =>
    .bind (Room.u16_of_le (k := 2) hlen) fun _ => .bind (Room.u16_of_le hlen) fun _ => .bind .update fun _ => .pure

theorem le_cidOctets (ctx : Context) : (if hasSmallCid ctx then 1 else 0) ≤ cidOctets ctx := Nat.le_add_right _ _

theorem inBounds_decodeIrDynRtp (bs : Bytes) : InBounds bs (decodeIrDynRtp bs) :=
  .value_bind_eq fun previous => inBounds_irDyn (by have := le_cidOctets previous; omega) (safe_irDynRtpCheck (by decide))
    fun _ hlen => .bind (Room.u16_of_le (k := 9) hlen) fun _ => .bind .update fun _ =>
      .bind ((room_readIrDynRtp previous hlen).mono (by decide) fun _ => Nat.le_refl _) fun _ => .bind .update fun _ =>
        .pure

theorem inBounds_decodeIrDynRtpUdpLite (bs : Bytes) : InBounds bs (decodeIrDynRtpUdpLite bs) :=
  .value_bind_eq fun previous => inBounds_irDyn (by have := le_cidOctets previous; omega) (safe_irDynRtpCheck (by decide))
    fun _ hlen => .bind (Room.u16_of_le (k := 11) hlen) fun _ => .bind (Room.u16_of_le (k := 9) hlen) fun _ =>
      .bind .update fun _ => .bind ((room_readIrDynRtp previous hlen).mono (by decide) fun _ => Nat.le_refl _) fun _ =>
        .bind .update fun _ => .pure

end IrDyn

/-! ## Private units -/

/-- A private unit of the CRC-8 layout, whose fields have the octets the header has left for them. -/
theorem inBounds_decodePrivateFo {bs : Bytes} {marker : UInt8} {fieldsLen : Nat} {crc : Bytes → Context → UInt8}
    {profile : Profile} {readFields : Bytes → Proc (Cursor Context) Unit}
    (hfields : Room bs fieldsLen (fun _ => 0) (readFields bs)) :
    InBounds bs (decodePrivateFo marker fieldsLen crc profile readFields bs) := by
  refine .value_bind fun ctx => .require_bind fun hlen => ?_
  rw [decide_eq_true_eq] at hlen
  refine @Room.at_start _ _ bs (fieldsLen + 1 + (if ctx.largeCid then Cid.encodedLen ctx.cid else 0) + 1) (fun _ => 0)
    _ ?_ (by omega)
  exact .bind .u8 fun _ => .bind .require fun _ => .bind (room_readLargeCid_context ctx) fun _ => .bind .require fun _ =>
    .bind .pos fun _ => .bind .u8 fun _ => .bind .require fun _ => .bind hfields fun _ => .bind .update fun _ => .pure

theorem inBounds_decodeUdpFo (bs : Bytes) : InBounds bs (decodeUdpFo bs) :=
  inBounds_decodePrivateFo (.bind (Room.u16 (k := 2)) fun _ => .bind .u16 fun _ => .update)

theorem inBounds_decodeIpFo (bs : Bytes) : InBounds bs (decodeIpFo bs) :=
  inBounds_decodePrivateFo (.bind .u16 fun _ => .update)

theorem inBounds_decodeEspFo (bs : Bytes) : InBounds bs (decodeEspFo bs) :=
  inBounds_decodePrivateFo (.bind .u16 fun _ => .update)

theorem inBounds_decodeUdpLiteFo (bs : Bytes) : InBounds bs (decodeUdpLiteFo bs) :=
  inBounds_decodePrivateFo (.bind (Room.u16 (k := 4)) fun _ => .bind (Room.u16 (k := 2)) fun _ => .bind .u16 fun _ =>
    .update)

end Rohccxx
