import Rohccxx.Bounds

/-!
# Whole words of options

An IPv4 header counts its options in words of four octets. The capture functions take whole words only, the legacy readers
take a list of any length up to 40. `Frame.optionsIndex` is where such a list stands in a unit, and a context keeps whole
words as long as every list that is read holds whole words (`Accepts.wholeWords`).
-/

set_option autoImplicit false

namespace Rohccxx

open Octets Reader Runs

/-- The IPv4 options of the context are whole words. -/
def Context.WholeWords (ctx : Context) : Prop := ctx.ipv4OptionsLen % 4 = 0

/-- A list marker that is not one of IPv4 options, or announces whole words of them. -/
def WholeWordsMarker (marker : UInt8) : Prop := marker &&& 0xC0 = ipv4OptionsListMarker → (marker &&& 0x3F).toNat % 4 = 0

instance (marker : UInt8) : Decidable (WholeWordsMarker marker) := inferInstanceAs (Decidable (_ → _))

/-- What decides which dynamic chain is read. -/
def optionShape (ctx : Context) : UInt8 × Nat := (ctx.ipVersion, ctx.ipv4OptionsLen)

/-! ## Readers that stay clear of the options -/

/-- Whoever stays clear of the options leaves whole words. -/
theorem Context.WholeWords.of_keeps {α : Type} {m : Proc (Cursor Context) α} {c c' : Cursor Context} {a : α}
    (h : c.st.WholeWords) (hk : Keeps optionShape m) (e : m c = (.ok a, c')) : c'.st.WholeWords := by
  have hshape : optionShape c'.st = optionShape c.st := hk c a c' e
  unfold Context.WholeWords
  rw [(Prod.mk.inj hshape).2]
  exact h

theorem readLarge_encodedLen {p : Bytes} {value n : Nat} (h : Cid.readLarge p = some (value, n)) :
    n = Cid.encodedLen value := by
  unfold Cid.readLarge at h
  split at h
  · cases h
  · rename_i b rest
    split at h
    · cases h
      have hle : (b &&& 0x7F).toNat ≤ 0x7F := UInt8.le_iff_toNat_le.mp UInt8.and_le_right
      rw [Cid.encodedLen, if_pos hle]
    · split at h
      · split at h
        · cases h
        · dsimp only at h
          split at h
          · cases h
          · rename_i hbig
            cases h
            rw [Cid.encodedLen, if_neg hbig]
      · cases h

theorem readLargeCidIfPresent_moves (bs : Bytes) (ctx : Context) :
    Moves (if ctx.largeCid then Cid.encodedLen ctx.cid else 0) (readLargeCidIfPresent bs ctx) := by
  unfold readLargeCidIfPresent
  cases ctx.largeCid with
  | false => exact .pure
  | true =>
    refine .stay .available fun _ => .scan_bind fun p r hr => .require_bind fun hcid => ?_
    have hlen := readLarge_encodedLen hr
    rw [decide_eq_true_eq] at hcid
    rw [hcid] at hlen
    rw [if_pos rfl, ← hlen]
    exact .bind .take fun _ => .pure

theorem readUdpPorts_moves (bs : Bytes) : Moves 4 (readUdpPorts bs) := .bind .u16 fun _ => .bind .u16 fun _ => .update

theorem keepsShape_readLargeCidIfPresent (bs : Bytes) (ctx : Context) :
    Keeps optionShape (readLargeCidIfPresent bs ctx) :=
  .ite .pure <| .bind .available fun _ => .bind .scan fun _ => .bind .require fun _ => .bind .take fun _ => .pure

theorem keepsShape_readUdpPorts (bs : Bytes) : Keeps optionShape (readUdpPorts bs) :=
  .bind .u16 fun _ => .bind .u16 fun _ => .update fun _ => rfl

theorem readAddCid_moves (bs : Bytes) (ctx : Context) (minLen : Nat) :
    Moves (if hasSmallCid ctx then 1 else 0) (readAddCid bs ctx minLen) := by
  unfold readAddCid hasSmallCid
  split
  · exact .stay .require fun _ => .bind .u8 fun _ => .require
  · exact .pure

/-- The head of a legacy IR: CID, type, profile and CRC. -/
theorem legacyIrHead_moves {bs : Bytes} {minLen : Nat} {profileId : UInt8} {c c' : Cursor Context} {a : Nat × UInt8}
    (h : legacyIrHead bs minLen profileId c = (.ok a, c')) : c'.pos = c.pos + (cidOctets c.st + 3) := by
  obtain ⟨ctx, c₁, h₁, h⟩ := Proc.bind_eq_ok h
  cases h₁
  have := Moves.stay .require (fun _ => .bind (readAddCid_moves bs c.st minLen) fun _ => .stay .available fun _ =>
    .bind .u8 fun _ => .stay .require fun _ => .bind (readLargeCidIfPresent_moves bs c.st) fun _ =>
      .stay .available fun _ => .bind .u8 fun _ => .stay .require fun _ => .bind .u8 fun _ => .pure) _ _ _ h
  rw [this, cidOctets]
  omega

theorem keepsShape_legacyIrHead (bs : Bytes) (minLen : Nat) (profileId : UInt8) :
    Keeps optionShape (legacyIrHead bs minLen profileId) :=
  .bind .value fun ctx => .bind .require fun _ => .bind (.ite (.bind .require fun _ => .bind .u8 fun _ => .require) .pure)
    fun _ => .bind .available fun _ => .bind .u8 fun _ => .bind .require fun _ =>
      .bind (keepsShape_readLargeCidIfPresent bs ctx) fun _ => .bind .available fun _ => .bind .u8 fun _ =>
        .bind .require fun _ => .bind .u8 fun _ => .pure

/-- The head of an IR-DYN is laid out the same way. -/
theorem irDynHead_moves {bs : Bytes} {minLen : Nat} {profileId : UInt8} {c c' : Cursor Context} {a : UInt8}
    (h : irDynHead bs minLen profileId c = (.ok a, c')) : c'.pos = c.pos + (cidOctets c.st + 3) := by
  obtain ⟨ctx, c₁, h₁, h⟩ := Proc.bind_eq_ok h
  cases h₁
  have hadd : Moves (if hasSmallCid c.st then 1 else 0) (irDynAddCid bs c.st) := by
    unfold irDynAddCid
    split
    · exact .bind .u8 fun _ => .require
    · exact .pure
  have := Moves.stay .require (fun _ => .bind hadd fun _ => .bind .u8 fun _ => .stay .require fun _ =>
    .bind (readLargeCidIfPresent_moves bs c.st) fun _ => .bind .u8 fun _ => .stay .require fun _ => .u8) _ _ _ h
  rw [this, cidOctets]
  omega

/-! ## Readers of the options -/

/-- A list whose marker is whole leaves whole words. -/
theorem readIpv4OptionsList_wholeWords {bs : Bytes} {c c' : Cursor Context} {u : Unit}
    (h : readIpv4OptionsList bs c = (.ok u, c')) (hm : WholeWordsMarker (u8At bs c.pos)) : c'.st.WholeWords := by
  obtain ⟨_, c₁, h₁, h⟩ := Proc.bind_eq_ok h
  obtain ⟨marker, c₂, h₂, h⟩ := Proc.bind_eq_ok h
  have hmarker : marker = u8At bs c.pos := by
    rw [u8_eq_ok h₂, Moves.available _ _ _ h₁, Nat.add_zero]
  rw [← hmarker] at hm
  obtain ⟨_, c₃, h₃, h⟩ := Proc.bind_eq_ok h
  cases h₃
  split at h
  · cases h
    exact Nat.zero_mod 4
  · obtain ⟨_, _, h₄, h⟩ := Proc.bind_eq_ok h
    have hlist := (Proc.require_eq_ok h₄).1
    obtain ⟨_, _, -, h⟩ := Proc.bind_eq_ok h
    obtain ⟨_, _, -, h⟩ := Proc.bind_eq_ok h
    obtain ⟨_, _, -, h⟩ := Proc.bind_eq_ok h
    cases h
    exact hm (by simpa using hlist)

/-- Whole words so far, and the list `n` octets on holds whole words; behind IPv6 no list is read. -/
structure AtList (bs : Bytes) (n : Nat) (c : Cursor Context) : Prop where
  words : c.st.WholeWords
  marker : c.st.ipVersion ≠ 6 → WholeWordsMarker (u8At bs (c.pos + n))

/-- A reader that moves on and stays clear of the options. -/
theorem AtList.step {α : Type} {m : Proc (Cursor Context) α} {bs : Bytes} {n k : Nat} {c c' : Cursor Context} {a : α}
    (h : AtList bs (k + n) c) (e : m c = (.ok a, c')) (hm : Moves k m) (hk : Keeps optionShape m) : AtList bs n c' := by
  have hshape : optionShape c'.st = optionShape c.st := hk c a c' e
  refine ⟨h.words.of_keeps hk e, ?_⟩
  rw [(Prod.mk.inj hshape).1, hm c a c' e, Nat.add_assoc]
  exact h.marker

theorem keepsShape_readIpv6ExtensionsList (bs : Bytes) : Keeps optionShape (readIpv6ExtensionsList bs) :=
  .bind .available fun _ => .bind .u8 fun _ => .bind (.update fun _ => rfl) fun _ => .ite .pure <|
    .bind .require fun _ => .bind .require fun _ => .bind .need fun _ => .bind .take fun _ => .update fun _ => rfl

/-- The five octets of the IPv4 chain stand in front of the list. -/
theorem AtList.dynamic {bs : Bytes} {c c' : Cursor Context} {u : Unit} (h : AtList bs 5 c)
    (e : readLegacyIpDynamicConsistent bs c = (.ok u, c')) : c'.st.WholeWords := by
  obtain ⟨before, c₁, h₁, e⟩ := Proc.bind_eq_ok e
  cases h₁
  obtain ⟨_, c₂, h₂, e⟩ := Proc.bind_eq_ok e
  obtain ⟨_, c₃, h₃, e⟩ := Proc.bind_eq_ok e
  cases h₃
  rw [(Proc.require_eq_ok e).2]
  obtain ⟨ctx, c₄, h₄, h₂⟩ := Proc.bind_eq_ok h₂
  cases h₄
  split at h₂
  · have hk : Keeps optionShape (do
        need bs 7
        let trafficClass ← u8 bs
        let a ← u8 bs
        let b ← u8 bs
        let c ← u8 bs
        let hopLimit ← u8 bs
        let protocol ← u8 bs
        update fun ctx : Context => { ctx with
          ipv6TrafficClass := trafficClass
          ipv6FlowLabel := ((a &&& 0x0F).toUInt32 <<< 16) ||| (b.toUInt32 <<< 8) ||| c.toUInt32
          ipv6HopLimit := hopLimit, ipv4Protocol := protocol }
        readIpv6ExtensionsList bs) :=
      .bind .need fun _ => .bind .u8 fun _ => .bind .u8 fun _ => .bind .u8 fun _ => .bind .u8 fun _ => .bind .u8 fun _ =>
        .bind .u8 fun _ => .bind (.update fun _ => rfl) fun _ => keepsShape_readIpv6ExtensionsList bs
    exact h.words.of_keeps hk h₂
  · rename_i hv
    obtain ⟨_, c₅, h₅, h₂⟩ := Proc.bind_eq_ok h₂
    obtain ⟨_, c₆, h₆, h₂⟩ := Proc.bind_eq_ok h₂
    obtain ⟨_, c₇, h₇, h₂⟩ := Proc.bind_eq_ok h₂
    obtain ⟨_, c₈, h₈, h₂⟩ := Proc.bind_eq_ok h₂
    obtain ⟨_, c₉, h₉, h₂⟩ := Proc.bind_eq_ok h₂
    obtain ⟨_, c₁₀, h₁₀, h₂⟩ := Proc.bind_eq_ok h₂
    cases h₁₀
    have hp : c₉.pos = c.pos + 5 := by
      rw [Moves.u8 _ _ _ h₉, Moves.u16 _ _ _ h₈, Moves.u8 _ _ _ h₇, Moves.u8 _ _ _ h₆, Moves.need _ _ _ h₅]
    refine readIpv4OptionsList_wholeWords h₂ ?_
    change WholeWordsMarker (u8At bs c₉.pos)
    rw [hp]
    exact h.marker hv

/-! ## The legacy grammar -/

/-- In front of the static chain: the list stands `10 + n` octets on, when the chain is an IPv4 one. -/
theorem AtList.static {bs : Bytes} {n : Nat} {c c' : Cursor Context} {u : Unit} (hw : c.st.WholeWords)
    (hm : u8At bs c.pos >>> 4 = 4 → WholeWordsMarker (u8At bs (c.pos + (10 + n))))
    (e : readIpStaticChain bs c = (.ok u, c')) : AtList bs n c' := by
  obtain ⟨_, c₁, h₁, e⟩ := Proc.bind_eq_ok e
  obtain ⟨first, c₂, h₂, e⟩ := Proc.bind_eq_ok e
  have hp₁ : c₁.pos = c.pos := Moves.available _ _ _ h₁
  have hfirst : first = u8At bs c.pos := by rw [u8_eq_ok h₂, hp₁]
  have hp₂ : c₂.pos = c.pos + 1 := by rw [Moves.u8 _ _ _ h₂, hp₁]
  have hw₂ : c₂.st.WholeWords := (hw.of_keeps .available h₁).of_keeps .u8 h₂
  by_cases hv : first >>> 4 = 4
  · rw [if_pos hv] at e
    obtain ⟨_, c₃, h₃, e⟩ := Proc.bind_eq_ok e
    cases h₃
    have hmoves := Moves.stay .available (fun _ => .bind .u8 fun _ => .stay .update fun _ => .stay .need fun _ =>
      .bind .u32 fun _ => .bind .u32 fun _ => .update) _ _ _ e
    have hkeeps := Keeps.eq_of (g := optionShape) e <| .bind .available fun _ => .bind .u8 fun _ =>
      .bind (.update fun _ => rfl) fun _ => .bind .need fun _ => .bind .u32 fun _ => .bind .u32 fun _ =>
        .update fun _ => rfl
    have hpos : c'.pos = c.pos + 10 := by
      rw [hmoves]
      change c₂.pos + 9 = _
      omega
    refine ⟨?_, fun _ => ?_⟩
    · unfold Context.WholeWords
      rw [(Prod.mk.inj hkeeps).2]
      exact hw₂
    · rw [hpos, Nat.add_assoc]
      exact hm (hfirst ▸ hv)
  · rw [if_neg hv] at e
    split at e
    · obtain ⟨_, c₃, h₃, e⟩ := Proc.bind_eq_ok e
      cases h₃
      have hkeeps := Keeps.eq_of (g := optionShape) e <| .bind .need fun _ => .bind .u8 fun _ =>
        .bind .take fun _ => .bind .take fun _ => .update fun _ => rfl
      refine ⟨?_, fun h6 => absurd (Prod.mk.inj hkeeps).1 h6⟩
      unfold Context.WholeWords
      rw [(Prod.mk.inj hkeeps).2]
      exact hw₂
    · cases e

/-- The options that a legacy IR carries behind `n` octets of transport chain and the five of the dynamic one are whole
words. -/
def LegacyListWhole (bs : Bytes) (ctx : Context) (n : Nat) : Prop :=
  u8At bs (cidOctets ctx + 3) >>> 4 = 4 → WholeWordsMarker (u8At bs (cidOctets ctx + 3 + (10 + (n + 5))))

instance (bs : Bytes) (ctx : Context) (n : Nat) : Decidable (LegacyListWhole bs ctx n) :=
  inferInstanceAs (Decidable (_ → _))

/-- Head and static chain of a legacy IR. -/
theorem AtList.legacyIr {bs : Bytes} {ctx : Context} {minLen n : Nat} {profileId : UInt8} {crc : Nat × UInt8}
    {c c' : Cursor Context} {u : Unit} (hw : ctx.WholeWords) (hm : LegacyListWhole bs ctx n)
    (h₁ : legacyIrHead bs minLen profileId ⟨0, ctx⟩ = (.ok crc, c)) (h₂ : readIpStaticChain bs c = (.ok u, c')) :
    AtList bs (n + 5) c' := by
  have hpos : c.pos = cidOctets ctx + 3 := by
    rw [legacyIrHead_moves h₁]
    exact Nat.zero_add _
  refine .static (hw.of_keeps (c := ⟨0, ctx⟩) (keepsShape_legacyIrHead bs minLen profileId) h₁) ?_ h₂
  rw [hpos]
  exact hm

theorem keepsShape_legacyIrTail (bs : Bytes) (crc : Nat × UInt8) : Keeps optionShape (legacyIrTail bs crc) := by
  refine .bind .pos fun _ => .bind .require fun _ => .bind ?_ fun _ => .bind .u8 fun _ => .pure
  exact .bind .available fun _ => .bind .peek fun _ => .bind .require fun _ => .bind .require fun _ =>
    .update fun _ => rfl

theorem keepsShape_readRtpExtrasList (bs : Bytes) : Keeps optionShape (readRtpExtrasList bs) := by
  refine .bind (.update fun _ => rfl) fun _ => .bind .available fun _ => .bind .u8 fun _ => .ite (.update fun _ => rfl) ?_
  exact .bind .require fun _ => .bind .scan fun _ => .bind .require fun _ => .bind .take fun _ => .bind .need fun _ =>
    .bind .u8 fun _ => .bind .require fun _ => .bind .u8 fun _ => .bind .u16 fun _ => .bind .u8 fun _ =>
      .bind .value fun _ => .bind .require fun _ => .bind .take fun _ => .bind .take fun _ => .bind .take fun _ =>
        .bind (.update fun _ => rfl) fun _ => .bind .value fun _ => .require

theorem keepsShape_readRtpDynamicChain (bs : Bytes) : Keeps optionShape (readRtpDynamicChain bs) :=
  .bind .u8 fun _ => .bind .u8 fun _ => .bind .u16 fun _ => .bind .u32 fun _ => .bind (.update fun _ => rfl) fun _ =>
    keepsShape_readRtpExtrasList bs

theorem AtList.ports {bs : Bytes} {n k : Nat} {c c₁ c₂ : Cursor Context} {u v : Unit} (h : AtList bs (4 + n) c)
    (h₁ : available bs k c = (.ok u, c₁)) (h₂ : readUdpPorts bs c₁ = (.ok v, c₂)) : AtList bs n c₂ :=
  h.step ((Proc.bind_of_ok h₁).trans h₂) (.stay .available fun _ => readUdpPorts_moves bs)
    (.bind .available fun _ => keepsShape_readUdpPorts bs)

/-- Octets of the static chain behind the IP header, in the legacy grammar. -/
def legacyTransportLen : Profile → Nat
  | .udp | .udpLite => 4
  | .rtp | .rtpUdpLite => 8
  | _ => 0

/-- The legacy decoders of IR. -/
def decodeIrLegacyOf : Profile → Bytes → Proc (Cursor Context) Unit
  | .udp => decodeIrUdpLegacy
  | .udpLite => decodeIrUdpLiteLegacy
  | .esp => decodeIrEspLegacy
  | .ip => decodeIrIpLegacy
  | .rtpUdpLite => decodeIrRtpUdpLiteLegacy
  | .rtp => decodeIrRtpLegacy
  | _ => fun _ => Proc.reject

/-- **A legacy IR leaves whole words** when its list holds whole words. -/
theorem decodeIrLegacyOf_wholeWords {profile : Profile} {bs : Bytes} {ctx : Context} {c : Cursor Context} {u : Unit}
    (hw : ctx.WholeWords) (hm : LegacyListWhole bs ctx (legacyTransportLen profile))
    (e : decodeIrLegacyOf profile bs ⟨0, ctx⟩ = (.ok u, c)) : c.st.WholeWords := by
  cases profile with
  | udp =>
    obtain ⟨crc, c₁, h₁, e⟩ := Proc.bind_eq_ok e
    obtain ⟨_, c₂, h₂, e⟩ := Proc.bind_eq_ok e
    obtain ⟨_, c₃, h₃, e⟩ := Proc.bind_eq_ok e
    obtain ⟨_, c₄, h₄, e⟩ := Proc.bind_eq_ok e
    obtain ⟨_, c₅, h₅, e⟩ := Proc.bind_eq_ok e
    have hlist := (AtList.legacyIr (n := 4) hw hm h₁ h₂).ports h₃ h₄
    refine (hlist.dynamic h₅).of_keeps ?_ e
    exact .bind .value fun _ => .bind .require fun _ => .bind .available fun _ => .bind .u16 fun _ =>
      .bind (.update fun _ => rfl) fun _ => .bind .available fun _ => .bind (keepsShape_legacyIrTail bs crc) fun _ =>
        .update fun _ => rfl
  | udpLite =>
    obtain ⟨crc, c₁, h₁, e⟩ := Proc.bind_eq_ok e
    obtain ⟨_, c₂, h₂, e⟩ := Proc.bind_eq_ok e
    obtain ⟨_, c₃, h₃, e⟩ := Proc.bind_eq_ok e
    obtain ⟨_, c₄, h₄, e⟩ := Proc.bind_eq_ok e
    obtain ⟨_, c₅, h₅, e⟩ := Proc.bind_eq_ok e
    have hlist := (AtList.legacyIr (n := 4) hw hm h₁ h₂).ports h₃ h₄
    refine (hlist.dynamic h₅).of_keeps ?_ e
    exact .bind .value fun _ => .bind .require fun _ => .bind .available fun _ => .bind .u16 fun _ => .bind .u16 fun _ =>
      .bind (.update fun _ => rfl) fun _ => .bind .available fun _ => .bind (keepsShape_legacyIrTail bs crc) fun _ =>
        .update fun _ => rfl
  | esp =>
    obtain ⟨crc, c₁, h₁, e⟩ := Proc.bind_eq_ok e
    obtain ⟨_, c₂, h₂, e⟩ := Proc.bind_eq_ok e
    obtain ⟨_, c₃, h₃, e⟩ := Proc.bind_eq_ok e
    have hlist := AtList.legacyIr (n := 0) hw hm h₁ h₂
    refine (hlist.dynamic h₃).of_keeps ?_ e
    exact .bind .value fun _ => .bind .require fun _ => .bind (keepsShape_legacyIrTail bs crc) fun _ =>
      .update fun _ => rfl
  | ip =>
    obtain ⟨crc, c₁, h₁, e⟩ := Proc.bind_eq_ok e
    obtain ⟨_, c₂, h₂, e⟩ := Proc.bind_eq_ok e
    obtain ⟨_, c₃, h₃, e⟩ := Proc.bind_eq_ok e
    have hlist := AtList.legacyIr (n := 0) hw hm h₁ h₂
    refine (hlist.dynamic h₃).of_keeps ?_ e
    exact .bind .available fun _ => .bind (keepsShape_legacyIrTail bs crc) fun _ => .update fun _ => rfl
  | rtpUdpLite =>
    obtain ⟨crc, c₁, h₁, e⟩ := Proc.bind_eq_ok e
    obtain ⟨_, c₂, h₂, e⟩ := Proc.bind_eq_ok e
    obtain ⟨_, c₃, h₃, e⟩ := Proc.bind_eq_ok e
    obtain ⟨_, c₄, h₄, e⟩ := Proc.bind_eq_ok e
    obtain ⟨_, c₅, h₅, e⟩ := Proc.bind_eq_ok e
    obtain ⟨_, c₆, h₆, e⟩ := Proc.bind_eq_ok e
    obtain ⟨_, c₇, h₇, e⟩ := Proc.bind_eq_ok e
    have hports : AtList bs (4 + 5) c₄ := (AtList.legacyIr (n := 8) hw hm h₁ h₂).ports h₃ h₄
    have hssrc : AtList bs 5 c₅ := hports.step h₅ .u32 .u32
    have hlist : AtList bs 5 c₆ := hssrc.step (k := 0) h₆ .update (.update fun _ => rfl)
    refine (hlist.dynamic h₇).of_keeps ?_ e
    exact .bind .value fun _ => .bind .require fun _ => .bind .available fun _ => .bind .u16 fun _ => .bind .u16 fun _ =>
      .bind (.update fun _ => rfl) fun _ => .bind (keepsShape_readRtpDynamicChain bs) fun _ => .bind .available fun _ =>
        .bind (keepsShape_legacyIrTail bs crc) fun _ => .update fun _ => rfl
  | rtp =>
    obtain ⟨crc, c₁, h₁, e⟩ := Proc.bind_eq_ok e
    obtain ⟨_, c₂, h₂, e⟩ := Proc.bind_eq_ok e
    obtain ⟨_, c₃, h₃, e⟩ := Proc.bind_eq_ok e
    obtain ⟨_, c₄, h₄, e⟩ := Proc.bind_eq_ok e
    obtain ⟨_, c₅, h₅, e⟩ := Proc.bind_eq_ok e
    obtain ⟨_, c₆, h₆, e⟩ := Proc.bind_eq_ok e
    obtain ⟨_, c₇, h₇, e⟩ := Proc.bind_eq_ok e
    have hports : AtList bs (4 + 5) c₄ := (AtList.legacyIr (n := 8) hw hm h₁ h₂).ports h₃ h₄
    have hssrc : AtList bs 5 c₅ := hports.step h₅ .u32 .u32
    have hlist : AtList bs 5 c₆ := hssrc.step (k := 0) h₆ .update (.update fun _ => rfl)
    refine (hlist.dynamic h₇).of_keeps ?_ e
    exact .bind .value fun _ => .bind .require fun _ => .bind .available fun _ => .bind .u16 fun _ =>
      .bind (.update fun _ => rfl) fun _ => .bind (keepsShape_readRtpDynamicChain bs) fun _ => .bind .available fun _ =>
        .bind (keepsShape_legacyIrTail bs crc) fun _ => .update fun _ => rfl
  | uncompressed => cases e
  | llaRtp => cases e

/-! ## The standard grammar -/

/-- The standard grammar has no options: a static chain clears them. -/
theorem decodeIrStandard_wholeWords (profile : Profile) (profileId : UInt8) (bs : Bytes) :
    Respects Context.WholeWords (decodeIrStandard profile profileId bs) := by
  have hhead : ∀ ctx, Respects Context.WholeWords (readStandardIrPrefix bs ctx profileId) := by
    refine fun ctx => .bind ?_ fun _ => .bind .available fun _ => .bind .u8 fun _ => .bind .require fun _ =>
      .bind ?_ fun _ => .bind .need fun _ => .bind .u8 fun _ => .bind .require fun _ => .bind .pos fun _ =>
        .bind .u8 fun _ => .pure
    · exact .ite (.bind .available fun _ => .bind .u8 fun _ => .require) .pure
    · exact .ite (.bind .scan fun _ => .bind .require fun _ => .bind .take fun _ => .pure) .pure
  have hstatic : Respects Context.WholeWords (readStandardIpStatic bs) := by
    refine .bind .available fun _ => .bind .u8 fun _ => .bind .require fun _ => .ite ?_ ?_
    · exact .bind .require fun _ => .bind .need fun _ => .bind .u8 fun _ => .bind .u32 fun _ => .bind .u32 fun _ =>
        .update fun _ _ => Nat.zero_mod 4
    · exact .bind .require fun _ => .bind .need fun _ => .bind .u8 fun _ => .bind .take fun _ => .bind .take fun _ =>
        .update fun _ h => h
  have hports : Respects Context.WholeWords (readUdpPorts bs) := .bind .u16 fun _ => .bind .u16 fun _ => .update fun _ h => h
  have htransport : Respects Context.WholeWords (readStandardTransportStatic bs profile) := by
    cases profile with
    | udp => exact .bind .need fun _ => .bind hports fun _ => .update fun _ h => h
    | rtp =>
      exact .bind .need fun _ => .bind hports fun _ => .bind (.update fun _ h => h) fun _ => .bind .need fun _ =>
        .bind .u32 fun _ => .update fun _ h => h
    | esp => exact .bind .need fun _ => .bind .u32 fun _ => .update fun _ h => h
    | _ => exact .pure
  have hdynamic : ∀ endpoint, Respects Context.WholeWords (readStandardIpDynamic bs endpoint) := by
    refine fun endpoint => .bind .value fun _ => .ite ?_ ?_
    · exact .bind .need fun _ => .bind .u8 fun _ => .bind .u8 fun _ => .bind (.update fun _ h => h) fun _ => .ite
        (.bind .u8 fun _ => .bind .require fun _ => .bind .u16 fun _ => .update fun _ h => h) .pure
    · refine .bind .need fun _ => .bind .u8 fun _ => .bind .require fun _ => .bind (.update fun _ h => h) fun _ =>
        .bind .u8 fun _ => .bind .u8 fun _ => .bind (.update fun _ h => h) fun _ => .bind ?_ fun _ => .ite ?_ .pure
      · exact .ite (.bind .need fun _ => .bind .u16 fun _ => .update fun _ h => h) (.update fun _ h => h)
      · exact .bind .need fun _ => .bind .u16 fun _ => .update fun _ h => h
  have hrefresh : ∀ previous ctx : Context, ctx.WholeWords → (refreshRtp previous ctx).WholeWords := fun _ _ h => h
  have htail : ∀ previous, Respects Context.WholeWords (readStandardTransportDynamic bs previous profile) := by
    intro previous
    cases profile with
    | udp =>
      exact .bind .need fun _ => .bind .u16 fun _ => .bind .u16 fun _ => .bind (.update fun _ h => h) fun _ =>
        .bind .u8 fun _ => .bind .require fun _ => .update fun _ h => h
    | esp =>
      exact .bind .need fun _ => .bind .u32 fun _ => .bind (.update fun _ h => h) fun _ => .bind .u8 fun _ =>
        .bind .require fun _ => .update fun _ h => h
    | rtp =>
      exact .bind .need fun _ => .bind .u16 fun _ => .bind (.update fun _ h => h) fun _ => .bind .u8 fun _ =>
        .bind .require fun _ => .bind .u8 fun _ => .bind .u16 fun _ => .bind .u32 fun _ =>
          .update fun _ h => hrefresh previous _ h
    | _ => exact .pure
  exact .bind .value fun previous => .bind (hhead previous) fun _ => .bind hstatic fun _ => .bind .value fun _ =>
    .bind .require fun _ => .bind (.update fun _ h => h) fun _ => .bind htransport fun _ => .bind (hdynamic _) fun _ =>
      .bind (htail previous) fun _ => .bind .pos fun _ => .bind .require fun _ => .update fun _ h => h

/-- The profiles with a standard grammar. -/
def hasStandard : Profile → Bool
  | .udp | .esp | .ip | .rtp => true
  | _ => false

/-- **An IR leaves whole words** when the standard grammar takes it, or its legacy list holds whole words. -/
theorem decodeIrOf_wholeWords {profile : Profile} {bs : Bytes} {ctx ctx' : Context} {n : Nat} (hw : ctx.WholeWords)
    (hm : ¬(hasStandard profile ∧ (run (decodeIrStandard profile profile.octet bs) ctx).isSome) →
      LegacyListWhole bs ctx (legacyTransportLen profile))
    (h : Frame.decodeIrOf profile bs ctx = some (ctx', n)) : ctx'.WholeWords := by
  have hlegacy : ∀ {c'}, LegacyListWhole bs ctx (legacyTransportLen profile) →
      run (decodeIrLegacyOf profile bs) ctx = some (c', n) → c'.WholeWords := by
    intro c' hm e
    unfold run at e
    split at e
    · rename_i he
      cases e
      exact decodeIrLegacyOf_wholeWords hw hm he
    · cases e
  have hboth : hasStandard profile = true →
      decodeIrCompatible profile profile.octet (decodeIrLegacyOf profile) bs ctx = some (ctx', n) → ctx'.WholeWords := by
    intro hs h
    have hstd := decodeIrStandard_wholeWords profile profile.octet bs
    unfold decodeIrCompatible at h
    split at h
    · rename_i e _
      split at h
      · cases h
      · cases h
        exact hstd.run e hw
    · rename_i r e _
      cases h
      exact hstd.run e hw
    · rename_i r e e'
      cases h
      exact hlegacy (hm (by simp [e])) e'
    · cases h
  cases profile with
  | udp => exact hboth rfl h
  | esp => exact hboth rfl h
  | ip => exact hboth rfl h
  | rtp => exact hboth rfl h
  | udpLite => exact hlegacy (hm (by simp [hasStandard])) h
  | rtpUdpLite => exact hlegacy (hm (by simp [hasStandard])) h
  | uncompressed => cases h
  | llaRtp => cases h

/-! ## IR-DYN -/

/-- The options that an IR-DYN carries behind the five octets of its chain are whole words. -/
def IrDynListWhole (bs : Bytes) (ctx : Context) : Prop :=
  ctx.ipVersion ≠ 6 → WholeWordsMarker (u8At bs (cidOctets ctx + 3 + 5))

instance (bs : Bytes) (ctx : Context) : Decidable (IrDynListWhole bs ctx) := inferInstanceAs (Decidable (_ → _))

theorem keepsShape_irDynHead (bs : Bytes) (minLen : Nat) (profileId : UInt8) :
    Keeps optionShape (irDynHead bs minLen profileId) :=
  .bind .value fun ctx => .bind .require fun _ => .bind (.ite (.bind .u8 fun _ => .require) .pure) fun _ =>
    .bind .u8 fun _ => .bind .require fun _ => .bind (keepsShape_readLargeCidIfPresent bs ctx) fun _ => .bind .u8 fun _ =>
      .bind .require fun _ => .u8

/-- Head and chain of an IR-DYN, with the check of the CRC between them. -/
theorem irDyn_wholeWords {bs : Bytes} {ctx : Context} {minLen : Nat} {profileId : UInt8} {crc : UInt8} {len : Nat}
    {check : Proc (Cursor Context) Nat} {c₁ c₂ c₃ : Cursor Context} {u : Unit} (hw : ctx.WholeWords)
    (hm : IrDynListWhole bs ctx) (h₁ : irDynHead bs minLen profileId ⟨0, ctx⟩ = (.ok crc, c₁))
    (h₂ : check c₁ = (.ok len, c₂)) (h₃ : readLegacyIpDynamicConsistent bs c₂ = (.ok u, c₃)) (hmoves : Moves 0 check)
    (hkeeps : Keeps optionShape check) : c₃.st.WholeWords := by
  have hshape : optionShape c₁.st = optionShape ctx := keepsShape_irDynHead bs minLen profileId _ _ _ h₁
  have hpos : c₁.pos = cidOctets ctx + 3 := by
    rw [irDynHead_moves h₁]
    exact Nat.zero_add _
  have hlist : AtList bs (0 + 5) c₁ := by
    refine ⟨hw.of_keeps (c := ⟨0, ctx⟩) (keepsShape_irDynHead bs minLen profileId) h₁, ?_⟩
    rw [(Prod.mk.inj hshape).1, hpos, Nat.zero_add]
    exact hm
  exact (hlist.step h₂ hmoves hkeeps).dynamic h₃

theorem irDynCheck_moves (bs : Bytes) (headerLen : Nat) (crc : UInt8) : Moves 0 (irDynCheck bs headerLen crc) :=
  .stay .value fun _ => .stay .pos fun _ => .scan_bind fun _ _ _ => .stay .require fun _ => .pure

theorem keepsShape_irDynCheck (bs : Bytes) (headerLen : Nat) (crc : UInt8) :
    Keeps optionShape (irDynCheck bs headerLen crc) :=
  .bind .value fun _ => .bind .pos fun _ => .bind .scan fun _ => .bind .require fun _ => .pure

theorem irDynRtpCheck_moves (bs : Bytes) (headerLen udpLen : Nat) (crc : UInt8) :
    Moves 0 (irDynRtpCheck bs headerLen udpLen crc) :=
  .stay .value fun _ => .stay .pos fun _ => .scan_bind fun _ _ _ => .scan_bind fun _ _ _ => .stay .require fun _ => .pure

theorem keepsShape_irDynRtpCheck (bs : Bytes) (headerLen udpLen : Nat) (crc : UInt8) :
    Keeps optionShape (irDynRtpCheck bs headerLen udpLen crc) :=
  .bind .value fun _ => .bind .pos fun _ => .bind .scan fun _ => .bind .scan fun _ => .bind .require fun _ => .pure

theorem optionShape_refreshIrDynRtp (previous : Context) (seq : UInt16) (ts : UInt32) (ctx : Context) :
    optionShape (refreshIrDynRtp previous seq ts ctx) = optionShape ctx := rfl

theorem keepsShape_readIrDynRtp (bs : Bytes) (previous : Context) (len : Nat) :
    Keeps optionShape (readIrDynRtp bs previous len) :=
  .bind .u8 fun _ => .bind .u8 fun _ => .bind (.update fun _ => rfl) fun _ => .bind .u16 fun seq => .bind .u32 fun ts =>
    .bind (.update fun _ => optionShape_refreshIrDynRtp previous seq ts _) fun _ =>
      .bind (keepsShape_readRtpExtrasList _) fun _ => .bind .pos fun _ => .require

/-- **An IR-DYN leaves whole words** when its list holds whole words. -/
theorem decodeIrDynOf_wholeWords {profile : Profile} {bs : Bytes} {ctx ctx' : Context} {n : Nat} (hw : ctx.WholeWords)
    (hm : IrDynListWhole bs ctx) (h : exec (Frame.decodeIrDynOf profile bs) ctx = (some n, ctx')) : ctx'.WholeWords := by
  unfold exec at h
  split at h
  · rename_i len c e
    cases h
    cases profile with
    | esp =>
      obtain ⟨_, _, h₀, e⟩ := Proc.bind_eq_ok e
      cases h₀
      obtain ⟨crc, c₁, h₁, e⟩ := Proc.bind_eq_ok e
      obtain ⟨_, c₂, h₂, e⟩ := Proc.bind_eq_ok e
      obtain ⟨_, c₃, h₃, e⟩ := Proc.bind_eq_ok e
      refine (irDyn_wholeWords hw hm h₁ h₂ h₃ (irDynCheck_moves _ _ _) (keepsShape_irDynCheck _ _ _)).of_keeps ?_ e
      exact .bind (.update fun _ => rfl) fun _ => .pure
    | ip =>
      obtain ⟨_, _, h₀, e⟩ := Proc.bind_eq_ok e
      cases h₀
      obtain ⟨crc, c₁, h₁, e⟩ := Proc.bind_eq_ok e
      obtain ⟨_, c₂, h₂, e⟩ := Proc.bind_eq_ok e
      obtain ⟨_, c₃, h₃, e⟩ := Proc.bind_eq_ok e
      refine (irDyn_wholeWords hw hm h₁ h₂ h₃ (irDynCheck_moves _ _ _) (keepsShape_irDynCheck _ _ _)).of_keeps ?_ e
      exact .bind (.update fun _ => rfl) fun _ => .pure
    | udp =>
      obtain ⟨_, _, h₀, e⟩ := Proc.bind_eq_ok e
      cases h₀
      obtain ⟨crc, c₁, h₁, e⟩ := Proc.bind_eq_ok e
      obtain ⟨_, c₂, h₂, e⟩ := Proc.bind_eq_ok e
      obtain ⟨_, c₃, h₃, e⟩ := Proc.bind_eq_ok e
      refine (irDyn_wholeWords hw hm h₁ h₂ h₃ (irDynCheck_moves _ _ _) (keepsShape_irDynCheck _ _ _)).of_keeps ?_ e
      exact .bind .u16 fun _ => .bind (.update fun _ => rfl) fun _ => .pure
    | udpLite =>
      obtain ⟨_, _, h₀, e⟩ := Proc.bind_eq_ok e
      cases h₀
      obtain ⟨crc, c₁, h₁, e⟩ := Proc.bind_eq_ok e
      obtain ⟨_, c₂, h₂, e⟩ := Proc.bind_eq_ok e
      obtain ⟨_, c₃, h₃, e⟩ := Proc.bind_eq_ok e
      refine (irDyn_wholeWords hw hm h₁ h₂ h₃ (irDynCheck_moves _ _ _) (keepsShape_irDynCheck _ _ _)).of_keeps ?_ e
      exact .bind .u16 fun _ => .bind .u16 fun _ => .bind (.update fun _ => rfl) fun _ => .pure
    | rtp =>
      obtain ⟨_, _, h₀, e⟩ := Proc.bind_eq_ok e
      cases h₀
      obtain ⟨crc, c₁, h₁, e⟩ := Proc.bind_eq_ok e
      obtain ⟨_, c₂, h₂, e⟩ := Proc.bind_eq_ok e
      obtain ⟨_, c₃, h₃, e⟩ := Proc.bind_eq_ok e
      refine (irDyn_wholeWords hw hm h₁ h₂ h₃ (irDynRtpCheck_moves _ _ _ _)
        (keepsShape_irDynRtpCheck _ _ _ _)).of_keeps ?_ e
      exact .bind .u16 fun _ => .bind (.update fun _ => rfl) fun _ => .bind (keepsShape_readIrDynRtp _ _ _) fun _ =>
        .bind (.update fun _ => rfl) fun _ => .pure
    | rtpUdpLite =>
      obtain ⟨_, _, h₀, e⟩ := Proc.bind_eq_ok e
      cases h₀
      obtain ⟨crc, c₁, h₁, e⟩ := Proc.bind_eq_ok e
      obtain ⟨_, c₂, h₂, e⟩ := Proc.bind_eq_ok e
      obtain ⟨_, c₃, h₃, e⟩ := Proc.bind_eq_ok e
      refine (irDyn_wholeWords hw hm h₁ h₂ h₃ (irDynRtpCheck_moves _ _ _ _)
        (keepsShape_irDynRtpCheck _ _ _ _)).of_keeps ?_ e
      exact .bind .u16 fun _ => .bind .u16 fun _ => .bind (.update fun _ => rfl) fun _ =>
        .bind (keepsShape_readIrDynRtp _ _ _) fun _ => .bind (.update fun _ => rfl) fun _ => .pure
    | uncompressed => cases e
    | llaRtp => cases e
  · cases h

/-! ## Accepted units -/

namespace Frame

variable {f : Frame}

/-- The IPv4 options that a legacy reader finds in the unit are whole words. -/
def OptionsWhole (f : Frame) : Prop :=
  ∀ profile ∈ incomingProfile f.parsed.profileId,
    (f.parsed.type = .ir →
      ¬(hasStandard profile ∧
        (run (decodeIrStandard profile profile.octet (decoderPacket f.parsed)) (f.irContext profile)).isSome) →
      LegacyListWhole (decoderPacket f.parsed) (f.irContext profile) (legacyTransportLen profile)) ∧
    (f.parsed.type = .irDyn → IrDynListWhole (decoderPacket f.parsed) f.ctx)

instance (f : Frame) : Decidable f.OptionsWhole := inferInstanceAs (Decidable (∀ _ ∈ _, _))

/-- Only an IR is taken for one. -/
theorem type_of_kind_ir {live : Live} {profile : Profile} (h : f.kind live = .ir profile) (hp : profile ≠ .uncompressed) :
    f.parsed.type = .ir := by
  have hudp : f.udpPt0Kind ≠ .ir profile := by
    unfold udpPt0Kind
    split
    · split <;> nofun
    · nofun
  have hlast : f.inPlaceKind f.lastType f.preferPrivate = .ir profile := by
    unfold kind at h
    split_ifs at h
    · cases h
      exact absurd rfl hp
    · exact absurd h hudp
    · exact h
  have htype : f.lastType = .ir := by
    unfold inPlaceKind at hlast
    split at hlast
    · assumption
    · cases hlast
    · cases hlast
    · cases hlast
    · cases hlast
    · cases hlast
    · split at hlast <;> cases hlast
    · cases hlast
  rcases f.lastType_eq with e | e
  · rw [e] at htype
    cases htype
  · exact e.symm.trans htype

theorem incomingProfile_octet {id : UInt8} {profile : Profile} (h : incomingProfile id = some profile) :
    profile.octet = id ∧ profile ≠ .uncompressed := by
  unfold incomingProfile at h
  split_ifs at h with h₁ h₂ h₃ h₄ h₅ h₆
  all_goals
    cases h
    subst id
    exact ⟨by decide, by decide⟩

theorem irContext_wholeWords (h : f.ctx.WholeWords) (profile : Profile) : (f.irContext profile).WholeWords := by
  unfold irContext
  split
  · exact Nat.zero_mod 4
  · split
    · exact h
    · exact h

/-- What the sizes say about the words. -/
theorem wholeWords_of_sizes {a b : Context} (h : a.WholeWords) (e : b.sizes = a.sizes) : b.WholeWords := by
  unfold Context.WholeWords
  rw [show b.ipv4OptionsLen = a.ipv4OptionsLen from congrArg Sizes.ipv4OptionsLen e]
  exact h

theorem updateIpv4IdBehavior_wholeWords {ctx : Context} (h : ctx.WholeWords) (had : Bool) (id : UInt16) :
    (updateIpv4IdBehavior ctx had id).WholeWords := by
  unfold updateIpv4IdBehavior
  split
  · exact h
  · exact h

/-- **An accepted unit whose options are whole words leaves whole words.** -/
theorem Accepts.wholeWords {mid : Live} {ctx : Context} {octets : Bytes} (hwhole : f.OptionsWhole)
    (hb : f.before.WholeWords) (hctx : f.ctx.WholeWords) (h : f.Accepts (f.unitKind mid) ctx octets) :
    ctx.WholeWords := by
  generalize hk : f.unitKind mid = kind at h
  cases h with
  | normal => exact hctx
  | uncompressedIr => exact Nat.zero_mod 4
  | rtpPt0Crc7 _ _ reading => exact wholeWords_of_sizes hb (rtpPt0Crc7Reading_sizes reading)
  | espPt0Crc7 _ _ reading => exact wholeWords_of_sizes hb (espPt0Crc7Reading_sizes reading)
  | pt1SeqId _ reading => exact wholeWords_of_sizes hb (pt1SeqIdReading_sizes reading)
  | udpPt0Crc3 _ _ reading => exact wholeWords_of_sizes hb (udpPt0Reading_sizes reading)
  | udpChecked _ _ hprivate reading => exact wholeWords_of_sizes hb (checkedPrivateUdp_sizes hprivate reading)
  | espPt0Crc3 _ _ _ _ reading => exact wholeWords_of_sizes hb (espPt0Reading_sizes reading)
  | ipPt0Crc3 _ _ reading => exact wholeWords_of_sizes hb (ipPt0Reading_sizes reading)
  | rtpPt0Crc3 _ _ reading => exact wholeWords_of_sizes hctx (rtpPt0Reading_sizes reading)
  | ir _ incoming decoded =>
    have hlist := (hwhole _ incoming).1 (type_of_kind_ir hk (incomingProfile_octet incoming).2)
    exact wholeWords_of_sizes (decodeIrOf_wholeWords (irContext_wholeWords hctx _) hlist decoded) (irGates_sizes _ _)
  | irDyn _ type incoming decoded =>
    exact wholeWords_of_sizes (decodeIrDynOf_wholeWords hctx ((hwhole _ incoming).2 type) decoded) (irDynGates_sizes _ _)
  | privateFo octets unit _ decoded =>
    cases unit with
    | udp =>
      have hs := (decodeUdpFo_sizes f.packet).exec_eq decoded
      exact wholeWords_of_sizes hctx hs
    | ip =>
      have hs := (decodeIpFo_sizes f.packet).exec_eq decoded
      refine updateIpv4IdBehavior_wholeWords ?_ _ _
      exact wholeWords_of_sizes hctx hs
    | esp => exact wholeWords_of_sizes hctx ((decodeEspFo_sizes f.packet).exec_eq decoded)
    | udpLite => exact wholeWords_of_sizes hctx ((decodeUdpLiteFo_sizes f.packet).exec_eq decoded)
  | privateRtp _ _ decoded =>
    have hs := decodeFoRtp_sizes decoded
    exact wholeWords_of_sizes hctx hs
  | pt0InPlace _ _ decoded => exact wholeWords_of_sizes hctx (decodePt0Unit_sizes decoded)

end Frame

/-! ## Runs -/

theorem wholeWords_callKeeps : CallKeeps Context.WholeWords where
  labels hk h := by
    unfold Context.WholeWords
    rw [hk.fields]
    exact h
  noHeader h := h

/-- The IPv4 options of the unit of a call are whole words. -/
def DecompHandle.OptionsWhole (handle : DecompHandle) (call : DecompCall) : Prop :=
  ∀ f ∈ handle.frame call, f.OptionsWhole

instance (handle : DecompHandle) (call : DecompCall) : Decidable (handle.OptionsWhole call) :=
  inferInstanceAs (Decidable (∀ _ ∈ _, _))

/-- In a run of such calls every context holds whole words. -/
theorem decomp_wholeWords {maxCid : Nat} {handle : DecompHandle} {labels : List (DecompCall × Option Acceptance)}
    (run : Reaches (decompMachine.Step DecompHandle.OptionsWhole) (.fresh maxCid) labels handle) :
    handle.core.contexts.All Context.WholeWords := by
  refine run.invariant (P := fun _ handle => handle.core.contexts.All Context.WholeWords) (.init (Nat.zero_mod 4)) ?_
  rintro labels handle ⟨call, acc⟩ handle' hall ⟨-, rfl, hok⟩
  exact wholeWords_callKeeps.call (fun hf _ hb hctx hacc => hacc.wholeWords (hok _ hf) hb hctx) hall

end Rohccxx
