import Rohccxx.Compact
import Rohccxx.Windows

/-!
# Forward-only MSNs

A formal compact unit carries the low bits of its MSN, and the decompressor takes them for an MSN ahead of its own or
refuses the unit. Which MSNs those are depends on the reorder ratio; the sender's limit on PT-0 units without a
confirmation is the largest step that the four bits of a PT-0 still carry.
-/

set_option autoImplicit false

namespace Rohccxx

open Octets

/-- The offset leaves room in the interval. -/
theorem formalMsnOffset_lt {ratio : UInt8} {width p : Nat} (hwidth : 2 ≤ width)
    (h : formalMsnOffset ratio (2 ^ width) = some p) : p + 1 < 2 ^ width := by
  have hfour : 2 ^ 2 ≤ 2 ^ width := Nat.pow_le_pow_right (by decide) hwidth
  unfold formalMsnOffset at h
  split_ifs at h <;> cases h <;> omega

theorem formalMsnOffset_of_le {ratio : UInt8} (h : ratio ≤ 3) (range : Nat) : ∃ p, formalMsnOffset ratio range = some p := by
  have hcases : ratio = 0 ∨ ratio = 1 ∨ ratio = 2 ∨ ratio = 3 :=
    forall_octet (P := fun r => r ≤ 3 → r = 0 ∨ r = 1 ∨ r = 2 ∨ r = 3) (by decide) ratio h
  unfold formalMsnOffset
  rcases hcases with rfl | rfl | rfl | rfl <;> exact ⟨_, rfl⟩

/-- How far an MSN lies ahead, and the MSN that far ahead. -/
theorem msn_add_delta (msn v : UInt16) : v = msn + UInt16.ofNat (v - msn).toNat := by
  rw [UInt16.ofNat_toNat, UInt16.add_comm, UInt16.sub_add_cancel]

theorem toNat_msn_add_sub (msn : UInt16) {d : Nat} (h : d < 2 ^ 16) : (msn + UInt16.ofNat d - msn).toNat = d := by
  rw [UInt16.add_comm, UInt16.add_sub_cancel, UInt16.toNat_ofNat_of_lt' h]

/-- **Forward decoding.** The low bits are taken for an MSN at most `2^width - 1 - p` ahead, whenever there is one. -/
theorem decodeForwardFormalMsn_iff {ctx : Context} {width p : Nat} (hwidth : 2 ≤ width) (hlt : width < 16)
    (hp : formalMsnOffset ctx.reorderRatio (2 ^ width) = some p) (lsb v : UInt16) :
    decodeForwardFormalMsn ctx lsb width = some v ↔
      ∃ d, 1 ≤ d ∧ d ≤ 2 ^ width - 1 - p ∧ v = ctx.msn + UInt16.ofNat d ∧ lsb.toNat = v.toNat % 2 ^ width := by
  have hroom := formalMsnOffset_lt hwidth hp
  have hpow : 2 ^ width ≤ 2 ^ 15 := Nat.pow_le_pow_right (by decide) (by omega)
  unfold decodeForwardFormalMsn
  rw [if_neg (by omega), hp]
  constructor
  · intro h
    obtain ⟨u, hu, h⟩ := Option.bind_eq_some_iff.mp (show (decodeLsbWithP _ _ _ p 16).bind _ = _ from h)
    dsimp only at h
    split at h
    · rename_i hdelta
      cases h
      obtain ⟨hvalid, hin, hlow⟩ := (decodeLsbWithP_eq_some_iff _).mp hu
      refine ⟨_, hdelta.1, hdelta.2, msn_add_delta _ _, ?_⟩
      rw [UInt16.toNat_ofNat_of_lt' hin.lt, hlow]
    · cases h
  · rintro ⟨d, hpos, hle, rfl, hlow⟩
    have hd := toNat_msn_add_sub ctx.msn (show d < 2 ^ 16 by omega)
    have hv := (ctx.msn + UInt16.ofNat d).toNat_lt
    have hm := ctx.msn.toNat_lt
    have hin : InLsbInterval width ctx.msn.toNat p 16 (ctx.msn + UInt16.ofNat d).toNat := by
      refine ⟨hv, ?_⟩
      rw [UInt16.toNat_sub] at hd
      have hnear : (((ctx.msn + UInt16.ofNat d).toNat : ℤ) - ctx.msn.toNat + p) % 2 ^ 16 = d + p := by omega
      rw [hnear]
      have : d + p < 2 ^ width := by omega
      exact_mod_cast this
    rw [hlow, Option.bind_eq_bind, Option.bind_some,
      decodeLsbWithP_of_mem (by omega) (by omega) (by decide) (by omega) hin, Option.bind_some]
    dsimp only
    rw [UInt16.ofNat_toNat, hd, if_pos ⟨hpos, hle⟩]
    rfl

/-- The table of the four-bit form holds the offsets of width 4. -/
theorem formalMsnOffset_four (ratio : UInt8) : formalMsnOffset ratio (2 ^ 4) =
    if ratio = 0 then some 1 else if ratio = 1 then some 3
      else if ratio = 2 then some 7 else if ratio = 3 then some 11 else none := rfl

/-- The four-bit form is the general one at width 4. -/
theorem decodeForwardFormalPt0Msn_eq_width (ctx : Context) (lsb : UInt16) :
    decodeForwardFormalPt0Msn ctx lsb = decodeForwardFormalMsn ctx lsb 4 := by
  unfold decodeForwardFormalPt0Msn decodeForwardFormalMsn
  rw [if_neg (by decide : ¬(4 < 2 ∨ 4 ≥ 16)), formalMsnOffset_four]
  by_cases hin : lsb > 0x0F
  · rw [if_pos hin]
    have hlarge : ∀ p, decodeLsbWithP lsb.toNat 4 ctx.msn.toNat p 16 = none := by
      intro p
      refine decodeLsbWithP_eq_none fun h => ?_
      have := h.bits
      rw [gt_iff_lt, UInt16.lt_iff_toNat_lt] at hin
      have h15 : (0x0F : UInt16).toNat = 15 := rfl
      omega
    symm
    simp only [hlarge, Option.bind_eq_bind, Option.bind_none]
    exact Option.bind_fun_none _
  · rw [if_neg hin]
    dsimp only
    split_ifs <;> rfl

/-- The limit is what the four bits leave room for. -/
theorem formalPt0ForwardLimit_eq {ctx : Context} {p : Nat} (hp : formalMsnOffset ctx.reorderRatio (2 ^ 4) = some p) :
    (formalPt0ForwardLimit ctx).toNat = 2 ^ 4 - 1 - p := by
  rw [formalMsnOffset_four] at hp
  unfold formalPt0ForwardLimit
  split_ifs at hp <;> cases hp
  · rw [if_pos ‹_›]
    rfl
  · rw [if_neg ‹_›, if_pos ‹_›]
    rfl
  · rw [if_neg ‹_›, if_neg ‹_›, if_pos ‹_›]
    rfl
  · rw [if_neg ‹_›, if_neg ‹_›, if_neg ‹_›, if_pos ‹_›]
    rfl

/-- The steps whose low four bits a PT-0 carries to a context. -/
def pt0Steps (ctx : Context) : Set Nat :=
  {d | d < 2 ^ 16 ∧ decodeForwardFormalPt0Msn ctx (UInt16.ofNat ((ctx.msn + UInt16.ofNat d).toNat % 2 ^ 4)) =
    some (ctx.msn + UInt16.ofNat d)}

/-- The limit of the sender is the largest of them. -/
theorem isGreatest_pt0Steps {ctx : Context} (h : ctx.reorderRatio ≤ 3) :
    IsGreatest (pt0Steps ctx) (formalPt0ForwardLimit ctx).toNat := by
  obtain ⟨p, hp⟩ := formalMsnOffset_of_le h (2 ^ 4)
  have hroom := formalMsnOffset_lt (by decide) hp
  rw [formalPt0ForwardLimit_eq hp]
  have hlow : ∀ v : UInt16, (UInt16.ofNat (v.toNat % 2 ^ 4)).toNat = v.toNat % 2 ^ 4 := by
    intro v
    rw [UInt16.toNat_ofNat']
    omega
  refine ⟨⟨by omega, ?_⟩, ?_⟩
  · rw [decodeForwardFormalPt0Msn_eq_width]
    exact (decodeForwardFormalMsn_iff (by decide) (by decide) hp _ _).mpr ⟨_, by omega, le_refl _, rfl, hlow _⟩
  · rintro d ⟨hd, hdec⟩
    rw [decodeForwardFormalPt0Msn_eq_width] at hdec
    obtain ⟨e, -, hle, heq, -⟩ := (decodeForwardFormalMsn_iff (by decide) (by decide) hp _ _).mp hdec
    have hde : d = e := by
      rw [← toNat_msn_add_sub ctx.msn hd, heq, toNat_msn_add_sub _ (by omega)]
    omega

/-- **Forward-only decoding.** For every context with a reorder ratio up to 3 and every width from 2 to 15, low bits are taken
for the MSN `d` ahead exactly when `d` is from 1 up to `2^width - 1 - p`; neither the own MSN nor an older one is ever
answered. The PT-0 form is that of width 4, and its largest step is the sender's limit. -/
theorem forward_msn (ctx : Context) :
    (∀ width lsb, ctx.reorderRatio ≤ 3 → 2 ≤ width → width ≤ 15 → ∃ p, formalMsnOffset ctx.reorderRatio (2 ^ width) = some p ∧
      ∀ v, decodeForwardFormalMsn ctx lsb width = some v ↔
        ∃ d, 1 ≤ d ∧ d ≤ 2 ^ width - 1 - p ∧ v = ctx.msn + UInt16.ofNat d ∧ lsb.toNat = v.toNat % 2 ^ width) ∧
    (∀ width lsb v, decodeForwardFormalMsn ctx lsb width = some v → v ≠ ctx.msn ∧ (v - ctx.msn).toNat < 2 ^ 15) ∧
    (∀ lsb, decodeForwardFormalPt0Msn ctx lsb = decodeForwardFormalMsn ctx lsb 4) ∧
    (ctx.reorderRatio ≤ 3 → IsGreatest (pt0Steps ctx) (formalPt0ForwardLimit ctx).toNat) := by
  refine ⟨fun width lsb hratio hwidth hlt => ?_, fun width lsb v h => ?_, decodeForwardFormalPt0Msn_eq_width ctx,
    isGreatest_pt0Steps⟩
  · obtain ⟨p, hp⟩ := formalMsnOffset_of_le hratio (2 ^ width)
    exact ⟨p, hp, decodeForwardFormalMsn_iff hwidth (by omega) hp lsb⟩
  · have hok : 2 ≤ width ∧ width < 16 ∧ ∃ p, formalMsnOffset ctx.reorderRatio (2 ^ width) = some p := by
      unfold decodeForwardFormalMsn at h
      split at h
      · cases h
      · obtain ⟨p, hp, -⟩ := Option.bind_eq_some_iff.mp h
        exact ⟨by omega, by omega, p, hp⟩
    obtain ⟨hwidth, hlt, p, hp⟩ := hok
    obtain ⟨d, hpos, hle, rfl, -⟩ := (decodeForwardFormalMsn_iff hwidth hlt hp lsb v).mp h
    have hpow : 2 ^ width ≤ 2 ^ 15 := Nat.pow_le_pow_right (by decide) (by omega)
    have hd := toNat_msn_add_sub ctx.msn (show d < 2 ^ 16 by omega)
    refine ⟨fun heq => ?_, by omega⟩
    rw [heq, UInt16.sub_self, UInt16.toNat_zero] at hd
    omega

/-- At the 16-bit wrap: with ratio 0 the four bits 0xE lead from 0 to 14, and not further. -/
theorem forward_msn_wrap : IsGreatest (pt0Steps { ({} : Context) with msn := 0 }) 14 ∧
    ∃ p, formalMsnOffset 0 (2 ^ 5) = some p ∧ ∀ v, decodeForwardFormalMsn { ({} : Context) with msn := 0xFFFE } 3 5 = some v ↔
      ∃ d, 1 ≤ d ∧ d ≤ 2 ^ 5 - 1 - p ∧ v = 0xFFFE + UInt16.ofNat d ∧ (3 : UInt16).toNat = v.toNat % 2 ^ 5 :=
  ⟨(forward_msn { ({} : Context) with msn := 0 }).2.2.2 (by decide),
    (forward_msn { ({} : Context) with msn := 0xFFFE }).1 5 3 (by decide) (by decide) (by decide)⟩

end Rohccxx
