import Rohccxx.DecompRuns

/-!
# Gates of the decompressor on the CRC-3 form

Two gates keep the four-bit CRC-3 PT-0 away. After an IR that changed the profile of a CID, units of the new profile wait
for another refresh of it (`no_crc3_while_held`): every path asks for the flag, the resolver of overlaps hands its units on
to one that does. After CRC-7 units, an IR retires the CRC-3 form of an ESP context; this mark is asked for in the fixed
path only, which a unit with an ICV or a context with IPv4 options goes around (`no_crc3_after_retirement`).
-/

set_option autoImplicit false

namespace Rohccxx

open Octets Runs

variable {handle handle' : DecompHandle} {call : DecompCall} {labels : List (DecompCall × Option Acceptance)}

/-! ## Replaced profiles -/

/-- An IR of profile `p` that changed the profile of an established nonzero CID. -/
def Acceptance.changesTo (a : Acceptance) (p : Profile) : Bool :=
  a.kind = .ir p && a.cid ≠ 0 && a.before.rohcState ≠ .noContext && a.before.profile ≠ p && profileUsesFormalPt0 p

/-- An IR or IR-DYN of profile `p` on a CID, and whether it changed the profile. -/
def refreshOn (cid : Nat) (p : Profile) (label : DecompCall × Option Acceptance) : Option Bool := do
  let a ← label.2
  if a.cid = cid ∧ (a.kind = .ir p ∨ a.kind = .irDyn p) then some (a.changesTo p) else none

/-- The last IR or IR-DYN of profile `p` on the CID is the IR that changed the profile. -/
def HeldFor (cid : Nat) (p : Profile) (labels : List (DecompCall × Option Acceptance)) : Prop :=
  lastOf (refreshOn cid p) labels = some true

/-- A context of a held profile refuses the CRC-3 form. -/
def Holding (labels : List (DecompCall × Option Acceptance)) (handle : DecompHandle) : Prop :=
  ∀ cid p ctx, handle.core.contexts.get cid = some ctx → HeldFor cid p labels → ctx.profile = p →
    ctx.rejectLegacyUdpPt0UntilRefresh = true

theorem refreshOn_of_ne {cid : Nat} {p : Profile} {a : Acceptance} (h : a.cid ≠ cid) :
    refreshOn cid p (call, some a) = none := by
  simp [refreshOn, h]

/-- Units other than refreshes of `p` do not show. -/
theorem refreshOn_other {cid : Nat} {p : Profile} {a : Acceptance} (h : ¬(a.kind = .ir p ∨ a.kind = .irDyn p)) :
    refreshOn cid p (call, some a) = none := by
  simp only [refreshOn, Option.bind_eq_bind, Option.bind_some]
  rw [if_neg (fun hc => h hc.2)]

theorem refreshOn_self {p : Profile} {a : Acceptance} (h : a.kind = .ir p ∨ a.kind = .irDyn p) :
    refreshOn a.cid p (call, some a) = some (a.changesTo p) := by
  simp only [refreshOn, Option.bind_eq_bind, Option.bind_some]
  rw [if_pos ⟨trivial, h⟩]

theorem Holding.stays {x y : Context} {cid : Nat} {p : Profile} {space : Bool} (hh : Holding labels handle)
    (hx : handle.core.contexts.get cid = some x) (h : Stays space x y) (held : HeldFor cid p labels)
    (hp : y.profile = p) : y.rejectLegacyUdpPt0UntilRefresh = true := by
  rw [reject_of_lasting h.lasting]
  exact hh cid p x hx held ((profile_of_lasting h.lasting).symm.trans hp)

/-- A unit accepted while its profile is held leaves the gate closed, or it is the change itself. -/
theorem AcceptStep.holding {a : Acceptance} {f : Frame} (h : AcceptStep handle call a handle'.core f)
    (hh : Holding labels handle) {p : Profile} (held : HeldFor a.cid p (labels ++ [(call, some a)]))
    (hp : a.ctx.profile = p) : a.ctx.rejectLegacyUdpPt0UntilRefresh = true := by
  obtain ⟨octets, hacc⟩ := h.accepts
  obtain ⟨x, hx, hstays⟩ := h.met
  by_cases hrefresh : a.kind = .ir p ∨ a.kind = .irDyn p
  · -- A refresh of the held profile can only be the change.
    rw [HeldFor, lastOf_snoc_some (refreshOn_self hrefresh)] at held
    have hch := Option.some.inj held
    simp only [Acceptance.changesTo, Bool.and_eq_true, decide_eq_true_eq] at hch
    obtain ⟨⟨⟨⟨hk, hcid⟩, hs⟩, hne⟩, hformal⟩ := hch
    rw [hk] at hacc
    rw [← h.before] at hs hne
    exact (hacc.of_ir h.regular).2.2.2.1 hs (by rw [h.cid]; exact hcid) hne hformal
  · rw [HeldFor, lastOf_snoc_none (refreshOn_other hrefresh)] at held
    have closed : f.before.profile = p → f.before.rejectLegacyUdpPt0UntilRefresh = true := by
      rw [h.before]
      exact hh.stays hx hstays held
    cases hkind : a.kind with
    | ir q =>
      rw [hkind] at hacc
      have hq : q = p := (hacc.of_ir h.regular).1.symm.trans hp
      exact absurd (.inl (hq ▸ hkind)) hrefresh
    | irDyn q =>
      rw [hkind] at hacc
      obtain ⟨hprofile, -, -, -, -, -, hrej, -, -⟩ := hacc.of_irDyn h.regular
      have hqp : q ≠ p := fun e => hrefresh (.inr (e ▸ hkind))
      -- Only the IR-DYN of RTP leaves the profile of another one in place.
      have hbefore : f.before.profile = p := by
        cases q with
        | rtp => exact hprofile.symm.trans hp
        | _ => exact absurd (hprofile.symm.trans hp) hqp
      rw [hrej (by rw [hbefore]; exact hqp.symm)]
      exact closed hbefore
    | _ =>
      have hc := hacc.compact h.regular (by rw [hkind]; rfl)
      rw [reject_of_lasting hc.lasting]
      exact closed ((profile_of_lasting hc.lasting).symm.trans hp)

theorem holding_step {ok : DecompHandle → DecompCall → Prop} {acc : Option Acceptance} (hh : Holding labels handle)
    (h : decompMachine.Step ok handle (call, acc) handle') : Holding (labels ++ [(call, acc)]) handle' := by
  rcases step_cases h with ⟨rfl, hq⟩ | ⟨a, f, rfl, ha⟩
  · intro cid p y hy held hp
    obtain ⟨x, hx, hstays⟩ := hq.contexts hy
    rw [HeldFor, lastOf_snoc_none rfl] at held
    exact hh.stays hx hstays held hp
  · intro cid p y hy held hp
    by_cases hc : cid = a.cid
    · subst hc
      obtain rfl : a.ctx = y := Option.some.inj (ha.left.symm.trans hy)
      exact ha.holding hh held hp
    · obtain ⟨x, hx, hstays⟩ := ha.others hc hy
      rw [HeldFor, lastOf_snoc_none (refreshOn_of_ne (Ne.symm hc))] at held
      exact hh.stays hx hstays held hp

/-- **Replacement gate.** After an IR that changed the profile of an established CID to a formal one, no CRC-3 PT-0 of the
new profile is accepted on the CID until another IR or IR-DYN of that profile has been. -/
theorem no_crc3_while_held {maxCid : Nat} {p : Profile} {a : Acceptance}
    (run : Reaches (decompMachine.Step fun _ _ => True) (.fresh maxCid) labels handle)
    (last : decompMachine.Step (fun _ _ => True) handle (call, some a) handle') (held : HeldFor a.cid p labels) :
    a.kind ≠ .pt0Crc3 p := by
  intro hkind
  have hh : Holding labels handle :=
    run.invariant (fun _ _ _ _ held => nomatch held) fun {_ _ _ _} hh h => holding_step hh h
  rcases step_cases last with ⟨h, -⟩ | ⟨a', f, h, ha⟩
  · cases h
  · cases h
    obtain ⟨octets, hacc⟩ := ha.accepts
    obtain ⟨x, hx, hstays⟩ := ha.met
    have hp := (hacc.compact ha.regular (by rw [hkind]; rfl)).profile
    rw [hkind] at hacc hp
    have hopen := (hacc.crc3 ha.regular).1
    rw [ha.before] at hopen hp
    rw [hh.stays hx hstays held hp] at hopen
    cases hopen

/-- An IR of an IP-only flow on CID 1. -/
def ipIrUnit : Bytes := [0xE1, 0xFD, 0x04, 22, 0x40, 59, 0, 0, 0, 1, 0, 0, 0, 2, 0, 0, 64, 0, 1, 0, 1]

/-- An IR of a UDP flow on CID 1. -/
def udpIrUnit₁ : Bytes :=
  [0xE1, 0xFD, 0x02, 15, 0x40, 17, 0, 0, 0, 1, 0, 0, 0, 2, 0, 0, 0, 0, 0, 0, 64, 0, 1, 0, 0, 0, 1, 0]

/-- A CRC-3 PT-0 of the IP-only flow, MSN 2, one octet of payload. -/
def ipPt0Unit : Bytes := [0xE1, 20, 7]

/-- A call with room for 100 octets. -/
def receive (unit : Bytes) : DecompCall := .decompress unit [] 100

theorem no_crc3_while_held_udp :
    ∃ a, decompMachine.obs (decompMachine.after (.fresh 15) [receive ipIrUnit, receive udpIrUnit₁]) (receive ipIrUnit) =
        some a ∧
      HeldFor a.cid .udp (decompMachine.trace (.fresh 15) [receive ipIrUnit, receive udpIrUnit₁]) ∧
      a.kind ≠ .pt0Crc3 .udp := by
  have hcid : (decompMachine.obs (decompMachine.after (.fresh 15) [receive ipIrUnit, receive udpIrUnit₁])
      (receive ipIrUnit)).map (·.cid) = some 1 := by decide +kernel
  obtain ⟨a, ha, hc⟩ := Option.map_eq_some_iff.mp hcid
  have held : HeldFor a.cid .udp (decompMachine.trace (.fresh 15) [receive ipIrUnit, receive udpIrUnit₁]) := by
    rw [hc]
    unfold HeldFor
    decide +kernel
  have run : Reaches (decompMachine.Step fun _ _ => True) (.fresh 15)
      (decompMachine.trace (.fresh 15) [receive ipIrUnit, receive udpIrUnit₁])
      (decompMachine.after (.fresh 15) [receive ipIrUnit, receive udpIrUnit₁]) :=
    Machine.reaches_trace ⟨trivial, trivial, trivial⟩
  exact ⟨a, ha, held, no_crc3_while_held run (Machine.step_of_obs ha trivial) held⟩

/-- The calls behind the next theorem: the CID goes from IP-only to UDP and back, and the way back is confirmed. -/
def backAndForth : List DecompCall := [receive ipIrUnit, receive udpIrUnit₁, receive ipIrUnit, receive ipIrUnit]

/-- **Units of a further profile are not held**: no other IR of UDP arrives, yet a CRC-3 PT-0 is accepted. -/
theorem crc3_of_further_profile :
    ¬∀ (maxCid : Nat) (labels : List (DecompCall × Option Acceptance)) (handle handle' : DecompHandle) (call : DecompCall)
      (a : Acceptance) (p q : Profile), Reaches (decompMachine.Step fun _ _ => True) (.fresh maxCid) labels handle →
      decompMachine.Step (fun _ _ => True) handle (call, some a) handle' → HeldFor a.cid p labels →
      a.kind ≠ .pt0Crc3 q := by
  intro h
  have hkind : (decompMachine.obs (decompMachine.after (.fresh 15) backAndForth) (receive ipPt0Unit)).map
      (fun a => (a.cid, a.kind)) = some (1, .pt0Crc3 .ip) := by decide +kernel
  obtain ⟨a, ha, hk⟩ := Option.map_eq_some_iff.mp hkind
  obtain ⟨hc, hk⟩ := Prod.mk.inj hk
  have held : HeldFor a.cid .udp (decompMachine.trace (.fresh 15) backAndForth) := by
    rw [hc]
    unfold HeldFor
    decide +kernel
  have run : Reaches (decompMachine.Step fun _ _ => True) (.fresh 15) (decompMachine.trace (.fresh 15) backAndForth)
      (decompMachine.after (.fresh 15) backAndForth) := Machine.reaches_trace ⟨trivial, trivial, trivial, trivial, trivial⟩
  exact h 15 _ _ _ _ a .udp .ip run (Machine.step_of_obs ha trivial) held hk

/-! ## Retirement of the CRC-3 form -/

/-- How far an ESP context has come: a CRC-7 unit accepted, then an IR. -/
inductive EspPhase where
  | plain
  | crc7Seen
  | retired
deriving DecidableEq, Repr

/-- The phase after one more label. A context that is no ESP context any more starts over. -/
def EspPhase.next (cid : Nat) (phase : EspPhase) (label : DecompCall × Option Acceptance) : EspPhase :=
  match label.2 with
  | none => phase
  | some a =>
    if a.cid ≠ cid then phase
    else if a.ctx.profile ≠ .esp then .plain
    else match phase, a.kind with
      | .plain, .pt0Crc7 .esp => .crc7Seen
      | .crc7Seen, .ir .esp => .retired
      | phase, _ => phase

def espPhase (cid : Nat) (labels : List (DecompCall × Option Acceptance)) : EspPhase :=
  labels.foldl (EspPhase.next cid) .plain

@[simp] theorem espPhase_snoc (cid : Nat) (label : DecompCall × Option Acceptance) :
    espPhase cid (labels ++ [label]) = (espPhase cid labels).next cid label := by
  simp [espPhase]

/-- The condition: a unit that starts with a 0 bit, as a CRC-3 PT-0 does, and meets an ESP context whose CRC-3 form is
retired came without ICV, and the context holds no IPv4 options. -/
def PlainWhenRetired (handle : DecompHandle) (call : DecompCall) : Prop :=
  ∀ f, handle.frame call = some f → f.before.profile = .esp → f.before.formalPt0Crc3Retired = true →
    readBits f.packet 0 1 = 0 → f.icv = [] ∧ f.before.ipv4OptionsLen = 0

instance (handle : DecompHandle) (call : DecompCall) : Decidable (PlainWhenRetired handle call) :=
  decidable_of_iff (∀ f ∈ handle.frame call, f.before.profile = .esp → f.before.formalPt0Crc3Retired = true →
    readBits f.packet 0 1 = 0 → f.icv = [] ∧ f.before.ipv4OptionsLen = 0) Iff.rfl

/-- The format of a CRC-3 PT-0. -/
theorem readBits_of_crc3 {base : Bytes} {baseLen : Nat} {profile : Profile} {formal : FormalCoBase}
    (h : readFormalCoBase base baseLen profile .pt0Crc3 = some formal) : readBits base 0 1 = 0 := by
  unfold readFormalCoBase at h
  by_contra hbit
  split at h
  · cases h
  · simp at h

/-- In a context whose CRC-3 form is retired only the last block takes a unit for a CRC-3 PT-0. -/
theorem Frame.Accepts.starts_zero {f : Frame} {ctx : Context} {octets : Bytes}
    (h : f.Accepts (.pt0Crc3 .esp) ctx octets) (retired : f.before.formalPt0Crc3Retired = true) :
    readBits f.packet 0 1 = 0 := by
  generalize hkind : UnitKind.pt0Crc3 .esp = kind at h
  cases h with
  | espPt0Crc3 unstaged noOptions aliased live reading =>
    unfold espPt0Reading at reading
    rw [if_pos retired] at reading
    cases reading
  | pt0InPlace octets takes decoded esp =>
    unfold decodePt0Unit pt0Crc3Msn at decoded
    split at decoded
    · cases decoded
    · simp only [Option.bind_eq_bind, Option.bind_eq_some_iff] at decoded
      obtain ⟨_, ⟨formal, hformal, -⟩, -⟩ := decoded
      exact readBits_of_crc3 hformal
  | _ => cases hkind

/-- What a context shows of its phase. -/
structure Shows (phase : EspPhase) (ctx : Context) : Prop where
  profile : phase ≠ .plain → ctx.profile = .esp
  state : phase ≠ .plain → ctx.rohcState ≠ .noContext
  seen : phase = .crc7Seen → ctx.formalPt0Crc7Seen = true
  retired : phase = .retired → ctx.formalPt0Crc3Retired = true

theorem Shows.plain (ctx : Context) : Shows .plain ctx :=
  ⟨fun h => absurd rfl h, fun h => absurd rfl h, nofun, nofun⟩

theorem Shows.stays {phase : EspPhase} {x y : Context} {space : Bool} (h : Shows phase x) (hs : Stays space x y) :
    Shows phase y where
  profile hp := (profile_of_lasting hs.lasting).trans (h.profile hp)
  state hp := by rw [hs.state]; exact h.state hp
  seen hp := hs.crc7.trans (h.seen hp)
  retired hp := (retired_of_lasting hs.lasting).trans (h.retired hp)

/-- Contexts show their phase, and a large-CID label is the handle's. -/
structure EspMarks (labels : List (DecompCall × Option Acceptance)) (handle : DecompHandle) : Prop where
  shows' : ∀ {cid ctx}, handle.core.contexts.get cid = some ctx → Shows (espPhase cid labels) ctx
  labelled : ∀ {cid ctx}, handle.core.contexts.get cid = some ctx → ctx.largeCid = true →
    handle.core.largeCidSpace = true

theorem espMarks_fresh (maxCid : Nat) : EspMarks [] (.fresh maxCid) := by
  refine ⟨fun {_ ctx} _ => .plain ctx, fun {cid ctx} hget hl => ?_⟩
  have hle : cid ≤ maxCid := ContextTable.get_isSome.mp (Option.isSome_iff_exists.mpr ⟨ctx, hget⟩)
  obtain rfl : ({} : Context) = ctx := Option.some.inj ((ContextTable.get_init hle).symm.trans hget)
  cases hl

/-- A unit that leaves an ESP context leaves the marks of its phase. -/
theorem AcceptStep.shows_same {a : Acceptance} {f : Frame} (h : AcceptStep handle call a handle'.core f)
    {phase : EspPhase} (hb : Shows phase f.before) (hp : a.ctx.profile = .esp) : Shows phase a.ctx := by
  obtain ⟨octets, hacc⟩ := h.accepts
  cases hkind : a.kind with
  | ir p =>
    rw [hkind] at hacc
    obtain ⟨hprofile, hstate, -, -, hmarks⟩ := hacc.of_ir h.regular
    have hesp : p = .esp := hprofile.symm.trans hp
    refine ⟨fun _ => hp, fun _ => hstate, fun e => ?_, fun e => ?_⟩
    · have hne : phase ≠ .plain := by simp [e]
      rw [(hmarks (hb.state hne) ((hb.profile hne).trans hesp.symm) hesp).1]
      exact hb.seen e
    · have hne : phase ≠ .plain := by simp [e]
      rw [(hmarks (hb.state hne) ((hb.profile hne).trans hesp.symm) hesp).2, hb.retired e, Bool.true_or]
  | irDyn p =>
    rw [hkind] at hacc
    obtain ⟨-, hstate, -, -, hseen, hretired, -, -, -⟩ := hacc.of_irDyn h.regular
    exact ⟨fun _ => hp, fun _ => hstate, fun e => hseen.trans (hb.seen e), fun e => hretired.trans (hb.retired e)⟩
  | _ =>
    have hc := hacc.compact h.regular (by rw [hkind]; rfl)
    exact ⟨fun _ => hp, fun _ => hc.stateAfter, fun e => by rw [hc.crc7, hb.seen e, Bool.true_or],
      fun e => (retired_of_lasting hc.lasting).trans (hb.retired e)⟩

theorem AcceptStep.shows {a : Acceptance} {f : Frame} (h : AcceptStep handle call a handle'.core f)
    {phase : EspPhase} (hb : Shows phase f.before) : Shows (phase.next a.cid (call, some a)) a.ctx := by
  unfold EspPhase.next
  simp only [ne_eq, not_true_eq_false, if_false]
  by_cases hp : a.ctx.profile = .esp
  · rw [if_neg (by simp [hp])]
    have same := h.shows_same hb hp
    obtain ⟨octets, hacc⟩ := h.accepts
    split
    · rename_i hkind
      have hc := hacc.compact h.regular (by rw [hkind]; rfl)
      exact ⟨fun _ => hp, fun _ => hc.stateAfter, fun _ => by simp [hc.crc7, hkind], nofun⟩
    · rename_i hkind
      rw [hkind] at hacc
      obtain ⟨-, hstate, -, -, hmarks⟩ := hacc.of_ir h.regular
      have hne : EspPhase.crc7Seen ≠ .plain := by decide
      refine ⟨fun _ => hp, fun _ => hstate, nofun, fun _ => ?_⟩
      rw [(hmarks (hb.state hne) (hb.profile hne) rfl).2, hb.seen rfl, Bool.or_true]
    · exact same
  · rw [if_pos hp]
    exact .plain a.ctx

theorem AcceptStep.largeCid {a : Acceptance} {f : Frame} (h : AcceptStep handle call a handle'.core f) :
    a.ctx.largeCid = handle.core.largeCidSpace ∨ a.ctx.largeCid = f.before.largeCid := by
  obtain ⟨octets, hacc⟩ := h.accepts
  cases hkind : a.kind with
  | ir p =>
    rw [hkind] at hacc
    exact .inl ((hacc.of_ir h.regular).2.2.1.trans h.space)
  | irDyn p =>
    rw [hkind] at hacc
    exact .inl ((hacc.of_irDyn h.regular).2.2.2.1.trans h.space)
  | _ =>
    rcases (hacc.compact h.regular (by rw [hkind]; rfl)).largeCid with e | e
    · exact .inr e
    · exact .inl (e.trans h.space)

theorem EspMarks.stays {x y : Context} {cid : Nat} (hm : EspMarks labels handle)
    (hx : handle.core.contexts.get cid = some x) (h : Stays handle.core.largeCidSpace x y) :
    Shows (espPhase cid labels) y ∧ (y.largeCid = true → handle.core.largeCidSpace = true) := by
  refine ⟨(hm.shows' hx).stays h, fun hl => ?_⟩
  rcases h.largeCid with e | e
  · exact e.symm.trans hl
  · exact hm.labelled hx (e.symm.trans hl)

theorem EspMarks.before {a : Acceptance} {f : Frame} (hm : EspMarks labels handle)
    (h : AcceptStep handle call a handle'.core f) :
    Shows (espPhase a.cid labels) f.before ∧ (f.before.largeCid = true → handle.core.largeCidSpace = true) := by
  obtain ⟨x, hx, hstays⟩ := h.met
  rw [h.before]
  exact hm.stays hx hstays

theorem espMarks_step {ok : DecompHandle → DecompCall → Prop} {acc : Option Acceptance} (hm : EspMarks labels handle)
    (h : decompMachine.Step ok handle (call, acc) handle') : EspMarks (labels ++ [(call, acc)]) handle' := by
  rcases step_cases h with ⟨rfl, hq⟩ | ⟨a, f, rfl, ha⟩
  · refine ⟨fun {cid y} hy => ?_, fun {cid y} hy hl => ?_⟩
    · obtain ⟨x, hx, hstays⟩ := hq.contexts hy
      rw [espPhase_snoc]
      exact (hm.stays hx hstays).1
    · obtain ⟨x, hx, hstays⟩ := hq.contexts hy
      exact hq.space.trans ((hm.stays hx hstays).2 hl)
  · obtain ⟨hb, hbl⟩ := hm.before ha
    refine ⟨fun {cid y} hy => ?_, fun {cid y} hy hl => ?_⟩
    · rw [espPhase_snoc]
      by_cases hc : cid = a.cid
      · subst hc
        obtain rfl : a.ctx = y := Option.some.inj (ha.left.symm.trans hy)
        exact ha.shows hb
      · obtain ⟨x, hx, hstays⟩ := ha.others hc hy
        have : (espPhase cid labels).next cid (call, some a) = espPhase cid labels := by
          simp [EspPhase.next, Ne.symm hc]
        rw [this]
        exact (hm.stays hx hstays).1
    · rw [ha.spaceAfter]
      by_cases hc : cid = a.cid
      · subst hc
        obtain rfl : a.ctx = y := Option.some.inj (ha.left.symm.trans hy)
        rcases ha.largeCid with e | e
        · exact e.symm.trans hl
        · exact hbl (e.symm.trans hl)
      · obtain ⟨x, hx, hstays⟩ := ha.others hc hy
        exact (hm.stays hx hstays).2 hl

/-- **Downgrade protection.** In a run in which no unit that starts like a CRC-3 PT-0 meets the retirement mark with an
ICV or in a context with IPv4 options, no CRC-3 PT-0 is accepted on a CID once its ESP context has seen a CRC-7 unit and
then an IR. -/
theorem no_crc3_after_retirement {maxCid : Nat} {a : Acceptance}
    (run : Reaches (decompMachine.Step PlainWhenRetired) (.fresh maxCid) labels handle)
    (last : decompMachine.Step PlainWhenRetired handle (call, some a) handle')
    (hphase : espPhase a.cid labels = .retired) (p : Profile) : a.kind ≠ .pt0Crc3 p := by
  intro hkind
  have hm : EspMarks labels handle :=
    run.invariant (espMarks_fresh maxCid) fun {_ _ _ _} hm h => espMarks_step hm h
  rcases step_cases last with ⟨h, -⟩ | ⟨a', f, h, ha⟩
  · cases h
  · cases h
    obtain ⟨octets, hacc⟩ := ha.accepts
    obtain ⟨hb, hbl⟩ := hm.before ha
    have hesp : f.before.profile = .esp := hb.profile (by simp [hphase])
    have hret := hb.retired hphase
    have hp := (hacc.compact ha.regular (by rw [hkind]; rfl)).profile
    rw [hkind] at hacc hp
    obtain rfl : p = .esp := hp.symm.trans hesp
    obtain ⟨hspace, hway⟩ := (hacc.crc3 ha.regular).2 rfl hret
    obtain ⟨hicv, hopt⟩ := last.2.2 f ha.frame hesp hret (hacc.starts_zero hret)
    rcases hway with hst | hopt' | hl
    · simp [Frame.staged, hicv] at hst
    · exact hopt' hopt
    · have := ha.space.trans (hbl hl)
      rw [hspace] at this
      cases this

/-- ESP units on CID 0: two IRs, CRC-7 units with MSN 2 and 3, and a CRC-3 unit with MSN 3 whose last octet is an ICV. -/
def espIrUnit₁ : Bytes :=
  [0xFD, 0x03, 54, 0x40, 50, 0, 0, 0, 1, 0, 0, 0, 2, 0, 0, 0, 5, 0, 0, 64, 0, 1, 0, 0, 0, 1, 0]

def espIrUnit₂ : Bytes :=
  [0xFD, 0x03, 216, 0x40, 50, 0, 0, 0, 1, 0, 0, 0, 2, 0, 0, 0, 5, 0, 0, 64, 0, 2, 0, 0, 0, 2, 0]

def espCrc7Unit₂ : Bytes := [129, 12, 7]

def espCrc7Unit₃ : Bytes := [129, 153, 7]

def espCrc3Unit₃ : Bytes := [28, 7, 15]

/-- A context is opened, used with the CRC-7 form and refreshed. -/
def espRetired : List DecompCall := [receive espIrUnit₁, receive espCrc7Unit₂, receive espIrUnit₂]

theorem no_crc3_after_retirement_crc7 :
    ∃ a, decompMachine.obs (decompMachine.after (.fresh 15) espRetired) (receive espCrc7Unit₃) = some a ∧
      espPhase a.cid (decompMachine.trace (.fresh 15) espRetired) = .retired ∧ ∀ p, a.kind ≠ .pt0Crc3 p := by
  have hcid : (decompMachine.obs (decompMachine.after (.fresh 15) espRetired) (receive espCrc7Unit₃)).map (·.cid) =
      some 0 := by decide +kernel
  obtain ⟨a, ha, hc⟩ := Option.map_eq_some_iff.mp hcid
  have hphase : espPhase a.cid (decompMachine.trace (.fresh 15) espRetired) = .retired := by
    rw [hc]
    decide +kernel
  have run : Reaches (decompMachine.Step PlainWhenRetired) (.fresh 15) (decompMachine.trace (.fresh 15) espRetired)
      (decompMachine.after (.fresh 15) espRetired) :=
    Machine.reaches_trace (by decide +kernel)
  exact ⟨a, ha, hphase,
    fun p => no_crc3_after_retirement run (Machine.step_of_obs ha (by decide +kernel)) hphase p⟩

/-- The same with integrity switched on before the last unit. -/
def espRetiredKeyed : List DecompCall := espRetired ++ [.setRohcoipsecIntegrity .hmacSha256 [1] 1]

/-- **With an ICV the mark is not asked for**: the CRC-3 unit is accepted. -/
theorem crc3_accepted_after_retirement :
    ¬∀ (maxCid : Nat) (labels : List (DecompCall × Option Acceptance)) (handle handle' : DecompHandle) (call : DecompCall)
      (a : Acceptance) (p : Profile), Reaches (decompMachine.Step fun _ _ => True) (.fresh maxCid) labels handle →
      decompMachine.Step (fun _ _ => True) handle (call, some a) handle' → espPhase a.cid labels = .retired →
      a.kind ≠ .pt0Crc3 p := by
  intro h
  have hkind : (decompMachine.obs (decompMachine.after (.fresh 15) espRetiredKeyed) (receive espCrc3Unit₃)).map
      (fun a => (a.cid, a.kind)) = some (0, .pt0Crc3 .esp) := by decide +kernel
  obtain ⟨a, ha, hk⟩ := Option.map_eq_some_iff.mp hkind
  obtain ⟨hc, hk⟩ := Prod.mk.inj hk
  have hphase : espPhase a.cid (decompMachine.trace (.fresh 15) espRetiredKeyed) = .retired := by
    rw [hc]
    decide +kernel
  have run : Reaches (decompMachine.Step fun _ _ => True) (.fresh 15) (decompMachine.trace (.fresh 15) espRetiredKeyed)
      (decompMachine.after (.fresh 15) espRetiredKeyed) :=
    Machine.reaches_trace ⟨trivial, trivial, trivial, trivial, trivial⟩
  exact h 15 _ _ _ _ a .esp run (Machine.step_of_obs ha trivial) hphase hk

end Rohccxx
