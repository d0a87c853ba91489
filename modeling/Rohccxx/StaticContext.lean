import Rohccxx.DecompRuns

/-!
# Dynamic-only units and the static context

IR-DYN, private and formal compact units carry no static fields. Private and formal units look at state and profile of the
context they meet; the IR-DYN path does not, so an IR-DYN can open a context that no IR has filled, or turn the context of
another profile into its own. In runs in which every IR-DYN meets a live context of its profile, each such unit is backed
by an IR: the last one accepted on the CID was of the unit's profile and gave the static fields (`static_backed`).
-/

set_option autoImplicit false

namespace Rohccxx

open Octets Runs

/-- The profile and the static fields of an IR accepted on a CID. -/
def irOn (cid : Nat) (label : DecompCall × Option Acceptance) : Option (Profile × Statics) := do
  let a ← label.2
  if a.cid = cid then
    match a.kind with
    | .ir p => some (p, a.ctx.statics)
    | _ => none
  else none

/-- The last IR accepted on a CID. -/
def lastIr (cid : Nat) (labels : List (DecompCall × Option Acceptance)) : Option (Profile × Statics) :=
  lastOf (irOn cid) labels

/-- The condition: if the unit of the call is an IR-DYN, its context is live and of the profile it names. -/
def IrDynFits (handle : DecompHandle) (call : DecompCall) : Prop :=
  ∀ f, handle.frame call = some f → f.parsed.type = .irDyn →
    f.before.rohcState ≠ .noContext ∧ Frame.incomingProfile f.parsed.profileId = some f.before.profile

instance (handle : DecompHandle) (call : DecompCall) : Decidable (IrDynFits handle call) :=
  decidable_of_iff (∀ f ∈ handle.frame call, f.parsed.type = .irDyn → f.before.rohcState ≠ .noContext ∧
    Frame.incomingProfile f.parsed.profileId = some f.before.profile) Iff.rfl

/-- Every live context was filled by the last IR on its CID. -/
def Backed (labels : List (DecompCall × Option Acceptance)) (handle : DecompHandle) : Prop :=
  ∀ cid ctx, handle.core.contexts.get cid = some ctx → ctx.rohcState ≠ .noContext →
    lastIr cid labels = some (ctx.profile, ctx.statics)

theorem backed_fresh (maxCid : Nat) : Backed [] (.fresh maxCid) := by
  intro cid ctx hget hs
  have hle : cid ≤ maxCid := ContextTable.get_isSome.mp (Option.isSome_iff_exists.mpr ⟨ctx, hget⟩)
  obtain rfl : ({} : Context) = ctx := Option.some.inj ((ContextTable.get_init hle).symm.trans hget)
  exact absurd rfl hs

theorem irOn_quiet (cid : Nat) (call : DecompCall) : irOn cid (call, none) = none := rfl

theorem irOn_of_ne {cid : Nat} {call : DecompCall} {a : Acceptance} (h : a.cid ≠ cid) : irOn cid (call, some a) = none := by
  simp [irOn, h]

theorem irOn_of_not_ir {cid : Nat} {call : DecompCall} {a : Acceptance} (h : ∀ p, a.kind ≠ .ir p) :
    irOn cid (call, some a) = none := by
  cases hkind : a.kind with
  | ir p => exact absurd hkind (h p)
  | _ => simp [irOn, hkind]

theorem irOn_ir {call : DecompCall} {a : Acceptance} {p : Profile} (h : a.kind = .ir p) :
    irOn a.cid (call, some a) = some (p, a.ctx.statics) := by
  simp [irOn, h]

section Step

variable {handle handle' : DecompHandle} {call : DecompCall} {labels : List (DecompCall × Option Acceptance)}

/-- A context left alone stays backed. -/
theorem Backed.stays {x y : Context} {cid : Nat} {space : Bool} (hb : Backed labels handle)
    (hx : handle.core.contexts.get cid = some x) (h : Stays space x y) (hs : y.rohcState ≠ .noContext) :
    lastIr cid labels = some (y.profile, y.statics) := by
  rw [hb cid x hx (by rw [← h.state]; exact hs), profile_of_lasting h.lasting, statics_of_lasting h.lasting]

/-- **A unit that is no IR is backed** by the last IR: of its profile, with its static fields. -/
theorem AcceptStep.backed {a : Acceptance} {f : Frame} (h : AcceptStep handle call a handle'.core f)
    (hb : Backed labels handle) (hfit : IrDynFits handle call) (hk : ∀ p, a.kind ≠ .ir p) :
    lastIr a.cid labels = some (a.kind.profile, a.ctx.statics) ∧ a.ctx.profile = a.kind.profile := by
  obtain ⟨octets, hacc⟩ := h.accepts
  obtain ⟨x, hx, hstays⟩ := h.met
  by_cases hdyn : ∃ p, a.kind = .irDyn p
  · obtain ⟨p, hp⟩ := hdyn
    rw [hp] at hacc
    obtain ⟨hprofile, -, hst, -, -, -, -, hin, htype⟩ := hacc.of_irDyn h.regular
    obtain ⟨hs, hsame⟩ := hfit f h.frame htype
    have hpp : f.before.profile = p := Option.some.inj (hsame.symm.trans hin)
    have hafter : a.ctx.profile = p := by
      rw [hprofile, hpp]
      cases p <;> rfl
    rw [h.before] at hs hpp hst
    rw [hb.stays hx hstays hs, hp, hst, hpp]
    exact ⟨rfl, hafter⟩
  · have hcompact : a.kind.compact = true := by
      cases hkind : a.kind with
      | ir p => exact absurd hkind (hk p)
      | irDyn p => exact absurd ⟨p, hkind⟩ hdyn
      | _ => rfl
    have hc := hacc.compact h.regular hcompact
    have hs := hc.state
    have hp := hc.profile
    have hl := hc.lasting
    rw [h.before] at hs hp hl
    rw [hb.stays hx hstays hs, hp, statics_of_lasting hl]
    exact ⟨rfl, (profile_of_lasting hl).trans hp⟩

/-- One step. -/
theorem backed_step {acc : Option Acceptance} (hb : Backed labels handle)
    (h : decompMachine.Step IrDynFits handle (call, acc) handle') : Backed (labels ++ [(call, acc)]) handle' := by
  rcases step_cases h with ⟨rfl, hq⟩ | ⟨a, f, rfl, ha⟩
  · intro cid y hy hs
    obtain ⟨x, hx, hstays⟩ := hq.contexts hy
    rw [lastIr, lastOf_snoc_none (irOn_quiet cid call)]
    exact hb.stays hx hstays hs
  · intro cid y hy hs
    by_cases hc : cid = a.cid
    · subst hc
      obtain rfl : a.ctx = y := Option.some.inj (ha.left.symm.trans hy)
      by_cases hir : ∃ p, a.kind = .ir p
      · obtain ⟨p, hp⟩ := hir
        obtain ⟨octets, hacc⟩ := ha.accepts
        rw [hp] at hacc
        rw [lastIr, lastOf_snoc_some (irOn_ir hp), (hacc.of_ir ha.regular).1]
      · have hk : ∀ p, a.kind ≠ .ir p := fun p hp => hir ⟨p, hp⟩
        obtain ⟨hlast, hprofile⟩ := ha.backed hb h.2.2 hk
        rw [lastIr, lastOf_snoc_none (irOn_of_not_ir hk), hprofile]
        exact hlast
    · obtain ⟨x, hx, hstays⟩ := ha.others hc hy
      rw [lastIr, lastOf_snoc_none (irOn_of_ne (Ne.symm hc))]
      exact hb.stays hx hstays hs

end Step

/-- Whole runs. -/
theorem backed_of_reaches {maxCid : Nat} {labels : List (DecompCall × Option Acceptance)} {handle : DecompHandle}
    (run : Reaches (decompMachine.Step IrDynFits) (.fresh maxCid) labels handle) : Backed labels handle :=
  run.invariant (backed_fresh maxCid) fun {_ _ _ _} hb h => backed_step hb h

/-- **Dynamic-only units need a static context.** In a run whose IR-DYNs all meet a live context of their profile, a unit
that is no IR follows an IR of its own profile, the last IR accepted on its CID, and its static fields are those of that
IR. -/
theorem static_backed {maxCid : Nat} {labels : List (DecompCall × Option Acceptance)} {handle handle' : DecompHandle}
    {call : DecompCall} {a : Acceptance} (run : Reaches (decompMachine.Step IrDynFits) (.fresh maxCid) labels handle)
    (last : decompMachine.Step IrDynFits handle (call, some a) handle') (hk : ∀ p, a.kind ≠ .ir p) :
    lastIr a.cid labels = some (a.kind.profile, a.ctx.statics) := by
  rcases step_cases last with ⟨h, -⟩ | ⟨a', f, h, ha⟩
  · cases h
  · cases h
    exact (ha.backed (backed_of_reaches run) last.2.2 hk).1

/-- An IR of a UDP flow on CID 0, one octet of payload. -/
def udpIrUnit : Bytes :=
  [0xFD, 0x02, 166, 0x40, 17, 10, 0, 0, 1, 10, 0, 0, 2, 3, 232, 7, 208, 6, 0, 64, 0, 1, 0, 0, 0, 1, 0, 7]

/-- A UDP IR-DYN for CID 0, one octet of payload. -/
def udpIrDynUnit : Bytes := [0xF8, 0x02, 159, 0, 64, 0, 1, 0, 0, 0, 0, 9]

theorem static_backed_udp :
    ∃ a, decompMachine.obs (decompMachine.next (.fresh 15) (.decompress udpIrUnit [] 100)) (.decompress udpIrDynUnit [] 100) =
        some a ∧ a.kind = .irDyn .udp ∧
      lastIr a.cid [(.decompress udpIrUnit [] 100, decompMachine.obs (.fresh 15) (.decompress udpIrUnit [] 100))] =
        some (a.kind.profile, a.ctx.statics) := by
  have hkind : (decompMachine.obs (decompMachine.next (.fresh 15) (.decompress udpIrUnit [] 100))
      (.decompress udpIrDynUnit [] 100)).map (·.kind) = some (.irDyn .udp) := by decide +kernel
  obtain ⟨a, ha, hk⟩ := Option.map_eq_some_iff.mp hkind
  have fits : IrDynFits (.fresh 15) (.decompress udpIrUnit [] 100) := by decide +kernel
  have fits' : IrDynFits (decompMachine.next (.fresh 15) (.decompress udpIrUnit [] 100)) (.decompress udpIrDynUnit [] 100) := by
    decide +kernel
  exact ⟨a, ha, hk, static_backed (.snoc .start (Machine.step_of_obs rfl fits)) (Machine.step_of_obs ha fits') (by simp [hk])⟩

/-- **Without the condition it fails**: a fresh handle takes an IR-DYN as its first unit. -/
theorem irDyn_opens_context :
    ¬∀ (maxCid : Nat) (labels : List (DecompCall × Option Acceptance)) (handle handle' : DecompHandle) (call : DecompCall)
      (a : Acceptance), Reaches (decompMachine.Step fun _ _ => True) (.fresh maxCid) labels handle →
      decompMachine.Step (fun _ _ => True) handle (call, some a) handle' → (∀ p, a.kind ≠ .ir p) →
      ∃ statics, lastIr a.cid labels = some (a.kind.profile, statics) := by
  intro h
  have hkind : (decompMachine.obs (.fresh 15) (.decompress udpIrDynUnit [] 100)).map (·.kind) = some (.irDyn .udp) := by
    decide +kernel
  obtain ⟨a, ha, hk⟩ := Option.map_eq_some_iff.mp hkind
  obtain ⟨statics, hs⟩ := h 15 [] _ _ _ a .start (Machine.step_of_obs ha trivial) (by simp [hk])
  cases hs

end Rohccxx
