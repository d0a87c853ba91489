import Rohccxx.Lasting
import Rohccxx.Lla
import Rohccxx.Lib.Runs

/-!
# Runs of a decompressor

A handle and every call that can change it, in any order (`decompMachine`). A label says which call was made and what it
accepted (`Acceptance`). `step_cases` is the one place where the calls are told apart: a call accepted one unit
(`AcceptStep`), or it left every context as it was, labels and the advance of a no-header packet apart (`QuietStep`).
-/

set_option autoImplicit false

namespace Rohccxx

open Octets Runs

/-! ## The handle and its calls -/

/-- `rohc_decomp`: the decompressor and its contract with the assisting layer. -/
structure DecompHandle where
  core : Decompressor
  lla : Option LlaSettings := none

/-- `rohcoipsec_key_max`. -/
def rohcoipsecKeyMax : Nat := 128

/-- `configure_rohcoipsec`; `none` leaves the handle as it is. -/
def configureRohcoipsec (algorithm : IntegrityAlgorithm) (key : Bytes) (icvLen : Nat) : Option Integrity :=
  if key.length > rohcoipsecKeyMax then none
  else if algorithm ≠ .none ∧ (digestLen algorithm = 0 ∨ icvLen = 0 ∨ icvLen > digestLen algorithm ∨ key = []) then none
  else some ⟨algorithm, key, if algorithm = .none then 0 else icvLen⟩

/-- The calls of a decompressor that can change it. -/
inductive DecompCall where
  | decompress (input out : Bytes) (cap : Nat)
  | receiveCsp (packet out : Bytes) (cap : Nat)
  | receiveNhp (cid : Nat) (payload out : Bytes) (cap : Nat)
  | receiveCcp (cid : Nat) (packet : Bytes)
  | reportLoss (cid : Nat)
  | reportResidualError (cid : Nat)
  | setMode (mode : Mode)
  | setMrru (mrru : Nat)
  | setContextRefreshAckEnabled (enabled : Bool)
  | setRohcoipsecIntegrity (algorithm : IntegrityAlgorithm) (key : Bytes) (icvLen : Nat)
  | enableLla (contract : AssistingLayerContract) (flow : ZeroByteFlow)

/-- A unit that was accepted: its CID, what it was decoded as, the context it met and the one it left. -/
structure Acceptance where
  cid : Nat
  kind : UnitKind
  before : Context
  ctx : Context

/-- What a call of `rohc_decompress4` accepts. -/
def accepted (decomp : Decompressor) (input out : Bytes) (cap : Nat) : Option Acceptance :=
  let ret := rohcDecompress4 decomp input out cap
  if ret.1 = 0 then do
    let (_, f, mid) ← decodedBy decomp input out cap
    let ctx ← ret.2.handle.contexts.get f.cid
    return ⟨f.cid, f.unitKind mid, f.before, ctx⟩
  else none

namespace DecompHandle

def withCore (handle : DecompHandle) (core : Decompressor) : DecompHandle := { handle with core := core }

/-- The handle after a call. -/
def call (handle : DecompHandle) : DecompCall → DecompHandle
  | .decompress input out cap => handle.withCore (rohcDecompress4 handle.core input out cap).2.handle
  | .receiveCsp packet out cap => handle.withCore (Rohccxx.receiveCsp handle.lla ⟨handle.core, out, cap⟩ packet).2.handle
  | .receiveNhp cid payload out cap =>
    handle.withCore (Rohccxx.receiveNhp handle.lla ⟨handle.core, out, cap⟩ cid payload).2.handle
  | .receiveCcp cid packet => handle.withCore (Rohccxx.receiveCcp handle.lla handle.core cid packet).2
  | .reportLoss cid =>
    if handle.lla.any (·.contract.reportsLoss) then handle.withCore (handle.core.setFeedback cid .nack) else handle
  | .reportResidualError cid =>
    if handle.lla.any (·.contract.reportsResidualErrors) then handle.withCore (handle.core.setFeedback cid .staticNack)
    else handle
  | .setMode mode => handle.withCore (handle.core.setMode mode)
  | .setMrru mrru => handle.withCore ((handle.core.setMrru mrru).getD handle.core)
  | .setContextRefreshAckEnabled enabled =>
    handle.withCore { handle.core with acknowledgeContextRefresh := enabled }
  | .setRohcoipsecIntegrity algorithm key icvLen =>
    handle.withCore { handle.core with integrity := (configureRohcoipsec algorithm key icvLen).or handle.core.integrity }
  | .enableLla contract flow => { handle with lla := (enableRfc4362Lla contract flow).or handle.lla }

/-- What a call accepts. -/
def accepts (handle : DecompHandle) : DecompCall → Option Acceptance
  | .decompress input out cap => accepted handle.core input out cap
  | .receiveCsp packet out cap =>
    if (Rohccxx.receiveCsp handle.lla ⟨handle.core, out, cap⟩ packet).1 = 0 then
      accepted handle.core (packet.drop 3) out cap
    else none
  | _ => none

/-- The frame that the unit of a call meets. -/
def frame (handle : DecompHandle) : DecompCall → Option Frame
  | .decompress input out cap => (decodedBy handle.core input out cap).map (·.2.1)
  | .receiveCsp packet out cap => (decodedBy handle.core (packet.drop 3) out cap).map (·.2.1)
  | _ => none

end DecompHandle

/-- The decompressor as a machine; a label carries what the call accepted. -/
def decompMachine : Machine DecompHandle DecompCall (Option Acceptance) := ⟨DecompHandle.call, DecompHandle.accepts⟩

/-- A fresh handle with CIDs up to `maxCid`. -/
def DecompHandle.fresh (maxCid : Nat) : DecompHandle :=
  { core := { contexts := .init maxCid, largeCidSpace := maxCid > Cid.smallCidMax } }

/-! ## What a call does to the contexts -/

/-- A context left alone: relabelled, or advanced by a no-header packet. -/
structure Stays (space : Bool) (a b : Context) : Prop where
  lasting : b.lasting = a.lasting
  state : b.rohcState = a.rohcState
  crc7 : b.formalPt0Crc7Seen = a.formalPt0Crc7Seen
  largeCid : b.largeCid = space ∨ b.largeCid = a.largeCid
  options : b.ipv4OptionsLen = a.ipv4OptionsLen

namespace Stays

variable {space : Bool} {a b c : Context}

theorem refl (a : Context) : Stays space a a := ⟨rfl, rfl, rfl, .inr rfl, rfl⟩

theorem trans (hab : Stays space a b) (hbc : Stays space b c) : Stays space a c where
  lasting := hbc.lasting.trans hab.lasting
  state := hbc.state.trans hab.state
  crc7 := hbc.crc7.trans hab.crc7
  largeCid := by
    rcases hbc.largeCid with e | e
    · exact .inl e
    · rw [e]
      exact hab.largeCid
  options := hbc.options.trans hab.options

theorem of_keeps (h : KeepsContext a b) (hl : b.largeCid = space ∨ b.largeCid = a.largeCid) : Stays space a b := by
  have e := h.fields
  exact ⟨by rw [e]; rfl, by rw [e], by rw [e], hl, by rw [e]⟩

theorem of_advance (ctx : Context) : Stays space ctx (advanceNoHeader ctx) := ⟨rfl, rfl, rfl, .inr rfl, rfl⟩

end Stays

/-- Every context of `b` is one of `a` left alone. -/
structure Quiet (a b : Decompressor) : Prop where
  space : b.largeCidSpace = a.largeCidSpace
  contexts : ∀ {cid y}, b.contexts.get cid = some y →
    ∃ x, a.contexts.get cid = some x ∧ Stays a.largeCidSpace x y

namespace Quiet

variable {a b c : Decompressor}

theorem of_contexts (hs : b.largeCidSpace = a.largeCidSpace) (h : b.contexts = a.contexts) : Quiet a b :=
  ⟨hs, fun {_ y} hy => ⟨y, h ▸ hy, .refl y⟩⟩

theorem trans (hab : Quiet a b) (hbc : Quiet b c) : Quiet a c where
  space := hbc.space.trans hab.space
  contexts hz := by
    obtain ⟨y, hy, hyz⟩ := hbc.contexts hz
    obtain ⟨x, hx, hxy⟩ := hab.contexts hy
    exact ⟨x, hx, hxy.trans (hab.space ▸ hyz)⟩

theorem of_spared {base after : Live} (h : Spared base after) : Quiet base.handle after.handle where
  space := h.settings.largeCidSpace
  contexts {cid y} hy := by
    obtain ⟨x, hx, hkeep⟩ := h.found hy
    refine ⟨x, hx, .of_keeps hkeep ?_⟩
    rcases h.labels cid y hy with e | ⟨x', hx', e⟩
    · exact .inl (congrArg Prod.snd e)
    · obtain rfl : x = x' := Option.some.inj (hx.symm.trans hx')
      exact .inr (congrArg Prod.snd e)

end Quiet

/-- A unit was accepted. -/
structure AcceptStep (handle : DecompHandle) (call : DecompCall) (a : Acceptance) (after : Decompressor) (f : Frame) :
    Prop where
  frame : handle.frame call = some f
  cid : f.cid = a.cid
  before : f.before = a.before
  regular : f.Regular
  space : f.largeCidSpace = handle.core.largeCidSpace
  accepts : ∃ octets, f.Accepts a.kind a.ctx octets
  met : ∃ x, handle.core.contexts.get a.cid = some x ∧ Stays handle.core.largeCidSpace x a.before
  left : after.contexts.get a.cid = some a.ctx
  spaceAfter : after.largeCidSpace = handle.core.largeCidSpace
  others : ∀ {cid y}, cid ≠ a.cid → after.contexts.get cid = some y →
    ∃ x, handle.core.contexts.get cid = some x ∧ Stays handle.core.largeCidSpace x y

/-- What `rohc_decompress4` does when it returns 0. -/
theorem accepted_of_zero {decomp : Decompressor} {input out : Bytes} {cap : Nat}
    (h : (rohcDecompress4 decomp input out cap).1 = 0) :
    ∃ unit f mid ctx octets, Decoding decomp input out cap unit f mid ctx octets ∧
      (rohcDecompress4 decomp input out cap).2.handle.contexts.get f.cid = some ctx ∧
      accepted decomp input out cap = some ⟨f.cid, f.unitKind mid, f.before, ctx⟩ := by
  obtain ⟨unit, f, mid, ctx, octets, d⟩ := rohcDecompress4_zero h
  have hget : (rohcDecompress4 decomp input out cap).2.handle.contexts.get f.cid = some ctx := by
    rw [d.delivered.contexts]
    exact ContextTable.get_set_self (by rw [d.meets.context]; rfl)
  refine ⟨unit, f, mid, ctx, octets, d, hget, ?_⟩
  simp only [accepted, h, if_true, d.decoded, Option.bind_eq_bind, Option.bind_some, hget, Option.pure_def]

theorem accepted_of_ne_zero {decomp : Decompressor} {input out : Bytes} {cap : Nat}
    (h : (rohcDecompress4 decomp input out cap).1 ≠ 0) : accepted decomp input out cap = none := by
  simp [accepted, h]

/-- Either a call of `rohc_decompress4` accepted a unit or it was quiet. -/
theorem decompress_cases {handle : DecompHandle} {call : DecompCall} {input out : Bytes} {cap : Nat}
    (hframe : handle.frame call = (decodedBy handle.core input out cap).map (·.2.1)) :
    (accepted handle.core input out cap = none ∧
        Quiet handle.core (rohcDecompress4 handle.core input out cap).2.handle) ∨
      ∃ a f, accepted handle.core input out cap = some a ∧
        AcceptStep handle call a (rohcDecompress4 handle.core input out cap).2.handle f := by
  by_cases h : (rohcDecompress4 handle.core input out cap).1 = 0
  · obtain ⟨unit, f, mid, ctx, octets, d, hget, hacc⟩ := accepted_of_zero h
    have hquiet := Quiet.of_spared d.spared
    refine .inr ⟨_, f, hacc, ?_⟩
    exact {
      frame := by rw [hframe, d.decoded]; rfl
      cid := rfl
      before := rfl
      regular := d.meets.regular
      space := d.meets.largeCidSpace.trans hquiet.space
      accepts := ⟨octets, d.accepts⟩
      met := hquiet.contexts d.meets.context
      left := hget
      spaceAfter := d.delivered.settings.largeCidSpace.trans hquiet.space
      others := fun hne hy => by
        rw [d.delivered.contexts, ContextTable.get_set_of_ne (Ne.symm hne)] at hy
        exact hquiet.contexts hy }
  · exact .inl ⟨accepted_of_ne_zero h, .of_spared (decompressNested_preserves _ _ _ h)⟩

theorem receiveNhp_quiet (lla : Option LlaSettings) (live : Live) (cid : Nat) (payload : Bytes) :
    Quiet live.handle (receiveNhp lla live cid payload).2.handle := by
  have refl : Quiet live.handle live.handle := .of_contexts rfl rfl
  unfold receiveNhp
  split
  · exact refl
  · split
    · exact refl
    · split
      · exact refl
      · rename_i ctx hget
        split
        · exact refl
        · have advanced : Quiet live.handle (live.setCtx cid (advanceNoHeader ctx)).handle := by
            refine ⟨rfl, fun {cid' y} hy => ?_⟩
            by_cases hc : cid = cid'
            · subst hc
              rw [Live.setCtx, ContextTable.get_set_self (by rw [hget]; rfl)] at hy
              cases hy
              exact ⟨ctx, hget, .of_advance ctx⟩
            · rw [Live.setCtx, ContextTable.get_set_of_ne hc] at hy
              exact ⟨y, hy, .refl y⟩
          dsimp only
          split
          · exact advanced.trans (.of_contexts rfl rfl)
          · exact advanced.trans (.of_contexts rfl rfl)

/-- A check packet fills the feedback slot at most. -/
theorem receiveCcp_contexts (lla : Option LlaSettings) (decomp : Decompressor) (cid : Nat) (packet : Bytes) :
    (receiveCcp lla decomp cid packet).2.contexts = decomp.contexts ∧
      (receiveCcp lla decomp cid packet).2.largeCidSpace = decomp.largeCidSpace := by
  unfold receiveCcp
  split
  · exact ⟨rfl, rfl⟩
  · split
    · exact ⟨rfl, rfl⟩
    · split
      · exact ⟨rfl, rfl⟩
      · exact ⟨rfl, rfl⟩
      · split
        · exact ⟨rfl, rfl⟩
        · split
          · exact ⟨rfl, rfl⟩
          · split
            · exact ⟨rfl, rfl⟩
            · exact ⟨rfl, rfl⟩

theorem receiveCcp_quiet (lla : Option LlaSettings) (decomp : Decompressor) (cid : Nat) (packet : Bytes) :
    Quiet decomp (receiveCcp lla decomp cid packet).2 :=
  .of_contexts (receiveCcp_contexts lla decomp cid packet).2 (receiveCcp_contexts lla decomp cid packet).1

/-- A context synchronisation packet is refused, or its unit goes to `rohc_decompress4`. -/
theorem receiveCsp_cases {handle : DecompHandle} (packet out : Bytes) (cap : Nat) :
    (handle.accepts (.receiveCsp packet out cap) = none ∧
        Quiet handle.core (handle.call (.receiveCsp packet out cap)).core) ∨
      ∃ a f, handle.accepts (.receiveCsp packet out cap) = some a ∧
        AcceptStep handle (.receiveCsp packet out cap) a (handle.call (.receiveCsp packet out cap)).core f := by
  by_cases hgo : ∃ settings, handle.lla = some settings ∧
      canEmitContextSynchronizationPacket settings.contract = true ∧ ¬(packet.length < 4 ∨ u8At packet 0 ≠ 0xFA)
  · obtain ⟨settings, hl, hcan, hok⟩ := hgo
    have e : receiveCsp handle.lla ⟨handle.core, out, cap⟩ packet =
        rohcDecompress4 handle.core (packet.drop 3) out cap := by
      simp only [receiveCsp, hl, hcan, Bool.not_true, Bool.false_eq_true, if_false, if_neg hok]
    have hcall : (handle.call (.receiveCsp packet out cap)).core =
        (rohcDecompress4 handle.core (packet.drop 3) out cap).2.handle := by
      simp only [DecompHandle.call, DecompHandle.withCore, e]
    have hacc : handle.accepts (.receiveCsp packet out cap) = accepted handle.core (packet.drop 3) out cap := by
      simp only [DecompHandle.accepts, e]
      split
      · rfl
      · rename_i hn
        exact (accepted_of_ne_zero hn).symm
    rw [hcall, hacc]
    exact decompress_cases rfl
  · have e : (receiveCsp handle.lla ⟨handle.core, out, cap⟩ packet).1 ≠ 0 ∧
        Quiet handle.core (receiveCsp handle.lla ⟨handle.core, out, cap⟩ packet).2.handle := by
      unfold receiveCsp
      split
      · exact ⟨by simp, .of_contexts rfl rfl⟩
      · rename_i settings hl
        split
        · exact ⟨by simp, .of_contexts rfl rfl⟩
        · rename_i hcan
          split
          · exact ⟨by simp [Live.failWithFeedback], .of_contexts rfl rfl⟩
          · rename_i hok
            exact absurd ⟨settings, hl, by simpa using hcan, hok⟩ hgo
    exact .inl ⟨by simp [DecompHandle.accepts, e.1], e.2⟩

/-- **What a call can do**: it accepts one unit, or it is quiet. -/
theorem step_cases {ok : DecompHandle → DecompCall → Prop} {handle handle' : DecompHandle} {call : DecompCall}
    {acc : Option Acceptance} (h : decompMachine.Step ok handle (call, acc) handle') :
    (acc = none ∧ Quiet handle.core handle'.core) ∨
      ∃ a f, acc = some a ∧ AcceptStep handle call a handle'.core f := by
  obtain ⟨h₁, h₂, -⟩ := h
  dsimp only [decompMachine] at h₁ h₂
  subst h₁ h₂
  have same : ∀ {b : Decompressor}, b.largeCidSpace = handle.core.largeCidSpace → b.contexts = handle.core.contexts →
      Quiet handle.core b := Quiet.of_contexts
  cases call with
  | decompress input out cap => exact decompress_cases rfl
  | receiveCsp packet out cap => exact receiveCsp_cases packet out cap
  | receiveNhp cid payload out cap => exact .inl ⟨rfl, receiveNhp_quiet handle.lla ⟨handle.core, out, cap⟩ cid payload⟩
  | receiveCcp cid packet => exact .inl ⟨rfl, receiveCcp_quiet _ _ _ _⟩
  | reportLoss cid =>
    refine .inl ⟨rfl, ?_⟩
    simp only [DecompHandle.call]
    split
    · exact same rfl rfl
    · exact same rfl rfl
  | reportResidualError cid =>
    refine .inl ⟨rfl, ?_⟩
    simp only [DecompHandle.call]
    split
    · exact same rfl rfl
    · exact same rfl rfl
  | setMode mode => exact .inl ⟨rfl, same rfl rfl⟩
  | setMrru mrru =>
    refine .inl ⟨rfl, ?_⟩
    simp only [DecompHandle.call, DecompHandle.withCore, Decompressor.setMrru]
    split
    · exact same rfl rfl
    · exact same rfl rfl
  | setContextRefreshAckEnabled enabled => exact .inl ⟨rfl, same rfl rfl⟩
  | setRohcoipsecIntegrity algorithm key icvLen => exact .inl ⟨rfl, same rfl rfl⟩
  | enableLla contract flow => exact .inl ⟨rfl, same rfl rfl⟩

/-! ## A property of every context -/

/-- Every context of the table. -/
def ContextTable.All (P : Context → Prop) (tbl : ContextTable) : Prop := ∀ cid ctx, tbl.get cid = some ctx → P ctx

namespace ContextTable.All

variable {P : Context → Prop} {tbl : ContextTable}

theorem init {max : Nat} (h : P {}) : (ContextTable.init max).All P := by
  intro cid ctx hget
  have hle : cid ≤ max := ContextTable.get_isSome.mp (Option.isSome_of_eq_some hget)
  rw [ContextTable.get_init hle] at hget
  cases hget
  exact h

theorem set {cid : Nat} {ctx : Context} (h : tbl.All P) (hctx : P ctx) : (tbl.set cid ctx).All P := by
  intro cid' other hget
  by_cases hc : cid = cid'
  · subst hc
    have hsome : (tbl.get cid).isSome := by
      rw [ContextTable.get_isSome, ← ContextTable.maxCid_set tbl cid ctx, ← ContextTable.get_isSome, hget]
      rfl
    rw [ContextTable.get_set_self hsome] at hget
    cases hget
    exact hctx
  · rw [ContextTable.get_set_of_ne hc] at hget
    exact h cid' other hget

end ContextTable.All

/-- What relabelling and the advance of a no-header packet cannot spoil. -/
structure CallKeeps (P : Context → Prop) : Prop where
  labels : ∀ {a b : Context}, KeepsContext a b → P a → P b
  noHeader : ∀ {a : Context}, P a → P (advanceNoHeader a)

namespace CallKeeps

variable {P : Context → Prop} (hP : CallKeeps P)

include hP

theorem spared {base after : Live} (h : Spared base after) (hall : base.handle.contexts.All P) :
    after.handle.contexts.All P := by
  intro cid y hy
  obtain ⟨x, hx, hkeep⟩ := h.found hy
  exact hP.labels hkeep (hall cid x hx)

theorem decompress {decomp : Decompressor} {input out : Bytes} {cap : Nat}
    (haccept : ∀ {f : Frame} {mid : Live} {ctx : Context} {octets : Bytes},
      (decodedBy decomp input out cap).map (·.2.1) = some f → f.Regular → P f.before → P f.ctx →
        f.Accepts (f.unitKind mid) ctx octets → P ctx)
    (hall : decomp.contexts.All P) : (rohcDecompress4 decomp input out cap).2.handle.contexts.All P := by
  by_cases h : (rohcDecompress4 decomp input out cap).1 = 0
  · obtain ⟨unit, f, mid, ctx, octets, d⟩ := rohcDecompress4_zero h
    have hmid : mid.handle.contexts.All P := hP.spared d.spared hall
    have hbefore : P f.before := hmid f.cid f.before d.meets.context
    have hctx : P f.ctx := by
      rw [d.meets.labelled]
      exact hP.labels (.label mid.handle f.cid f.before) hbefore
    rw [d.delivered.contexts]
    exact hmid.set (haccept (by rw [d.decoded]; rfl) d.meets.regular hbefore hctx d.accepts)
  · exact hP.spared (decompressNested_preserves _ _ _ h) hall

/-- **The rule for a property of every context**: it is enough that accepted units keep it. -/
theorem call {handle : DecompHandle} {call : DecompCall}
    (haccept : ∀ {f : Frame} {mid : Live} {ctx : Context} {octets : Bytes}, handle.frame call = some f →
      f.Regular → P f.before → P f.ctx → f.Accepts (f.unitKind mid) ctx octets → P ctx)
    (hall : handle.core.contexts.All P) : (handle.call call).core.contexts.All P := by
  have same : ∀ {b : Decompressor}, b.contexts = handle.core.contexts → b.contexts.All P := fun h => h ▸ hall
  cases call with
  | decompress input out cap => exact hP.decompress haccept hall
  | receiveCsp packet out cap =>
    simp only [DecompHandle.call, DecompHandle.withCore]
    unfold receiveCsp
    split
    · exact hall
    · split
      · exact hall
      · split
        · exact same rfl
        · exact hP.decompress haccept hall
  | receiveNhp cid payload out cap =>
    simp only [DecompHandle.call, DecompHandle.withCore]
    unfold receiveNhp
    split
    · exact hall
    · split
      · exact hall
      · split
        · exact hall
        · rename_i ctx hget
          split
          · exact hall
          · have hset : (handle.core.contexts.set cid (advanceNoHeader ctx)).All P :=
              hall.set (hP.noHeader (hall cid ctx hget))
            dsimp only
            split
            · exact hset
            · exact hset
  | receiveCcp cid packet => exact same (receiveCcp_contexts handle.lla handle.core cid packet).1
  | reportLoss cid =>
    simp only [DecompHandle.call]
    split
    · exact same rfl
    · exact hall
  | reportResidualError cid =>
    simp only [DecompHandle.call]
    split
    · exact same rfl
    · exact hall
  | setMode mode => exact same rfl
  | setMrru mrru =>
    simp only [DecompHandle.call, DecompHandle.withCore, Decompressor.setMrru]
    split
    · exact hall
    · exact same rfl
  | setContextRefreshAckEnabled enabled => exact same rfl
  | setRohcoipsecIntegrity algorithm key icvLen => exact same rfl
  | enableLla contract flow => exact same rfl

end CallKeeps

end Rohccxx
