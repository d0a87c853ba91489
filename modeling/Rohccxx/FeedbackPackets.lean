import Rohccxx.CompFeedback
import Mathlib.Data.List.Induction

/-!
# Feedback packets

`rohc_comp_deliver_feedback_packet` reads one element after the other and applies each before it reads the next
(`deliverFeedbackElements`). A call that fails at a malformed element therefore leaves behind what the elements in front
of it did (`foldl_takeFeedback`): nothing, only where their effects cancel out (`Cancels`).
-/

set_option autoImplicit false

namespace Rohccxx

open Octets

/-! ## The call -/

/-- The loop of `rohc_comp_deliver_feedback_packet`: an element takes effect as soon as it is read. The result is whether
one of them carried a mode or found its context, and nothing at a malformed element. -/
def deliverFeedbackElements : Nat → Compressor → Bytes → Bool → Option Bool × Compressor
  | 0, comp, _, delivered => (some delivered, comp)
  | fuel + 1, comp, input, delivered =>
    if input = [] ∨ !isFeedbackPacketStart (u8At input 0) then (some delivered, comp)
    else
      match readFeedbackPacket input with
      | none => (none, comp)
      | some (feedback, consumed) =>
        deliverFeedbackElements fuel (comp.takeFeedback feedback) (input.drop consumed)
          (delivered || (comp.contexts.get feedback.cid).isSome || feedback.mode.isSome)

/-- `rohc_comp_deliver_feedback_packet`. -/
def rohcCompDeliverFeedbackPacket (comp : Compressor) (packet : Bytes) : Int × Compressor :=
  if packet = [] then (-1, comp)
  else
    match deliverFeedbackElements packet.length comp packet false with
    | (none, comp) => (-1, comp)
    | (some delivered, comp) => (if delivered then 0 else -1, comp)

/-- The well-formed elements at the front of a packet. -/
def feedbackElements (packet : Bytes) : List Feedback := deliveredFeedback packet.length packet

/-- Behind the well-formed elements stands one that cannot be read. -/
def EndsMalformed (packet : Bytes) : Prop := skipFeedback packet.length packet = none

instance (packet : Bytes) : Decidable (EndsMalformed packet) := inferInstanceAs (Decidable (_ = none))

/-! ## The elements, one after the other -/

section Elements

variable {comp : Compressor} {fuel : Nat} {input : Bytes} {delivered : Bool}

/-- What the loop leaves behind, also when it stops at a malformed element. -/
theorem deliverFeedbackElements_snd (comp : Compressor) (fuel : Nat) (input : Bytes) (delivered : Bool) :
    (deliverFeedbackElements fuel comp input delivered).2 =
      (deliveredFeedback fuel input).foldl Compressor.takeFeedback comp := by
  induction fuel generalizing comp input delivered with
  | zero => rfl
  | succ fuel ih =>
    rw [deliverFeedbackElements, deliveredFeedback]
    split
    · rfl
    · cases readFeedbackPacket input with
      | none => rfl
      | some read => exact ih _ _ _

/-- The loop fails exactly at a malformed element. -/
theorem deliverFeedbackElements_eq_none (comp : Compressor) (fuel : Nat) (input : Bytes) (delivered : Bool) :
    (deliverFeedbackElements fuel comp input delivered).1 = none ↔ skipFeedback fuel input = none := by
  induction fuel generalizing comp input delivered with
  | zero => exact iff_of_false (Option.some_ne_none _) (Option.some_ne_none _)
  | succ fuel ih =>
    rw [deliverFeedbackElements, skipFeedback]
    split
    · exact iff_of_false (Option.some_ne_none _) (Option.some_ne_none _)
    · cases readFeedbackPacket input with
      | none => exact ⟨fun _ => rfl, fun _ => rfl⟩
      | some read => exact ih _ _ _

/-- An element without a mode whose context does not exist does nothing. -/
theorem takeFeedback_of_missing {feedback : Feedback} (hctx : comp.contexts.get feedback.cid = none)
    (hmode : feedback.mode = none) : comp.takeFeedback feedback = comp := by
  rw [Compressor.takeFeedback, hctx, hmode]
  rfl

/-- Where nothing counts as delivered, nothing happened. -/
theorem deliverFeedbackElements_of_some_false (h : (deliverFeedbackElements fuel comp input delivered).1 = some false) :
    delivered = false ∧ (deliverFeedbackElements fuel comp input delivered).2 = comp := by
  induction fuel generalizing comp input delivered with
  | zero => exact ⟨Option.some.inj h, rfl⟩
  | succ fuel ih =>
    rw [deliverFeedbackElements] at h ⊢
    split at h
    · rename_i hend
      rw [if_pos hend]
      exact ⟨Option.some.inj h, rfl⟩
    · rename_i hend
      rw [if_neg hend]
      cases hread : readFeedbackPacket input with
      | none =>
        rw [hread] at h
        exact nomatch h
      | some read =>
        rw [hread] at h
        obtain ⟨hor, hcomp⟩ := ih h
        simp only [Bool.or_eq_false_iff, Option.isSome_eq_false_iff, Option.isNone_iff_eq_none] at hor
        obtain ⟨⟨hdelivered, hctx⟩, hmode⟩ := hor
        exact ⟨hdelivered, hcomp.trans (takeFeedback_of_missing hctx hmode)⟩

end Elements

/-! ## What an element holds -/

/-- The mode of a body. -/
def readFeedbackMode (body : Bytes) : Option (Option Mode) :=
  if u8At body 0 &&& 0x20 ≠ 0 then (feedbackMode (u8At body 0 &&& 0x03)).map some else some none

/-- The options of a body, behind its second octet. -/
def readFeedbackTail (body : Bytes) : Option (List FeedbackOption) :=
  if u8At body 0 &&& 0x10 ≠ 0 then
    if (body.drop 2).length < 1 ∨ (body.drop 2).length - 1 ≠ (u8At (body.drop 2) 0).toNat then none
    else readFeedbackOptions (body.drop 2).length ((body.drop 2).drop 1) []
  else if body.drop 2 = [] then some [] else none

/-- A body is read part by part. -/
theorem readFeedbackBody_eq (cid : Nat) (body : Bytes) : readFeedbackBody cid body =
    if body.length < 2 then none
    else (feedbackTypeFromAckType ((u8At body 0 >>> 6) &&& 0x03)).bind fun type =>
      (readFeedbackMode body).bind fun mode => (readFeedbackTail body).bind fun options =>
        some { cid := cid, type := type, mode := mode, options := options } := by
  unfold readFeedbackBody readFeedbackMode readFeedbackTail
  split
  · rfl
  · dsimp only
    refine congrArg (Option.bind _) (funext fun type => ?_)
    generalize body.drop 2 = rest
    -- Both flags guard a part each, in either order of `if` and bind.
    by_cases hm : u8At body 0 &&& 0x20 ≠ 0
    · rw [if_pos hm, if_pos hm]
      refine congrArg (Option.bind _) (funext fun mode => ?_)
      split
      · split <;> rfl
      · split <;> rfl
    · rw [if_neg hm, if_neg hm]
      refine congrArg (Option.bind _) (funext fun mode => ?_)
      split
      · split <;> rfl
      · split <;> rfl

/-- What a reader makes of a body, its Add-CID octet first. -/
def readFeedbackAddCid (body : Bytes) : Option Feedback :=
  if u8At body 0 &&& 0xF0 = 0xE0 then
    if (u8At body 0 &&& 0x0F).toNat = 0 then none else readFeedbackBody (u8At body 0 &&& 0x0F).toNat (body.drop 1)
  else readFeedbackBody 0 body

/-- A reader takes the size and hands on the body. -/
theorem readFeedbackPacket_eq (input : Bytes) : readFeedbackPacket input =
    let code := u8At input 0 &&& 0x07
    let start := if code = 0 then 2 else 1
    let bodyLen := if code = 0 then (u8At input 1).toNat else code.toNat
    if input.length < 2 ∨ !isFeedbackPacketStart (u8At input 0) ∨ bodyLen = 0 ∨ input.length - start < bodyLen then none
    else (readFeedbackAddCid ((input.drop start).take bodyLen)).map fun feedback => (feedback, start + bodyLen) := by
  have hmap : ∀ (read : Option Feedback) (n : Nat),
      (read >>= fun feedback => pure (feedback, n)) = read.map fun feedback => (feedback, n) := fun read n => by
    cases read <;> rfl
  unfold readFeedbackPacket readFeedbackAddCid
  dsimp only
  generalize (if u8At input 0 &&& 0x07 = 0 then 2 else 1) = start
  generalize (if u8At input 0 &&& 0x07 = 0 then (u8At input 1).toNat else (u8At input 0 &&& 0x07).toNat) = bodyLen
  by_cases hstart : input.length < 2 ∨ (!isFeedbackPacketStart (u8At input 0)) = true
  · rw [if_pos hstart, if_pos (hstart.imp_right .inl)]
  by_cases hbody : bodyLen = 0 ∨ input.length - start < bodyLen
  · rw [if_neg hstart, if_pos hbody, if_pos (.inr (.inr hbody))]
  have hok : ¬ (input.length < 2 ∨ (!isFeedbackPacketStart (u8At input 0)) = true ∨ bodyLen = 0 ∨
      input.length - start < bodyLen) := by
    rw [← or_assoc]
    exact fun h => h.elim hstart hbody
  rw [if_neg hstart, if_neg hbody, if_neg hok]
  generalize (input.drop start).take bodyLen = body
  split
  · split
    · rfl
    · exact hmap _ _
  · exact hmap _ _

/-- An element of these packets names no transmission that it acknowledges. -/
theorem unconfirmed_of_readFeedbackPacket {input : Bytes} {feedback : Feedback} {consumed : Nat}
    (h : readFeedbackPacket input = some (feedback, consumed)) : feedback.acknowledgmentValid = false := by
  have hbody : ∀ {cid : Nat} {body : Bytes}, readFeedbackBody cid body = some feedback →
      feedback.acknowledgmentValid = false := by
    intro cid body hread
    rw [readFeedbackBody_eq] at hread
    simp only [Option.ite_none_left_eq_some, Option.bind_eq_some_iff, Option.some.injEq] at hread
    obtain ⟨-, type, -, mode, -, options, -, rfl⟩ := hread
    rfl
  have haddCid : ∀ {body : Bytes}, readFeedbackAddCid body = some feedback → feedback.acknowledgmentValid = false := by
    intro body hread
    unfold readFeedbackAddCid at hread
    split at hread
    · rw [Option.ite_none_left_eq_some] at hread
      exact hbody hread.2
    · exact hbody hread
  rw [readFeedbackPacket_eq] at h
  dsimp only at h
  rw [Option.ite_none_left_eq_some, Option.map_eq_some_iff] at h
  obtain ⟨-, made, hmade, heq⟩ := h
  obtain ⟨rfl, -⟩ := Prod.mk.inj heq
  exact haddCid hmade

theorem unconfirmed_feedbackElements {packet : Bytes} : ∀ e ∈ feedbackElements packet, e.acknowledgmentValid = false := by
  unfold feedbackElements
  generalize packet.length = fuel
  induction fuel generalizing packet with
  | zero => exact fun e he => nomatch he
  | succ fuel ih =>
    intro e he
    rw [deliveredFeedback] at he
    split at he
    · cases he
    · cases hread : readFeedbackPacket packet with
      | none =>
        rw [hread] at he
        cases he
      | some read =>
        rw [hread] at he
        rcases List.mem_cons.mp he with rfl | he
        · exact unconfirmed_of_readFeedbackPacket hread
        · exact ih e he

/-! ## Their effect on a whole -/

/-- One element changes the context of its CID only. -/
theorem get_takeFeedback (comp : Compressor) (feedback : Feedback) (cid : Nat) :
    (comp.takeFeedback feedback).contexts.get cid =
      (comp.contexts.get cid).map fun ctx => if feedback.cid = cid then applyFeedbackToContext ctx feedback else ctx := by
  rw [Compressor.takeFeedback]
  by_cases hcid : feedback.cid = cid
  · subst hcid
    simp only [if_true]
    cases hget : comp.contexts.get feedback.cid with
    | none => exact hget
    | some ctx => exact ContextTable.get_set_self (by rw [hget]; rfl)
  · simp only [if_neg hcid, Option.map_id']
    cases comp.contexts.get feedback.cid with
    | none => rfl
    | some ctx => exact ContextTable.get_set_of_ne hcid

/-- Each context takes the elements for its CID. -/
theorem get_foldl_takeFeedback (comp : Compressor) (es : List Feedback) (cid : Nat) :
    (es.foldl Compressor.takeFeedback comp).contexts.get cid =
      (comp.contexts.get cid).map fun ctx => (es.filter (·.cid = cid)).foldl applyFeedbackToContext ctx := by
  induction es generalizing comp with
  | nil => exact Option.map_id'.symm
  | cons e es ih =>
    rw [List.foldl_cons, ih, get_takeFeedback, Option.map_map]
    congr 1
    funext ctx
    by_cases hcid : e.cid = cid
    · rw [List.filter_cons_of_pos (by simpa using hcid), List.foldl_cons]
      simp only [Function.comp_apply, if_pos hcid]
    · rw [List.filter_cons_of_neg (by simpa using hcid)]
      simp only [Function.comp_apply, if_neg hcid]

theorem maxCid_foldl_takeFeedback (comp : Compressor) (es : List Feedback) :
    (es.foldl Compressor.takeFeedback comp).contexts.maxCid = comp.contexts.maxCid := by
  induction es generalizing comp with
  | nil => rfl
  | cons e es ih =>
    rw [List.foldl_cons, ih, Compressor.takeFeedback]
    cases comp.contexts.get e.cid with
    | none => rfl
    | some ctx => rfl

/-- The handle ends in the mode named last. -/
theorem mode_foldl_takeFeedback (comp : Compressor) (es : List Feedback) :
    (es.foldl Compressor.takeFeedback comp).mode = (es.filterMap (·.mode)).getLastD comp.mode := by
  induction es generalizing comp with
  | nil => rfl
  | cons e es ih =>
    rw [List.foldl_cons, ih, Compressor.takeFeedback]
    cases hmode : e.mode with
    | none => rw [List.filterMap_cons_none hmode]; rfl
    | some mode => rw [List.filterMap_cons_some hmode, List.getLastD_cons]; rfl

/-! ## What leads a context back

What a list of elements does to a context is told by their types, read from the newest back: `verdicts` says what each of
them comes to, `leftBy` what they leave behind. -/

/-- What an element comes to at its context. -/
inductive Verdict where
  | acknowledged
  | dynamicLost
  | contextLost
deriving DecidableEq, Repr

/-- The NACKs in a row at the newest end, in eight bits; where there is nothing else they count on from `count`. -/
def nackRun (count : UInt8) : List FeedbackType → UInt8
  | [] => count
  | .nack :: older => nackRun count older + 1
  | _ :: _ => 0

/-- A first NACK asks for the dynamic part, a second in a row for everything. -/
def verdict (run : UInt8) : FeedbackType → Verdict
  | .ack => .acknowledged
  | .staticNack => .contextLost
  | .nack => if run + 1 > 1 then .contextLost else .dynamicLost

def verdicts (count : UInt8) : List FeedbackType → List Verdict
  | [] => []
  | type :: older => verdict (nackRun count older) type :: verdicts count older

/-- The newest loss. -/
def lastLoss (newest : List Verdict) : Option Verdict := newest.find? (· ≠ .acknowledged)

/-- What came since the whole context was lost. -/
def sinceLost (newest : List Verdict) : List Verdict := newest.takeWhile (· ≠ .contextLost)

/-- Since then an acknowledgment came behind a loss of the dynamic part. -/
def Reacknowledged (newest : List Verdict) : Prop := [Verdict.acknowledged, .dynamicLost].Sublist (sinceLost newest)

instance (newest : List Verdict) : Decidable (Reacknowledged newest) := by
  unfold Reacknowledged
  infer_instance

section Verdicts

variable (older : List Verdict)

@[simp] theorem lastLoss_acknowledged : lastLoss (.acknowledged :: older) = lastLoss older := rfl

@[simp] theorem lastLoss_dynamicLost : lastLoss (.dynamicLost :: older) = some .dynamicLost := rfl

@[simp] theorem lastLoss_contextLost : lastLoss (.contextLost :: older) = some .contextLost := rfl

@[simp] theorem sinceLost_acknowledged : sinceLost (.acknowledged :: older) = .acknowledged :: sinceLost older := rfl

@[simp] theorem sinceLost_dynamicLost : sinceLost (.dynamicLost :: older) = .dynamicLost :: sinceLost older := rfl

@[simp] theorem sinceLost_contextLost : sinceLost (.contextLost :: older) = [] := rfl

/-- The newest loss is one of the dynamic part where one came since the context was lost. -/
theorem lastLoss_eq_dynamicLost : lastLoss older = some .dynamicLost ↔ .dynamicLost ∈ sinceLost older := by
  induction older with
  | nil => simp [lastLoss, sinceLost]
  | cons v older ih =>
    cases v with
    | acknowledged => simpa using ih
    | dynamicLost => simp
    | contextLost => simp

@[simp] theorem reacknowledged_acknowledged :
    Reacknowledged (.acknowledged :: older) ↔ lastLoss older = some .dynamicLost ∨ Reacknowledged older := by
  rw [lastLoss_eq_dynamicLost, Reacknowledged, sinceLost_acknowledged, List.cons_sublist_cons', List.singleton_sublist,
    Reacknowledged]
  simp [or_comm]

@[simp] theorem reacknowledged_dynamicLost : Reacknowledged (.dynamicLost :: older) ↔ Reacknowledged older := by
  rw [Reacknowledged, sinceLost_dynamicLost, List.cons_sublist_cons', Reacknowledged]
  simp

@[simp] theorem not_reacknowledged_contextLost : ¬ Reacknowledged (.contextLost :: older) := by
  simp [Reacknowledged]

variable {older}

theorem lastLoss_ne_none {v : Verdict} (hv : v ∈ older) (hne : v ≠ .acknowledged) : lastLoss older ≠ none := fun h => by
  simpa [hne] using List.find?_eq_none.mp h v hv

theorem lastLoss_ne_acknowledged : lastLoss older ≠ some .acknowledged := fun h => by
  simpa using List.find?_some h

/-- Both came, and the loss is the newest. -/
theorem Reacknowledged.spec (h : Reacknowledged older) :
    lastLoss older = some .dynamicLost ∧ .acknowledged ∈ older := by
  have hsince : ∀ v ∈ [Verdict.acknowledged, .dynamicLost], v ∈ sinceLost older := fun v hv => h.subset hv
  exact ⟨(lastLoss_eq_dynamicLost older).mpr (hsince _ (by simp)),
    (List.takeWhile_sublist _).subset (hsince _ (by simp))⟩

end Verdicts

/-- The types of the elements, newest first. -/
def newestTypes (es : List Feedback) : List FeedbackType := (es.map (·.type)).reverse

@[simp] theorem newestTypes_concat (es : List Feedback) (e : Feedback) :
    newestTypes (es ++ [e]) = e.type :: newestTypes es := by
  simp [newestTypes]

/-- The state behind the newest loss. -/
def stateLeft (state : RohcState) : Option Verdict → RohcState
  | some .dynamicLost => .staticEstablished
  | some .contextLost => .noContext
  | _ => state

def txCountLeft (txCount : UInt32) : Option Verdict → UInt32
  | some .dynamicLost => 1
  | some .contextLost => 0
  | _ => txCount

def staticLeft (ctx : Context) (newest : List Verdict) : Bool :=
  if .contextLost ∈ newest then !ctx.profileReplacementPending && decide (Reacknowledged newest)
  else ctx.staticAcked || !ctx.profileReplacementPending &&
    decide (Reacknowledged newest ∨ ctx.rohcState ≠ .noContext ∧ .acknowledged ∈ newest)

def dynamicLeft (ctx : Context) (newest : List Verdict) : Bool :=
  if lastLoss newest = none then
    ctx.dynamicAcked || !ctx.profileReplacementPending && decide (ctx.rohcState = .dynamicEstablished ∧ newest ≠ [])
  else false

/-- What the elements leave of a context. -/
def leftBy (ctx : Context) (es : List Feedback) : Context :=
  { ctx with
    mode := (es.filterMap (·.mode)).getLastD ctx.mode
    nackCount := nackRun ctx.nackCount (newestTypes es)
    rohcState := stateLeft ctx.rohcState (lastLoss (verdicts ctx.nackCount (newestTypes es)))
    txCount := txCountLeft ctx.txCount (lastLoss (verdicts ctx.nackCount (newestTypes es)))
    staticAcked := staticLeft ctx (verdicts ctx.nackCount (newestTypes es))
    dynamicAcked := dynamicLeft ctx (verdicts ctx.nackCount (newestTypes es)) }

section Left

variable {ctx : Context} {older : List Verdict} {es : List Feedback}

theorem staticLeft_acknowledged : staticLeft ctx (.acknowledged :: older) =
    if ctx.profileReplacementPending = false ∧ stateLeft ctx.rohcState (lastLoss older) ≠ .noContext then true
    else staticLeft ctx older := by
  cases hp : ctx.profileReplacementPending with
  | true => simp [staticLeft, hp]
  | false =>
    have hre : Reacknowledged older → lastLoss older = some .dynamicLost := fun h => h.spec.1
    cases hloss : lastLoss older with
    | none =>
      have hlost : .contextLost ∉ older := fun h => lastLoss_ne_none h nofun hloss
      have hnot : ¬ Reacknowledged older := fun h => nomatch hloss.symm.trans (hre h)
      by_cases hstate : ctx.rohcState = .noContext
      · simp [staticLeft, hp, hloss, hlost, hnot, stateLeft, hstate]
      · simp [staticLeft, hp, hloss, hlost, hnot, stateLeft, hstate]
    | some v =>
      cases v with
      | acknowledged => exact absurd hloss lastLoss_ne_acknowledged
      | dynamicLost => simp [staticLeft, hp, hloss, stateLeft]
      | contextLost =>
        have hlost : .contextLost ∈ older := List.mem_of_find?_eq_some hloss
        simp [staticLeft, hp, hloss, hlost, stateLeft]

theorem dynamicLeft_acknowledged : dynamicLeft ctx (.acknowledged :: older) =
    if ctx.profileReplacementPending = false ∧ stateLeft ctx.rohcState (lastLoss older) = .dynamicEstablished then true
    else dynamicLeft ctx older := by
  cases hloss : lastLoss older with
  | none =>
    by_cases hnow : ctx.profileReplacementPending = false ∧ ctx.rohcState = .dynamicEstablished
    · simp [dynamicLeft, hloss, stateLeft, hnow]
    · have hstate : stateLeft ctx.rohcState none = ctx.rohcState := rfl
      rw [hstate, if_neg hnow]
      simp only [not_and] at hnow
      cases hp : ctx.profileReplacementPending with
      | true => simp [dynamicLeft, hloss, hp]
      | false => simp [dynamicLeft, hloss, hnow hp]
  | some v =>
    cases v with
    | acknowledged => exact absurd hloss lastLoss_ne_acknowledged
    | dynamicLost => simp [dynamicLeft, hloss, stateLeft]
    | contextLost => simp [dynamicLeft, hloss, stateLeft]

@[simp] theorem staticLeft_dynamicLost : staticLeft ctx (.dynamicLost :: older) = staticLeft ctx older := by
  simp [staticLeft]

@[simp] theorem staticLeft_contextLost : staticLeft ctx (.contextLost :: older) = false := by simp [staticLeft]

@[simp] theorem dynamicLeft_dynamicLost : dynamicLeft ctx (.dynamicLost :: older) = false := rfl

@[simp] theorem dynamicLeft_contextLost : dynamicLeft ctx (.contextLost :: older) = false := rfl

/-- One more element. Elements of these packets name no revision, so none confirms a replacement. -/
theorem applyFeedbackToContext_leftBy {e : Feedback} (he : e.acknowledgmentValid = false) :
    applyFeedbackToContext (leftBy ctx es) e = leftBy ctx (es ++ [e]) := by
  have hmode : e.mode.getD (leftBy ctx es).mode = ((es ++ [e]).filterMap (·.mode)).getLastD ctx.mode := by
    rw [List.filterMap_append]
    cases hm : e.mode with
    | none => simp [leftBy, hm]
    | some mode => simp [hm]
  have hrun : (leftBy ctx es).nackCount = nackRun ctx.nackCount (newestTypes es) := rfl
  unfold applyFeedbackToContext
  rw [hmode]
  cases htype : e.type with
  | ack =>
    simp [acknowledge, he, leftBy, htype, nackRun, verdicts, verdict, staticLeft_acknowledged, dynamicLeft_acknowledged]
  | staticNack =>
    simp [dropContext, leftBy, htype, nackRun, verdicts, verdict, stateLeft, txCountLeft]
  | nack =>
    by_cases hdrop : nackRun ctx.nackCount (newestTypes es) + 1 > 1
    · simp [dropContext, leftBy, htype, nackRun, verdicts, verdict, hdrop, stateLeft, txCountLeft]
    · simp [leftBy, htype, nackRun, verdicts, verdict, hdrop, stateLeft, txCountLeft]

theorem foldl_applyFeedbackToContext (h : ∀ e ∈ es, e.acknowledgmentValid = false) :
    es.foldl applyFeedbackToContext ctx = leftBy ctx es := by
  induction es using List.reverseRecOn with
  | nil =>
    simp [leftBy, newestTypes, nackRun, verdicts, lastLoss, stateLeft, txCountLeft, staticLeft, dynamicLeft,
      Reacknowledged, sinceLost]
  | append_singleton es e ih =>
    rw [List.foldl_append, ih fun e he => h e (List.mem_append_left _ he)]
    exact applyFeedbackToContext_leftBy (h e (by simp))

end Left

/-- What the newest loss has to find: the state it leaves, or, without one, acknowledged what an ACK would acknowledge. -/
def Context.Shows (ctx : Context) : Option Verdict → Prop
  | some .dynamicLost => ctx.rohcState = .staticEstablished ∧ ctx.txCount = 1 ∧ ctx.dynamicAcked = false
  | some .contextLost => ctx.rohcState = .noContext ∧ ctx.txCount = 0 ∧ ctx.dynamicAcked = false
  | _ => ctx.profileReplacementPending = false → ctx.rohcState = .dynamicEstablished → ctx.dynamicAcked = true

/-- The elements lead a context back to what it is: the newest mode is its own, the NACKs in a row come to its count, and
losses and acknowledgments to its state. -/
structure LeadsBack (ctx : Context) (es : List Feedback) : Prop where
  mode : (es.filterMap (·.mode)).getLastD ctx.mode = ctx.mode
  nackCount : nackRun ctx.nackCount (newestTypes es) = ctx.nackCount
  shows : ctx.Shows (lastLoss (verdicts ctx.nackCount (newestTypes es)))
  lost : .contextLost ∈ verdicts ctx.nackCount (newestTypes es) →
    (ctx.staticAcked = true ↔
      ctx.profileReplacementPending = false ∧ Reacknowledged (verdicts ctx.nackCount (newestTypes es)))
  kept : .contextLost ∉ verdicts ctx.nackCount (newestTypes es) → .ack ∈ newestTypes es →
    ctx.profileReplacementPending = false → ctx.rohcState ≠ .noContext → ctx.staticAcked = true

theorem acknowledged_mem_verdicts (count : UInt8) (types : List FeedbackType) :
    .acknowledged ∈ verdicts count types ↔ .ack ∈ types := by
  induction types with
  | nil => simp [verdicts]
  | cons type older ih =>
    rw [verdicts, List.mem_cons, List.mem_cons, ih]
    refine or_congr_left ?_
    cases type with
    | ack => simp [verdict]
    | staticNack => simp [verdict]
    | nack =>
      rw [verdict]
      split <;> simp

section LeadsBack

variable {ctx : Context} {newest : List Verdict}

theorem shows_iff (hnil : newest ≠ []) : ctx.Shows (lastLoss newest) ↔
    stateLeft ctx.rohcState (lastLoss newest) = ctx.rohcState ∧
      txCountLeft ctx.txCount (lastLoss newest) = ctx.txCount ∧ dynamicLeft ctx newest = ctx.dynamicAcked := by
  unfold dynamicLeft
  cases hloss : lastLoss newest with
  | none =>
    rw [if_pos rfl]
    constructor
    · intro hshows
      refine ⟨rfl, rfl, ?_⟩
      cases hd : ctx.dynamicAcked with
      | true => rfl
      | false =>
        have hnot : ctx.profileReplacementPending = false → ¬ ctx.rohcState = .dynamicEstablished := fun hp hs =>
          nomatch hd.symm.trans (hshows hp hs)
        simpa [hnil] using hnot
    · rintro ⟨-, -, hdynamic⟩ hp hs
      simpa [hp, hs, hnil] using hdynamic
  | some v =>
    cases v with
    | acknowledged => exact absurd hloss lastLoss_ne_acknowledged
    | dynamicLost => exact ⟨fun h => ⟨h.1.symm, h.2.1.symm, h.2.2.symm⟩, fun h => ⟨h.1.symm, h.2.1.symm, h.2.2.symm⟩⟩
    | contextLost => exact ⟨fun h => ⟨h.1.symm, h.2.1.symm, h.2.2.symm⟩, fun h => ⟨h.1.symm, h.2.1.symm, h.2.2.symm⟩⟩

theorem staticLeft_eq_iff (hshows : ctx.Shows (lastLoss newest)) : staticLeft ctx newest = ctx.staticAcked ↔
    (.contextLost ∈ newest →
      (ctx.staticAcked = true ↔ ctx.profileReplacementPending = false ∧ Reacknowledged newest)) ∧
      (.contextLost ∉ newest → .acknowledged ∈ newest → ctx.profileReplacementPending = false →
        ctx.rohcState ≠ .noContext → ctx.staticAcked = true) := by
  unfold staticLeft
  by_cases hlost : .contextLost ∈ newest
  · rw [if_pos hlost, eq_comm, Bool.eq_iff_iff]
    simp [hlost]
  · rw [if_neg hlost]
    constructor
    · refine fun hstatic => ⟨fun h => absurd h hlost, fun _ hacked hp hthere => ?_⟩
      simpa [hp, hacked, hthere] using hstatic
    · rintro ⟨-, hkept⟩
      cases hs : ctx.staticAcked with
      | true => rfl
      | false =>
        have hnot : ctx.profileReplacementPending = false →
            ¬ (Reacknowledged newest ∨ ctx.rohcState ≠ .noContext ∧ .acknowledged ∈ newest) := by
          rintro hp (hre | ⟨hthere, hacked⟩)
          · obtain ⟨hloss, hacked⟩ := hre.spec
            rw [hloss] at hshows
            have hthere : ctx.rohcState ≠ .noContext := fun hno => nomatch hshows.1.symm.trans hno
            exact nomatch hs.symm.trans (hkept hlost hacked hp hthere)
          · exact nomatch hs.symm.trans (hkept hlost hacked hp hthere)
        simpa using hnot

theorem leftBy_eq_iff {es : List Feedback} (hne : es ≠ []) : leftBy ctx es = ctx ↔ LeadsBack ctx es := by
  have hnil : verdicts ctx.nackCount (newestTypes es) ≠ [] := by
    obtain ⟨front, last, rfl⟩ := (List.eq_nil_or_concat es).resolve_left hne
    simp [verdicts]
  have hacked := acknowledged_mem_verdicts ctx.nackCount (newestTypes es)
  constructor
  · intro h
    have hshows := (shows_iff hnil).mpr ⟨congrArg (fun s : Context => s.rohcState) h,
      congrArg (fun s : Context => s.txCount) h, congrArg (fun s : Context => s.dynamicAcked) h⟩
    obtain ⟨hlost, hkept⟩ := (staticLeft_eq_iff hshows).mp (congrArg (fun s : Context => s.staticAcked) h)
    exact ⟨congrArg (fun s : Context => s.mode) h, congrArg (fun s : Context => s.nackCount) h, hshows, hlost,
      fun hl ha => hkept hl (hacked.mpr ha)⟩
  · intro h
    obtain ⟨hstate, htx, hdynamic⟩ := (shows_iff hnil).mp h.shows
    have hstatic := (staticLeft_eq_iff h.shows).mpr ⟨h.lost, fun hl ha => h.kept hl (hacked.mp ha)⟩
    unfold leftBy
    rw [h.mode, h.nackCount, hstate, htx, hstatic, hdynamic]

end LeadsBack

/-- **Cancelling.** The last mode named is that of the handle, and the elements addressed to a context lead it back. -/
structure Cancels (comp : Compressor) (es : List Feedback) : Prop where
  mode : (es.filterMap (·.mode)).getLastD comp.mode = comp.mode
  contexts : ∀ {cid : Nat} {ctx : Context}, comp.contexts.get cid = some ctx →
    es.filter (·.cid = cid) = [] ∨ LeadsBack ctx (es.filter (·.cid = cid))

theorem cancels_nil (comp : Compressor) : Cancels comp [] := ⟨rfl, fun _ => .inl rfl⟩

/-- That is the case exactly where the handle is what it was. -/
theorem cancels_iff (comp : Compressor) {es : List Feedback} (hes : ∀ e ∈ es, e.acknowledgmentValid = false) :
    Cancels comp es ↔ (es.foldl Compressor.takeFeedback comp).mode = comp.mode ∧
      (es.foldl Compressor.takeFeedback comp).contexts = comp.contexts := by
  have hback : ∀ (cid : Nat) (ctx : Context), (es.filter (·.cid = cid) = [] ∨ LeadsBack ctx (es.filter (·.cid = cid))) ↔
      (es.filter (·.cid = cid)).foldl applyFeedbackToContext ctx = ctx := fun cid ctx => by
    by_cases hnil : es.filter (·.cid = cid) = []
    · exact iff_of_true (.inl hnil) (by rw [hnil]; rfl)
    · rw [foldl_applyFeedbackToContext fun e he => hes e (List.mem_of_mem_filter he), leftBy_eq_iff hnil]
      exact or_iff_right hnil
  constructor
  · intro h
    refine ⟨(mode_foldl_takeFeedback comp es).trans h.mode, ?_⟩
    refine ContextTable.ext_get (maxCid_foldl_takeFeedback comp es) fun cid => ?_
    rw [get_foldl_takeFeedback]
    cases hget : comp.contexts.get cid with
    | none => rfl
    | some ctx => exact congrArg some ((hback cid ctx).mp (h.contexts hget))
  · rintro ⟨hmode, hcontexts⟩
    refine ⟨(mode_foldl_takeFeedback comp es).symm.trans hmode, fun {cid ctx} hget => (hback cid ctx).mpr ?_⟩
    have hfold := get_foldl_takeFeedback comp es cid
    rw [hcontexts, hget] at hfold
    exact (Option.some.inj hfold).symm

/-! ## Atomicity -/

/-- A call that fails leaves the mode and the contexts as they are. -/
def DeliveryAtomic (comp : Compressor) (packet : Bytes) : Prop :=
  (rohcCompDeliverFeedbackPacket comp packet).1 = -1 →
    (rohcCompDeliverFeedbackPacket comp packet).2.mode = comp.mode ∧
      (rohcCompDeliverFeedbackPacket comp packet).2.contexts = comp.contexts

/-- Without a malformed element a call that fails has done nothing. -/
theorem deliveryAtomic_of_wellFormed {packet : Bytes} (comp : Compressor) (h : ¬ EndsMalformed packet) :
    DeliveryAtomic comp packet := by
  intro hret
  unfold rohcCompDeliverFeedbackPacket at hret ⊢
  split at hret
  · rename_i hnil
    rw [if_pos hnil]
    exact ⟨rfl, rfl⟩
  · rename_i hnil
    rw [if_neg hnil]
    cases hloop : deliverFeedbackElements packet.length comp packet false with
    | mk result after =>
      rw [hloop] at hret
      cases result with
      | none => exact absurd ((deliverFeedbackElements_eq_none _ _ _ _).mp (by rw [hloop])) h
      | some delivered =>
        cases delivered with
        | true => exact nomatch hret
        | false =>
          obtain ⟨-, hafter⟩ := deliverFeedbackElements_of_some_false (by rw [hloop])
          rw [hloop] at hafter
          exact ⟨congrArg Compressor.mode hafter, congrArg Compressor.contexts hafter⟩

/-- At a malformed element the call fails with the effects of those in front of it. -/
theorem rohcCompDeliverFeedbackPacket_of_malformed {packet : Bytes} (comp : Compressor) (h : EndsMalformed packet) :
    rohcCompDeliverFeedbackPacket comp packet = (-1, (feedbackElements packet).foldl Compressor.takeFeedback comp) := by
  have hnone := (deliverFeedbackElements_eq_none comp packet.length packet false).mpr h
  have hafter := deliverFeedbackElements_snd comp packet.length packet false
  have hnil : packet ≠ [] := by
    rintro rfl
    exact nomatch h
  rw [rohcCompDeliverFeedbackPacket, if_neg hnil, feedbackElements, ← hafter]
  cases hloop : deliverFeedbackElements packet.length comp packet false with
  | mk result after =>
    rw [hloop] at hnone
    obtain rfl : result = none := hnone
    rfl

/-- In a given state: only elements that cancel may stand in front of a malformed one. -/
theorem deliveryAtomic_iff (comp : Compressor) (packet : Bytes) :
    DeliveryAtomic comp packet ↔ (EndsMalformed packet → Cancels comp (feedbackElements packet)) := by
  constructor
  · intro h hend
    rw [DeliveryAtomic, rohcCompDeliverFeedbackPacket_of_malformed comp hend] at h
    exact (cancels_iff _ unconfirmed_feedbackElements).mpr (h rfl)
  · intro h
    by_cases hend : EndsMalformed packet
    · intro _
      rw [rohcCompDeliverFeedbackPacket_of_malformed comp hend]
      exact (cancels_iff _ unconfirmed_feedbackElements).mp (h hend)
    · exact deliveryAtomic_of_wellFormed comp hend

/-- An established context with a NACK counted. -/
def awaitsAck : Context := { rohcState := .dynamicEstablished, nackCount := 1 }

/-- Every element addressed to `cid` changes this handle. -/
def awaitsAckOn (cid : Nat) : Compressor :=
  { contexts := (ContextTable.init cid).set cid awaitsAck, largeCidSpace := cid > Cid.smallCidMax }

/-- Elements that cancel in every state are none. -/
theorem eq_nil_of_cancels {es : List Feedback} (h : ∀ comp, Cancels comp es) : es = [] := by
  cases es with
  | nil => rfl
  | cons e es =>
    exfalso
    have hget : (awaitsAckOn e.cid).contexts.get e.cid = some awaitsAck :=
      ContextTable.get_set_self (by rw [ContextTable.get_init (Nat.le_refl _)]; rfl)
    have hne : (e :: es).filter (·.cid = e.cid) ≠ [] :=
      List.ne_nil_of_mem (List.mem_filter.mpr ⟨List.mem_cons_self, decide_eq_true rfl⟩)
    have hback := ((h (awaitsAckOn e.cid)).contexts hget).resolve_left hne
    obtain ⟨front, last, hlast⟩ := (List.eq_nil_or_concat _).resolve_left hne
    rw [hlast, List.concat_eq_append] at hback
    have hcount := hback.nackCount
    have hshows := hback.shows
    rw [newestTypes_concat] at hcount hshows
    -- A loss as the newest element would show in the state, an ACK in the count.
    cases htype : last.type with
    | ack =>
      rw [htype] at hcount
      exact absurd (show (0 : UInt8) = 1 from hcount) (by decide)
    | staticNack =>
      rw [htype] at hshows
      exact absurd hshows.1 (by decide)
    | nack =>
      rw [htype, verdicts, verdict] at hshows
      split at hshows
      · exact absurd hshows.1 (by decide)
      · exact absurd hshows.1 (by decide)

/-- **All or nothing.** Behind a well-formed element a malformed one must not stand: the call has applied the former when
it fails at the latter. Which states this leaves unharmed is a matter of the elements alone. -/
theorem feedbackDelivery_atomic_iff (packet : Bytes) :
    ((∀ comp, DeliveryAtomic comp packet) ↔ (EndsMalformed packet → feedbackElements packet = [])) ∧
      ∀ comp, DeliveryAtomic comp packet ↔ (EndsMalformed packet → Cancels comp (feedbackElements packet)) := by
  refine ⟨⟨fun h hend => eq_nil_of_cancels fun comp => (deliveryAtomic_iff comp packet).mp (h comp) hend, fun h comp => ?_⟩,
    fun comp => deliveryAtomic_iff comp packet⟩
  refine (deliveryAtomic_iff comp packet).mpr fun hend => ?_
  rw [h hend]
  exact cancels_nil comp

/-- An acknowledgment that sets the mode, with the first octet of a second element behind it. -/
theorem feedbackDelivery_not_atomic :
    ∃ comp, Compressor.new2 0 = some comp ∧ ¬ DeliveryAtomic comp [0xF2, 0x22, 0x00, 0xF2] := by
  refine ⟨_, rfl, fun h => ?_⟩
  exact absurd (h (by decide)).1 (by decide)

end Rohccxx
