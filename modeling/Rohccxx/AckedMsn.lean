import Rohccxx.CompWindow
import Rohccxx.FeedbackElements
import Rohccxx.Lib.Ring

/-!
# What an acknowledged MSN names

The v1 feedback call looks the 14 acknowledged bits up among the last 64 transmitted MSNs. The UDP and the IP-only branch
number their units by the packet counter of the context, which NACKs set back while history and revision stay. As long as
no NACK does so too early, no two entries of one revision share their low bits (`Sequenced`), and an accepted ACK names
exactly one unit.
-/

set_option autoImplicit false

namespace Rohccxx

open Octets Runs CompHandle

/-! ## The history as a log -/

/-- The 14 bits an ACK carries. -/
def lowMsn (msn : UInt16) : Nat := msn.toNat % 16384

def nextLow (n : Nat) : Nat := (n + 1) % 16384

namespace Context

/-- The history has slots. -/
local instance historySlots : NeZero 64 := ⟨by decide⟩

/-- The transmitted MSNs, the newest first, each with the revision it was sent under. -/
def transmitted (ctx : Context) : List (UInt64 × UInt16) :=
  Ring.recent (fun i => (ctx.transmittedContextRevisionHistory.get i, ctx.transmittedMsnHistory.get i))
    ctx.transmittedMsnHead ctx.transmittedMsnCount

/-- What an ACK can tell of them. -/
def numbers (ctx : Context) : List (UInt64 × Nat) := ctx.transmitted.map fun entry => (entry.1, lowMsn entry.2)

theorem getElem?_numbers {ctx : Context} {i : Nat} {a : UInt64 × Nat} (h : ctx.numbers[i]? = some a) :
    ∃ msn, ctx.transmitted[i]? = some (a.1, msn) ∧ a.2 = lowMsn msn := by
  unfold numbers at h
  rw [List.getElem?_map, Option.map_eq_some_iff] at h
  obtain ⟨entry, he, rfl⟩ := h
  exact ⟨entry.2, he, rfl⟩

theorem numbers_of_transmitted {ctx : Context} {i : Nat} {revision : UInt64} {msn : UInt16}
    (h : ctx.transmitted[i]? = some (revision, msn)) : ctx.numbers[i]? = some (revision, lowMsn msn) := by
  unfold numbers
  rw [List.getElem?_map, h]
  rfl

theorem length_transmitted (ctx : Context) : ctx.transmitted.length = ctx.transmittedMsnCount :=
  Ring.length_recent _ _ _

end Context

/-- `record_transmitted_msn` puts an entry in front of the log and keeps 64. -/
theorem transmitted_recordTransmittedMsn {ctx : Context} (hhead : ctx.transmittedMsnHead < 64)
    (hcount : ctx.transmittedMsnCount ≤ 64) (msn : UInt16) :
    (recordTransmittedMsn ctx msn).transmitted = ((ctx.contextRevision, msn) :: ctx.transmitted).take 64 := by
  have hget : ∀ {α : Type} (slots : Vector α 64) (a : α) (i : Fin 64),
      (slots.setIfInBounds ctx.transmittedMsnHead a).get i = if ctx.transmittedMsnHead = i then a else slots.get i :=
    fun slots a i => Vector.getElem_setIfInBounds i.isLt
  refine Ring.recent_push hhead hcount ?_ fun i hi => ?_
  · simp [recordTransmittedMsn, hget]
  · simp [recordTransmittedMsn, hget, Ne.symm hi]

/-- The low bits of an MSN. -/
def lowBits (bits : Nat) (msn : UInt16) : Nat := msn.toNat % 2 ^ bits

/-- The mask of `transmitted_msn_revision`. -/
def msnMask (bits : UInt8) : UInt16 := if bits = 16 then 0xFFFF else ((1 : UInt16) <<< bits.toUInt16) - 1

theorem toNat_msnMask {bits : UInt8} (h : bits ≤ 16) : (msnMask bits).toNat = 2 ^ bits.toNat - 1 := by
  have hall : ∀ n : Fin 17, (msnMask (UInt8.ofNat n)).toNat = 2 ^ n.val - 1 := by decide
  have hn : bits.toNat < 17 := Nat.lt_succ_of_le (UInt8.le_iff_toNat_le.mp h)
  have := hall ⟨bits.toNat, hn⟩
  rwa [UInt8.ofNat_toNat] at this

theorem and_msnMask_eq_iff {bits : UInt8} (h : bits ≤ 16) (a b : UInt16) :
    a &&& msnMask bits = b &&& msnMask bits ↔ lowBits bits.toNat a = lowBits bits.toNat b := by
  unfold lowBits
  rw [← UInt16.toNat_inj, UInt16.toNat_and, UInt16.toNat_and, toNat_msnMask h, Nat.and_two_pow_sub_one_eq_mod,
    Nat.and_two_pow_sub_one_eq_mod]

/-- `transmitted_msn_revision`: the newest entry that ends in the acknowledged bits. -/
theorem transmittedMsnRevision_eq_find (ctx : Context) (acknowledgment : UInt16) {bits : UInt8} (hpos : bits ≠ 0)
    (hbits : bits ≤ 16) :
    transmittedMsnRevision ctx acknowledgment bits =
      ctx.transmitted.find? fun entry => lowBits bits.toNat entry.2 = lowBits bits.toNat acknowledgment := by
  rw [List.find?_eq_findSome?_guard]
  unfold transmittedMsnRevision Context.transmitted Ring.recent
  rw [List.findSome?_map]
  by_cases hempty : ctx.transmittedMsnCount = 0
  · simp [hempty]
  · rw [if_neg (by simp [hempty, hpos, hbits])]
    refine congrArg (fun f => List.findSome? f _) (funext fun offset => ?_)
    simp only [Function.comp_apply, Option.guard, decide_eq_true_eq, ← and_msnMask_eq_iff hbits]
    rfl

/-- The bits an ACK carries. -/
theorem transmittedMsnRevision_eq (ctx : Context) (acknowledgment : UInt16) :
    transmittedMsnRevision ctx acknowledgment 14 =
      ctx.transmitted.find? fun entry => lowMsn entry.2 = lowMsn acknowledgment :=
  transmittedMsnRevision_eq_find ctx acknowledgment (by decide) (by decide)

/-! ### Records one after another -/

/-- Record MSNs one after another, each under the revision of its moment. -/
def recordAll (ctx : Context) (records : List (UInt64 × UInt16)) : Context :=
  records.foldl (fun ctx record => recordTransmittedMsn { ctx with contextRevision := record.1 } record.2) ctx

theorem take_append_take {α : Type} (n : Nat) (xs ys : List α) : (xs ++ ys.take n).take n = (xs ++ ys).take n := by
  rw [List.take_append, List.take_append, List.take_take, Nat.min_eq_left (Nat.sub_le _ _)]

/-- The log holds the last 64 records. -/
theorem transmitted_recordAll {ctx : Context} (hhead : ctx.transmittedMsnHead < 64) (hcount : ctx.transmittedMsnCount ≤ 64)
    (records : List (UInt64 × UInt16)) :
    (recordAll ctx records).transmitted = (records.reverse ++ ctx.transmitted).take 64 := by
  induction records generalizing ctx with
  | nil =>
    rw [List.reverse_nil, List.nil_append, List.take_of_length_le (by rw [Context.length_transmitted]; exact hcount)]
    rfl
  | cons record records ih =>
    have hrecord := @transmitted_recordTransmittedMsn { ctx with contextRevision := record.1 } hhead hcount record.2
    rw [List.reverse_cons, List.append_assoc, List.singleton_append]
    refine (ih (Nat.mod_lt _ (by decide)) ?_).trans ?_
    · show (if ctx.transmittedMsnCount < 64 then ctx.transmittedMsnCount + 1 else ctx.transmittedMsnCount) ≤ 64
      split <;> omega
    · rw [hrecord, take_append_take]
      rfl

/-- What the search finds in a list: the last match. -/
theorem find?_reverse_eq_some {α : Type} {p : α → Bool} {xs : List α} {a : α} (h : xs.reverse.find? p = some a) :
    ∃ older newer, xs = older ++ a :: newer ∧ p a = true ∧ ∀ b ∈ newer, p b = false := by
  obtain ⟨hp, newer, older, hsplit, hnone⟩ := List.find?_eq_some_iff_append.mp h
  refine ⟨older.reverse, newer.reverse, ?_, hp, fun b hb => ?_⟩
  · rw [← List.reverse_reverse xs, hsplit, List.reverse_append, List.reverse_cons, List.append_assoc, List.singleton_append]
  · simpa using hnone b (List.mem_reverse.mp hb)

/-- **The history of MSNs.** After any records on a fresh context, an acknowledgment is recognised exactly if one of the
last 64 records ends in its bits, and names the most recent one. -/
theorem transmitted_msn_history (records : List (UInt64 × UInt16)) (acknowledgment : UInt16) {bits : UInt8}
    (hpos : 1 ≤ bits) (hbits : bits ≤ 16) :
    ((transmittedMsnRevision (recordAll {} records) acknowledgment bits).isSome = true ↔
        ∃ record ∈ records.drop (records.length - 64),
          lowBits bits.toNat record.2 = lowBits bits.toNat acknowledgment) ∧
      ∀ record, transmittedMsnRevision (recordAll {} records) acknowledgment bits = some record →
        ∃ older newer, records.drop (records.length - 64) = older ++ record :: newer ∧
          lowBits bits.toNat record.2 = lowBits bits.toNat acknowledgment ∧
          ∀ later ∈ newer, lowBits bits.toNat later.2 ≠ lowBits bits.toNat acknowledgment := by
  have hlog : (recordAll {} records).transmitted = (records.drop (records.length - 64)).reverse := by
    have hfresh : Context.transmitted {} = [] := rfl
    rw [transmitted_recordAll (by decide) (by decide), hfresh, List.append_nil, List.take_reverse]
  have hne : bits ≠ 0 := by
    rintro rfl
    exact absurd hpos (by decide)
  rw [transmittedMsnRevision_eq_find _ _ hne hbits, hlog]
  constructor
  · rw [List.find?_isSome]
    simp only [List.mem_reverse, decide_eq_true_eq]
  · intro record h
    obtain ⟨older, newer, hsplit, hmatch, hlater⟩ := find?_reverse_eq_some h
    refine ⟨older, newer, hsplit, of_decide_eq_true hmatch, fun later hmem => ?_⟩
    exact of_decide_eq_false (hlater later hmem)

/-- Records before and after a wrap of the MSN. -/
theorem transmitted_msn_history_wrap :
    ∃ record, transmittedMsnRevision (recordAll {} [(7, 0xFFFF), (7, 0), (8, 1)]) 0 14 = some record ∧
      ∃ older newer, [((7 : UInt64), (0xFFFF : UInt16)), (7, 0), (8, 1)] = older ++ record :: newer ∧
        lowBits 14 record.2 = lowBits 14 0 ∧ ∀ later ∈ newer, lowBits 14 later.2 ≠ lowBits 14 0 := by
  have h := @transmitted_msn_history [(7, 0xFFFF), (7, 0), (8, 1)] 0 14 (by decide) (by decide)
  obtain ⟨record, hrecord⟩ := Option.isSome_iff_exists.mp (h.1.mpr ⟨(7, 0), by decide, by decide⟩)
  exact ⟨record, hrecord, h.2 record hrecord⟩

/-! ## The condition -/

/-- The packet counter a NACK goes back to. -/
def restartsAt (ctx : Context) (feedback : Feedback) : Option UInt32 :=
  match feedback.type with
  | .ack => none
  | .staticNack => some 0
  | .nack => some (if ctx.nackCount + 1 > 1 then 0 else 1)

/-- From this packet counter on, no unit gets the low bits of an entry of the current revision that is still in the
history. -/
def Context.ClearFrom (ctx : Context) (count : UInt32) : Prop :=
  Ring.Clear 64 nextLow ctx.contextRevision (lowMsn count.toUInt16) ctx.numbers

instance (ctx : Context) (count : UInt32) : Decidable (ctx.ClearFrom count) :=
  inferInstanceAs (Decidable (Ring.Clear _ _ _ _ _))

/-- A packet for the CID is one of the two profiles. -/
def CountsMsns (cid : Nat) (handle : CompHandle) (act : CompAct) : Prop :=
  handle.core.currentCid = cid →
    ((handle.branches act).all fun triple => countsMsn (chooseProfile triple.1 triple.2.1)) = true

instance (cid : Nat) (handle : CompHandle) (act : CompAct) : Decidable (CountsMsns cid handle act) :=
  inferInstanceAs (Decidable (_ → _))

/-- A NACK for the CID does not set the counter back too early. -/
def RestartsClear (cid : Nat) (handle : CompHandle) (act : CompAct) : Prop :=
  ∀ element ∈ handle.feeds act, element.cid = cid → ∀ ctx ∈ handle.context cid,
    ∀ count ∈ restartsAt ctx element, ctx.ClearFrom count

instance (cid : Nat) (handle : CompHandle) (act : CompAct) : Decidable (RestartsClear cid handle act) :=
  letI (element : Feedback) : Decidable (∀ ctx ∈ handle.context cid, ∀ count ∈ restartsAt ctx element, ctx.ClearFrom count) :=
    @Option.decidableForallMem _ _ (fun ctx => Option.decidableForallMem (restartsAt ctx element)) (handle.context cid)
  Option.decidableForallMem (handle.feeds act)

/-! ## The invariant -/

/-- How far a revision is ahead of the entries: by one for each later entry at most, and by one more while a replacement
waits for its first unit. -/
def Dated (revision : UInt64) (pending : Bool) (log : List (UInt64 × UInt16)) : Prop :=
  (∀ (i : Nat) (a : UInt64 × UInt16), log[i]? = some a → (revision - a.1).toNat ≤ i) ∨
    pending = true ∧ ∀ (i : Nat) (a : UInt64 × UInt16), log[i]? = some a →
      0 < (revision - a.1).toNat ∧ (revision - a.1).toNat ≤ i + 1

structure Sequenced (ctx : Context) : Prop where
  head : ctx.transmittedMsnHead < 64
  count : ctx.transmittedMsnCount ≤ 64
  apart : Ring.Apart ctx.numbers
  clear : ctx.ClearFrom ctx.txCount
  dated : Dated ctx.contextRevision ctx.profileReplacementPending ctx.transmitted

/-! ### Revisions -/

section Dated

variable {revision : UInt64} {pending : Bool} {log : List (UInt64 × UInt16)} {i : Nat} {a : UInt64 × UInt16}

theorem Dated.push (h : Dated revision pending log) (msn : UInt16) (pending' : Bool) :
    Dated revision pending' (((revision, msn) :: log).take 64) := by
  refine .inl fun i a ha => ?_
  obtain ⟨-, ⟨rfl, rfl⟩ | ⟨j, rfl, hj⟩⟩ := Ring.getElem?_push ha
  · simp
  · rcases h with h | ⟨-, h⟩
    · exact Nat.le_succ_of_le (h j a hj)
    · exact (h j a hj).2

/-- An entry of the current revision shows that the replacement has sent its first unit. -/
theorem Dated.confirmed (h : Dated revision pending log) (ha : log[i]? = some a) (he : a.1 = revision)
    (pending' : Bool) : Dated revision pending' log := by
  rcases h with h | ⟨-, h⟩
  · exact .inl h
  · have hpos := (h i a ha).1
    rw [he, UInt64.sub_self] at hpos
    exact absurd hpos (Nat.lt_irrefl 0)

/-- The next revision is ahead of every entry. -/
theorem Dated.next_sub (h : Dated revision false log) (hlen : log.length ≤ 64) (ha : log[i]? = some a) :
    0 < (revision + 1 - a.1).toNat ∧ (revision + 1 - a.1).toNat ≤ i + 1 := by
  rcases h with h | ⟨hp, -⟩
  · have hi := (List.getElem?_eq_some_iff.mp ha).1
    have hle := h i a ha
    rw [UInt64.toNat_sub] at hle
    have hr := revision.toNat_lt
    have hl := a.1.toNat_lt
    rw [UInt64.toNat_sub, UInt64.toNat_add]
    change 0 < (2 ^ 64 - a.1.toNat + (revision.toNat + 1) % 2 ^ 64) % 2 ^ 64 ∧
      (2 ^ 64 - a.1.toNat + (revision.toNat + 1) % 2 ^ 64) % 2 ^ 64 ≤ i + 1
    omega
  · cases hp

theorem Dated.bump (h : Dated revision false log) (hlen : log.length ≤ 64) : Dated (revision + 1) true log :=
  .inr ⟨rfl, fun _ _ ha => h.next_sub hlen ha⟩

end Dated

/-! ### Numbers -/

theorem nextLow_lowMsn (msn : UInt16) : nextLow (lowMsn msn) = lowMsn (msn + 1) := by
  unfold nextLow lowMsn
  rw [UInt16.toNat_add, UInt16.toNat_one]
  omega

theorem iterate_nextLow (k n : Nat) : nextLow^[k + 1] n = (n + (k + 1)) % 16384 := by
  induction k generalizing n with
  | zero => rfl
  | succ k ih =>
    rw [Function.iterate_succ_apply, ih]
    unfold nextLow
    omega

/-- The numbers come back only after 16384 units. -/
theorem iterate_nextLow_ne {k : Nat} (hk : k + 1 < 64) (n : Nat) : nextLow^[k + 1] (nextLow n) ≠ nextLow n := by
  rw [iterate_nextLow]
  unfold nextLow
  omega

namespace Sequenced

variable {ctx : Context}

/-- The next revision has no entries, so any packet counter will do. -/
theorem startReplacement (h : Sequenced ctx) (hp : ctx.profileReplacementPending = false) :
    Sequenced (startReplacement ctx) := by
  have hdated := h.dated
  rw [hp] at hdated
  have hlen : ctx.transmitted.length ≤ 64 := by
    rw [Context.length_transmitted]
    exact h.count
  refine ⟨h.head, h.count, h.apart, Ring.clear_of_epoch fun i a ha he => ?_, hdated.bump hlen⟩
  obtain ⟨msn, hmsn, -⟩ := @Context.getElem?_numbers ctx i a ha
  have hpos := (hdated.next_sub hlen hmsn).1
  have hzero : ctx.contextRevision + 1 - a.1 = 0 := by
    rw [he]
    exact UInt64.sub_self _
  rw [hzero] at hpos
  exact absurd hpos (Nat.lt_irrefl 0)

/-- The unit of the next MSN. -/
theorem finishTransmit (h : Sequenced ctx) (hmsn : ctx.msn = ctx.txCount.toUInt16 + 1) : Sequenced (finishTransmit ctx) := by
  have hlog : (Rohccxx.finishTransmit ctx).transmitted = ((ctx.contextRevision, ctx.msn) :: ctx.transmitted).take 64 :=
    transmitted_recordTransmittedMsn h.head h.count ctx.msn
  have hnumber : lowMsn ctx.msn = nextLow (lowMsn ctx.txCount.toUInt16) := by
    rw [hmsn, nextLow_lowMsn]
  have hnumbers : (Rohccxx.finishTransmit ctx).numbers =
      ((ctx.contextRevision, nextLow (lowMsn ctx.txCount.toUInt16)) :: ctx.numbers).take 64 := by
    unfold Context.numbers
    rw [hlog, List.map_take, List.map_cons, hnumber]
  have hcount : lowMsn (Rohccxx.finishTransmit ctx).txCount.toUInt16 = nextLow (lowMsn ctx.txCount.toUInt16) := by
    rw [← hnumber, hmsn]
    exact congrArg lowMsn (UInt32.toUInt16_add ctx.txCount 1)
  refine ⟨Nat.mod_lt _ (by decide), ?_, ?_, ?_, ?_⟩
  · rw [← Context.length_transmitted, hlog]
    exact List.length_take_le _ _
  · rw [hnumbers]
    exact h.apart.push h.clear
  · unfold Context.ClearFrom
    rw [hnumbers, hcount]
    exact h.clear.push fun k hk => iterate_nextLow_ne hk _
  · rw [hlog]
    exact h.dated.push ctx.msn _

/-- A context that has sent nothing. -/
theorem of_fresh (hhead : ctx.transmittedMsnHead = 0) (hcount : ctx.transmittedMsnCount = 0) : Sequenced ctx := by
  have hempty : ctx.transmitted = [] := by
    rw [← List.length_eq_zero_iff, Context.length_transmitted, hcount]
  have hnone : ctx.numbers = [] := by
    unfold Context.numbers
    rw [hempty]
    rfl
  refine ⟨by omega, by omega, ?_, Ring.clear_of_epoch fun i a ha => ?_, .inl fun i a ha => ?_⟩
  · rw [hnone]
    exact List.Pairwise.nil
  · rw [hnone] at ha
    cases ha
  · rw [hempty] at ha
    cases ha

end Sequenced

/-! ## Branches -/

theorem captureIpContext_history (ctx : Context) (packet : Bytes) (view : ParsedIpView) :
    (captureIpContext ctx packet view).2.toMsnHistory = ctx.toMsnHistory := by
  unfold captureIpContext captureIpv4Options
  dsimp only
  split
  · split_ifs <;> rfl
  · split_ifs <;> rfl

/-- What the invariant speaks of. -/
theorem Sequenced.congr {a b : Context} (h : Sequenced a) (hhistory : b.toMsnHistory = a.toMsnHistory)
    (hcontrol : (b.txCount, b.contextRevision, b.profileReplacementPending) =
      (a.txCount, a.contextRevision, a.profileReplacementPending)) : Sequenced b := by
  have hlog : b.transmitted = a.transmitted := by
    unfold Context.transmitted
    rw [hhistory]
  have hnumbers : b.numbers = a.numbers := by
    unfold Context.numbers
    rw [hlog]
  simp only [Prod.mk.injEq] at hcontrol
  obtain ⟨htx, hrevision, hpending⟩ := hcontrol
  refine ⟨?_, ?_, ?_, ?_, ?_⟩
  · rw [hhistory]
    exact h.head
  · rw [hhistory]
    exact h.count
  · rw [hnumbers]
    exact h.apart
  · unfold Context.ClearFrom
    rw [hnumbers, hrevision, htx]
    exact h.clear
  · rw [hrevision, hpending, hlog]
    exact h.dated

theorem sequenced_prepareContext {before : Context} (h : Sequenced before) (comp : Compressor) (profile : Profile) :
    Sequenced (prepareContext comp before profile) := by
  have hreplace : Sequenced (replaceProfile { before with cid := comp.currentCid, largeCid := comp.largeCidSpace } before
      comp.mode comp.currentCid comp.largeCidSpace profile) := by
    unfold replaceProfile
    split
    · exact .of_fresh rfl rfl
    · exact h.congr rfl rfl
  unfold prepareContext
  dsimp only
  split
  · unfold requireConfirmationBeforePt0Alias
    dsimp only
    split
    · rename_i hlimit
      exact hreplace.startReplacement (by simpa using hlimit.2.2)
    · exact hreplace
  · exact hreplace

namespace Job

open Proc

variable {job : Job} {profile : Profile}

theorem captureCommon_sequenced : Always Sequenced job.captureCommon := by
  intro ctx h
  have hcontrol := captureIpContext_control ctx job.packet job.view
  have hhistory := captureIpContext_history ctx job.packet job.view
  have hkeep : Sequenced (captureIpContext ctx job.packet job.view).2 :=
    h.congr hhistory (congrArg (fun c : Control => (c.txCount, c.contextRevision, c.profileReplacementPending)) hcontrol)
  unfold captureCommon
  split
  · rename_i he
    rwa [he] at hkeep
  · rename_i he
    rwa [he] at hkeep

theorem captureWithBehavior_sequenced : Always Sequenced (job.captureWithBehavior profile) := by
  unfold captureWithBehavior
  refine .bind .get fun previous => .bind (.modify fun s h => h.congr rfl rfl) fun _ =>
    .bind captureCommon_sequenced fun _ => .modify fun s h => ?_
  have hbehavior : ∀ had : Bool, Sequenced (updateIpv4IdBehavior s had previous.ipv4Id) := by
    intro had
    unfold updateIpv4IdBehavior
    split
    · exact h.congr rfl rfl
    · exact h.congr rfl rfl
  unfold noteBehaviorChange
  split
  · rename_i hchange
    exact (hbehavior _).startReplacement (by simpa using hchange.2.2.2)
  · exact hbehavior _

/-- The context of a unit: its MSN is the next one. -/
def Next (ctx : Context) : Prop := Sequenced ctx ∧ ctx.msn = ctx.txCount.toUInt16 + 1

theorem next_emission : EmissionKeeps Next where
  static _ h := ⟨h.1.congr rfl rfl, h.2⟩
  dynamic _ _ _ _ h := ⟨h.1.congr rfl rfl, h.2⟩
  count _ h := ⟨h.1.congr rfl rfl, h.2⟩

theorem appendPayload_next (header : Bytes) (offset : Nat) : Leaves Next Sequenced (job.appendPayload header offset) := by
  unfold appendPayload appendPayloadRange
  refine .bind (R := Next) Always.require (fun _ h => h.1) fun _ => .bind (R := Next) Always.require (fun _ h => h.1) fun _ => ?_
  exact .modify_bind (R := Sequenced) (fun s h => h.1.finishTransmit h.2) Always.pure

/-- **The two branches keep the invariant**, however they end. -/
theorem compressAs_sequenced (before : Context) (hp : profile = .udp ∨ profile = .ip) :
    Always Sequenced (job.compressAs before profile) := by
  rcases hp with rfl | rfl
  · refine Leaves.get_bind fun _ => .bind captureWithBehavior_sequenced (fun _ h => h) fun _ => ?_
    refine .modify_bind (R := Next) (fun s h => ⟨h.congr rfl rfl, rfl⟩) ?_
    exact .bind (emitUdpUnit_always next_emission _) (fun _ h => h.1) fun _ => appendPayload_next _ _
  · refine Leaves.get_bind fun _ => .bind captureWithBehavior_sequenced (fun _ h => h) fun _ => ?_
    refine .modify_bind (R := Next) (fun s h => ⟨h.congr rfl rfl, rfl⟩) ?_
    exact .bind (emitIpUnit_always next_emission _) (fun _ h => h.1) fun _ => appendPayload_next _ _

end Job

/-! ## Feedback -/

/-- An entry of the current revision that ends in the acknowledged bits. -/
def Context.Named (ctx : Context) (acknowledgment : UInt16) (offset : Nat) (msn : UInt16) : Prop :=
  ctx.transmitted[offset]? = some (ctx.contextRevision, msn) ∧ lowMsn msn = lowMsn acknowledgment

theorem correlated_bits {direction : Direction} {comp : Compressor} {record : FeedbackV1} {feedback : Feedback}
    (h : correlateFeedbackV1 direction comp record = .ok feedback) : feedback.acknowledgmentBits = 14 := by
  unfold correlateFeedbackV1 at h
  split at h
  · cases h
  · split at h
    · cases h
    · split at h
      · cases h
      · rename_i parsed hparsed
        have hbits : parsed.acknowledgmentBits = 14 := by
          obtain ⟨-, -, -, -, hbody⟩ := readFeedback2V1_eq_ok.mp hparsed
          obtain ⟨type, notValid, -, -, rfl⟩ := hbody.parts
          rfl
        split at h
        · cases h
        · split at h
          · cases h
          · unfold correlateFeedback at h
            split at h
            · cases h
            · split at h
              · cases h
              · split at h
                · cases h
                · split at h
                  · cases h
                  · cases h
                    exact hbits

/-- The newest entry that ends in the acknowledged bits is an entry. -/
theorem Context.named_of_newest {ctx : Context} {acknowledgment : UInt16} {revision : UInt64} {msn : UInt16}
    (h : transmittedMsnRevision ctx acknowledgment 14 = some (revision, msn)) :
    ∃ offset : Nat, ctx.transmitted[offset]? = some (revision, msn) ∧ lowMsn msn = lowMsn acknowledgment := by
  rw [transmittedMsnRevision_eq] at h
  obtain ⟨offset, hoffset⟩ := List.mem_iff_getElem?.mp (List.mem_of_find?_eq_some h)
  exact ⟨offset, hoffset, by simpa using List.find?_some h⟩

theorem applyFeedbackToContext_restarts (ctx : Context) {feedback : Feedback} (hack : feedback.type ≠ .ack) :
    (applyFeedbackToContext ctx feedback).toMsnHistory = ctx.toMsnHistory ∧
      (applyFeedbackToContext ctx feedback).profileReplacementPending = ctx.profileReplacementPending ∧
      some (applyFeedbackToContext ctx feedback).txCount = restartsAt ctx feedback := by
  unfold applyFeedbackToContext restartsAt
  cases htype : feedback.type with
  | ack => exact absurd htype hack
  | staticNack => exact ⟨rfl, rfl, rfl⟩
  | nack =>
    dsimp only
    split
    · exact ⟨rfl, rfl, rfl⟩
    · exact ⟨rfl, rfl, rfl⟩

theorem applyFeedbackToContext_ack (ctx : Context) {feedback : Feedback} (hack : feedback.type = .ack) :
    (applyFeedbackToContext ctx feedback).toMsnHistory = ctx.toMsnHistory ∧
      (applyFeedbackToContext ctx feedback).txCount = ctx.txCount := by
  unfold applyFeedbackToContext acknowledge
  rw [hack]
  dsimp only
  split
  · exact ⟨rfl, rfl⟩
  · exact ⟨rfl, rfl⟩

namespace Sequenced

variable {ctx : Context} {feedback : Feedback}

/-- A NACK sets the packet counter back. -/
theorem restarted (h : Sequenced ctx) (hack : feedback.type ≠ .ack)
    (hclear : ∀ count ∈ restartsAt ctx feedback, ctx.ClearFrom count) :
    Sequenced (applyFeedbackToContext ctx feedback) := by
  obtain ⟨hhistory, hpending, hcount⟩ := applyFeedbackToContext_restarts ctx hack
  have hrevision := (applyFeedbackToContext_keeps ctx feedback).revision
  have hmoved : Sequenced { ctx with txCount := (applyFeedbackToContext ctx feedback).txCount } :=
    ⟨h.head, h.count, h.apart, hclear _ hcount.symm, h.dated⟩
  exact hmoved.congr hhistory (by rw [hrevision, hpending])

/-- An ACK lifts the hold of a replacement only if it names a unit of the current revision. -/
theorem acknowledged (h : Sequenced ctx) (hack : feedback.type = .ack)
    (hnamed : feedback.acknowledgmentValid = true → ∃ offset msn, ctx.Named feedback.acknowledgmentNumber offset msn) :
    Sequenced (applyFeedbackToContext ctx feedback) := by
  obtain ⟨hhistory, hcount⟩ := applyFeedbackToContext_ack ctx hack
  have hrevision := (applyFeedbackToContext_keeps ctx feedback).revision
  cases hvalid : feedback.acknowledgmentValid with
  | false =>
    have hpending := (applyFeedbackToContext_plain ctx hack hvalid).1
    exact h.congr hhistory (by rw [hrevision, hpending, hcount])
  | true =>
    obtain ⟨offset, msn, hentry, -⟩ := hnamed hvalid
    have hlifted : Sequenced { ctx with
        profileReplacementPending := (applyFeedbackToContext ctx feedback).profileReplacementPending } :=
      ⟨h.head, h.count, h.apart, h.clear, h.dated.confirmed hentry rfl _⟩
    exact hlifted.congr hhistory (by rw [hrevision, hcount])

end Sequenced

/-! ## Acts -/

section Acts

variable {handle : CompHandle} {act : CompAct} {cid : Nat} {ctx a b : Context} {feedback : Feedback}

/-- Accepted feedback names an entry, and its distance is that of the entry. -/
theorem correlated_named {record : FeedbackV1}
    (h : correlateFeedbackV1 handle.direction handle.core record = .ok feedback)
    (hctx : handle.context feedback.cid = some ctx) :
    ∃ offset msn, ctx.Named feedback.acknowledgmentNumber offset msn ∧
      feedback.acknowledgedContextDistance = some (ctx.msn - msn) := by
  obtain ⟨ctx', msn, hctx', hc⟩ := correlateFeedbackV1_ok h
  obtain rfl : ctx' = ctx := Option.some.inj (hctx'.symm.trans hctx)
  have hnewest := hc.newest
  rw [correlated_bits h] at hnewest
  obtain ⟨offset, hnamed⟩ := Context.named_of_newest hnewest
  exact ⟨offset, msn, hnamed, hc.distance⟩

/-- Of the feedback an act applies, only v1 feedback carries an MSN. -/
theorem feeds_named (h : handle.feeds act = some feedback) (hctx : handle.context feedback.cid = some ctx)
    (hvalid : feedback.acknowledgmentValid = true) :
    ∃ offset msn, ctx.Named feedback.acknowledgmentNumber offset msn := by
  cases act with
  | element cid type mode =>
    cases h
    cases hvalid
  | deliverFeedbackV1 record =>
    have hc : (correlateFeedbackV1 handle.direction handle.core record).toOption = some feedback := h
    cases hok : correlateFeedbackV1 handle.direction handle.core record with
    | error status =>
      rw [hok] at hc
      cases hc
    | ok parsed =>
      rw [hok] at hc
      obtain rfl : parsed = feedback := Option.some.inj hc
      obtain ⟨offset, msn, hnamed, -⟩ := correlated_named hok hctx
      exact ⟨offset, msn, hnamed⟩
  | _ => cases h

/-- **One act keeps the invariant** of a CID. -/
theorem Sequenced.turned (h : Sequenced a) (ha : handle.context cid = some a) (ht : Turned handle act cid a b)
    (hcounts : CountsMsns cid handle act) (hclear : RestartsClear cid handle act) : Sequenced b := by
  cases ht with
  | same unfed rests => exact h
  | mode mode set => exact h.congr rfl rfl
  | @feedback element feeds here =>
    by_cases hack : element.type = .ack
    · refine h.acknowledged hack (feeds_named feeds ?_)
      rw [here]
      exact ha
    · exact h.restarted hack fun count hcount => hclear element feeds here a ha count hcount
  | @branch packet view out b here runs run =>
    have hp : countsMsn (chooseProfile packet view) = true := by
      have hall := hcounts here
      rw [runs] at hall
      exact hall
    have hkeep := @Job.compressAs_sequenced (handle.core.job packet view) _ a (countsMsn_eq hp)
      (prepared handle.core packet view a) (sequenced_prepareContext h handle.core _)
    rw [← runBranch_eq, run] at hkeep
    exact hkeep

end Acts

/-! ## The law -/

/-- Feedback names exactly one unit of the current revision: the one it was correlated with. -/
def Context.NamesOne (ctx : Context) (feedback : Feedback) : Prop :=
  ∃ offset msn, ctx.Named feedback.acknowledgmentNumber offset msn ∧
    feedback.acknowledgedContextDistance = some (ctx.msn - msn) ∧
    ∀ offset' msn', ctx.Named feedback.acknowledgmentNumber offset' msn' → offset' = offset ∧ msn' = msn

/-- Entries of one revision differ in the bits an ACK carries, and v1 feedback that passes the checks names one of them. -/
def MsnsIdentify (handle : CompHandle) (cid : Nat) : Prop :=
  ∀ ctx, handle.context cid = some ctx →
    (ctx.transmitted.Pairwise fun a b => a.1 = b.1 → lowMsn a.2 ≠ lowMsn b.2) ∧
      ∀ record feedback, correlateFeedbackV1 handle.direction handle.core record = .ok feedback → feedback.cid = cid →
        ctx.NamesOne feedback

theorem sequenced_of_reaches {maxCid : Nat} {direction : Direction} {labels : List (CompAct × Option Sent)}
    {handle : CompHandle} {cid : Nat}
    (run : Reaches (compMachine.Step fun handle act => CountsMsns cid handle act ∧ RestartsClear cid handle act)
      (.fresh maxCid direction) labels handle) : ∀ ctx, handle.context cid = some ctx → Sequenced ctx := by
  refine run.invariant (P := fun _ s => ∀ ctx, s.context cid = some ctx → Sequenced ctx) ?_ fun {_ _ _ _} hs h => ?_
  · intro ctx hctx
    rw [context_fresh hctx]
    exact .of_fresh rfl rfl
  · obtain ⟨-, rfl, hcounts, hclear⟩ := h
    intro b hb
    obtain ⟨a, ha, ht⟩ := context_act hb
    exact (hs a ha).turned ha ht hcounts hclear

theorem Sequenced.namesOne {handle : CompHandle} {ctx : Context} (h : Sequenced ctx) {record : FeedbackV1}
    {feedback : Feedback} (hok : correlateFeedbackV1 handle.direction handle.core record = .ok feedback)
    (hctx : handle.context feedback.cid = some ctx) : ctx.NamesOne feedback := by
  obtain ⟨offset, msn, hnamed, hdistance⟩ := correlated_named hok hctx
  refine ⟨offset, msn, hnamed, hdistance, fun offset' msn' hother => ?_⟩
  have hsame : offset' = offset := h.apart.offset_eq (Context.numbers_of_transmitted hother.1)
    (Context.numbers_of_transmitted hnamed.1) rfl (hother.2.trans hnamed.2.symm)
  subst hsame
  have hentry := hother.1.symm.trans hnamed.1
  simp only [Option.some.injEq, Prod.mk.injEq, true_and] at hentry
  exact ⟨rfl, hentry⟩

/-- **An acknowledged MSN identifies one unit** in every run in which the CID carries packets of the UDP and the IP-only
profile and no NACK sets its packet counter back too early. -/
theorem msnsIdentify_of_reaches {maxCid : Nat} {direction : Direction} {labels : List (CompAct × Option Sent)}
    {handle : CompHandle} {cid : Nat}
    (run : Reaches (compMachine.Step fun handle act => CountsMsns cid handle act ∧ RestartsClear cid handle act)
      (.fresh maxCid direction) labels handle) : MsnsIdentify handle cid := by
  intro ctx hctx
  have h := sequenced_of_reaches run ctx hctx
  refine ⟨?_, fun record feedback hok hcid => h.namesOne hok (hcid ▸ hctx)⟩
  exact List.pairwise_map.mp h.apart

/-- What a fresh compressor becomes. -/
def compAfter (acts : List CompAct) : CompHandle := compMachine.after (.fresh 0 .uplink) acts

/-- The ACK of an MSN below 256 on CID 0. -/
def ackRecord (n : UInt8) : FeedbackV1 where
  apiVersion := 1
  structSize := feedbackV1Size
  channel := .uplink
  cid := 0
  feedbackType := 2
  acknowledgmentNumber := n.toUInt16
  acknowledgmentBits := 14
  acknowledgmentValid := 1
  crcPresent := 1
  crcValid := 1
  raw := [0xF3, 0x00, n, crc8 [0x00, n, 0x00]]

/-- A NACK after the first unit. -/
def nackedFlow : List CompAct :=
  [.compress (numberedUdpPacket 1) 100, .element 0 .nack none, .compress (numberedUdpPacket 2) 100]

theorem msnsIdentify_udp : ∃ ctx feedback, (compAfter nackedFlow).context 0 = some ctx ∧
    ctx.transmitted = [(0, 2), (0, 1)] ∧
    correlateFeedbackV1 .uplink (compAfter nackedFlow).core (ackRecord 2) = .ok feedback ∧ ctx.NamesOne feedback := by
  have hctx : ((compAfter nackedFlow).context 0).map Context.transmitted = some [(0, 2), (0, 1)] := by decide +kernel
  have hack : (correlateFeedbackV1 .uplink (compAfter nackedFlow).core (ackRecord 2)).toOption.map Feedback.cid =
      some 0 := by decide +kernel
  obtain ⟨ctx, hsome, hlog⟩ := Option.map_eq_some_iff.mp hctx
  obtain ⟨feedback, hparsed, hcid⟩ := Option.map_eq_some_iff.mp hack
  have hok : correlateFeedbackV1 .uplink (compAfter nackedFlow).core (ackRecord 2) = .ok feedback := by
    cases h : correlateFeedbackV1 .uplink (compAfter nackedFlow).core (ackRecord 2) with
    | error status =>
      rw [h] at hparsed
      cases hparsed
    | ok parsed =>
      rw [h] at hparsed
      exact congrArg Except.ok (Option.some.inj hparsed)
  have run : Reaches (compMachine.Step fun handle act => CountsMsns 0 handle act ∧ RestartsClear 0 handle act)
      (.fresh 0 .uplink) (compMachine.trace (.fresh 0 .uplink) nackedFlow) (compAfter nackedFlow) :=
    Machine.reaches_trace (by decide +kernel)
  have hdirection : (compAfter nackedFlow).direction = .uplink := by decide +kernel
  refine ⟨ctx, feedback, hsome, hlog, hok, (msnsIdentify_of_reaches run ctx hsome).2 (ackRecord 2) feedback ?_ hcid⟩
  rw [hdirection]
  exact hok

/-- A STATIC-NACK after the second unit. -/
def restartedFlow : List CompAct :=
  [.compress (numberedUdpPacket 1) 100, .compress (numberedUdpPacket 2) 100, .element 0 .staticNack none,
    .compress (numberedUdpPacket 3) 100]

/-- Without the condition: a STATIC-NACK sets the packet counter back, and the next unit has the MSN of the first one under
the same revision. -/
theorem msns_repeat :
    ¬∀ (maxCid : Nat) (direction : Direction) (labels : List (CompAct × Option Sent)) (handle : CompHandle) (cid : Nat),
      Reaches (compMachine.Step fun handle act => CountsMsns cid handle act) (.fresh maxCid direction) labels handle →
        MsnsIdentify handle cid := by
  intro h
  have hctx : ((compAfter restartedFlow).context 0).map Context.transmitted = some [(0, 1), (0, 2), (0, 1)] := by
    decide +kernel
  obtain ⟨ctx, hsome, hlog⟩ := Option.map_eq_some_iff.mp hctx
  have run : Reaches (compMachine.Step fun handle act => CountsMsns 0 handle act) (.fresh 0 .uplink)
      (compMachine.trace (.fresh 0 .uplink) restartedFlow) (compAfter restartedFlow) :=
    Machine.reaches_trace (by decide +kernel)
  have hapart := (h _ _ _ _ 0 run ctx hsome).1
  rw [hlog] at hapart
  exact absurd hapart (by decide)

end Rohccxx
