import Mathlib.Data.List.FinRange
import Rohccxx.Lib.Lru
import Rohccxx.Lib.Runs
import Rohccxx.Protocols

/-!
# Flows of the tunnel

The tunnel gives each flow of IPv4 packets a small CID of its own, for as long as there are enough: `identifyFlow` finds
the flow of a packet, and a `FlowTable` with time stamps finds its CID.

* `select_spec` — one selection is one step of slots by least recent use.
* `selections_refine_lru` — so are the selections of a run, with the counters.
* `flow_keeps_cid` — a flow keeps its CID as long as fewer than 16 other flows send.
-/

set_option autoImplicit false

namespace Rohccxx.Tun

open Octets Runs

/-- `Result`, but `Ok`. -/
inductive Failure where
  | invalidArgument
  | oversized
  | malformed
  | unknownVersion
  | unknownType
  | codecFailure
deriving DecidableEq

/-! ## The flow of a packet -/

def validateIpv4Packet (packet : Bytes) (maximumPacketSize : Nat) : Except Failure Unit :=
  if maximumPacketSize < 20 then .error .invalidArgument
  else if packet.length < 20 then .error .malformed
  else if packet.length > maximumPacketSize then .error .oversized
  else if u8At packet 0 >>> 4 ≠ 4 then .error .unknownVersion
  else
    let headerLen := (u8At packet 0 &&& 0x0F).toNat * 4
    let totalLen := (u16At packet 2).toNat
    if headerLen < 20 ∨ headerLen > packet.length ∨ totalLen ≠ packet.length then .error .malformed else .ok ()

/-- The octets of `FlowKey` up to its length; the rest of the array is not compared. -/
abbrev FlowKey := Bytes

/-- Where the RTP header of a payload ends, if it fits. -/
def rtpHeaderEnd (payload : Bytes) : Option Nat :=
  let base := 12 + (u8At payload 0 &&& 0x0F).toNat * 4
  if base > payload.length then none
  else if u8At payload 0 &&& 0x10 = 0 then some base
  else if base + 4 > payload.length then none
  else
    let header := base + (4 + (u16At payload (base + 2)).toNat * 4)
    if header > payload.length then none else some header

/-- The payload is taken for RTP. -/
def validRtp (payload : Bytes) : Bool :=
  if payload.length < 12 ∨ u8At payload 0 >>> 6 ≠ 2 then false
  else
    match rtpHeaderEnd payload with
    | none => false
    | some header =>
      if u8At payload 0 &&& 0x20 = 0 then true
      else
        let padding := u8At payload (payload.length - 1)
        decide (payload.length > header ∧ padding ≠ 0 ∧ padding.toNat ≤ payload.length - header)

def identifyFlow (packet : Bytes) : Except Failure FlowKey :=
  match validateIpv4Packet packet packet.length with
  | .error failure => .error failure
  | .ok () =>
    let ihl := (u8At packet 0 &&& 0x0F).toNat * 4
    let addresses := slice packet 12 4 ++ slice packet 16 4 ++ [u8At packet 9]
    if u16At packet 6 &&& 0x3FFF ≠ 0 then .ok (addresses ++ [1] ++ be16 (u16At packet 4))
    else if u8At packet 9 = 17 then
      if packet.length < ihl + 8 then .error .malformed
      else
        let udpLen := (u16At packet (ihl + 4)).toNat
        if udpLen < 8 ∨ udpLen ≠ packet.length - ihl then .error .malformed
        else
          let ports := be16 (u16At packet ihl) ++ be16 (u16At packet (ihl + 2))
          let payload := packet.drop (ihl + 8)
          if validRtp payload then .ok (addresses ++ [3] ++ ports ++ slice payload 8 4)
          else .ok (addresses ++ [2] ++ ports)
    else if u8At packet 9 = 50 then
      if packet.length < ihl + 8 then .error .malformed else .ok (addresses ++ [4] ++ slice packet ihl 4)
    else .ok (addresses ++ [0])

/-- A packet with a flow is valid wherever it fits. -/
theorem validate_of_identifyFlow {packet : Bytes} {key : FlowKey} (h : identifyFlow packet = .ok key) {maximum : Nat}
    (hfits : packet.length ≤ maximum) : validateIpv4Packet packet maximum = .ok () := by
  unfold identifyFlow at h
  cases hvalid : validateIpv4Packet packet packet.length with
  | error failure =>
    rw [hvalid] at h
    cases h
  | ok valid =>
    unfold validateIpv4Packet at hvalid ⊢
    split at hvalid
    · cases hvalid
    · rename_i hlen
      rw [if_neg (by omega), if_neg (by omega), if_neg (by omega)]
      rwa [if_neg (by omega)] at hvalid

theorem length_slice_le (bs : Bytes) (i n : Nat) : (slice bs i n).length ≤ n := List.length_take_le _ _

/-- The array of a key is not overrun. -/
theorem length_le_of_identifyFlow {packet : Bytes} {key : FlowKey} (h : identifyFlow packet = .ok key) : key.length ≤ 20 := by
  have h₁ := length_slice_le packet 12 4
  have h₂ := length_slice_le packet 16 4
  unfold identifyFlow at h
  dsimp only at h
  repeat' split at h
  all_goals cases h
  · simp only [List.length_append, length_be16, List.length_cons, List.length_nil]
    omega
  · have h₃ := length_slice_le (packet.drop ((u8At packet 0 &&& 0x0F).toNat * 4 + 8)) 8 4
    simp only [List.length_append, length_be16, List.length_cons, List.length_nil]
    omega
  · simp only [List.length_append, length_be16, List.length_cons, List.length_nil]
    omega
  · have h₃ := length_slice_le packet ((u8At packet 0 &&& 0x0F).toNat * 4) 4
    simp only [List.length_append, List.length_cons, List.length_nil]
    omega
  · simp only [List.length_append, List.length_cons, List.length_nil]
    omega

/-! ## The table -/

structure FlowEntry where
  key : FlowKey := []
  lastUsed : UInt64 := 0
  used : Bool := false

structure FlowAssignment where
  cid : Fin 16
  newlyAssigned : Bool := false
  evicted : Bool := false
deriving DecidableEq

structure FlowTable where
  entries : Vector FlowEntry 16 := .replicate 16 {}
  clock : UInt64 := 0
  assignments : UInt64 := 0
  evictions : UInt64 := 0
  mappingFailures : UInt64 := 0

namespace FlowTable

def activeContexts (table : FlowTable) : Nat := table.entries.toList.countP (·.used)

/-- The loop that looks for the flow. -/
def find (table : FlowTable) (key : FlowKey) : Option (Fin 16) :=
  (List.finRange 16).find? fun cid => table.entries[cid].used && table.entries[cid].key = key

/-- The loop that looks for a CID that was never used. -/
def unused (table : FlowTable) : Option (Fin 16) := (List.finRange 16).find? fun cid => !table.entries[cid].used

/-- The loop that looks for the flow that has not sent for the longest time. -/
def leastRecentlyUsed (table : FlowTable) : Fin 16 :=
  (List.finRange 16).tail.foldl
    (fun selected cid => if table.entries[cid].lastUsed < table.entries[selected].lastUsed then cid else selected) 0

def select (table : FlowTable) (packet : Bytes) : Except Failure FlowAssignment × FlowTable :=
  match identifyFlow packet with
  | .error failure => (.error failure, { table with mappingFailures := table.mappingFailures + 1 })
  | .ok key =>
    let clock := table.clock + 1
    match table.find key with
    | some cid =>
      let entry := { table.entries[cid] with lastUsed := clock }
      (.ok { cid := cid }, { table with clock := clock, entries := table.entries.set cid entry })
    | none =>
      let assigned (cid : Fin 16) : FlowTable :=
        { table with
          clock := clock
          entries := table.entries.set cid { key := key, lastUsed := clock, used := true }
          assignments := table.assignments + 1 }
      match table.unused with
      | some cid => (.ok { cid := cid, newlyAssigned := true }, assigned cid)
      | none =>
        let cid := table.leastRecentlyUsed
        (.ok { cid := cid, newlyAssigned := true, evicted := true },
          { assigned cid with evictions := table.evictions + 1 })

end FlowTable

/-- The table as a machine: each call shows the assignment or the failure. -/
def flowMachine : Machine FlowTable Bytes (Except Failure FlowAssignment) :=
  ⟨fun table packet => (table.select packet).2, fun table packet => (table.select packet).1⟩

/-! ## What the table is for -/

/-- The flows that have a CID, newest first, and how often what has happened. -/
structure Directory where
  order : Lru.Order FlowKey := []
  assignments : Nat := 0
  evictions : Nat := 0
  mappingFailures : Nat := 0

/-- The slot as a CID. -/
def assignmentOf (placement : Lru.Placement) : FlowAssignment :=
  { cid := Fin.ofNat 16 placement.slot, newlyAssigned := placement.fresh, evicted := placement.evicted }

/-- A flow keeps its CID; a new one gets the next that was never used, or that of the flow that has been silent longest. -/
def Directory.select (directory : Directory) (packet : Bytes) : Except Failure FlowAssignment × Directory :=
  match identifyFlow packet with
  | .error failure => (.error failure, { directory with mappingFailures := directory.mappingFailures + 1 })
  | .ok key =>
    let placement := Lru.place 16 directory.order key
    (.ok (assignmentOf placement),
      { directory with
        order := Lru.use 16 directory.order key
        assignments := directory.assignments + placement.fresh.toNat
        evictions := directory.evictions + placement.evicted.toNat })

def directoryMachine : Machine Directory Bytes (Except Failure FlowAssignment) :=
  ⟨fun directory packet => (directory.select packet).2, fun directory packet => (directory.select packet).1⟩

/-! ## The loops -/

namespace FlowTable

variable {table : FlowTable} {key : FlowKey} {cid : Fin 16}

/-- The flow of a CID. -/
def held (table : FlowTable) (i : Nat) : Option FlowKey :=
  table.entries[i]?.bind fun entry => if entry.used then some entry.key else none

def stamp (table : FlowTable) (i : Nat) : Nat := (table.entries[i]?.map (·.lastUsed.toNat)).getD 0

theorem held_eq (table : FlowTable) (cid : Fin 16) :
    table.held cid = if table.entries[cid].used then some table.entries[cid].key else none := by
  unfold held
  rw [Vector.getElem?_eq_getElem cid.isLt]
  rfl

theorem stamp_eq (table : FlowTable) (cid : Fin 16) : table.stamp cid = table.entries[cid].lastUsed.toNat := by
  unfold stamp
  rw [Vector.getElem?_eq_getElem cid.isLt]
  rfl

theorem held_of_find (h : table.find key = some cid) : table.held cid = some key := by
  have hp := List.find?_some h
  simp only [Bool.and_eq_true, decide_eq_true_eq] at hp
  rw [held_eq, if_pos hp.1, hp.2]

theorem absent_of_find (h : table.find key = none) : ∀ i < 16, table.held i ≠ some key := by
  intro i hi he
  have hp := List.find?_eq_none.mp h ⟨i, hi⟩ (List.mem_finRange _)
  have hheld := table.held_eq ⟨i, hi⟩
  rw [he] at hheld
  split at hheld
  · rename_i hused
    cases hheld
    exact hp (by rw [hused, Bool.true_and, decide_eq_true rfl])
  · cases hheld

theorem free_of_unused (h : table.unused = some cid) : table.held cid = none ∧ ∀ j < cid.val, table.held j ≠ none := by
  obtain ⟨hp, i, hi, hget, hbefore⟩ := List.find?_eq_some_iff_getElem.mp h
  rw [List.getElem_finRange] at hget
  have hcid : cid.val = i := (congrArg Fin.val hget).symm
  rw [Bool.not_eq_true'] at hp
  refine ⟨?_, fun j hj => ?_⟩
  · rw [held_eq, if_neg (by rw [hp]; decide)]
  · have hused := hbefore j (hcid ▸ hj)
    rw [List.getElem_finRange, Bool.not_not] at hused
    have hheld := table.held_eq ⟨j, hj.trans cid.isLt⟩
    rw [if_pos (by exact hused)] at hheld
    rw [hheld]
    exact nofun

theorem full_of_unused (h : table.unused = none) : ∀ j < 16, table.held j ≠ none := by
  intro j hj
  have hp := List.find?_eq_none.mp h ⟨j, hj⟩ (List.mem_finRange _)
  rw [Bool.not_eq_true', Bool.not_eq_false] at hp
  have hheld := table.held_eq ⟨j, hj⟩
  rw [if_pos (by exact hp)] at hheld
  rw [hheld]
  exact nofun

/-- A loop that keeps the lesser one ends with the least. -/
theorem foldl_least {α : Type} (f : α → UInt64) (l : List α) (a : α) : ∀ b ∈ a :: l,
    f (l.foldl (fun selected c => if f c < f selected then c else selected) a) ≤ f b := by
  induction l generalizing a with
  | nil => simp
  | cons c l ih =>
    intro b hb
    rw [List.foldl_cons]
    by_cases hlt : f c < f a
    · rw [if_pos hlt]
      rcases List.mem_cons.mp hb with rfl | hb
      · exact UInt64.le_trans (ih c c List.mem_cons_self) (UInt64.le_of_lt hlt)
      · exact ih c b hb
    · rw [if_neg hlt]
      rcases List.mem_cons.mp hb with rfl | hb
      · exact ih b b List.mem_cons_self
      · rcases List.mem_cons.mp hb with rfl | hb
        · exact UInt64.le_trans (ih a a List.mem_cons_self) (UInt64.not_lt.mp hlt)
        · exact ih a b (List.mem_cons_of_mem _ hb)

theorem least_of_leastRecentlyUsed (table : FlowTable) : ∀ j < 16, table.stamp table.leastRecentlyUsed ≤ table.stamp j := by
  intro j hj
  have hmem : (⟨j, hj⟩ : Fin 16) ∈ (0 : Fin 16) :: (List.finRange 16).tail := List.mem_finRange _
  have hle := foldl_least (fun cid : Fin 16 => table.entries[cid].lastUsed) _ _ _ hmem
  rw [stamp_eq, show table.stamp j = _ from table.stamp_eq ⟨j, hj⟩]
  exact UInt64.le_iff_toNat_le.mp hle

theorem held_set (table : FlowTable) (cid : Fin 16) (entry : FlowEntry) (hused : entry.used = true) (clock : UInt64) :
    { table with clock := clock, entries := table.entries.set cid entry }.held =
      Function.update table.held cid (some entry.key) := by
  funext i
  unfold held
  dsimp only
  rw [Vector.getElem?_set]
  by_cases hi : cid.val = i
  · subst hi
    rw [if_pos rfl, Function.update_self, Option.bind_some, if_pos hused]
  · rw [if_neg hi, Function.update_of_ne (Ne.symm hi)]

theorem stamp_set (table : FlowTable) (cid : Fin 16) (entry : FlowEntry) (clock : UInt64) :
    { table with clock := clock, entries := table.entries.set cid entry }.stamp =
      Function.update table.stamp cid entry.lastUsed.toNat := by
  funext i
  unfold stamp
  dsimp only
  rw [Vector.getElem?_set]
  by_cases hi : cid.val = i
  · subst hi
    rw [if_pos rfl, Function.update_self]
    rfl
  · rw [if_neg hi, Function.update_of_ne (Ne.symm hi)]

/-- After a selection the flow of the packet has the CID; unless the CID is new to it, it had it before. -/
theorem held_of_select {packet : Bytes} {assignment : FlowAssignment} (h : (table.select packet).1 = .ok assignment) :
    ∃ key, identifyFlow packet = .ok key ∧
      (table.select packet).2.held = Function.update table.held assignment.cid (some key) ∧
      (assignment.newlyAssigned = false → table.held assignment.cid = some key) := by
  unfold select at h ⊢
  cases hkey : identifyFlow packet with
  | error failure =>
    rw [hkey] at h
    cases h
  | ok key =>
    rw [hkey] at h
    dsimp only at h ⊢
    refine ⟨key, rfl, ?_⟩
    cases hfind : table.find key with
    | some cid =>
      rw [hfind] at h
      cases h
      have hheld := held_of_find hfind
      have hentry := table.held_eq cid
      rw [hheld] at hentry
      obtain ⟨hused, hsame⟩ := Option.some_eq_ite_none_right.mp hentry
      refine ⟨?_, fun _ => hheld⟩
      refine (table.held_set cid { table.entries[cid] with lastUsed := table.clock + 1 } hused _).trans ?_
      exact congrArg (Function.update table.held cid) hsame.symm
    | none =>
      rw [hfind] at h
      dsimp only at h ⊢
      cases hunused : table.unused with
      | some cid =>
        rw [hunused] at h
        cases h
        exact ⟨table.held_set cid ⟨key, table.clock + 1, true⟩ rfl (table.clock + 1), nofun⟩
      | none =>
        rw [hunused] at h
        cases h
        exact ⟨table.held_set _ ⟨key, table.clock + 1, true⟩ rfl (table.clock + 1), nofun⟩

/-- A packet without a flow changes no CID. -/
theorem held_of_select_error {packet : Bytes} {failure : Failure} (h : (table.select packet).1 = .error failure) :
    (table.select packet).2.held = table.held := by
  unfold select at h ⊢
  cases hkey : identifyFlow packet with
  | error failure' => rfl
  | ok key =>
    rw [hkey] at h
    dsimp only at h
    split at h
    · cases h
    · split at h <;> cases h

end FlowTable

/-! ## Refinement -/

theorem toNat_add_one {v : UInt64} {n : Nat} (hv : v.toNat ≤ n) (hn : n < 2 ^ 64 - 1) : (v + 1).toNat = v.toNat + 1 := by
  rw [UInt64.toNat_add, UInt64.toNat_one]
  omega

/-- After `n` calls the table stands for the directory. -/
structure Refines (n : Nat) (table : FlowTable) (directory : Directory) : Prop where
  shows : Lru.Shows 16 table.held table.stamp table.clock.toNat directory.order
  clock : table.clock.toNat ≤ n
  assignments : table.assignments.toNat = directory.assignments
  evictions : table.evictions.toNat = directory.evictions
  mappingFailures : table.mappingFailures.toNat = directory.mappingFailures
  assignments_le : directory.assignments ≤ n
  evictions_le : directory.evictions ≤ n
  mappingFailures_le : directory.mappingFailures ≤ n

namespace Refines

theorem start : Refines 0 {} {} := by
  have hheld : ({} : FlowTable).held = fun _ => none := by
    funext i
    unfold FlowTable.held
    rw [Vector.getElem?_replicate]
    split <;> rfl
  exact ⟨hheld ▸ .nil 16 _ _, le_refl 0, rfl, rfl, rfl, le_refl 0, le_refl 0, le_refl 0⟩

variable {n : Nat} {table : FlowTable} {directory : Directory} {key : FlowKey}

theorem ofNat_val (cid : Fin 16) : Fin.ofNat 16 cid.val = cid := Fin.ext (Nat.mod_eq_of_lt cid.isLt)

/-- Key and time are written to the slot of the key. -/
theorem assign (h : Refines n table directory) (hn : n < 2 ^ 64 - 1) (entry : FlowEntry) (hused : entry.used = true)
    (hkey : entry.key = key) (hlast : entry.lastUsed = table.clock + 1) {cid : Fin 16}
    (hslot : (Lru.place 16 directory.order key).slot = cid) :
    Lru.Shows 16 { table with clock := table.clock + 1, entries := table.entries.set cid entry }.held
      { table with clock := table.clock + 1, entries := table.entries.set cid entry }.stamp
      (table.clock + 1).toNat (Lru.use 16 directory.order key) := by
  have hclock := toNat_add_one h.clock hn
  have hshows := h.shows.use (by decide) key (show table.clock.toNat < (table.clock + 1).toNat by omega)
  rw [FlowTable.held_set table cid entry hused, FlowTable.stamp_set table cid, hkey, hlast, ← hslot]
  exact hshows

/-- **One selection.** -/
theorem select (h : Refines n table directory) (hn : n < 2 ^ 64 - 1) (packet : Bytes) :
    (table.select packet).1 = (directory.select packet).1 ∧
      Refines (n + 1) (table.select packet).2 (directory.select packet).2 := by
  have hclock := toNat_add_one h.clock hn
  have hassignments := toNat_add_one (h.assignments ▸ h.assignments_le) hn
  have hevictions := toNat_add_one (h.evictions ▸ h.evictions_le) hn
  have hfailures := toNat_add_one (h.mappingFailures ▸ h.mappingFailures_le) hn
  obtain ⟨shows, clock, assignments, evictions, failures, ha, he, hf⟩ := id h
  have hclock_le : (table.clock + 1).toNat ≤ n + 1 := hclock.le.trans (Nat.succ_le_succ clock)
  have ha' := Nat.le_succ_of_le ha
  have he' := Nat.le_succ_of_le he
  have hf' := Nat.le_succ_of_le hf
  unfold FlowTable.select Directory.select
  cases identifyFlow packet with
  | error failure =>
    exact ⟨rfl, ⟨shows, Nat.le_succ_of_le clock, assignments, evictions, hfailures.trans (congrArg (· + 1) failures), ha', he',
      Nat.succ_le_succ hf⟩⟩
  | ok key =>
    dsimp only
    cases hfind : table.find key with
    | some cid =>
      have hheld := FlowTable.held_of_find hfind
      have hentry := table.held_eq cid
      rw [hheld] at hentry
      obtain ⟨hused, hkey⟩ := Option.some_eq_ite_none_right.mp hentry
      have hplace := shows.place_of_held hheld
      have hnext := assign h hn { table.entries[cid] with lastUsed := table.clock + 1 } hused (Option.some.inj hkey).symm rfl
        (congrArg Lru.Placement.slot hplace)
      rw [hplace, assignmentOf, ofNat_val]
      exact ⟨rfl, ⟨hnext, hclock_le, assignments, evictions, failures, ha', he', hf'⟩⟩
    | none =>
      have absent := FlowTable.absent_of_find hfind
      cases hunused : table.unused with
      | some cid =>
        obtain ⟨hfree, hfirst⟩ := FlowTable.free_of_unused hunused
        have hplace := shows.place_of_free absent cid.isLt hfree hfirst
        have hnext := assign h hn ⟨key, table.clock + 1, true⟩ rfl rfl rfl (congrArg Lru.Placement.slot hplace)
        rw [hplace, assignmentOf, ofNat_val]
        exact ⟨rfl, ⟨hnext, hclock_le, hassignments.trans (congrArg (· + 1) assignments), evictions, failures,
          Nat.succ_le_succ ha, he', hf'⟩⟩
      | none =>
        have hplace := shows.place_of_full absent (FlowTable.full_of_unused hunused) table.leastRecentlyUsed.isLt
          table.least_of_leastRecentlyUsed
        have hnext := assign h hn ⟨key, table.clock + 1, true⟩ rfl rfl rfl (congrArg Lru.Placement.slot hplace)
        rw [hplace, assignmentOf, ofNat_val]
        exact ⟨rfl, ⟨hnext, hclock_le, hassignments.trans (congrArg (· + 1) assignments),
          hevictions.trans (congrArg (· + 1) evictions), failures, Nat.succ_le_succ ha, Nat.succ_le_succ he, hf'⟩⟩

/-- As many CIDs are in use as the directory has flows. -/
theorem activeContexts (h : Refines n table directory) : table.activeContexts = directory.order.length := by
  have hused : ∀ cid : Fin 16, table.entries[cid].used = decide (cid.val < directory.order.length) := by
    intro cid
    have hheld : (if table.entries[cid].used then some table.entries[cid].key else none).isSome ↔
        cid.val < directory.order.length := table.held_eq cid ▸ h.shows.isSome_iff
    rw [Option.isSome_ite] at hheld
    exact Bool.eq_iff_iff.mpr (hheld.trans decide_eq_true_iff.symm)
  have hlist : table.entries.toList = (List.finRange 16).map (table.entries[·]) := by
    refine List.ext_getElem (by simp) fun i h₁ h₂ => ?_
    simp
  have hcount : ∀ k ≤ 16, (List.finRange 16).countP (fun cid => decide (cid.val < k)) = k := by decide
  unfold FlowTable.activeContexts
  rw [hlist, List.countP_map, ← hcount _ h.shows.fits]
  exact List.countP_congr fun cid _ => by rw [Function.comp_apply, hused]

end Refines

theorem flows_simulate : flowMachine.Simulates directoryMachine Refines (2 ^ 64 - 1) :=
  ⟨fun h hn packet => (h.select hn packet).1, fun h hn packet => (h.select hn packet).2⟩

/-- **The table is a directory of flows by least recent use**: in every run that its 64-bit counters can count, it makes the
assignments of the directory, and the counters are right. -/
theorem selections_refine_lru (packets : List Bytes) (short : packets.length < 2 ^ 64) :
    flowMachine.trace {} packets = directoryMachine.trace {} packets ∧
      Refines packets.length (flowMachine.after {} packets) (directoryMachine.after {} packets) := by
  have hrun := flows_simulate.trace_eq .start (show 0 + packets.length ≤ 2 ^ 64 - 1 by omega)
  rwa [Nat.zero_add] at hrun

/-- A packet of protocol 253 from the host. -/
def plainPacket (host : UInt8) : Bytes := [69, 0, 0, 20, 0, 0, 0, 0, 64, 253, 0, 0, 10, 0, 0, host, 10, 0, 1, 1]

theorem selections_refine_lru_plain :
    flowMachine.trace {} [plainPacket 1, plainPacket 2, plainPacket 1] =
        directoryMachine.trace {} [plainPacket 1, plainPacket 2, plainPacket 1] ∧
      Refines 3 (flowMachine.after {} [plainPacket 1, plainPacket 2, plainPacket 1])
        (directoryMachine.after {} [plainPacket 1, plainPacket 2, plainPacket 1]) :=
  selections_refine_lru [plainPacket 1, plainPacket 2, plainPacket 1] (by decide)

/-! ## Flows in use -/

/-- The flow of a packet that has one. -/
def keyOf (packet : Bytes) : Option FlowKey := (identifyFlow packet).toOption

theorem Directory.order_select (directory : Directory) (packet : Bytes) : (directory.select packet).2.order =
    match keyOf packet with
    | none => directory.order
    | some key => Lru.use 16 directory.order key := by
  unfold Directory.select keyOf
  cases identifyFlow packet <;> rfl

theorem Directory.order_after (directory : Directory) (packets : List Bytes) :
    (directoryMachine.after directory packets).order = Lru.usedAll 16 directory.order (packets.filterMap keyOf) := by
  induction packets generalizing directory with
  | nil => rfl
  | cons packet packets ih =>
    have hnext : directoryMachine.after directory (packet :: packets) =
        directoryMachine.after (directory.select packet).2 packets := rfl
    rw [hnext, ih, Directory.order_select]
    cases hkey : keyOf packet with
    | none => rw [List.filterMap_cons_none hkey]
    | some key =>
      rw [List.filterMap_cons_some hkey]
      rfl

theorem Directory.select_of_key {directory : Directory} {packet : Bytes} {key : FlowKey} (h : identifyFlow packet = .ok key) :
    (directory.select packet).1 = .ok (assignmentOf (Lru.place 16 directory.order key)) := by
  unfold Directory.select
  rw [h]

/-- **A flow keeps its CID** as long as fewer than 16 other flows send. -/
theorem flow_keeps_cid {before between : List Bytes} {first again : Bytes} {key : FlowKey}
    (hfirst : identifyFlow first = .ok key) (hagain : identifyFlow again = .ok key)
    (few : ((between.filterMap keyOf).toFinset.erase key).card < 16) (short : before.length + between.length < 2 ^ 64 - 2) :
    ∃ assignment : FlowAssignment, ((flowMachine.after {} before).select first).1 = .ok assignment ∧
      ((flowMachine.after {} (before ++ first :: between)).select again).1 = .ok { cid := assignment.cid } := by
  obtain ⟨-, hbefore⟩ := selections_refine_lru before (by omega)
  have hlen : (before ++ first :: between).length = before.length + between.length + 1 := by simp [Nat.add_assoc]
  obtain ⟨-, hafter⟩ := selections_refine_lru (before ++ first :: between) (by omega)
  refine ⟨_, (hbefore.select (by omega) first).1.trans (Directory.select_of_key hfirst), ?_⟩
  have horder : (directoryMachine.after {} (before ++ first :: between)).order =
      Lru.usedAll 16 (Lru.use 16 (directoryMachine.after {} before).order key) (between.filterMap keyOf) := by
    have hsplit : directoryMachine.after {} (before ++ first :: between) =
        directoryMachine.after ((directoryMachine.after {} before).select first).2 between := List.foldl_append
    have hkey : keyOf first = some key := by
      unfold keyOf
      rw [hfirst]
      rfl
    rw [hsplit, Directory.order_after, Directory.order_select, hkey]
  have hslot := Lru.slotOf_usedAll (by decide) hbefore.shows.toTidy key (between.filterMap keyOf) few
  rw [← horder] at hslot
  have hplace : Lru.place 16 (directoryMachine.after {} (before ++ first :: between)).order key =
      { slot := (Lru.place 16 (directoryMachine.after {} before).order key).slot } := Lru.place_of_slotOf hslot
  rw [(hafter.select (by omega) again).1, Directory.select_of_key hagain, hplace]
  rfl

theorem flow_keeps_cid_plain : ∃ assignment : FlowAssignment,
    ((flowMachine.after {} [plainPacket 1]).select (plainPacket 2)).1 = .ok assignment ∧
      ((flowMachine.after {} ([plainPacket 1] ++ plainPacket 2 :: [plainPacket 1, plainPacket 3])).select
        (plainPacket 2)).1 = .ok { cid := assignment.cid } := by
  have hkey : identifyFlow (plainPacket 2) = .ok [10, 0, 0, 2, 10, 0, 1, 1, 253, 0] := by decide +kernel
  exact flow_keeps_cid hkey hkey (by decide +kernel) (by decide)

end Rohccxx.Tun
