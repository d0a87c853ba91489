import Mathlib.Data.Finset.Card
import Mathlib.Data.List.Nodup
import Mathlib.Data.List.Perm.Basic
import Mathlib.Logic.Function.Basic

/-!
# Slots by least recent use

`n` slots, handed out to keys as the keys are used. The abstract state lists the keys that have a slot, newest first
(`Order`): a key that is used moves to the front; a new one gets the next free slot, or else that of the oldest key.

* `slotOf_usedAll` — a key keeps its slot as long as fewer than `n` other keys are used.
* `Shows` — a table of slots with time stamps shows such a state. Its search for the key, for a free slot and for the
  least stamp finds the abstract slot (`place_of_held`, `place_of_free`, `place_of_full`), and writing key and time there
  is the abstract step (`Shows.use`).
-/

set_option autoImplicit false

namespace Lru

variable {κ : Type}

/-! ## The abstract state -/

/-- The keys that have a slot, newest first, with their slots. -/
abbrev Order (κ : Type) := List (κ × Nat)

/-- The slot of a key: whether it is new to the key, and whether another key had to give it up. -/
structure Placement where
  slot : Nat
  fresh : Bool := false
  evicted : Bool := false
deriving DecidableEq

/-- The slot of the key that was not used for the longest time. -/
def oldest (r : Order κ) : Nat := (r.getLast?.map Prod.snd).getD 0

variable [DecidableEq κ]

/-- The slot of a key that has one. -/
def slotOf (r : Order κ) (key : κ) : Option Nat := r.lookup key

/-- The slot a key gets. -/
def place (n : Nat) (r : Order κ) (key : κ) : Placement :=
  match r.lookup key with
  | some slot => { slot := slot }
  | none =>
    if r.length < n then { slot := r.length, fresh := true }
    else { slot := oldest r, fresh := true, evicted := true }

/-- The keys behind it. -/
def others (n : Nat) (r : Order κ) (key : κ) : Order κ :=
  match r.lookup key with
  | some _ => r.eraseP (key == ·.1)
  | none => if r.length < n then r else r.dropLast

/-- The state after a key has been used. -/
def use (n : Nat) (r : Order κ) (key : κ) : Order κ := (key, (place n r key).slot) :: others n r key

/-- The state after some keys have been used. -/
def usedAll (n : Nat) (r : Order κ) (keys : List κ) : Order κ := keys.foldl (use n) r

/-- No key and no slot occurs twice, and the slots in use are the first ones. -/
structure Tidy {κ : Type} (n : Nat) (r : Order κ) : Prop where
  keys : (r.map Prod.fst).Nodup
  slots : (r.map Prod.snd).Perm (List.range r.length)
  fits : r.length ≤ n

/-- What the use of a key does. -/
inductive Use {κ : Type} (n : Nat) (r : Order κ) (key : κ) : Order κ → Placement → Prop where
  | hit {front back : Order κ} {slot : Nat} (split : r = front ++ (key, slot) :: back) :
    Use n r key ((key, slot) :: (front ++ back)) { slot := slot }
  | fill (new : key ∉ r.map Prod.fst) (free : r.length < n) :
    Use n r key ((key, r.length) :: r) { slot := r.length, fresh := true }
  | evict {front : Order κ} {old : κ} {slot : Nat} (new : key ∉ r.map Prod.fst) (full : n ≤ r.length)
    (split : r = front ++ [(old, slot)]) :
    Use n r key ((key, slot) :: front) { slot := slot, fresh := true, evicted := true }

theorem use_spec {n : Nat} (hn : 0 < n) (r : Order κ) (key : κ) : Use n r key (use n r key) (place n r key) := by
  unfold use place others
  cases h : r.lookup key with
  | some slot =>
    obtain ⟨front, back, rfl, ahead⟩ := List.lookup_eq_some_iff.mp h
    have hfront : ∀ p ∈ front, ¬(key == p.1) = true := fun p hp => by simpa using ahead p hp
    have herase : (front ++ (key, slot) :: back).eraseP (key == ·.1) = front ++ back := by
      rw [List.eraseP_append_right _ hfront, List.eraseP_cons_of_pos (by simp)]
    simp only [herase]
    exact .hit rfl
  | none =>
    have new : key ∉ r.map Prod.fst := by
      intro hmem
      obtain ⟨p, hp, rfl⟩ := List.mem_map.mp hmem
      simpa using List.lookup_eq_none_iff.mp h p hp
    by_cases hlt : r.length < n
    · simp only [if_pos hlt]
      exact .fill new hlt
    · simp only [if_neg hlt]
      have hne : r ≠ [] := by
        rintro rfl
        exact hlt hn
      have hlast : oldest r = (r.getLast hne).2 := by
        unfold oldest
        rw [List.getLast?_eq_some_getLast hne, Option.map_some, Option.getD_some]
      rw [hlast]
      exact .evict new (Nat.not_lt.mp hlt) (List.dropLast_append_getLast hne).symm

section Use

omit [DecidableEq κ]

variable {n : Nat} {r next : Order κ} {key : κ} {placement : Placement}

theorem Tidy.nil (n : Nat) : Tidy n ([] : Order κ) := ⟨List.nodup_nil, .nil, Nat.zero_le n⟩

/-- A key has one slot. -/
theorem Tidy.slot_eq (tidy : Tidy n r) {i j : Nat} (hi : (key, i) ∈ r) (hj : (key, j) ∈ r) : i = j :=
  congrArg Prod.snd (List.inj_on_of_nodup_map tidy.keys hi hj rfl)

theorem Tidy.slot_lt (tidy : Tidy n r) {a : κ × Nat} (ha : a ∈ r) : a.2 < r.length :=
  List.mem_range.mp (tidy.slots.subset (List.mem_map_of_mem ha))

theorem Tidy.exists_of_lt (tidy : Tidy n r) {i : Nat} (hi : i < r.length) : ∃ key, (key, i) ∈ r := by
  obtain ⟨⟨key, j⟩, hmem, rfl⟩ := List.mem_map.mp (tidy.slots.symm.subset (List.mem_range.mpr hi))
  exact ⟨key, hmem⟩

/-- The key is in front, and what is behind it has not moved. -/
theorem Use.eq_cons (h : Use n r key next placement) : ∃ rest, next = (key, placement.slot) :: rest ∧ rest.Sublist r := by
  cases h with
  | @hit front back slot split =>
    refine ⟨_, rfl, ?_⟩
    rw [split]
    exact (List.sublist_cons_self _ back).append_left front
  | fill => exact ⟨r, rfl, .refl r⟩
  | @evict front old slot new full split =>
    refine ⟨front, rfl, ?_⟩
    rw [split]
    exact List.sublist_append_left front _

theorem Use.length_le (h : Use n r key next placement) : r.length ≤ next.length := by
  cases h with
  | hit split =>
    rw [split]
    simp [Nat.add_assoc]
  | fill => simp
  | evict new full split =>
    rw [split]
    simp

theorem Use.tidy (h : Use n r key next placement) (tidy : Tidy n r) : Tidy n next := by
  obtain ⟨keys, slots, fits⟩ := tidy
  cases h with
  | @hit front back slot split =>
    subst split
    have hperm : ((key, slot) :: (front ++ back)).Perm (front ++ (key, slot) :: back) := List.perm_middle.symm
    refine ⟨(hperm.map Prod.fst).nodup_iff.mpr keys, ?_, ?_⟩
    · rw [hperm.length_eq]
      exact (hperm.map Prod.snd).trans slots
    · rw [hperm.length_eq]
      exact fits
  | fill new free =>
    refine ⟨List.nodup_cons.mpr ⟨new, keys⟩, ?_, free⟩
    rw [List.map_cons, List.length_cons, List.range_succ]
    exact (slots.cons r.length).trans (List.perm_append_singleton r.length _).symm
  | @evict front old slot new full split =>
    subst split
    have hlen : ((key, slot) :: front).length = (front ++ [(old, slot)]).length := by simp
    rw [List.map_append] at keys new slots
    refine ⟨?_, ?_, hlen ▸ fits⟩
    · exact List.nodup_cons.mpr ⟨fun hmem => new (List.mem_append_left _ hmem), (List.nodup_append.mp keys).1⟩
    · rw [hlen]
      exact (List.perm_append_singleton slot _).symm.trans slots

end Use

/-! ## Keys in use -/

theorem slotOf_eq_some {n : Nat} {r : Order κ} (tidy : Tidy n r) {key : κ} {slot : Nat} (h : (key, slot) ∈ r) :
    slotOf r key = some slot := by
  unfold slotOf
  cases hl : r.lookup key with
  | none => simpa using List.lookup_eq_none_iff.mp hl _ h
  | some other =>
    obtain ⟨front, back, hr, -⟩ := List.lookup_eq_some_iff.mp hl
    rw [tidy.slot_eq h (hr ▸ List.mem_append_right front List.mem_cons_self)]

theorem place_of_slotOf {n : Nat} {r : Order κ} {key : κ} {slot : Nat} (h : slotOf r key = some slot) :
    place n r key = { slot := slot } := by
  unfold slotOf at h
  unfold place
  rw [h]

/-- The key has the slot, and all keys ahead of it are among the given ones. -/
structure Ahead {κ : Type} (r : Order κ) (key : κ) (slot : Nat) (among : Finset κ) : Prop where
  mem : (key, slot) ∈ r
  ahead : ∀ p, [p, (key, slot)].Sublist r → p.1 ∈ among

section Ahead

variable {n : Nat} {r next : Order κ} {key other : κ} {slot : Nat} {placement : Placement} {among : Finset κ}

omit [DecidableEq κ] in
/-- After its use a key is ahead of all others. -/
theorem Use.ahead (h : Use n r key next placement) (tidy : Tidy n next) : Ahead next key placement.slot ∅ := by
  obtain ⟨rest, rfl, -⟩ := h.eq_cons
  refine ⟨List.mem_cons_self, fun p hp => ?_⟩
  have hmem : (key, placement.slot) ∈ rest := by
    cases hp with
    | cons _ hp => exact hp.subset (by simp)
    | cons_cons _ hp => exact hp.subset (by simp)
  exact absurd (List.mem_map_of_mem hmem) (List.nodup_cons.mp tidy.keys).1

/-- Another use leaves the key its slot, as long as fewer than `n` keys can get ahead of it. -/
theorem Ahead.use (h : Ahead r key slot among) (tidy : Tidy n r) (use : Use n r other next placement)
    (few : ((insert other among).erase key).card < n) : Ahead next key slot (insert other among) := by
  obtain ⟨mem, ahead⟩ := h
  refine ⟨?_, fun p hp => ?_⟩
  · cases use with
    | @hit front back s split =>
      by_cases he : (key, slot) = (other, s)
      · rw [he]
        exact List.mem_cons_self
      · rw [split] at mem
        simp only [List.mem_append, List.mem_cons] at mem ⊢
        tauto
    | fill => exact List.mem_cons_of_mem _ mem
    | @evict front old s new full split =>
      subst split
      rcases List.mem_append.mp mem with hfront | hlast
      · exact List.mem_cons_of_mem _ hfront
      · -- the key is the oldest one, so all the others are ahead of it
        exfalso
        cases List.mem_singleton.mp hlast
        have keys := tidy.keys
        rw [List.map_append] at keys new
        obtain ⟨hnodup, -, hapart⟩ := List.nodup_append.mp keys
        have hcons : (other :: front.map Prod.fst).Nodup :=
          List.nodup_cons.mpr ⟨fun hmem => new (List.mem_append_left _ hmem), hnodup⟩
        have hsub : (other :: front.map Prod.fst).toFinset ⊆ (insert other among).erase key := by
          intro k hk
          rcases List.mem_cons.mp (List.mem_toFinset.mp hk) with rfl | hk
          · exact Finset.mem_erase.mpr ⟨fun he => new (by simp [he]), Finset.mem_insert_self _ _⟩
          · obtain ⟨p, hp, rfl⟩ := List.mem_map.mp hk
            refine Finset.mem_erase.mpr ⟨hapart p.1 hk key (by simp), Finset.mem_insert_of_mem (ahead p ?_)⟩
            exact (List.singleton_sublist.mpr hp).append (.refl _)
        have hcard := Finset.card_le_card hsub
        rw [List.toFinset_card_of_nodup hcons] at hcard
        simp only [List.length_append, List.length_cons, List.length_map, List.length_nil] at hcard full
        omega
  · obtain ⟨rest, rfl, hrest⟩ := use.eq_cons
    cases hp with
    | cons _ hp => exact Finset.mem_insert_of_mem (ahead p (hp.trans hrest))
    | cons_cons _ hp => exact Finset.mem_insert_self _ _

end Ahead

/-- **A key keeps its slot** as long as fewer than `n` other keys are used. -/
theorem slotOf_usedAll {n : Nat} (hn : 0 < n) {r : Order κ} (tidy : Tidy n r) (key : κ) (keys : List κ)
    (few : (keys.toFinset.erase key).card < n) :
    slotOf (usedAll n (use n r key) keys) key = some (place n r key).slot := by
  have hstart := use_spec hn r key
  have hkeeps : ∀ (keys : List κ) (r : Order κ) (among : Finset κ) (slot : Nat), Tidy n r → Ahead r key slot among →
      ((among ∪ keys.toFinset).erase key).card < n → slotOf (usedAll n r keys) key = some slot := by
    intro keys
    induction keys with
    | nil => exact fun r among slot tidy h _ => slotOf_eq_some tidy h.mem
    | cons other keys ih =>
      intro r among slot tidy h few
      have huse := use_spec hn r other
      have hset : insert other among ∪ keys.toFinset = among ∪ (other :: keys).toFinset := by
        rw [List.toFinset_cons, Finset.insert_union, Finset.union_insert]
      refine ih _ (insert other among) slot (huse.tidy tidy) (h.use tidy huse ?_) (hset ▸ few)
      refine lt_of_le_of_lt (Finset.card_le_card (Finset.erase_subset_erase key ?_)) few
      rw [← hset]
      exact Finset.subset_union_left
  exact hkeeps keys _ ∅ _ (hstart.tidy tidy) (hstart.ahead (hstart.tidy tidy)) (by rwa [Finset.empty_union])

/-! ## Tables of slots -/

/-- A table shows a state: the slots hold its keys, and the time stamps its order. -/
structure Shows {κ : Type} (n : Nat) (held : Nat → Option κ) (stamp : Nat → Nat) (clock : Nat) (r : Order κ) : Prop
    extends Tidy n r where
  holds : ∀ p ∈ r, held p.2 = some p.1
  free : ∀ i, r.length ≤ i → held i = none
  order : r.Pairwise fun a b => stamp b.2 < stamp a.2
  past : ∀ p ∈ r, stamp p.2 ≤ clock

namespace Shows

variable {n : Nat} {held : Nat → Option κ} {stamp : Nat → Nat} {clock : Nat} {r : Order κ} {key : κ} {i : Nat}

omit [DecidableEq κ] in
theorem nil (n : Nat) (stamp : Nat → Nat) (clock : Nat) : Shows n (fun _ => (none : Option κ)) stamp clock [] :=
  ⟨.nil n, nofun, fun _ _ => rfl, .nil, nofun⟩

variable (shows : Shows n held stamp clock r)

include shows

omit [DecidableEq κ] in
theorem held_iff : held i = some key ↔ (key, i) ∈ r := by
  refine ⟨fun h => ?_, fun h => shows.holds _ h⟩
  have hlt : i < r.length := by
    by_contra hge
    cases (shows.free i (Nat.not_lt.mp hge)).symm.trans h
  obtain ⟨other, hmem⟩ := shows.exists_of_lt hlt
  cases (shows.holds _ hmem).symm.trans h
  exact hmem

omit [DecidableEq κ] in
theorem isSome_iff : (held i).isSome ↔ i < r.length := by
  refine ⟨fun h => ?_, fun h => ?_⟩
  · by_contra hge
    rw [shows.free i (Nat.not_lt.mp hge)] at h
    cases h
  · obtain ⟨key, hmem⟩ := shows.exists_of_lt h
    exact Option.isSome_of_eq_some (shows.holds _ hmem)

/-- The slot that holds the key. -/
theorem place_of_held (h : held i = some key) : place n r key = { slot := i } :=
  place_of_slotOf (slotOf_eq_some shows.toTidy (shows.held_iff.mp h))

omit [DecidableEq κ] in
theorem not_mem_keys (absent : ∀ i < n, held i ≠ some key) : key ∉ r.map Prod.fst := by
  intro hmem
  obtain ⟨⟨k, i⟩, hp, rfl⟩ := List.mem_map.mp hmem
  exact absent i (lt_of_lt_of_le (shows.slot_lt hp) shows.fits) (shows.holds _ hp)

theorem lookup_eq_none (absent : ∀ i < n, held i ≠ some key) : r.lookup key = none := by
  refine List.lookup_eq_none_iff.mpr fun p hp => ?_
  have hne : key ≠ p.1 := fun he => shows.not_mem_keys absent (he ▸ List.mem_map_of_mem hp)
  simpa using hne

/-- Otherwise the first slot that is free. -/
theorem place_of_free (absent : ∀ i < n, held i ≠ some key) (hi : i < n) (free : held i = none)
    (first : ∀ j < i, held j ≠ none) : place n r key = { slot := i, fresh := true } := by
  have hge : r.length ≤ i := by
    by_contra hlt
    have h := shows.isSome_iff.mpr (Nat.not_le.mp hlt)
    rw [free] at h
    cases h
  have hle : i ≤ r.length := by
    by_contra hlt
    exact first _ (Nat.not_le.mp hlt) (shows.free _ le_rfl)
  unfold place
  rw [shows.lookup_eq_none absent]
  dsimp only
  rw [if_pos (lt_of_le_of_lt hge hi), Nat.le_antisymm hge hle]

/-- Otherwise the slot with the least time stamp. -/
theorem place_of_full (absent : ∀ i < n, held i ≠ some key) (full : ∀ j < n, held j ≠ none) (hi : i < n)
    (least : ∀ j < n, stamp i ≤ stamp j) : place n r key = { slot := i, fresh := true, evicted := true } := by
  have hlen : n ≤ r.length := by
    by_contra hlt
    exact full _ (Nat.not_le.mp hlt) (shows.free _ le_rfl)
  have hne : r ≠ [] := List.ne_nil_of_length_pos (Nat.lt_of_lt_of_le (Nat.zero_lt_of_lt hi) hlen)
  obtain ⟨other, hmem⟩ := shows.exists_of_lt (lt_of_lt_of_le hi hlen)
  have hlast : (r.getLast hne).2 = i := by
    have hsplit := List.dropLast_append_getLast hne
    have horder := shows.order
    rw [← hsplit] at hmem horder
    rcases List.mem_append.mp hmem with hfront | hend
    · have hlt := (List.pairwise_append.mp horder).2.2 _ hfront _ (List.mem_singleton.mpr rfl)
      have hle := least _ (lt_of_lt_of_le (shows.slot_lt (List.getLast_mem hne)) shows.fits)
      exact absurd hlt (Nat.not_lt.mpr hle)
    · exact (congrArg Prod.snd (List.mem_singleton.mp hend)).symm
  unfold place oldest
  rw [shows.lookup_eq_none absent]
  dsimp only
  rw [if_neg (Nat.not_lt.mpr hlen), List.getLast?_eq_some_getLast hne, Option.map_some, Option.getD_some, hlast]

/-- **Key and time, written to the slot, show the state after the use.** -/
theorem use (hn : 0 < n) (key : κ) {later : Nat} (hlater : clock < later) :
    Shows n (Function.update held (place n r key).slot (some key)) (Function.update stamp (place n r key).slot later) later
      (Lru.use n r key) := by
  have huse := use_spec hn r key
  have tidy := huse.tidy shows.toTidy
  obtain ⟨rest, hcons, hrest⟩ := huse.eq_cons
  have hlen := huse.length_le
  generalize (place n r key).slot = slot at hcons
  rw [hcons] at tidy hlen ⊢
  have hne : ∀ p ∈ rest, p.2 ≠ slot := by
    intro p hp he
    have hslots := tidy.slots.nodup_iff.mpr List.nodup_range
    exact (List.nodup_cons.mp hslots).1 (List.mem_map.mpr ⟨p, hp, he⟩)
  refine ⟨tidy, fun p hp => ?_, fun i hi => ?_, ?_, fun p hp => ?_⟩
  · rcases List.mem_cons.mp hp with rfl | hp
    · exact Function.update_self _ _ _
    · rw [Function.update_of_ne (hne p hp)]
      exact shows.holds p (hrest.subset hp)
  · have hlt := tidy.slot_lt (List.mem_cons_self (a := (key, slot)) (l := rest))
    rw [Function.update_of_ne (Nat.ne_of_gt (lt_of_lt_of_le hlt hi))]
    exact shows.free i (hlen.trans hi)
  · refine List.pairwise_cons.mpr ⟨fun p hp => ?_, ?_⟩
    · rw [Function.update_self, Function.update_of_ne (hne p hp)]
      exact lt_of_le_of_lt (shows.past p (hrest.subset hp)) hlater
    · refine (shows.order.sublist hrest).imp_of_mem fun ha hb h => ?_
      rwa [Function.update_of_ne (hne _ ha), Function.update_of_ne (hne _ hb)]
  · rcases List.mem_cons.mp hp with rfl | hp
    · rw [Function.update_self]
    · rw [Function.update_of_ne (hne p hp)]
      exact (shows.past p (hrest.subset hp)).trans hlater.le

end Shows

end Lru
