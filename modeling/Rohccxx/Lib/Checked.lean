import Rohccxx.Lib.Proc

/-!
# Reads within bounds

Two ways to say that code stays within the octets it was given. `Room bs k k' m`: where at least `k` octets are left, the
reader `m` does not fault, and on its answer at least `k'` are left; the rules follow a `do` block and spend the room that
its checks establish. `Outcome` is a monad for code that reads by index: `octetAt`, `minus`, `rest` and `copyFrom`
fault where the code would read outside, wrap a length or overrun an array. Such code is within bounds when it
equals the answer of a plain function (`ofOption`), which never is a fault.
-/

set_option autoImplicit false

open Octets

/-! ## Code that reads by index -/

namespace Outcome

variable {α β : Type}

instance : Monad Outcome where
  pure := ok
  bind x f := match x with
    | ok a => f a
    | reject => reject
    | fault => fault

@[simp] theorem ok_bind (a : α) (f : α → Outcome β) : (ok a >>= f) = f a := rfl
@[simp] theorem reject_bind (f : α → Outcome β) : (reject >>= f) = reject := rfl
@[simp] theorem pure_eq (a : α) : (pure a : Outcome α) = ok a := rfl

/-- `return false` where there is no answer. -/
def ofOption : Option α → Outcome α
  | some a => ok a
  | none => reject

@[simp] theorem ofOption_some (a : α) : ofOption (some a) = ok a := rfl
@[simp] theorem ofOption_none : ofOption (none : Option α) = reject := rfl

theorem ofOption_bind (o : Option α) (f : α → Option β) :
    ofOption (o >>= f) = ofOption o >>= fun a => ofOption (f a) := by
  cases o <;> rfl

theorem ofOption_some_bind (a : α) (f : α → Option β) : ofOption (some a >>= f) = ofOption (f a) := rfl

theorem ofOption_map (o : Option α) (f : α → β) : ofOption (o.map f) = ofOption o >>= fun a => ok (f a) := by
  cases o <;> rfl

theorem ofOption_ite {p : Prop} [Decidable p] (x y : Option α) :
    ofOption (if p then x else y) = if p then ofOption x else ofOption y := by
  split <;> rfl

/-- `in[i]`. -/
def octetAt (bs : Bytes) (i : Nat) : Outcome UInt8 :=
  match bs[i]? with
  | some b => ok b
  | none => fault

/-- `a - b` of two lengths. -/
def minus (a b : Nat) : Outcome Nat := if b ≤ a then ok (a - b) else fault

/-- `in + i` and the `len - i` octets there. -/
def rest (bs : Bytes) (i : Nat) : Outcome Bytes := if i ≤ bs.length then ok (bs.drop i) else fault

/-- `memcpy` of `n` octets from `in + i` to an array of `size` octets. -/
def copyFrom (bs : Bytes) (i n size : Nat) : Outcome Bytes :=
  if i + n ≤ bs.length ∧ n ≤ size then ok ((bs.drop i).take n) else fault

/-- `read_u16(in + i)`. -/
def wordAt (bs : Bytes) (i : Nat) : Outcome UInt16 := do
  let hi ← octetAt bs i
  let lo ← octetAt bs (i + 1)
  return ofBe16 hi lo

variable {bs : Bytes} {i n size a b : Nat}

theorem octetAt_of_lt (h : i < bs.length) : octetAt bs i = ok (bs.getD i 0) := by
  simp [octetAt, h]

theorem minus_of_le (h : b ≤ a) : minus a b = ok (a - b) := if_pos h

theorem rest_of_le (h : i ≤ bs.length) : rest bs i = ok (bs.drop i) := if_pos h

theorem copyFrom_of_le (h : i + n ≤ bs.length) (hs : n ≤ size) :
    copyFrom bs i n size = ok ((bs.drop i).take n) := if_pos ⟨h, hs⟩

theorem wordAt_of_lt (h : i + 1 < bs.length) : wordAt bs i = ok (ofBe16 (bs.getD i 0) (bs.getD (i + 1) 0)) := by
  rw [wordAt, octetAt_of_lt (by omega), octetAt_of_lt h]
  rfl

end Outcome

/-! ## Readers with room -/

/-- What follows a test may use it. -/
theorem Proc.require_bind_congr {σ α : Type} {b : Bool} {f g : Unit → Proc σ α} (h : b = true → f () = g ()) :
    (Proc.require b >>= f) = (Proc.require b >>= g) := by
  cases b with
  | true => exact h rfl
  | false => rfl

namespace Reader

variable {σ α β : Type}

/-- `memcpy` of the next `n` octets to an array of `size` octets. -/
def takeInto (bs : Bytes) (n size : Nat) : Proc (Cursor σ) Bytes := fun c =>
  if n ≤ size then take bs n c else (.fault, c)

theorem takeInto_of_le {bs : Bytes} {n size : Nat} (h : n ≤ size) : (takeInto bs n size : Proc (Cursor σ) Bytes) = take bs n :=
  funext fun _ => if_pos h

/-- From a cursor with `P` the reader does not fault, and its answer comes with `Q`. -/
def Safe (P : Cursor σ → Prop) (m : Proc (Cursor σ) α) (Q : α → Cursor σ → Prop) : Prop :=
  ∀ c, P c → (m c).1 ≠ .fault ∧ ∀ a c', m c = (.ok a, c') → Q a c'

namespace Safe

variable {P : Cursor σ → Prop}

theorem bind {Q : β → Cursor σ → Prop} {R : α → Cursor σ → Prop} {m : Proc (Cursor σ) β} {k : β → Proc (Cursor σ) α}
    (hm : Safe P m Q) (hk : ∀ b, Safe (Q b) (k b) R) : Safe P (m >>= k) R := by
  intro c hc
  obtain ⟨hf, hq⟩ := hm c hc
  rw [Proc.bind_apply]
  rcases e : m c with ⟨_ | _ | _, c'⟩
  · exact hk _ c' (hq _ _ e)
  · exact ⟨nofun, nofun⟩
  · rw [e] at hf
    exact absurd rfl hf

theorem mono {P' : Cursor σ → Prop} {Q Q' : α → Cursor σ → Prop} {m : Proc (Cursor σ) α} (h : Safe P m Q)
    (hP : ∀ c, P' c → P c) (hQ : ∀ a c, Q a c → Q' a c) : Safe P' m Q' := by
  intro c hc
  obtain ⟨hf, hq⟩ := h c (hP c hc)
  exact ⟨hf, fun a c' e => hQ a c' (hq a c' e)⟩

theorem value_bind {R : α → Cursor σ → Prop} {f : σ → Proc (Cursor σ) α} (h : ∀ s, Safe P (f s) R) :
    Safe P (Reader.value >>= f) R := fun c hc => h c.st c hc

/-- What follows a look at the state may use it. -/
theorem value_bind_eq {R : α → Cursor σ → Prop} {f : σ → Proc (Cursor σ) α}
    (h : ∀ s, Safe (fun c => P c ∧ c.st = s) (f s) R) : Safe P (Reader.value >>= f) R :=
  fun c hc => h c.st c ⟨hc, rfl⟩

theorem pos_bind_eq {R : α → Cursor σ → Prop} {f : Nat → Proc (Cursor σ) α}
    (h : ∀ p, Safe (fun c => P c ∧ c.pos = p) (f p) R) : Safe P (Reader.pos >>= f) R :=
  fun c hc => h c.pos c ⟨hc, rfl⟩

/-- What follows a parser may use its answer. -/
theorem scan_bind {R : α → Cursor σ → Prop} {bs : Bytes} {g : Bytes → Option β} {f : β → Proc (Cursor σ) α}
    (hP : ∀ c, P c → c.pos ≤ bs.length) (h : ∀ p b, g p = some b → Safe P (f b) R) :
    Safe P (Reader.scan g bs >>= f) R := by
  intro c hc
  rw [Proc.bind_apply, Reader.scan, if_neg (Nat.not_lt.mpr (hP c hc))]
  cases hb : g (bs.drop c.pos) with
  | none => exact ⟨nofun, nofun⟩
  | some b => exact h _ b hb c hc

theorem pure {Q : α → Cursor σ → Prop} {a : α} (h : ∀ c, P c → Q a c) : Safe P (Pure.pure a) Q := by
  refine fun c hc => ⟨nofun, ?_⟩
  rintro a' c' ⟨⟩
  exact h c hc

/-- What follows a test may use it. -/
theorem require_bind {R : α → Cursor σ → Prop} {b : Bool} {f : Unit → Proc (Cursor σ) α}
    (h : b = true → Safe P (f ()) R) : Safe P (Proc.require b >>= f) R := by
  cases b with
  | true => exact h rfl
  | false => exact fun _ _ => ⟨nofun, nofun⟩

/-- What is known of the answer by other means. -/
theorem and {Q R : α → Cursor σ → Prop} {m : Proc (Cursor σ) α} (h : Safe P m Q)
    (hR : ∀ c a c', P c → m c = (.ok a, c') → R a c') : Safe P m fun a c => Q a c ∧ R a c :=
  fun c hc => ⟨(h c hc).1, fun a c' e => ⟨(h c hc).2 a c' e, hR c a c' hc e⟩⟩

end Safe

/-- With `k` octets left the reader does not fault, and leaves `k'`. -/
def Room (bs : Bytes) (k : Nat) (k' : α → Nat) (m : Proc (Cursor σ) α) : Prop :=
  Safe (fun c => c.pos + k ≤ bs.length) m fun a c => c.pos + k' a ≤ bs.length

namespace Room

variable {bs : Bytes} {k n : Nat}

theorem bind {k₁ : β → Nat} {k' : α → Nat} {m : Proc (Cursor σ) β} {f : β → Proc (Cursor σ) α} (hm : Room bs k k₁ m)
    (hf : ∀ b, Room bs (k₁ b) k' (f b)) : Room bs k k' (m >>= f) := Safe.bind hm hf

theorem mono {k₁ : Nat} {k' k₂ : α → Nat} {m : Proc (Cursor σ) α} (h : Room bs k k' m) (hk : k ≤ k₁)
    (hk' : ∀ a, k₂ a ≤ k' a) : Room bs k₁ k₂ m :=
  Safe.mono h (fun c (hc : c.pos + k₁ ≤ _) => by omega) fun a c (hc : c.pos + k' a ≤ _) => by
    have := hk' a
    omega

/-- Room that is not needed any more. -/
theorem forget {k' : α → Nat} {m : Proc (Cursor σ) α} (h : Room bs 0 k' m) : Room bs k k' m :=
  h.mono (Nat.zero_le k) fun _ => Nat.le_refl _

theorem pure {a : α} : Room bs k (fun _ => k) (Pure.pure a : Proc (Cursor σ) α) := by
  refine fun c hc => ⟨nofun, ?_⟩
  rintro a c' ⟨⟩
  exact hc

theorem reject {k' : α → Nat} : Room bs k k' (Proc.reject : Proc (Cursor σ) α) := fun _ _ => ⟨nofun, nofun⟩

theorem require {b : Bool} : Room bs k (fun _ => k) (Proc.require b : Proc (Cursor σ) Unit) := by
  intro c hc
  cases b with
  | true =>
    refine ⟨nofun, ?_⟩
    rintro a c' ⟨⟩
    exact hc
  | false => exact ⟨nofun, nofun⟩

theorem value : Room bs k (fun _ => k) (Reader.value : Proc (Cursor σ) σ) := by
  refine fun c hc => ⟨nofun, ?_⟩
  rintro a c' ⟨⟩
  exact hc

theorem pos : Room bs k (fun _ => k) (Reader.pos : Proc (Cursor σ) Nat) := by
  refine fun c hc => ⟨nofun, ?_⟩
  rintro a c' ⟨⟩
  exact hc

theorem update {f : σ → σ} : Room bs k (fun _ => k) (Reader.update f) := by
  refine fun c hc => ⟨nofun, ?_⟩
  rintro a c' ⟨⟩
  exact hc

/-- A read that leaves room up to a limit before the end. -/
theorem u8_of_le {lim : Bytes} (h : lim.length ≤ bs.length) :
    Room lim (k + 1) (fun _ => k) (Reader.u8 bs : Proc (Cursor σ) UInt8) := by
  intro c hc
  unfold Reader.u8
  rw [List.getElem?_eq_getElem (show c.pos < bs.length by omega)]
  refine ⟨nofun, ?_⟩
  rintro a c' ⟨⟩
  change c.pos + 1 + k ≤ _
  omega

theorem u8 : Room bs (k + 1) (fun _ => k) (Reader.u8 bs : Proc (Cursor σ) UInt8) := u8_of_le (Nat.le_refl _)

theorem peek : Room bs (k + 1) (fun _ => k + 1) (Reader.peek bs : Proc (Cursor σ) UInt8) := by
  intro c hc
  unfold Reader.peek
  rw [List.getElem?_eq_getElem (show c.pos < bs.length by omega)]
  refine ⟨nofun, ?_⟩
  rintro a c' ⟨⟩
  exact hc

theorem u16_of_le {lim : Bytes} (h : lim.length ≤ bs.length) :
    Room lim (k + 2) (fun _ => k) (Reader.u16 bs : Proc (Cursor σ) UInt16) :=
  .bind (u8_of_le (k := k + 1) h) fun _ => .bind (u8_of_le h) fun _ => .pure

theorem u16 : Room bs (k + 2) (fun _ => k) (Reader.u16 bs : Proc (Cursor σ) UInt16) := u16_of_le (Nat.le_refl _)

theorem u32_of_le {lim : Bytes} (h : lim.length ≤ bs.length) :
    Room lim (k + 4) (fun _ => k) (Reader.u32 bs : Proc (Cursor σ) UInt32) :=
  .bind (u8_of_le (k := k + 3) h) fun _ => .bind (u8_of_le (k := k + 2) h) fun _ =>
    .bind (u8_of_le (k := k + 1) h) fun _ => .bind (u8_of_le h) fun _ => .pure

theorem u32 : Room bs (k + 4) (fun _ => k) (Reader.u32 bs : Proc (Cursor σ) UInt32) := u32_of_le (Nat.le_refl _)

theorem take : Room bs (k + n) (fun _ => k) (Reader.take bs n : Proc (Cursor σ) Bytes) := by
  intro c hc
  unfold Reader.take
  rw [if_pos (show c.pos + n ≤ bs.length by omega)]
  refine ⟨nofun, ?_⟩
  rintro a c' ⟨⟩
  change c.pos + n + k ≤ _
  omega

/-- Taking all the room there is. -/
theorem take_all : Room bs n (fun _ => 0) (Reader.take bs n : Proc (Cursor σ) Bytes) := by
  have h := @take σ bs 0 n
  rwa [Nat.zero_add] at h

theorem need : Room bs k (fun _ => n) (Reader.need bs n : Proc (Cursor σ) Unit) := by
  intro c hc
  unfold Reader.need
  rw [if_neg (show ¬bs.length < c.pos by omega)]
  split
  · exact ⟨nofun, nofun⟩
  · refine ⟨nofun, ?_⟩
    rintro a c' ⟨⟩
    dsimp only
    omega

theorem available : Room bs k (fun _ => n) (Reader.available bs n : Proc (Cursor σ) Unit) := by
  intro c hc
  unfold Reader.available
  split
  · refine ⟨nofun, ?_⟩
    rintro a c' ⟨⟩
    dsimp only
    omega
  · exact ⟨nofun, nofun⟩

/-- A parser that says how far it read. -/
theorem scan {f : Bytes → Option α} {g : α → Nat} (hf : ∀ bs a, f bs = some a → g a ≤ bs.length) :
    Room bs k g (Reader.scan f bs : Proc (Cursor σ) α) := by
  intro c hc
  unfold Reader.scan
  rw [if_neg (show ¬bs.length < c.pos by omega)]
  split
  · rename_i a ha
    refine ⟨nofun, ?_⟩
    rintro a' c' ⟨⟩
    have hle := hf _ _ ha
    rw [List.length_drop] at hle
    omega
  · exact ⟨nofun, nofun⟩

/-- A look at how much is left that says no more than is known. -/
theorem available_keep : Room bs k (fun _ => k) (Reader.available bs n : Proc (Cursor σ) Unit) := by
  intro c hc
  unfold Reader.available
  split
  · refine ⟨nofun, ?_⟩
    rintro a c' ⟨⟩
    exact hc
  · exact ⟨nofun, nofun⟩

theorem ite {p : Prop} [Decidable p] {k' : α → Nat} {m m' : Proc (Cursor σ) α} (h : p → Room bs k k' m)
    (h' : ¬p → Room bs k k' m') : Room bs k k' (if p then m else m') := by
  split
  · exact h ‹_›
  · exact h' ‹_›

/-- At the start all octets are left. -/
theorem at_start {k' : α → Nat} {m : Proc (Cursor σ) α} (h : Room bs k k' m) (hk : k ≤ bs.length) :
    Safe (fun c => c.pos = 0) m fun a c => c.pos + k' a ≤ bs.length :=
  Safe.mono h (fun c hc => by omega) fun _ _ hc => hc

end Room

end Reader
