import Rohccxx.Lib.Octets

/-!
# Fallible procedures on a mutable state, and octet readers

`Proc σ α` is code that works on a state `σ` in place and can stop: `reject` is the code's own `return false`, `fault`
is a read outside the octets it was given. Either way the state reached so far stays, as it does in the source.

A reader is a `Proc` whose state is a `Cursor`: a position in an octet string and the value being filled in.
`Reads m front w s a s'` says that behind the octets `front`, `m` consumes exactly `w`, answers `a` and takes the value
from `s` to `s'`, whatever follows. The rules below take a `do` block apart one read at a time.
-/

set_option autoImplicit false

open Octets

inductive Outcome (α : Type) where
  | ok (a : α)
  | reject
  | fault
deriving DecidableEq, Repr

namespace Outcome

def isOk {α : Type} : Outcome α → Bool
  | ok _ => true
  | _ => false

@[simp] theorem isOk_ok {α : Type} (a : α) : (ok a).isOk = true := rfl
@[simp] theorem isOk_reject {α : Type} : (reject : Outcome α).isOk = false := rfl
@[simp] theorem isOk_fault {α : Type} : (fault : Outcome α).isOk = false := rfl

end Outcome

def Proc (σ α : Type) : Type := σ → Outcome α × σ

namespace Proc

variable {σ α β : Type}

def bind (x : Proc σ α) (f : α → Proc σ β) : Proc σ β := fun s =>
  match x s with
  | (.ok a, s') => f a s'
  | (.reject, s') => (.reject, s')
  | (.fault, s') => (.fault, s')

instance : Monad (Proc σ) where
  pure a := fun s => (.ok a, s)
  bind := Proc.bind

def reject : Proc σ α := fun s => (.reject, s)

/-- `if(!b) return false;` -/
def require (b : Bool) : Proc σ Unit := fun s => if b then (.ok (), s) else (.reject, s)

def get : Proc σ σ := fun s => (.ok s, s)

def modify (f : σ → σ) : Proc σ Unit := fun s => (.ok (), f s)

/-- The answer of a total or partial function; failure is a `return false`. -/
def ofOption (o : Option α) : Proc σ α := fun s =>
  match o with
  | some a => (.ok a, s)
  | none => (.reject, s)

@[simp] theorem ofOption_some (a : α) (s : σ) : ofOption (some a) s = (.ok a, s) := rfl

@[simp] theorem ofOption_none (s : σ) : (ofOption none : Proc σ α) s = (.reject, s) := rfl

@[simp] theorem pure_apply (a : α) (s : σ) : (pure a : Proc σ α) s = (.ok a, s) := rfl

@[simp] theorem reject_apply (s : σ) : (reject : Proc σ α) s = (.reject, s) := rfl

@[simp] theorem get_apply (s : σ) : (get : Proc σ σ) s = (.ok s, s) := rfl

@[simp] theorem modify_apply (f : σ → σ) (s : σ) : modify f s = (.ok (), f s) := rfl

@[simp] theorem require_true (s : σ) : require true s = (.ok (), s) := rfl

@[simp] theorem require_false (s : σ) : require false s = (.reject, s) := rfl

theorem bind_apply (x : Proc σ α) (f : α → Proc σ β) (s : σ) :
    (x >>= f) s = match x s with
      | (.ok a, s') => f a s'
      | (.reject, s') => (.reject, s')
      | (.fault, s') => (.fault, s') := rfl

theorem bind_of_ok {x : Proc σ α} {f : α → Proc σ β} {s s' : σ} {a : α} (h : x s = (.ok a, s')) :
    (x >>= f) s = f a s' := by
  rw [bind_apply, h]

/-- A bind that succeeds ran both halves to success. -/
theorem bind_eq_ok {x : Proc σ α} {f : α → Proc σ β} {s t : σ} {b : β} (h : (x >>= f) s = (.ok b, t)) :
    ∃ a s', x s = (.ok a, s') ∧ f a s' = (.ok b, t) := by
  rw [bind_apply] at h
  split at h
  · exact ⟨_, _, ‹_›, h⟩
  · cases h
  · cases h

theorem require_eq_ok {b : Bool} {s t : σ} {u : Unit} (h : require b s = (.ok u, t)) : b = true ∧ t = s := by
  cases b with
  | true => simp only [require_true, Prod.mk.injEq, true_and] at h; exact ⟨rfl, h.symm⟩
  | false => simp at h

/-! ## Partial correctness -/

/-- If `x` succeeds from `s`, its answer and the state it leaves satisfy `Q`. -/
def Ensures (x : Proc σ α) (Q : α → σ → Prop) (s : σ) : Prop := ∀ a s', x s = (.ok a, s') → Q a s'

section Ensures

variable {Q : α → σ → Prop} {s : σ}

theorem Ensures.mono {x : Proc σ α} {R : α → σ → Prop} (h : Ensures x Q s) (hQR : ∀ a s', Q a s' → R a s') :
    Ensures x R s := fun a s' e => hQR a s' (h a s' e)

/-- The rule of sequential composition. -/
theorem Ensures.bind {x : Proc σ β} {f : β → Proc σ α} (h : Ensures x (fun b s' => Ensures (f b) Q s') s) :
    Ensures (x >>= f) Q s := by
  intro a t e
  obtain ⟨b, s', hx, hf⟩ := bind_eq_ok e
  exact h b s' hx a t hf

theorem Ensures.pure {a : α} (h : Q a s) : Ensures (Pure.pure a) Q s := by
  rintro a' s' ⟨⟩
  exact h

theorem Ensures.reject : Ensures (Proc.reject : Proc σ α) Q s := by
  rintro a s' ⟨⟩

theorem Ensures.get {Q : σ → σ → Prop} (h : Q s s) : Ensures Proc.get Q s := by
  rintro a s' ⟨⟩
  exact h

theorem Ensures.modify {f : σ → σ} {Q : Unit → σ → Prop} (h : Q () (f s)) : Ensures (Proc.modify f) Q s := by
  rintro a s' ⟨⟩
  exact h

theorem Ensures.require {b : Bool} {Q : Unit → σ → Prop} (h : b = true → Q () s) : Ensures (Proc.require b) Q s := by
  intro a s' e
  obtain ⟨hb, rfl⟩ := require_eq_ok e
  exact h hb

theorem Ensures.ofOption {o : Option α} (h : ∀ a, o = some a → Q a s) : Ensures (Proc.ofOption o) Q s := by
  intro a s' e
  cases o with
  | none => cases e
  | some b => cases e; exact h a rfl

theorem Ensures.ite {c : Prop} [Decidable c] {x y : Proc σ α} (hx : c → Ensures x Q s) (hy : ¬c → Ensures y Q s) :
    Ensures (if c then x else y) Q s := by
  split
  · exact hx ‹_›
  · exact hy ‹_›

end Ensures

/-! ## Invariants -/

/-- `x` keeps `P`, however it ends. -/
def Always (P : σ → Prop) (x : Proc σ α) : Prop := ∀ s, P s → P (x s).2

namespace Always

variable {P : σ → Prop}

theorem bind {x : Proc σ β} {f : β → Proc σ α} (hx : Always P x) (hf : ∀ b, Always P (f b)) : Always P (x >>= f) := by
  intro s hs
  have h := hx s hs
  rw [bind_apply]
  rcases e : x s with ⟨_ | _ | _, s'⟩
  · rw [e] at h
    exact hf _ s' h
  · rw [e] at h
    exact h
  · rw [e] at h
    exact h

theorem pure {a : α} : Always P (Pure.pure a) := fun _ hs => hs

theorem reject : Always P (Proc.reject : Proc σ α) := fun _ hs => hs

theorem get : Always P Proc.get := fun _ hs => hs

/-- A procedure that looks at its state first. -/
theorem get_bind {f : σ → Proc σ α} (h : ∀ s, P s → P (f s s).2) : Always P (Proc.get >>= f) := h

theorem modify {f : σ → σ} (h : ∀ s, P s → P (f s)) : Always P (Proc.modify f) := h

theorem require {b : Bool} : Always P (Proc.require b) := by
  intro s hs
  cases b with
  | true => exact hs
  | false => exact hs

/-- What follows a test may use it. -/
theorem require_bind {b : Bool} {f : Unit → Proc σ α} (h : b = true → Always P (f ())) :
    Always P (Proc.require b >>= f) := by
  cases b with
  | true => exact h rfl
  | false => exact fun _ hs => hs

theorem ofOption {o : Option α} : Always P (Proc.ofOption o) := by
  intro s hs
  cases o with
  | none => exact hs
  | some a => exact hs

theorem ite {c : Prop} [Decidable c] {x y : Proc σ α} (hx : Always P x) (hy : Always P y) :
    Always P (if c then x else y) := by
  split
  · exact hx
  · exact hy

end Always

/-- From a state with `P`, a failure of `x` leaves one with `Q`. -/
def Fails (P Q : σ → Prop) (x : Proc σ α) : Prop := ∀ s, P s → (x s).1.isOk = false → Q (x s).2

namespace Fails

variable {P Q : σ → Prop}

/-- A failure of a sequence: the first half ends in `R` however it ends, and the second half starts from there. -/
theorem bind {R : σ → Prop} {x : Proc σ β} {f : β → Proc σ α} (hx : ∀ s, P s → R (x s).2) (hR : ∀ s, R s → Q s)
    (hf : ∀ b, Fails R Q (f b)) : Fails P Q (x >>= f) := by
  intro s hs h
  have hr := hx s hs
  rw [bind_apply] at h ⊢
  rcases e : x s with ⟨_ | _ | _, s'⟩
  · rw [e] at hr h
    exact hf _ s' hr h
  · rw [e] at hr
    exact hR s' hr
  · rw [e] at hr
    exact hR s' hr

/-- A half that keeps `P`. -/
theorem after {x : Proc σ β} {f : β → Proc σ α} (hx : Always P x) (hP : ∀ s, P s → Q s) (hf : ∀ b, Fails P Q (f b)) :
    Fails P Q (x >>= f) :=
  bind hx hP hf

/-- A first half that cannot fail. -/
theorem modify_bind {R : σ → Prop} {g : σ → σ} {f : Unit → Proc σ α} (hg : ∀ s, P s → R (g s)) (hf : Fails R Q (f ())) :
    Fails P Q (Proc.modify g >>= f) :=
  fun s hs h => hf (g s) (hg s hs) h

theorem get_bind {f : σ → Proc σ α} (hf : ∀ b, Fails P Q (f b)) : Fails P Q (Proc.get >>= f) :=
  fun s hs h => hf s s hs h

/-- What cannot fail. -/
theorem modify_pure {f : σ → σ} {a : α} : Fails P Q (Proc.modify f >>= fun _ => Pure.pure a) := nofun

end Fails

/-- From a state with `P`, `x` leaves one with `Q`, however it ends. -/
def Leaves (P Q : σ → Prop) (x : Proc σ α) : Prop := ∀ s, P s → Q (x s).2

namespace Leaves

variable {P Q : σ → Prop}

/-- Where the first half stops, its own state stays. -/
theorem bind {R : σ → Prop} {x : Proc σ β} {f : β → Proc σ α} (hx : Leaves P R x) (hR : ∀ s, R s → Q s)
    (hf : ∀ b, Leaves R Q (f b)) : Leaves P Q (x >>= f) := by
  intro s hs
  have hr := hx s hs
  rw [bind_apply]
  rcases e : x s with ⟨_ | _ | _, s'⟩
  · rw [e] at hr
    exact hf _ s' hr
  · rw [e] at hr
    exact hR s' hr
  · rw [e] at hr
    exact hR s' hr

/-- A first half that cannot fail. -/
theorem modify_bind {R : σ → Prop} {g : σ → σ} {f : Unit → Proc σ α} (hg : ∀ s, P s → R (g s))
    (hf : Leaves R Q (f ())) : Leaves P Q (Proc.modify g >>= f) :=
  fun s hs => hf (g s) (hg s hs)

theorem get_bind {f : σ → Proc σ α} (hf : ∀ b, Leaves P Q (f b)) : Leaves P Q (Proc.get >>= f) :=
  fun s hs => hf s s hs

end Leaves

/-- `x` ends in the state it began in; an answer has `P`. -/
def Rests (x : Proc σ α) (P : α → Prop) (s : σ) : Prop := (x s).2 = s ∧ ∀ a, (x s).1 = .ok a → P a

namespace Rests

variable {P : α → Prop} {s : σ}

theorem ofOption_iff {o : Option α} : Rests (Proc.ofOption o) P s ↔ ∀ a, o = some a → P a := by
  cases o with
  | none => exact ⟨fun _ _ => nofun, fun _ => ⟨rfl, nofun⟩⟩
  | some b =>
    refine ⟨fun h a ha => h.2 a ?_, fun h => ⟨rfl, fun a ha => h a ?_⟩⟩
    · cases ha
      rfl
    · cases ha
      rfl

theorem get_bind_iff {f : σ → Proc σ α} : Rests (Proc.get >>= f) P s ↔ Rests (f s) P s := Iff.rfl

/-- A first step that changes nothing. -/
theorem modify_bind_iff {g : σ → σ} {f : Unit → Proc σ α} (h : g s = s) :
    Rests (Proc.modify g >>= f) P s ↔ Rests (f ()) P s := by
  unfold Rests
  rw [bind_of_ok (modify_apply g s), h]

theorem ofOption_bind_iff {o : Option β} {f : β → Proc σ α} :
    Rests (Proc.ofOption o >>= f) P s ↔ ∀ b, o = some b → Rests (f b) P s := by
  cases o with
  | none => exact ⟨fun _ _ => nofun, fun _ => ⟨rfl, nofun⟩⟩
  | some b =>
    refine ⟨fun h b' hb => ?_, fun h => h b rfl⟩
    cases hb
    exact h

end Rests

end Proc

/-! ## Readers -/

structure Cursor (σ : Type) where
  pos : Nat
  st : σ

namespace Reader

variable {σ α β : Type}

/-- `in[pos++]`. -/
def u8 (bs : Bytes) : Proc (Cursor σ) UInt8 := fun c =>
  match bs[c.pos]? with
  | some b => (.ok b, { c with pos := c.pos + 1 })
  | none => (.fault, c)

/-- `in[pos]`. -/
def peek (bs : Bytes) : Proc (Cursor σ) UInt8 := fun c =>
  match bs[c.pos]? with
  | some b => (.ok b, c)
  | none => (.fault, c)

def u16 (bs : Bytes) : Proc (Cursor σ) UInt16 := do
  let hi ← u8 bs
  let lo ← u8 bs
  return ofBe16 hi lo

def u32 (bs : Bytes) : Proc (Cursor σ) UInt32 := do
  let a ← u8 bs
  let b ← u8 bs
  let c ← u8 bs
  let d ← u8 bs
  return ofBe32 a b c d

/-- `memcpy` of the next `n` octets. -/
def take (bs : Bytes) (n : Nat) : Proc (Cursor σ) Bytes := fun c =>
  if c.pos + n ≤ bs.length then (.ok ((bs.drop c.pos).take n), { c with pos := c.pos + n }) else (.fault, c)

/-- `if(len - pos < n) return false;`, with a fault where the subtraction would wrap. -/
def need (bs : Bytes) (n : Nat) : Proc (Cursor σ) Unit := fun c =>
  if bs.length < c.pos then (.fault, c)
  else if bs.length - c.pos < n then (.reject, c)
  else (.ok (), c)

/-- `if(!(pos <= len && n <= len - pos)) return false;` -/
def available (bs : Bytes) (n : Nat) : Proc (Cursor σ) Unit := fun c =>
  if c.pos ≤ bs.length ∧ n ≤ bs.length - c.pos then (.ok (), c) else (.reject, c)

/-- Hand the octets from the position on to a parser, without moving; there are `len - pos` of them, a fault where that
wraps. -/
def scan (f : Bytes → Option α) (bs : Bytes) : Proc (Cursor σ) α := fun c =>
  if bs.length < c.pos then (.fault, c)
  else
    match f (bs.drop c.pos) with
    | some a => (.ok a, c)
    | none => (.reject, c)

def pos : Proc (Cursor σ) Nat := fun c => (.ok c.pos, c)

def value : Proc (Cursor σ) σ := fun c => (.ok c.st, c)

def update (f : σ → σ) : Proc (Cursor σ) Unit := fun c => (.ok (), { c with st := f c.st })

@[simp] theorem pos_apply (c : Cursor σ) : pos c = (.ok c.pos, c) := rfl

@[simp] theorem value_apply (c : Cursor σ) : value c = (.ok c.st, c) := rfl

@[simp] theorem update_apply (f : σ → σ) (c : Cursor σ) : update f c = (.ok (), { c with st := f c.st }) := rfl

/-- Run a reader from the start of its octets: the value it leaves and the octets it consumed, when it accepts. -/
def run (m : Proc (Cursor σ) Unit) (s : σ) : Option (σ × Nat) :=
  match m ⟨0, s⟩ with
  | (.ok _, c) => some (c.st, c.pos)
  | _ => none

/-- Run a reader on a value in place: its answer when it accepts, and what it leaves of the value either way. -/
def exec (m : Proc (Cursor σ) α) (s : σ) : Option α × σ :=
  match m ⟨0, s⟩ with
  | (.ok a, c) => (some a, c.st)
  | (_, c) => (none, c.st)

/-! ## What a reader does on octets it was written for -/

def Reads (m : Bytes → Proc (Cursor σ) α) (front w : Bytes) (s : σ) (a : α) (s' : σ) : Prop :=
  ∀ rest, m (front ++ (w ++ rest)) ⟨front.length, s⟩ = (.ok a, ⟨(front ++ w).length, s'⟩)

section Rules

variable {front w : Bytes} {s s' : σ} {a : α}

theorem reads_pure (front : Bytes) (a : α) (s : σ) : Reads (fun _ => (pure a : Proc (Cursor σ) α)) front [] s a s := by
  intro rest
  simp

/-- A read and what follows it, one after the other. -/
theorem Reads.bind {m : Bytes → Proc (Cursor σ) β} {k : Bytes → β → Proc (Cursor σ) α} {w₁ w₂ : Bytes}
    {s₁ : σ} {b : β} (h₁ : Reads m front w₁ s b s₁) (h₂ : Reads (fun bs => k bs b) (front ++ w₁) w₂ s₁ a s') :
    Reads (fun bs => m bs >>= k bs) front (w₁ ++ w₂) s a s' := by
  intro rest
  have e₁ := h₁ (w₂ ++ rest)
  have e₂ := h₂ rest
  simp only [List.append_assoc] at e₂
  rw [List.append_assoc]
  change (m _ >>= k _) _ = _
  rw [Proc.bind_of_ok e₁, e₂]

/-- A step that reads nothing, and what follows it. -/
theorem Reads.bind_nil {m : Bytes → Proc (Cursor σ) β} {k : Bytes → β → Proc (Cursor σ) α} {s₁ : σ} {b : β}
    (h₁ : Reads m front [] s b s₁) (h₂ : Reads (fun bs => k bs b) front w s₁ a s') :
    Reads (fun bs => m bs >>= k bs) front w s a s' := by
  have h₂ : Reads (fun bs => k bs b) (front ++ []) w s₁ a s' := by rwa [List.append_nil]
  exact h₁.bind h₂

/-- A read, and a last step that reads nothing. -/
theorem Reads.bind_last {m : Bytes → Proc (Cursor σ) β} {k : Bytes → β → Proc (Cursor σ) α} {s₁ : σ} {b : β}
    (h₁ : Reads m front w s b s₁) (h₂ : Reads (fun bs => k bs b) (front ++ w) [] s₁ a s') :
    Reads (fun bs => m bs >>= k bs) front w s a s' := by
  have h := h₁.bind h₂
  rwa [List.append_nil] at h

theorem reads_u8 (front : Bytes) (b : UInt8) (s : σ) : Reads u8 front [b] s b s := by
  intro rest
  simp [u8]

theorem Reads.u8 {k : Bytes → UInt8 → Proc (Cursor σ) α} {b : UInt8}
    (h : Reads (fun bs => k bs b) (front ++ [b]) w s a s') :
    Reads (fun bs => Reader.u8 bs >>= k bs) front (b :: w) s a s' :=
  (reads_u8 front b s).bind h

theorem Reads.peek {k : Bytes → UInt8 → Proc (Cursor σ) α} {b : UInt8}
    (h : Reads (fun bs => k bs b) front (b :: w) s a s') :
    Reads (fun bs => Reader.peek bs >>= k bs) front (b :: w) s a s' := by
  intro rest
  rw [← h rest]
  change (Reader.peek _ >>= k _) _ = _
  rw [Proc.bind_apply]
  simp [Reader.peek]

theorem reads_u16 (front : Bytes) (v : UInt16) (s : σ) : Reads u16 front (be16 v) s v s := by
  intro rest
  simp only [u16, be16, Reader.u8, Proc.bind_apply, List.cons_append, List.nil_append]
  simp [Nat.add_assoc, ofBe16_be16]

theorem Reads.u16 {k : Bytes → UInt16 → Proc (Cursor σ) α} {v : UInt16}
    (h : Reads (fun bs => k bs v) (front ++ be16 v) w s a s') :
    Reads (fun bs => Reader.u16 bs >>= k bs) front (be16 v ++ w) s a s' :=
  (reads_u16 front v s).bind h

theorem reads_u32 (front : Bytes) (v : UInt32) (s : σ) : Reads u32 front (be32 v) s v s := by
  intro rest
  simp only [u32, be32, Reader.u8, Proc.bind_apply, List.cons_append, List.nil_append]
  simp [Nat.add_assoc, ofBe32_be32]

theorem Reads.u32 {k : Bytes → UInt32 → Proc (Cursor σ) α} {v : UInt32}
    (h : Reads (fun bs => k bs v) (front ++ be32 v) w s a s') :
    Reads (fun bs => Reader.u32 bs >>= k bs) front (be32 v ++ w) s a s' :=
  (reads_u32 front v s).bind h

theorem reads_take (front x : Bytes) (s : σ) : Reads (fun bs => take bs x.length) front x s x s := by
  intro rest
  simp only [take, List.length_append]
  rw [if_pos (by omega)]
  simp

theorem Reads.take {k : Bytes → Bytes → Proc (Cursor σ) α} {x : Bytes} {n : Nat} (hn : x.length = n)
    (h : Reads (fun bs => k bs x) (front ++ x) w s a s') :
    Reads (fun bs => Reader.take bs n >>= k bs) front (x ++ w) s a s' := by
  subst hn
  exact (reads_take front x s).bind h

/-- The last octets of a unit. -/
theorem Reads.take_last {k : Bytes → Bytes → Proc (Cursor σ) α} {x : Bytes} {n : Nat} (hn : x.length = n)
    (h : Reads (fun bs => k bs x) (front ++ x) [] s a s') :
    Reads (fun bs => Reader.take bs n >>= k bs) front x s a s' := by
  have := Reads.take hn h
  rwa [List.append_nil] at this

theorem Reads.need {m : Bytes → Unit → Proc (Cursor σ) α} {n : Nat} (hn : n ≤ w.length)
    (h : Reads (fun bs => m bs ()) front w s a s') : Reads (fun bs => Reader.need bs n >>= m bs) front w s a s' := by
  intro rest
  rw [← h rest]
  change (Reader.need _ n >>= m _) _ = _
  rw [Proc.bind_apply]
  simp only [Reader.need, List.length_append]
  rw [if_neg (by omega), if_neg (by omega)]

theorem Reads.available {m : Bytes → Unit → Proc (Cursor σ) α} {n : Nat} (hn : n ≤ w.length)
    (h : Reads (fun bs => m bs ()) front w s a s') :
    Reads (fun bs => Reader.available bs n >>= m bs) front w s a s' := by
  intro rest
  rw [← h rest]
  change (Reader.available _ n >>= m _) _ = _
  rw [Proc.bind_apply]
  simp only [Reader.available, List.length_append]
  rw [if_pos (by omega)]

/-- A scan may look at the whole string, not only at what is ahead. -/
theorem Reads.scan_all {f : Bytes → Bytes → Option β} {k : Bytes → β → Proc (Cursor σ) α} {b : β}
    (hf : ∀ rest, f (front ++ (w ++ rest)) (w ++ rest) = some b) (h : Reads (fun bs => k bs b) front w s a s') :
    Reads (fun bs => Reader.scan (f bs) bs >>= k bs) front w s a s' := by
  intro rest
  rw [← h rest]
  change (Reader.scan (f _) _ >>= k _) _ = _
  have hfit : ¬(front ++ (w ++ rest)).length < front.length := by
    rw [List.length_append]
    omega
  rw [Proc.bind_apply]
  unfold Reader.scan
  dsimp only
  rw [if_neg hfit, List.drop_left, hf rest]

theorem Reads.scan {f : Bytes → Option β} {k : Bytes → β → Proc (Cursor σ) α} {b : β}
    (hf : ∀ rest, f (w ++ rest) = some b) (h : Reads (fun bs => k bs b) front w s a s') :
    Reads (fun bs => Reader.scan f bs >>= k bs) front w s a s' :=
  .scan_all (f := fun _ => f) hf h

/-- A reader that is not shown what follows its octets. -/
theorem Reads.within {m : Bytes → Proc (Cursor σ) α} {n : Nat} (hn : n = (front ++ w).length)
    (h : Reads m front w s a s') : Reads (fun bs => m (bs.take n)) front w s a s' := by
  intro rest
  have e := h []
  rw [List.append_nil] at e
  change m ((front ++ (w ++ rest)).take n) _ = _
  rw [hn, ← List.append_assoc, List.take_left, e]

theorem Reads.require {m : Bytes → Unit → Proc (Cursor σ) α} {c : Bytes → Bool}
    (hc : ∀ rest, c (front ++ (w ++ rest)) = true) (h : Reads (fun bs => m bs ()) front w s a s') :
    Reads (fun bs => Proc.require (c bs) >>= m bs) front w s a s' := by
  intro rest
  rw [← h rest]
  change (Proc.require (c _) >>= m _) _ = _
  rw [hc rest]
  rfl

theorem Reads.pos {m : Bytes → Nat → Proc (Cursor σ) α} (h : Reads (fun bs => m bs front.length) front w s a s') :
    Reads (fun bs => Reader.pos >>= m bs) front w s a s' := h

theorem Reads.update {m : Bytes → Unit → Proc (Cursor σ) α} {f : σ → σ}
    (h : Reads (fun bs => m bs ()) front w (f s) a s') :
    Reads (fun bs => Reader.update f >>= m bs) front w s a s' := h

theorem Reads.value {m : Bytes → σ → Proc (Cursor σ) α} (h : Reads (fun bs => m bs s) front w s a s') :
    Reads (fun bs => Reader.value >>= m bs) front w s a s' := h

theorem Reads.ite_pos {m m' : Bytes → Proc (Cursor σ) α} {c : Prop} [Decidable c] (hc : c)
    (h : Reads m front w s a s') : Reads (fun bs => if c then m bs else m' bs) front w s a s' := by
  simpa only [if_pos hc] using h

theorem Reads.ite_neg {m m' : Bytes → Proc (Cursor σ) α} {c : Prop} [Decidable c] (hc : ¬c)
    (h : Reads m' front w s a s') : Reads (fun bs => if c then m bs else m' bs) front w s a s' := by
  simpa only [if_neg hc] using h

/-- The last step of a block may be any reader, not only one followed by others. -/
theorem Reads.update_last {f : σ → σ} : Reads (fun _ => Reader.update f) front [] s () (f s) := by
  intro rest
  simp

/-- The last step, with the value it leaves written another way. -/
theorem Reads.update_last_eq {f : σ → σ} (h : f s = s') : Reads (fun _ => Reader.update f) front [] s () s' :=
  h ▸ Reads.update_last

/-- A reader run on its own octets followed by anything consumes exactly those. -/
theorem Reads.run_eq {m : Bytes → Proc (Cursor σ) Unit} (h : Reads m [] w s () s') (rest : Bytes) :
    run (m (w ++ rest)) s = some (s', w.length) := by
  have e := h rest
  simp only [List.nil_append, List.length_nil] at e
  simp only [run, e]

theorem Reads.exec_eq {m : Bytes → Proc (Cursor σ) α} (h : Reads m [] w s a s') (rest : Bytes) :
    exec (m (w ++ rest)) s = (some a, s') := by
  have e := h rest
  simp only [List.nil_append, List.length_nil] at e
  simp only [exec, e]

/-! ## Refusals -/

/-- Behind `front`, on octets that start with `w`, the reader does not accept, whatever follows. -/
def Refuses (m : Bytes → Proc (Cursor σ) α) (front w : Bytes) (s : σ) : Prop :=
  ∀ rest, (m (front ++ (w ++ rest)) ⟨front.length, s⟩).1.isOk = false

/-- A refusal behind octets that were read. -/
theorem Reads.bind_refuses {m : Bytes → Proc (Cursor σ) β} {k : Bytes → β → Proc (Cursor σ) α} {w₁ w₂ : Bytes}
    {s₁ : σ} {b : β} (h₁ : Reads m front w₁ s b s₁) (h₂ : Refuses (fun bs => k bs b) (front ++ w₁) w₂ s₁) :
    Refuses (fun bs => m bs >>= k bs) front (w₁ ++ w₂) s := by
  intro rest
  have e₁ := h₁ (w₂ ++ rest)
  have e₂ := h₂ rest
  simp only [List.append_assoc] at e₂
  rw [List.append_assoc]
  change ((m _ >>= k _) _).1.isOk = false
  rw [Proc.bind_of_ok e₁, e₂]

/-- What follows a refusal is not reached. -/
theorem Refuses.bind {m : Bytes → Proc (Cursor σ) β} {k : Bytes → β → Proc (Cursor σ) α} (h : Refuses m front w s) :
    Refuses (fun bs => m bs >>= k bs) front w s := by
  intro rest
  have e := h rest
  change ((m _ >>= k _) _).1.isOk = false
  rw [Proc.bind_apply]
  split
  · rename_i he
    rw [he] at e
    cases e
  · rfl
  · rfl

/-- More octets behind the refusal change nothing. -/
theorem Refuses.append_right {m : Bytes → Proc (Cursor σ) α} {w' : Bytes} (h : Refuses m front w s) :
    Refuses m front (w ++ w') s := by
  intro rest
  rw [List.append_assoc]
  exact h (w' ++ rest)

theorem Refuses.available {m : Bytes → Unit → Proc (Cursor σ) α} {n : Nat} (hn : n ≤ w.length)
    (h : Refuses (fun bs => m bs ()) front w s) : Refuses (fun bs => Reader.available bs n >>= m bs) front w s := by
  intro rest
  rw [← h rest]
  change ((Reader.available _ n >>= m _) _).1.isOk = _
  rw [Proc.bind_apply]
  simp only [Reader.available, List.length_append]
  rw [if_pos (by omega)]

theorem Refuses.require {m : Bytes → Unit → Proc (Cursor σ) α} {c : Bytes → Bool}
    (hc : ∀ rest, c (front ++ (w ++ rest)) = true) (h : Refuses (fun bs => m bs ()) front w s) :
    Refuses (fun bs => Proc.require (c bs) >>= m bs) front w s := by
  intro rest
  rw [← h rest]
  change ((Proc.require (c _) >>= m _) _).1.isOk = _
  rw [hc rest]
  rfl

theorem refuses_require {c : Bytes → Bool} (hc : ∀ rest, c (front ++ (w ++ rest)) = false) :
    Refuses (fun bs => (Proc.require (c bs) : Proc (Cursor σ) Unit)) front w s := by
  intro rest
  simp [hc rest]

theorem Refuses.pos {m : Bytes → Nat → Proc (Cursor σ) α} (h : Refuses (fun bs => m bs front.length) front w s) :
    Refuses (fun bs => Reader.pos >>= m bs) front w s := h

theorem Refuses.update {m : Bytes → Unit → Proc (Cursor σ) α} {f : σ → σ}
    (h : Refuses (fun bs => m bs ()) front w (f s)) : Refuses (fun bs => Reader.update f >>= m bs) front w s := h

theorem Refuses.value {m : Bytes → σ → Proc (Cursor σ) α} (h : Refuses (fun bs => m bs s) front w s) :
    Refuses (fun bs => Reader.value >>= m bs) front w s := h

theorem Refuses.peek {k : Bytes → UInt8 → Proc (Cursor σ) α} {b : UInt8}
    (h : Refuses (fun bs => k bs b) front (b :: w) s) :
    Refuses (fun bs => Reader.peek bs >>= k bs) front (b :: w) s := by
  intro rest
  rw [← h rest]
  change ((Reader.peek _ >>= k _) _).1.isOk = _
  rw [Proc.bind_apply]
  simp [Reader.peek]

theorem Refuses.run_eq {m : Bytes → Proc (Cursor σ) Unit} (h : Refuses m [] w s) (rest : Bytes) :
    run (m (w ++ rest)) s = none := by
  have e := h rest
  simp only [List.nil_append, List.length_nil] at e
  unfold run
  split
  · rename_i he
    rw [he] at e
    cases e
  · rfl

end Rules

/-! ## What a reader leaves alone -/

/-- When `m` accepts, it has not changed `g` of the value. -/
def Keeps {γ : Type} (g : σ → γ) (m : Proc (Cursor σ) α) : Prop := ∀ c a c', m c = (.ok a, c') → g c'.st = g c.st

namespace Keeps

variable {γ δ : Type} {g : σ → γ}

theorem bind {m : Proc (Cursor σ) β} {k : β → Proc (Cursor σ) α} (hm : Keeps g m) (hk : ∀ b, Keeps g (k b)) :
    Keeps g (m >>= k) := by
  intro c a c' h
  obtain ⟨b, c₁, h₁, h₂⟩ := Proc.bind_eq_ok h
  exact (hk b c₁ a c' h₂).trans (hm c b c₁ h₁)

/-- What is a function of `g` is kept with it. -/
theorem comp {m : Proc (Cursor σ) α} (h : Keeps g m) (f : γ → δ) : Keeps (fun s => f (g s)) m :=
  fun c a c' e => congrArg f (h c a c' e)

theorem ite {p : Prop} [Decidable p] {m m' : Proc (Cursor σ) α} (h : Keeps g m) (h' : Keeps g m') :
    Keeps g (if p then m else m') := by
  split
  · exact h
  · exact h'

theorem pure {a : α} : Keeps g (Pure.pure a) := by
  rintro c a c' ⟨⟩
  rfl

theorem reject : Keeps g (Proc.reject : Proc (Cursor σ) α) := by
  rintro c a c' ⟨⟩

theorem require {b : Bool} : Keeps g (Proc.require b) := by
  intro c a c' h
  rw [(Proc.require_eq_ok h).2]

theorem value : Keeps g Reader.value := by
  rintro c a c' ⟨⟩
  rfl

theorem pos : Keeps g Reader.pos := by
  rintro c a c' ⟨⟩
  rfl

theorem update {f : σ → σ} (h : ∀ s, g (f s) = g s) : Keeps g (Reader.update f) := by
  rintro c a c' ⟨⟩
  exact h _

theorem u8 {bs : Bytes} : Keeps g (Reader.u8 bs) := by
  intro c a c' h
  unfold Reader.u8 at h
  split at h
  · cases h
    rfl
  · cases h

theorem peek {bs : Bytes} : Keeps g (Reader.peek bs) := by
  intro c a c' h
  unfold Reader.peek at h
  split at h
  · cases h
    rfl
  · cases h

theorem u16 {bs : Bytes} : Keeps g (Reader.u16 bs) := .bind .u8 fun _ => .bind .u8 fun _ => .pure

theorem u32 {bs : Bytes} : Keeps g (Reader.u32 bs) :=
  .bind .u8 fun _ => .bind .u8 fun _ => .bind .u8 fun _ => .bind .u8 fun _ => .pure

theorem take {bs : Bytes} {n : Nat} : Keeps g (Reader.take bs n) := by
  intro c a c' h
  unfold Reader.take at h
  split at h
  · cases h
    rfl
  · cases h

theorem need {bs : Bytes} {n : Nat} : Keeps g (Reader.need bs n) := by
  intro c a c' h
  unfold Reader.need at h
  split at h
  · cases h
  · split at h
    · cases h
    · cases h
      rfl

theorem available {bs : Bytes} {n : Nat} : Keeps g (Reader.available bs n) := by
  intro c a c' h
  unfold Reader.available at h
  split at h
  · cases h
    rfl
  · cases h

theorem scan {bs : Bytes} {f : Bytes → Option α} : Keeps g (Reader.scan f bs) := by
  intro c a c' h
  unfold Reader.scan at h
  split at h
  · cases h
  · split at h
    · cases h
      rfl
    · cases h

theorem eq_of {m : Proc (Cursor σ) α} {c c' : Cursor σ} {a : α} (e : m c = (.ok a, c')) (h : Keeps g m) :
    g c'.st = g c.st := h c a c' e

theorem exec_eq {m : Proc (Cursor σ) α} (h : Keeps g m) {s s' : σ} {a : α} (e : exec m s = (some a, s')) :
    g s' = g s := by
  unfold exec at e
  split at e
  · rename_i b c hm
    cases e
    exact h _ _ _ hm
  · cases e

theorem run_eq {m : Proc (Cursor σ) Unit} (h : Keeps g m) {s s' : σ} {n : Nat} (e : run m s = some (s', n)) :
    g s' = g s := by
  unfold run at e
  split at e
  · rename_i u c hm
    cases e
    exact h _ _ _ hm
  · cases e

end Keeps

/-! ## Invariants of the value -/

/-- `m` keeps `P` of the value, however it ends. -/
def Respects (P : σ → Prop) (m : Proc (Cursor σ) α) : Prop := Proc.Always (fun c => P c.st) m

namespace Respects

variable {P : σ → Prop}

theorem bind {m : Proc (Cursor σ) β} {k : β → Proc (Cursor σ) α} (hm : Respects P m) (hk : ∀ b, Respects P (k b)) :
    Respects P (m >>= k) :=
  Proc.Always.bind hm hk

theorem pure {a : α} : Respects P (Pure.pure a) := fun _ hs => hs

theorem reject : Respects P (Proc.reject : Proc (Cursor σ) α) := fun _ hs => hs

theorem require {b : Bool} : Respects P (Proc.require b) := Proc.Always.require

/-- What follows a test may use it. -/
theorem require_bind {b : Bool} {k : Unit → Proc (Cursor σ) α} (h : b = true → Respects P (k ())) :
    Respects P (Proc.require b >>= k) :=
  Proc.Always.require_bind h

theorem ite {c : Prop} [Decidable c] {m m' : Proc (Cursor σ) α} (h : Respects P m) (h' : Respects P m') :
    Respects P (if c then m else m') :=
  Proc.Always.ite h h'

theorem value : Respects P Reader.value := fun _ hs => hs

theorem pos : Respects P (Reader.pos : Proc (Cursor σ) Nat) := fun _ hs => hs

theorem update {f : σ → σ} (h : ∀ s, P s → P (f s)) : Respects P (Reader.update f) := fun c hs => h c.st hs

theorem u8 {bs : Bytes} : Respects P (Reader.u8 bs) := by
  intro c hs
  unfold Reader.u8
  split
  · exact hs
  · exact hs

theorem peek {bs : Bytes} : Respects P (Reader.peek bs) := by
  intro c hs
  unfold Reader.peek
  split
  · exact hs
  · exact hs

theorem u16 {bs : Bytes} : Respects P (Reader.u16 bs) := .bind .u8 fun _ => .bind .u8 fun _ => .pure

theorem u32 {bs : Bytes} : Respects P (Reader.u32 bs) :=
  .bind .u8 fun _ => .bind .u8 fun _ => .bind .u8 fun _ => .bind .u8 fun _ => .pure

theorem take {bs : Bytes} {n : Nat} : Respects P (Reader.take bs n) := by
  intro c hs
  unfold Reader.take
  split
  · exact hs
  · exact hs

theorem need {bs : Bytes} {n : Nat} : Respects P (Reader.need bs n) := by
  intro c hs
  unfold Reader.need
  split
  · exact hs
  · split
    · exact hs
    · exact hs

theorem available {bs : Bytes} {n : Nat} : Respects P (Reader.available bs n) := by
  intro c hs
  unfold Reader.available
  split
  · exact hs
  · exact hs

theorem scan {bs : Bytes} {f : Bytes → Option α} : Respects P (Reader.scan f bs) := by
  intro c hs
  unfold Reader.scan
  split
  · exact hs
  · split
    · exact hs
    · exact hs

theorem exec {m : Proc (Cursor σ) α} (h : Respects P m) {s s' : σ} {o : Option α} (e : Reader.exec m s = (o, s'))
    (hs : P s) : P s' := by
  have hc := h ⟨0, s⟩ hs
  unfold Reader.exec at e
  split at e
  · rename_i he
    rw [he] at hc
    cases e
    exact hc
  · rename_i he
    rw [he] at hc
    cases e
    exact hc

theorem run {m : Proc (Cursor σ) Unit} (h : Respects P m) {s s' : σ} {n : Nat} (e : Reader.run m s = some (s', n))
    (hs : P s) : P s' := by
  have hc := h ⟨0, s⟩ hs
  unfold Reader.run at e
  split at e
  · rename_i he
    rw [he] at hc
    cases e
    exact hc
  · cases e

end Respects

/-- When `m` accepts, it has moved on by `n`. -/
def Moves (n : Nat) (m : Proc (Cursor σ) α) : Prop := ∀ c a c', m c = (.ok a, c') → c'.pos = c.pos + n

namespace Moves

variable {n₁ n₂ : Nat} {bs : Bytes}

theorem bind {m : Proc (Cursor σ) β} {k : β → Proc (Cursor σ) α} (hm : Moves n₁ m) (hk : ∀ b, Moves n₂ (k b)) :
    Moves (n₁ + n₂) (m >>= k) := by
  intro c a c' h
  obtain ⟨b, c₁, h₁, h₂⟩ := Proc.bind_eq_ok h
  rw [hk b c₁ a c' h₂, hm c b c₁ h₁, Nat.add_assoc]

/-- A first half that stays where it is. -/
theorem stay {m : Proc (Cursor σ) β} {k : β → Proc (Cursor σ) α} (hm : Moves 0 m) (hk : ∀ b, Moves n₂ (k b)) :
    Moves n₂ (m >>= k) := by
  have := hm.bind hk
  rwa [Nat.zero_add] at this

/-- What follows a test may use it. -/
theorem require_bind {b : Bool} {k : Unit → Proc (Cursor σ) α} (h : b = true → Moves n₂ (k ())) :
    Moves n₂ (Proc.require b >>= k) := by
  intro c a c' e
  obtain ⟨_, c₁, h₁, h₂⟩ := Proc.bind_eq_ok e
  obtain ⟨hb, rfl⟩ := Proc.require_eq_ok h₁
  exact h hb c₁ a c' h₂

theorem pure {a : α} : Moves 0 (Pure.pure a : Proc (Cursor σ) α) := by
  rintro c a c' ⟨⟩
  rfl

theorem require {b : Bool} : Moves 0 (Proc.require b : Proc (Cursor σ) Unit) := by
  intro c a c' h
  rw [(Proc.require_eq_ok h).2]
  rfl

theorem value : Moves 0 (Reader.value : Proc (Cursor σ) σ) := by
  rintro c a c' ⟨⟩
  rfl

theorem pos : Moves 0 (Reader.pos : Proc (Cursor σ) Nat) := by
  rintro c a c' ⟨⟩
  rfl

theorem update {f : σ → σ} : Moves 0 (Reader.update f) := by
  rintro c a c' ⟨⟩
  rfl

theorem u8 : Moves 1 (Reader.u8 bs : Proc (Cursor σ) UInt8) := by
  intro c a c' h
  unfold Reader.u8 at h
  split at h
  · cases h
    rfl
  · cases h

theorem u16 : Moves 2 (Reader.u16 bs : Proc (Cursor σ) UInt16) := .bind .u8 fun _ => .bind .u8 fun _ => .pure

theorem u32 : Moves 4 (Reader.u32 bs : Proc (Cursor σ) UInt32) :=
  .bind .u8 fun _ => .bind .u8 fun _ => .bind .u8 fun _ => .bind .u8 fun _ => .pure

theorem take {n : Nat} : Moves n (Reader.take bs n : Proc (Cursor σ) Bytes) := by
  intro c a c' h
  unfold Reader.take at h
  split at h
  · cases h
    rfl
  · cases h

theorem need {n : Nat} : Moves 0 (Reader.need bs n : Proc (Cursor σ) Unit) := by
  intro c a c' h
  unfold Reader.need at h
  split at h
  · cases h
  · split at h
    · cases h
    · cases h
      rfl

theorem available {n : Nat} : Moves 0 (Reader.available bs n : Proc (Cursor σ) Unit) := by
  intro c a c' h
  unfold Reader.available at h
  split at h
  · cases h
    rfl
  · cases h

theorem peek : Moves 0 (Reader.peek bs : Proc (Cursor σ) UInt8) := by
  intro c a c' h
  unfold Reader.peek at h
  split at h
  · cases h
    rfl
  · cases h

theorem scan {f : Bytes → Option α} : Moves 0 (Reader.scan f bs : Proc (Cursor σ) α) := by
  intro c a c' h
  unfold Reader.scan at h
  split at h
  · cases h
  · split at h
    · cases h
      rfl
    · cases h

/-- What is scanned may say how far to move. -/
theorem scan_bind {f : Bytes → Option β} {k : β → Proc (Cursor σ) α}
    (h : ∀ p b, f p = some b → Moves n₂ (k b)) : Moves n₂ (Reader.scan f bs >>= k) := by
  intro c a c' e
  obtain ⟨b, c₁, h₁, h₂⟩ := Proc.bind_eq_ok e
  unfold Reader.scan at h₁
  split at h₁
  · cases h₁
  · split at h₁
    · rename_i hf
      cases h₁
      exact h _ _ hf c a c' h₂
    · cases h₁

end Moves

/-- When `m` accepts, it has moved on by `n` at least. -/
def Advances (n : Nat) (m : Proc (Cursor σ) α) : Prop := ∀ c a c', m c = (.ok a, c') → c.pos + n ≤ c'.pos

namespace Advances

variable {n n₁ : Nat}

theorem of_moves {m : Proc (Cursor σ) α} (h : Moves n₁ m) (hn : n ≤ n₁) : Advances n m := by
  intro c a c' e
  rw [h c a c' e]
  omega

theorem mono {m : Proc (Cursor σ) α} (h : Advances n₁ m) (hn : n ≤ n₁) : Advances n m := by
  intro c a c' e
  have := h c a c' e
  omega

/-- What a first half has moved on need not be moved on any more. -/
theorem seq {m : Proc (Cursor σ) β} {k : β → Proc (Cursor σ) α} (hm : Advances n₁ m)
    (hk : ∀ b, Advances (n - n₁) (k b)) : Advances n (m >>= k) := by
  intro c a c' e
  obtain ⟨b, c₁, h₁, h₂⟩ := Proc.bind_eq_ok e
  have := hm c b c₁ h₁
  have := hk b c₁ a c' h₂
  omega

theorem bind {m : Proc (Cursor σ) β} {k : β → Proc (Cursor σ) α} (hm : Moves n₁ m)
    (hk : ∀ b, Advances (n - n₁) (k b)) : Advances n (m >>= k) :=
  .seq (.of_moves hm (Nat.le_refl n₁)) hk

theorem ite {p : Prop} [Decidable p] {m m' : Proc (Cursor σ) α} (h : Advances n m) (h' : Advances n m') :
    Advances n (if p then m else m') := by
  split
  · exact h
  · exact h'

theorem reject : Advances n (Proc.reject : Proc (Cursor σ) α) := by
  rintro c a c' ⟨⟩

end Advances

/-- When `m` accepts, it has turned `g` of the value by `t`. -/
def Turns {γ : Type} (g : σ → γ) (t : γ → γ) (m : Proc (Cursor σ) α) : Prop :=
  ∀ c a c', m c = (.ok a, c') → g c'.st = t (g c.st)

namespace Turns

variable {γ : Type} {g : σ → γ} {t : γ → γ}

/-- The turn comes after a part that keeps `g`. -/
theorem after {m : Proc (Cursor σ) β} {k : β → Proc (Cursor σ) α} (hm : Keeps g m) (hk : ∀ b, Turns g t (k b)) :
    Turns g t (m >>= k) := by
  intro c a c' h
  obtain ⟨b, c₁, h₁, h₂⟩ := Proc.bind_eq_ok h
  rw [hk b c₁ a c' h₂, hm c b c₁ h₁]

theorem update {f : σ → σ} (h : ∀ s, g (f s) = t (g s)) : Turns g t (Reader.update f) := by
  rintro c a c' ⟨⟩
  exact h _

theorem pure {m : Proc (Cursor σ) β} {a : α} (h : Turns g t m) : Turns g t (m >>= fun _ => Pure.pure a) := by
  intro c a' c' e
  obtain ⟨b, c₁, h₁, h₂⟩ := Proc.bind_eq_ok e
  cases h₂
  exact h _ _ _ h₁

theorem exec_eq {m : Proc (Cursor σ) α} (h : Turns g t m) {s s' : σ} {a : α} (e : exec m s = (some a, s')) :
    g s' = t (g s) := by
  unfold exec at e
  split at e
  · rename_i b c hm
    cases e
    exact h _ _ _ hm
  · cases e

theorem run_eq {m : Proc (Cursor σ) Unit} (h : Turns g t m) {s s' : σ} {n : Nat} (e : run m s = some (s', n)) :
    g s' = t (g s) := by
  unfold run at e
  split at e
  · rename_i u c hm
    cases e
    exact h _ _ _ hm
  · cases e

end Turns

end Reader
