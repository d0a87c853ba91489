import Rohccxx.Lib.Proc

/-!
# Two runs of a reader

`Alike R R' m₁ m₂`: on values related by `R`, from one position, the readers `m₁` and `m₂` end alike: with the same
answer, at one position, on values related by `R'`, or both without an answer. The rules follow the `do` blocks; only
`value` can make the two programs differ.
-/

set_option autoImplicit false

open Octets

namespace Reader

variable {σ α β : Type}

/-- Both readers end alike from related values. -/
def Alike (R R' : σ → σ → Prop) (m₁ m₂ : Proc (Cursor σ) α) : Prop :=
  ∀ p s₁ s₂, R s₁ s₂ → (m₁ ⟨p, s₁⟩).1 = (m₂ ⟨p, s₂⟩).1 ∧
    ((m₁ ⟨p, s₁⟩).1.isOk = true →
      (m₁ ⟨p, s₁⟩).2.pos = (m₂ ⟨p, s₂⟩).2.pos ∧ R' (m₁ ⟨p, s₁⟩).2.st (m₂ ⟨p, s₂⟩).2.st)

namespace Alike

variable {R R₁ R' : σ → σ → Prop} {bs : Bytes}

/-- The rule of sequential composition. -/
theorem bind {m₁ m₂ : Proc (Cursor σ) β} {k₁ k₂ : β → Proc (Cursor σ) α} (hm : Alike R R₁ m₁ m₂)
    (hk : ∀ b, Alike R₁ R' (k₁ b) (k₂ b)) : Alike R R' (m₁ >>= k₁) (m₂ >>= k₂) := by
  intro p s₁ s₂ hs
  obtain ⟨hout, hrest⟩ := hm p s₁ s₂ hs
  rw [Proc.bind_apply, Proc.bind_apply]
  rcases e₁ : m₁ ⟨p, s₁⟩ with ⟨o₁, c₁⟩
  rcases e₂ : m₂ ⟨p, s₂⟩ with ⟨o₂, c₂⟩
  rw [e₁, e₂] at hout hrest
  dsimp only at hout hrest
  subst hout
  cases o₁ with
  | ok b =>
    obtain ⟨hpos, hst⟩ := hrest rfl
    obtain ⟨p₁, t₁⟩ := c₁
    obtain ⟨p₂, t₂⟩ := c₂
    dsimp only at hpos hst
    subst hpos
    exact hk b p₁ t₁ t₂ hst
  | reject => exact ⟨rfl, nofun⟩
  | fault => exact ⟨rfl, nofun⟩

/-- A first half that keeps the values related as they were. -/
theorem keep {m₁ m₂ : Proc (Cursor σ) β} {k₁ k₂ : β → Proc (Cursor σ) α} (hm : Alike R R m₁ m₂)
    (hk : ∀ b, Alike R R' (k₁ b) (k₂ b)) : Alike R R' (m₁ >>= k₁) (m₂ >>= k₂) := bind hm hk

theorem mono {m₁ m₂ : Proc (Cursor σ) α} {Q Q' : σ → σ → Prop} (h : Alike R R' m₁ m₂) (hQ : ∀ a b, Q a b → R a b)
    (hQ' : ∀ a b, R' a b → Q' a b) : Alike Q Q' m₁ m₂ := by
  intro p s₁ s₂ hs
  obtain ⟨hout, hrest⟩ := h p s₁ s₂ (hQ _ _ hs)
  exact ⟨hout, fun hok => ⟨(hrest hok).1, hQ' _ _ (hrest hok).2⟩⟩

theorem pure {a : α} : Alike R R (Pure.pure a : Proc (Cursor σ) α) (Pure.pure a) :=
  fun _ _ _ hs => ⟨rfl, fun _ => ⟨rfl, hs⟩⟩

theorem reject : Alike R R' (Proc.reject : Proc (Cursor σ) α) Proc.reject := fun _ _ _ _ => ⟨rfl, nofun⟩

theorem require {b : Bool} : Alike R R (Proc.require b : Proc (Cursor σ) Unit) (Proc.require b) := by
  intro p s₁ s₂ hs
  cases b with
  | true => exact ⟨rfl, fun _ => ⟨rfl, hs⟩⟩
  | false => exact ⟨rfl, nofun⟩

theorem u8 : Alike R R (Reader.u8 bs) (Reader.u8 bs) := by
  intro p s₁ s₂ hs
  unfold Reader.u8
  dsimp only
  split
  · exact ⟨rfl, fun _ => ⟨rfl, hs⟩⟩
  · exact ⟨rfl, nofun⟩

theorem peek : Alike R R (Reader.peek bs) (Reader.peek bs) := by
  intro p s₁ s₂ hs
  unfold Reader.peek
  dsimp only
  split
  · exact ⟨rfl, fun _ => ⟨rfl, hs⟩⟩
  · exact ⟨rfl, nofun⟩

theorem u16 : Alike R R (Reader.u16 bs) (Reader.u16 bs) := .keep .u8 fun _ => .keep .u8 fun _ => .pure

theorem u32 : Alike R R (Reader.u32 bs) (Reader.u32 bs) :=
  .keep .u8 fun _ => .keep .u8 fun _ => .keep .u8 fun _ => .keep .u8 fun _ => .pure

theorem take {n : Nat} : Alike R R (Reader.take bs n) (Reader.take bs n) := by
  intro p s₁ s₂ hs
  unfold Reader.take
  dsimp only
  split
  · exact ⟨rfl, fun _ => ⟨rfl, hs⟩⟩
  · exact ⟨rfl, nofun⟩

theorem need {n : Nat} : Alike R R (Reader.need bs n) (Reader.need bs n) := by
  intro p s₁ s₂ hs
  unfold Reader.need
  dsimp only
  split
  · exact ⟨rfl, nofun⟩
  · split
    · exact ⟨rfl, nofun⟩
    · exact ⟨rfl, fun _ => ⟨rfl, hs⟩⟩

theorem available {n : Nat} : Alike R R (Reader.available bs n) (Reader.available bs n) := by
  intro p s₁ s₂ hs
  unfold Reader.available
  dsimp only
  split
  · exact ⟨rfl, fun _ => ⟨rfl, hs⟩⟩
  · exact ⟨rfl, nofun⟩

theorem scan {f : Bytes → Option α} : Alike R R (Reader.scan f bs) (Reader.scan f bs) := by
  intro p s₁ s₂ hs
  unfold Reader.scan
  dsimp only
  split
  · exact ⟨rfl, nofun⟩
  · split
    · exact ⟨rfl, fun _ => ⟨rfl, hs⟩⟩
    · exact ⟨rfl, nofun⟩

theorem pos : Alike R R (Reader.pos : Proc (Cursor σ) Nat) Reader.pos := fun _ _ _ hs => ⟨rfl, fun _ => ⟨rfl, hs⟩⟩

theorem update {f₁ f₂ : σ → σ} (h : ∀ a b, R a b → R' (f₁ a) (f₂ b)) :
    Alike R R' (Reader.update f₁) (Reader.update f₂) := fun _ _ _ hs => ⟨rfl, fun _ => ⟨rfl, h _ _ hs⟩⟩

/-- What is done with the value may differ, as long as related values lead to readers that end alike. -/
theorem value {k₁ k₂ : σ → Proc (Cursor σ) α} (h : ∀ a b, R a b → Alike R R' (k₁ a) (k₂ b)) :
    Alike R R' (Reader.value >>= k₁) (Reader.value >>= k₂) := fun p s₁ s₂ hs => h s₁ s₂ hs p s₁ s₂ hs

/-- The same, for what follows a look at two given values. -/
theorem value_eq {k₁ k₂ : σ → Proc (Cursor σ) α} (h : ∀ a b, R a b → Alike (fun x y => x = a ∧ y = b) R' (k₁ a) (k₂ b)) :
    Alike R R' (Reader.value >>= k₁) (Reader.value >>= k₂) := fun p s₁ s₂ hs => h s₁ s₂ hs p s₁ s₂ ⟨rfl, rfl⟩

theorem ite {c₁ c₂ : Prop} [Decidable c₁] [Decidable c₂] (hc : c₁ ↔ c₂) {m₁ m₁' m₂ m₂' : Proc (Cursor σ) α}
    (h : c₁ → Alike R R' m₁ m₂) (h' : ¬c₁ → Alike R R' m₁' m₂') :
    Alike R R' (if c₁ then m₁ else m₁') (if c₂ then m₂ else m₂') := by
  by_cases hx : c₁
  · rw [if_pos hx, if_pos (hc.mp hx)]
    exact h hx
  · rw [if_neg hx, if_neg (fun hy => hx (hc.mpr hy))]
    exact h' hx

/-- Related values are accepted alike. -/
theorem run_some {m₁ m₂ : Proc (Cursor σ) Unit} (h : Alike R R' m₁ m₂) {s₁ s₂ t₁ : σ} {n : Nat} (hs : R s₁ s₂)
    (e : run m₁ s₁ = some (t₁, n)) : ∃ t₂, run m₂ s₂ = some (t₂, n) ∧ R' t₁ t₂ := by
  obtain ⟨hout, hrest⟩ := h 0 s₁ s₂ hs
  unfold run at e ⊢
  rcases e₁ : m₁ ⟨0, s₁⟩ with ⟨o₁, c₁⟩
  rcases e₂ : m₂ ⟨0, s₂⟩ with ⟨o₂, c₂⟩
  rw [e₁] at e
  rw [e₁, e₂] at hout hrest
  dsimp only at hout hrest
  subst hout
  cases o₁ with
  | ok b =>
    obtain ⟨hpos, hst⟩ := hrest rfl
    cases e
    exact ⟨c₂.st, by rw [hpos], hst⟩
  | reject => cases e
  | fault => cases e

/-- Related values are refused alike. -/
theorem run_none {m₁ m₂ : Proc (Cursor σ) Unit} (h : Alike R R' m₁ m₂) {s₁ s₂ : σ} (hs : R s₁ s₂)
    (e : run m₁ s₁ = none) : run m₂ s₂ = none := by
  obtain ⟨hout, -⟩ := h 0 s₁ s₂ hs
  unfold run at e ⊢
  rcases e₁ : m₁ ⟨0, s₁⟩ with ⟨o₁, c₁⟩
  rcases e₂ : m₂ ⟨0, s₂⟩ with ⟨o₂, c₂⟩
  rw [e₁] at e
  rw [e₁, e₂] at hout
  dsimp only at hout
  subst hout
  cases o₁ with
  | ok b => cases e
  | reject => rfl
  | fault => rfl

end Alike

end Reader
