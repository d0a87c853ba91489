import Rohccxx.Lib.Proc

/-!
# What a reader consumed

Where `Reads` says what a reader does on octets written for it, `Consumes` says which octets an accepting run consumed: one
rule for each kind of read, the octets in front put before those of what follows. A reader that accepts one spelling of a
value only is shown to do so by running through it with these rules.

* `Took` — the octets between two cursors.
* `Consumes.u8`, `Consumes.u16`, `Consumes.take` — a read takes the octets of its answer off the rest.
* `Consumes.scan` — a parser that looks ahead has seen the rest.
-/

set_option autoImplicit false

namespace Reader

open Octets

variable {σ α β : Type} {bs : Bytes}

/-- From `c` to `c'` the octets `w` were consumed. -/
def Took (bs : Bytes) (c c' : Cursor σ) (w : Bytes) : Prop :=
  bs.drop c.pos = w ++ bs.drop c'.pos ∧ c'.pos = c.pos + w.length

theorem Took.refl (bs : Bytes) (c : Cursor σ) : Took bs c c [] := ⟨rfl, rfl⟩

theorem Took.trans {c c₁ c' : Cursor σ} {w₁ w₂ : Bytes} (h₁ : Took bs c c₁ w₁) (h₂ : Took bs c₁ c' w₂) :
    Took bs c c' (w₁ ++ w₂) := by
  refine ⟨?_, ?_⟩
  · rw [h₁.1, h₂.1, List.append_assoc]
  · rw [h₂.2, h₁.2, List.length_append, Nat.add_assoc]

/-- With `rest` still to read and the state `s`, an accepting run of `m` consumes octets that satisfy `Q` with its answer
and the state it leaves. -/
def Consumes (bs : Bytes) (m : Proc (Cursor σ) α) (rest : Bytes) (s : σ) (Q : Bytes → α → σ → Prop) : Prop :=
  ∀ c a c', bs.drop c.pos = rest → c.st = s → m c = (.ok a, c') → ∃ w, Took bs c c' w ∧ Q w a c'.st

namespace Consumes

variable {rest : Bytes} {s : σ} {Q : Bytes → α → σ → Prop}

/-- A step that took `w₁`, and what follows it. -/
theorem bind {m : Proc (Cursor σ) β} {k : β → Proc (Cursor σ) α}
    (h : ∀ c b c₁, bs.drop c.pos = rest → c.st = s → m c = (.ok b, c₁) →
      ∃ w₁, Took bs c c₁ w₁ ∧ Consumes bs (k b) (bs.drop c₁.pos) c₁.st fun w => Q (w₁ ++ w)) :
    Consumes bs (m >>= k) rest s Q := by
  intro c a c' hrest hs hm
  obtain ⟨b, c₁, h₁, h₂⟩ := Proc.bind_eq_ok hm
  obtain ⟨w₁, t₁, hk⟩ := h c b c₁ hrest hs h₁
  obtain ⟨w₂, t₂, hq⟩ := hk c₁ a c' rfl rfl h₂
  exact ⟨w₁ ++ w₂, t₁.trans t₂, hq⟩

/-! ## Steps that do not move -/

theorem pure {a : α} (h : Q [] a s) : Consumes bs (Pure.pure a) rest s Q := by
  rintro c a' c' - rfl hm
  cases hm
  exact ⟨[], Took.refl bs c, h⟩

theorem update_last {f : σ → σ} {Q : Bytes → Unit → σ → Prop} (h : Q [] () (f s)) :
    Consumes bs (Reader.update f) rest s Q := by
  rintro c a' c' - rfl hm
  cases hm
  exact ⟨[], Took.refl bs c, h⟩

theorem require_last {b : Bool} {Q : Bytes → Unit → σ → Prop} (h : b = true → Q [] () s) :
    Consumes bs (Proc.require b) rest s Q := by
  rintro c a' c' - rfl hm
  obtain ⟨hb, rfl⟩ := Proc.require_eq_ok hm
  exact ⟨[], Took.refl bs _, h hb⟩

theorem update {f : σ → σ} {k : Unit → Proc (Cursor σ) α} (h : Consumes bs (k ()) rest (f s) Q) :
    Consumes bs (Reader.update f >>= k) rest s Q :=
  .bind fun c b c₁ hrest hs hm => by
    cases hm
    subst hrest hs
    exact ⟨[], ⟨rfl, rfl⟩, h⟩

theorem value {k : σ → Proc (Cursor σ) α} (h : Consumes bs (k s) rest s Q) :
    Consumes bs (Reader.value >>= k) rest s Q :=
  .bind fun c b c₁ hrest hs hm => by
    cases hm
    subst hrest hs
    exact ⟨[], Took.refl bs c, h⟩

theorem require {b : Bool} {k : Unit → Proc (Cursor σ) α} (h : b = true → Consumes bs (k ()) rest s Q) :
    Consumes bs (Proc.require b >>= k) rest s Q :=
  .bind fun c u c₁ hrest hs hm => by
    obtain ⟨hb, rfl⟩ := Proc.require_eq_ok hm
    subst hrest hs
    exact ⟨[], Took.refl bs _, h hb⟩

theorem available {n : Nat} {k : Unit → Proc (Cursor σ) α} (h : Consumes bs (k ()) rest s Q) :
    Consumes bs (Reader.available bs n >>= k) rest s Q :=
  .bind fun c u c₁ hrest hs hm => by
    unfold Reader.available at hm
    split at hm
    · cases hm
      subst hrest hs
      exact ⟨[], Took.refl bs _, h⟩
    · cases hm

theorem need {n : Nat} {k : Unit → Proc (Cursor σ) α} (h : Consumes bs (k ()) rest s Q) :
    Consumes bs (Reader.need bs n >>= k) rest s Q :=
  .bind fun c u c₁ hrest hs hm => by
    unfold Reader.need at hm
    split at hm
    · cases hm
    · split at hm
      · cases hm
      · cases hm
        subst hrest hs
        exact ⟨[], Took.refl bs _, h⟩

theorem scan {f : Bytes → Option β} {k : β → Proc (Cursor σ) α}
    (h : ∀ b, f rest = some b → Consumes bs (k b) rest s Q) : Consumes bs (Reader.scan f bs >>= k) rest s Q :=
  .bind fun c u c₁ hrest hs hm => by
    unfold Reader.scan at hm
    split at hm
    · cases hm
    · split at hm
      · rename_i hf
        cases hm
        subst hrest hs
        exact ⟨[], Took.refl bs _, h _ hf⟩
      · cases hm

theorem ite {p : Prop} [Decidable p] {m m' : Proc (Cursor σ) α} (h : p → Consumes bs m rest s Q)
    (h' : ¬p → Consumes bs m' rest s Q) : Consumes bs (if p then m else m') rest s Q := by
  split
  · exact h ‹_›
  · exact h' ‹_›

/-! ## Reads -/

theorem u8 {k : UInt8 → Proc (Cursor σ) α}
    (h : ∀ b rest', rest = b :: rest' → Consumes bs (k b) rest' s fun w => Q (b :: w)) :
    Consumes bs (Reader.u8 bs >>= k) rest s Q :=
  .bind fun c b c₁ hrest hs hm => by
    unfold Reader.u8 at hm
    split at hm
    · rename_i hget
      cases hm
      obtain ⟨hlt, rfl⟩ := List.getElem?_eq_some_iff.mp hget
      have hdrop := List.drop_eq_getElem_cons hlt
      subst hs
      exact ⟨[bs[c.pos]], ⟨hdrop, rfl⟩, h _ _ (hrest.symm.trans hdrop)⟩
    · cases hm

theorem u16 {k : UInt16 → Proc (Cursor σ) α}
    (h : ∀ v rest', rest = be16 v ++ rest' → Consumes bs (k v) rest' s fun w => Q (be16 v ++ w)) :
    Consumes bs (Reader.u16 bs >>= k) rest s Q := by
  have hpair : Reader.u16 bs >>= k =
      (Reader.u8 bs >>= fun hi => Reader.u8 bs >>= fun lo => k (ofBe16 hi lo)) := by
    funext c
    simp only [Reader.u16, Proc.bind_apply, Proc.pure_apply]
    cases Reader.u8 bs c with
    | mk o c₁ =>
      cases o with
      | ok hi =>
        dsimp only
        cases Reader.u8 bs c₁ with
        | mk o₂ c₂ => cases o₂ <;> rfl
      | reject => rfl
      | fault => rfl
  rw [hpair]
  refine .u8 fun hi rest₁ h₁ => .u8 fun lo rest₂ h₂ => ?_
  have hrest : rest = be16 (ofBe16 hi lo) ++ rest₂ := by
    rw [be16_ofBe16, h₁, h₂]
    rfl
  have hk := h (ofBe16 hi lo) rest₂ hrest
  rw [be16_ofBe16] at hk
  exact hk

theorem take {n : Nat} {k : Bytes → Proc (Cursor σ) α}
    (h : ∀ x rest', rest = x ++ rest' → x.length = n → Consumes bs (k x) rest' s fun w => Q (x ++ w)) :
    Consumes bs (Reader.take bs n >>= k) rest s Q :=
  .bind fun c b c₁ hrest hs hm => by
    unfold Reader.take at hm
    split at hm
    · cases hm
      have hlen : ((bs.drop c.pos).take n).length = n := by
        rw [List.length_take, List.length_drop]
        omega
      have hdrop : bs.drop c.pos = (bs.drop c.pos).take n ++ bs.drop (c.pos + n) := by
        rw [← List.drop_drop]
        exact (List.take_append_drop n _).symm
      subst hs
      exact ⟨_, ⟨hdrop, by rw [hlen]⟩, h _ _ (hrest.symm.trans hdrop) hlen⟩
    · cases hm

end Consumes

end Reader
