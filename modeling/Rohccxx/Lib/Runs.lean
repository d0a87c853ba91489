import Mathlib.Logic.Basic

/-!
# Runs of a labelled transition system

`Reaches step s₀ es s`: the steps labelled `es`, oldest first, lead from `s₀` to `s`. An invariant may speak of the labels
seen so far; `invariant` is the induction rule for it. `lastOf` picks what the latest label of a kind said. A `Machine` is
a system whose calls have one outcome each; its steps may be restricted to calls that meet a condition.
-/

set_option autoImplicit false

namespace Runs

variable {S E α : Type} {step : S → E → S → Prop} {s₀ s t : S} {es : List E} {e : E}

inductive Reaches (step : S → E → S → Prop) (s₀ : S) : List E → S → Prop where
  | start : Reaches step s₀ [] s₀
  | snoc {es : List E} {s t : S} {e : E} (run : Reaches step s₀ es s) (last : step s e t) :
    Reaches step s₀ (es ++ [e]) t

/-- What holds at the start and is kept by every step holds along the run. -/
theorem Reaches.invariant {P : List E → S → Prop} (h : Reaches step s₀ es s) (hstart : P [] s₀)
    (hstep : ∀ {es s e t}, P es s → step s e t → P (es ++ [e]) t) : P es s := by
  induction h with
  | start => exact hstart
  | snoc _ last ih => exact hstep ih last

/-- A run of a machine is a run of every machine that can do more. -/
theorem Reaches.mono {step' : S → E → S → Prop} (h : Reaches step s₀ es s)
    (himp : ∀ {s e t}, step s e t → step' s e t) : Reaches step' s₀ es s := by
  induction h with
  | start => exact .start
  | snoc _ last ih => exact .snoc ih (himp last)

/-- What the latest label with an answer to `f` answers. -/
def lastOf (f : E → Option α) (es : List E) : Option α := es.foldl (fun acc e => (f e).or acc) none

@[simp] theorem lastOf_nil (f : E → Option α) : lastOf f [] = none := rfl

@[simp] theorem lastOf_snoc (f : E → Option α) (es : List E) (e : E) :
    lastOf f (es ++ [e]) = (f e).or (lastOf f es) := by
  simp [lastOf]

/-- A label without an answer changes nothing. -/
theorem lastOf_snoc_none {f : E → Option α} (h : f e = none) : lastOf f (es ++ [e]) = lastOf f es := by
  rw [lastOf_snoc, h, Option.none_or]

theorem lastOf_snoc_some {f : E → Option α} {a : α} (h : f e = some a) : lastOf f (es ++ [e]) = some a := by
  rw [lastOf_snoc, h, Option.some_or]

/-! ## Machines -/

/-- A machine: the state after a call, and what the call shows. -/
structure Machine (S C O : Type) where
  next : S → C → S
  obs : S → C → O

namespace Machine

variable {C O : Type} {m : Machine S C O} {ok : S → C → Prop}

/-- One call that meets the condition, labelled with itself and what it shows. -/
def Step (m : Machine S C O) (ok : S → C → Prop) (s : S) (label : C × O) (t : S) : Prop :=
  label.2 = m.obs s label.1 ∧ t = m.next s label.1 ∧ ok s label.1

/-- The state after some calls. -/
def after (m : Machine S C O) (s : S) (calls : List C) : S := calls.foldl m.next s

/-- The labels of some calls. -/
def trace (m : Machine S C O) (s : S) : List C → List (C × O)
  | [] => []
  | c :: cs => (c, m.obs s c) :: m.trace (m.next s c) cs

/-- Every one of some calls meets the condition. -/
def Allowed (m : Machine S C O) (ok : S → C → Prop) (s : S) : List C → Prop
  | [] => True
  | c :: cs => ok s c ∧ m.Allowed ok (m.next s c) cs

instance decidableAllowed [∀ s c, Decidable (ok s c)] : ∀ (s : S) (calls : List C), Decidable (m.Allowed ok s calls)
  | _, [] => inferInstanceAs (Decidable True)
  | s, c :: cs =>
    have := decidableAllowed (m.next s c) cs
    inferInstanceAs (Decidable (ok s c ∧ m.Allowed ok (m.next s c) cs))

/-- The machine with a history variable next to its state. -/
def tracked {H : Type} (m : Machine S C O) (note : H → S → C → H) : Machine (S × H) C O where
  next s c := (m.next s.1 c, note s.2 s.1 c)
  obs s c := m.obs s.1 c

theorem step_of_obs {c : C} {o : O} (ho : m.obs s c = o) (h : ok s c) : m.Step ok s (c, o) (m.next s c) :=
  ⟨ho.symm, rfl, h⟩

theorem reaches_append {es : List (C × O)} {calls : List C} (run : Reaches (m.Step ok) s₀ es s)
    (h : m.Allowed ok s calls) : Reaches (m.Step ok) s₀ (es ++ m.trace s calls) (m.after s calls) := by
  induction calls generalizing es s with
  | nil =>
    rw [trace, List.append_nil]
    exact run
  | cons c cs ih =>
    have := ih (.snoc run (step_of_obs rfl h.1)) h.2
    rwa [List.append_assoc] at this

/-- Calls that meet the condition are a run. -/
theorem reaches_trace {calls : List C} (h : m.Allowed ok s calls) :
    Reaches (m.Step ok) s (m.trace s calls) (m.after s calls) :=
  reaches_append .start h

/-- Related states show the same and stay related, for as many calls as the relation can count. -/
structure Simulates {S' : Type} (m : Machine S C O) (m' : Machine S' C O) (R : Nat → S → S' → Prop) (limit : Nat) :
    Prop where
  obs : ∀ {n s s'}, R n s s' → n < limit → ∀ c, m.obs s c = m'.obs s' c
  next : ∀ {n s s'}, R n s s' → n < limit → ∀ c, R (n + 1) (m.next s c) (m'.next s' c)

/-- **Simulation**: machines that start from related states go the same way. -/
theorem Simulates.trace_eq {S' : Type} {m' : Machine S' C O} {R : Nat → S → S' → Prop} {limit : Nat}
    (h : Simulates m m' R limit) {n : Nat} {s' : S'} {calls : List C} (hR : R n s s') (hn : n + calls.length ≤ limit) :
    m.trace s calls = m'.trace s' calls ∧ R (n + calls.length) (m.after s calls) (m'.after s' calls) := by
  induction calls generalizing n s s' with
  | nil => exact ⟨rfl, hR⟩
  | cons c cs ih =>
    rw [List.length_cons] at hn
    have hlt : n < limit := by omega
    obtain ⟨htrace, hafter⟩ := ih (h.next hR hlt c) (by omega)
    refine ⟨?_, ?_⟩
    · unfold trace
      rw [h.obs hR hlt c, htrace]
    · rw [List.length_cons, ← Nat.add_assoc, Nat.add_right_comm]
      exact hafter

/-- Under an invariant, a condition that decides what one call shows decides what a run shows. -/
theorem forall_trace_iff {Inv : S → Prop} {good : C × O → Prop} {cond : S → C → Prop}
    (keeps : ∀ {s c}, Inv s → ok s c → Inv (m.next s c))
    (obs_iff : ∀ {s c}, Inv s → ok s c → (good (c, m.obs s c) ↔ cond s c)) {calls : List C} (hs : Inv s)
    (h : m.Allowed ok s calls) : (∀ l ∈ m.trace s calls, good l) ↔ m.Allowed cond s calls := by
  induction calls generalizing s with
  | nil => simp [trace, Allowed]
  | cons c cs ih =>
    have hrest := ih (keeps hs h.1) h.2
    simp only [trace, Allowed, List.forall_mem_cons]
    rw [obs_iff hs h.1, hrest]

end Machine

end Runs
