import Mathlib.Data.List.Basic

/-!
# Sums and products on the way

A value can be had together with all the sums and products that are worked out on the way to it. Rules for
them, one for each way to go on, tell what the value is and how large the numbers grow (`Reckoning.Gives`).
-/

namespace MembershipGrid

/-- A value with the sums and products that were worked out on the way to it. -/
structure Reckoning (α : Type) where
  value : α
  numbers : List Nat

namespace Reckoning

variable {α β ε : Type} {a : α} {b : β} {bound n : Nat} {x : Reckoning α}

instance : Monad Reckoning where
  pure value := ⟨value, []⟩
  bind x next := ⟨(next x.value).value, x.numbers ++ (next x.value).numbers⟩

def add (m n : Nat) : Reckoning Nat := ⟨m + n, [m + n]⟩

def mul (m n : Nat) : Reckoning Nat := ⟨m * n, [m * n]⟩

/-- Goes on counting from a number, an item at a time. -/
def countFrom (n : Nat) : List α → Reckoning Nat
  | [] => return n
  | _ :: rest => do countFrom (← add n 1) rest

/-- The value is known, and no number on the way to it exceeds the bound. -/
structure Gives (bound : Nat) (x : Reckoning α) (a : α) : Prop where
  value : x.value = a
  within : ∀ n ∈ x.numbers, n ≤ bound

/-! ## Single steps -/

theorem gives_pure (bound : Nat) (a : α) : Gives bound (pure a) a := ⟨rfl, fun _ hn => nomatch hn⟩

theorem gives_add {m : Nat} (fits : m + n ≤ bound) : Gives bound (add m n) (m + n) :=
  ⟨rfl, fun _ hk => List.mem_singleton.mp hk ▸ fits⟩

theorem gives_mul {m : Nat} (fits : m * n ≤ bound) : Gives bound (mul m n) (m * n) :=
  ⟨rfl, fun _ hk => List.mem_singleton.mp hk ▸ fits⟩

/-! ## Going on -/

theorem Gives.bind {next : α → Reckoning β} (h : Gives bound x a) (hn : Gives bound (next a) b) :
    Gives bound (x >>= next) b := by
  obtain ⟨rfl, within⟩ := h
  refine ⟨hn.value, fun n hm => ?_⟩
  rcases List.mem_append.mp hm with before | after
  · exact within n before
  · exact hn.within n after

theorem Gives.bindExcept {x : ExceptT ε Reckoning α} {next : α → ExceptT ε Reckoning β} {outcome : Except ε α}
    {after : α → Except ε β} (h : Gives bound x.run outcome)
    (hn : ∀ a, outcome = .ok a → Gives bound (next a).run (after a)) :
    Gives bound (x >>= next).run (outcome >>= after) := by
  cases outcome with
  | error e => exact h.bind (gives_pure bound (Except.error e))
  | ok a => exact h.bind (hn a rfl)

theorem Gives.lift {next : α → ExceptT ε Reckoning β} {outcome : Except ε β} (h : Gives bound x a)
    (hn : Gives bound (next a).run outcome) :
    Gives bound ((liftM x : ExceptT ε Reckoning α) >>= next).run outcome := by
  have lifted : Gives bound (liftM x : ExceptT ε Reckoning α).run (.ok a) :=
    h.bind (gives_pure bound (Except.ok a))
  change Gives bound _ ((Except.ok a : Except ε α) >>= fun _ => outcome)
  exact lifted.bindExcept fun _ same => Except.ok.inj same ▸ hn

theorem gives_countFrom (items : List α) (fits : n + items.length ≤ bound) :
    Gives bound (countFrom n items) (n + items.length) := by
  induction items generalizing n with
  | nil => exact gives_pure bound n
  | cons item rest ih =>
      rw [List.length_cons] at fits ⊢
      rw [← Nat.add_assoc, Nat.add_right_comm]
      exact (gives_add (by omega)).bind (ih (by omega))

theorem gives_count {items : List α} (fits : items.length ≤ bound) :
    Gives bound (countFrom 0 items) items.length := by
  have counted := gives_countFrom items (show 0 + items.length ≤ bound by omega)
  rwa [Nat.zero_add] at counted

end Reckoning

end MembershipGrid
