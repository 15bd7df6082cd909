import Mathlib.Data.Multiset.AddSub

/-!
# What is held

A ledger has an entry for each resource that was taken and not given back. It is void once
something is given back that is not there: freed twice, or never taken.
-/

namespace Lib

inductive Ledger (ρ : Type) where
  | void
  | of (held : Multiset ρ)
  deriving DecidableEq

namespace Ledger

variable {ρ : Type}

def acquire : Ledger ρ → ρ → Ledger ρ
  | void, _ => void
  | of held, r => of (r ::ₘ held)

def release [DecidableEq ρ] : Ledger ρ → ρ → Ledger ρ
  | void, _ => void
  | of held, r => if r ∈ held then of (held.erase r) else void

@[simp] theorem acquire_of (held : Multiset ρ) (r : ρ) : (of held).acquire r = of (r ::ₘ held) := rfl

@[simp] theorem release_cons [DecidableEq ρ] (held : Multiset ρ) (r : ρ) : (of (r ::ₘ held)).release r = of held := by
  simp [release]

/-- An entry can be given back from below others. -/
theorem release_add [DecidableEq ρ] (above held : Multiset ρ) (r : ρ) :
    (of (above + r ::ₘ held)).release r = of (above + held) := by
  rw [Multiset.add_cons, release_cons]

end Ledger

end Lib
