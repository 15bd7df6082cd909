import Tinyproxy.Conf.RouteLine

/-!
# Waiting for a listen address

`bind_with_wait` of `bind.c`: `bind` is tried every 100 ms until it succeeds, fails for
another reason than `EADDRINUSE`, or `bind_wait` seconds have passed. The budget and the
time waited are `int`s, and so is the option; an `int` that leaves its range is undefined
in C, and the model has no result then.
-/

namespace Tinyproxy

/-- `INT_MIN`. -/
def intMin : Int := -2147483648

/-- The result of an `int` operation, when it is one. -/
def intResult (v : Int) : Option Int := if intMin ≤ v ∧ v ≤ intMax then some v else none

/-- `BIND_WAIT_INTERVAL_MS`. -/
def bindWaitIntervalMs : Nat := 100

/-- What `bind_with_wait` returns, after how many calls of `bind` and how many milliseconds of sleep. -/
structure BindWait where
  result : Except Errno Unit
  attempts : Nat
  sleptMs : Nat
  deriving DecidableEq

/-- `err ? -err : -EIO`. -/
def bindErrno (err : Errno) : Errno := if err = .other 0 then .eio else err

/-- The loop of `bind_with_wait`. The outcome of an attempt is the `errno` it fails with. -/
def bindLoop (outcomes : Nat → Option Errno) (waitMs waitedMs : Int) (done : BindWait) : Option BindWait :=
  match outcomes done.attempts with
  | none => some { done with result := .ok (), attempts := done.attempts + 1 }
  | some err =>
    if err ≠ eaddrinuse ∨ waitMs ≤ 0 ∨ waitedMs ≥ waitMs then
      some { done with result := .error (bindErrno err), attempts := done.attempts + 1 }
    else if waitedMs + bindWaitIntervalMs > intMax then none
    else
      bindLoop outcomes waitMs (waitedMs + bindWaitIntervalMs)
        { done with attempts := done.attempts + 1, sleptMs := done.sleptMs + bindWaitIntervalMs }
termination_by (waitMs - waitedMs).toNat
decreasing_by
  simp only [bindWaitIntervalMs]
  omega

/-- `bind_with_wait`. -/
def bindWithWait (outcomes : Nat → Option Errno) (opts : RouteOptions) : Option BindWait :=
  (intResult (1000 * opts.bindWaitSec)).bind fun waitMs =>
    bindLoop outcomes waitMs 0 { result := .ok (), attempts := 0, sleptMs := 0 }

/-- The option is honoured for these outcomes: the call returns, without an overflow; while the address is in use it
is tried again, ten times a second for as long as the option says; it ends at the first other outcome. -/
structure HonoursBindWait (outcomes : Nat → Option Errno) (n : Nat) (call : Option BindWait) : Prop where
  returns : call ≠ none
  exhausted : (∀ k ≤ 10 * n, outcomes k = some eaddrinuse) →
    call = some { result := .error eaddrinuse, attempts := 10 * n + 1, sleptMs := 1000 * n }
  bound : ∀ k ≤ 10 * n, (∀ j < k, outcomes j = some eaddrinuse) → outcomes k = none →
    call = some { result := .ok (), attempts := k + 1, sleptMs := 100 * k }
  fails : ∀ k ≤ 10 * n, ∀ err, (∀ j < k, outcomes j = some eaddrinuse) → outcomes k = some err → err ≠ eaddrinuse →
    call = some { result := .error (bindErrno err), attempts := k + 1, sleptMs := 100 * k }

/-- The loop's state before attempt `k`. -/
def bindStart (k : Nat) : BindWait := { result := .ok (), attempts := k, sleptMs := 100 * k }

section Loop

variable {outcomes : Nat → Option Errno} {n k : Nat}

/-- One turn: the address is in use and there is time left. -/
theorem bindLoop_again (short : (1000 * n : Int) ≤ intMax) (left : k < 10 * n)
    (busy : outcomes k = some eaddrinuse) :
    bindLoop outcomes (1000 * n) (100 * k) (bindStart k) =
      bindLoop outcomes (1000 * n) (100 * (k + 1)) (bindStart (k + 1)) := by
  have early : ¬ (eaddrinuse ≠ eaddrinuse ∨ (1000 * n : Int) ≤ 0 ∨ (100 * k : Int) ≥ 1000 * n) := by
    simp only [ne_eq, not_true_eq_false, false_or]
    omega
  have fits : ¬ (100 * k + bindWaitIntervalMs : Int) > intMax := by
    simp only [bindWaitIntervalMs]
    omega
  rw [bindLoop]
  simp only [bindStart, busy, if_neg early, if_neg fits]
  congr 1

/-- While the address is in use, every attempt of the budget is made. -/
theorem bindLoop_reaches (short : (1000 * n : Int) ≤ intMax) (within : k ≤ 10 * n)
    (busy : ∀ j < k, outcomes j = some eaddrinuse) :
    bindLoop outcomes (1000 * n) 0 (bindStart 0) = bindLoop outcomes (1000 * n) (100 * k) (bindStart k) := by
  induction k with
  | zero => rfl
  | succ k ih =>
    rw [ih (by omega) fun j before => busy j (by omega), bindLoop_again short within (busy k (by omega))]
    push_cast
    rfl

theorem bindLoop_bound {waitMs waitedMs : Int} (free : outcomes k = none) :
    bindLoop outcomes waitMs waitedMs (bindStart k) =
      some { result := .ok (), attempts := k + 1, sleptMs := 100 * k } := by
  rw [bindLoop]
  simp only [bindStart, free]

theorem bindLoop_fails {err : Errno} {waitMs waitedMs : Int} (failed : outcomes k = some err)
    (last : err ≠ eaddrinuse ∨ waitMs ≤ 0 ∨ waitedMs ≥ waitMs) :
    bindLoop outcomes waitMs waitedMs (bindStart k) =
      some { result := .error (bindErrno err), attempts := k + 1, sleptMs := 100 * k } := by
  rw [bindLoop]
  simp only [bindStart, failed, if_pos last]

/-- The outcomes, up to the end of the budget: some attempt is the first that is not in use, or none is. -/
theorem first_other (outcomes : Nat → Option Errno) (m : Nat) :
    (∀ k ≤ m, outcomes k = some eaddrinuse) ∨
      ∃ k ≤ m, (∀ j < k, outcomes j = some eaddrinuse) ∧ outcomes k ≠ some eaddrinuse := by
  induction m with
  | zero =>
    by_cases busy : outcomes 0 = some eaddrinuse
    · exact .inl fun k first => by rwa [Nat.le_zero.1 first]
    · exact .inr ⟨0, Nat.le_refl 0, fun j none => absurd none (Nat.not_lt_zero j), busy⟩
  | succ m ih =>
    rcases ih with all | ⟨k, within, before, other⟩
    · by_cases busy : outcomes (m + 1) = some eaddrinuse
      · left
        intro k within
        rcases Nat.le_succ_iff.1 within with within | rfl
        · exact all k within
        · exact busy
      · exact .inr ⟨m + 1, Nat.le_refl _, fun j before => all j (by omega), busy⟩
    · exact .inr ⟨k, by omega, before, other⟩

end Loop

/-- Without an overflow the option is honoured. -/
theorem bindLoop_honours {n : Nat} (outcomes : Nat → Option Errno) (short : (1000 * n : Int) ≤ intMax) :
    HonoursBindWait outcomes n (bindLoop outcomes (1000 * n) 0 (bindStart 0)) := by
  have exhausted : (∀ k ≤ 10 * n, outcomes k = some eaddrinuse) →
      bindLoop outcomes (1000 * n) 0 (bindStart 0) =
        some { result := .error eaddrinuse, attempts := 10 * n + 1, sleptMs := 1000 * n } := by
    intro busy
    rw [bindLoop_reaches short (Nat.le_refl _) fun j before => busy j (by omega),
      bindLoop_fails (busy (10 * n) (Nat.le_refl _)) (.inr (.inr (by push_cast; omega)))]
    simp only [Option.some.injEq, BindWait.mk.injEq, true_and]
    exact ⟨rfl, by omega⟩
  have bound : ∀ k ≤ 10 * n, (∀ j < k, outcomes j = some eaddrinuse) → outcomes k = none →
      bindLoop outcomes (1000 * n) 0 (bindStart 0) =
        some { result := .ok (), attempts := k + 1, sleptMs := 100 * k } := by
    intro k within busy free
    rw [bindLoop_reaches short within busy]
    exact bindLoop_bound free
  have fails : ∀ k ≤ 10 * n, ∀ err, (∀ j < k, outcomes j = some eaddrinuse) → outcomes k = some err →
      err ≠ eaddrinuse →
      bindLoop outcomes (1000 * n) 0 (bindStart 0) =
        some { result := .error (bindErrno err), attempts := k + 1, sleptMs := 100 * k } := by
    intro k within err busy failed other
    rw [bindLoop_reaches short within busy]
    exact bindLoop_fails failed (.inl other)
  refine ⟨?_, exhausted, bound, fails⟩
  rcases first_other outcomes (10 * n) with busy | ⟨k, within, busy, other⟩
  · simp [exhausted busy]
  · cases outcome : outcomes k with
    | none => simp [bound k within busy outcome]
    | some err =>
      have differs : err ≠ eaddrinuse := fun same => other (by rw [outcome, same])
      simp [fails k within err busy outcome differs]

/-- **Waiting to bind.** For an option the parser can store and any outcomes of `bind`, the address is tried for as
long as the option says, without an overflow, exactly when the option is at most `INT_MAX / 1000` seconds. -/
theorem bind_wait_honoured_iff (outcomes : Nat → Option Errno) (opts : RouteOptions) (positive : 0 ≤ opts.bindWaitSec) :
    HonoursBindWait outcomes opts.bindWaitSec.toNat (bindWithWait outcomes opts) ↔ opts.bindWaitSec ≤ 2147483 := by
  constructor
  · intro honours
    by_contra long
    apply honours.returns
    rw [bindWithWait, intResult, if_neg (by simp only [intMax]; omega)]
    rfl
  · intro short
    obtain ⟨n, seconds⟩ := Int.eq_ofNat_of_zero_le positive
    have fits : (1000 * n : Int) ≤ intMax := by
      simp only [intMax]
      omega
    rw [bindWithWait, intResult, seconds, if_pos ⟨by simp only [intMin]; omega, fits⟩]
    exact bindLoop_honours outcomes fits

theorem bind_wait_honoured_three :
    HonoursBindWait (fun k => if k < 7 then some eaddrinuse else none) 3
      (bindWithWait (fun k => if k < 7 then some eaddrinuse else none) { bindWaitSec := 3 }) :=
  (bind_wait_honoured_iff (fun k => if k < 7 then some eaddrinuse else none) { bindWaitSec := 3 }
    (by decide)).2 (by decide)

/-- With `bind_wait=2147484` the budget in milliseconds is no `int`. -/
theorem bind_wait_overflows :
    parsePositiveInt (Lib.ascii "2147484") = .ok 2147484 ∧
      bindWithWait (fun _ => some eaddrinuse) { bindWaitSec := 2147484 } = none ∧
      ¬ HonoursBindWait (fun _ => some eaddrinuse) 2147484
        (bindWithWait (fun _ => some eaddrinuse) { bindWaitSec := 2147484 }) := by
  have overflow : bindWithWait (fun _ => some eaddrinuse) { bindWaitSec := 2147484 } = none := by
    rw [bindWithWait, intResult, if_neg (by decide)]
    rfl
  exact ⟨by decide +kernel, overflow, fun honours => honours.returns overflow⟩

end Tinyproxy
