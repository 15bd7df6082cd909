import Mathlib.Data.List.Nodup
import Mathlib.Logic.Function.Basic

/-!
# Singly linked queues

A queue of nodes linked through their `next` field, with pointers to the first and the
last node. `push` appends a node by writing to the last one, `detach` takes the whole
list away and leaves its links in place, so that whoever detached it can walk it while
others push: `push` writes to the queue's own nodes and the new one only.

`Chain` is the list of nodes a pointer leads to, and `Holds` says a queue holds it.
-/

namespace Lib

/-- The link of every node and the two ends of the queue. -/
structure LinkedQueue (α : Type) where
  next : α → Option α
  head : Option α
  tail : Option α

/-- Following `next` from `start` passes exactly the nodes of the list. -/
def Chain {α : Type} (next : α → Option α) : Option α → List α → Prop
  | start, [] => start = none
  | start, x :: xs => start = some x ∧ Chain next (next x) xs

/-- The node `x` is met when following `next` from `start`. -/
inductive Reach {α : Type} (next : α → Option α) : Option α → α → Prop where
  | here {x : α} : Reach next (some x) x
  | further {x y : α} (rest : Reach next (next y) x) : Reach next (some y) x

namespace Chain

variable {α : Type} {next next' : α → Option α} {start : Option α} {xs : List α}

theorem start_eq (chain : Chain next start xs) : start = xs.head? := by
  cases xs with
  | nil => exact chain
  | cons x xs => exact chain.1

theorem eq_nil (chain : Chain next none xs) : xs = [] :=
  List.head?_eq_none_iff.1 chain.start_eq.symm

theorem uncons {x : α} (chain : Chain next (some x) xs) : ∃ ys, xs = x :: ys ∧ Chain next (next x) ys := by
  cases xs with
  | nil => cases chain
  | cons y ys =>
    obtain ⟨same, rest⟩ := chain
    cases same
    exact ⟨ys, rfl, rest⟩

/-- Writes outside the list leave the chain as it is. -/
theorem frame (chain : Chain next start xs) (same : ∀ x ∈ xs, next' x = next x) : Chain next' start xs := by
  induction xs generalizing start with
  | nil => exact chain
  | cons x xs ih =>
    refine ⟨chain.1, ?_⟩
    rw [same x List.mem_cons_self]
    exact ih chain.2 fun y mem => same y (List.mem_cons_of_mem x mem)

/-- Linking the last node to a new one appends it. -/
theorem snoc [DecidableEq α] {t m : α} (chain : Chain next start xs) (nodup : xs.Nodup) (last : xs.getLast? = some t)
    (new : m ∉ xs) (ends : next m = none) : Chain (Function.update next t (some m)) start (xs ++ [m]) := by
  induction xs generalizing start with
  | nil => cases last
  | cons x xs ih =>
    obtain ⟨distinct, rest⟩ := List.nodup_cons.1 nodup
    refine ⟨chain.1, ?_⟩
    cases xs with
    | nil =>
      rw [List.getLast?_singleton, Option.some.injEq] at last
      subst last
      have other : m ≠ x := fun same => new (List.mem_singleton.2 same)
      refine ⟨Function.update_self x (some m) next, ?_⟩
      show Function.update next x (some m) m = none
      rw [Function.update_of_ne other, ends]
    | cons y ys =>
      have tail : (y :: ys).getLast? = some t := by rw [← last, List.getLast?_cons_cons]
      have before : x ≠ t := by
        rintro rfl
        exact distinct (List.mem_of_getLast? tail)
      rw [Function.update_of_ne before]
      exact ih chain.2 rest tail fun mem => new (List.mem_cons_of_mem x mem)

theorem reach_last {t : α} (chain : Chain next start xs) (last : xs.getLast? = some t) :
    Reach next start t ∧ next t = none := by
  induction xs generalizing start with
  | nil => cases last
  | cons x xs ih =>
    obtain ⟨rfl, rest⟩ := chain
    cases xs with
    | nil =>
      rw [List.getLast?_singleton, Option.some.injEq] at last
      subst last
      exact ⟨.here, rest⟩
    | cons y ys =>
      rw [List.getLast?_cons_cons] at last
      obtain ⟨reached, ends⟩ := ih rest last
      exact ⟨.further reached, ends⟩

end Chain

namespace LinkedQueue

variable {α : Type} {q : LinkedQueue α} {xs : List α} {m : α}

/-- The queue with no nodes. -/
def empty : LinkedQueue α := ⟨fun _ => none, none, none⟩

/-- Append `m`: its link is cleared, the last node is linked to it, and it becomes the last. -/
def push [DecidableEq α] (q : LinkedQueue α) (m : α) : LinkedQueue α :=
  let next := Function.update q.next m none
  match q.tail with
  | some t => { next := Function.update next t (some m), head := q.head, tail := some m }
  | none => { next := next, head := some m, tail := some m }

/-- Take all nodes away; the links between them stay. -/
def detach (q : LinkedQueue α) : LinkedQueue α := { q with head := none, tail := none }

/-- The queue holds the nodes of `xs`, first to last. -/
structure Holds (q : LinkedQueue α) (xs : List α) : Prop where
  chain : Chain q.next q.head xs
  tail : q.tail = xs.getLast?

/-- The tail pointer is the last node reachable from the head pointer, and both are null together. -/
structure TailIsLast (q : LinkedQueue α) : Prop where
  null : q.tail = none ↔ q.head = none
  last : ∀ t, q.tail = some t → Reach q.next q.head t ∧ q.next t = none

theorem holds_empty : (empty : LinkedQueue α).Holds [] := ⟨rfl, rfl⟩

theorem detach_holds (q : LinkedQueue α) : q.detach.Holds [] := ⟨rfl, rfl⟩

theorem Holds.tailIsLast (holds : q.Holds xs) : q.TailIsLast where
  null := by
    rw [holds.tail, holds.chain.start_eq, List.getLast?_eq_none_iff, List.head?_eq_none_iff]
  last := by
    intro t tail
    rw [holds.tail] at tail
    exact holds.chain.reach_last tail

variable [DecidableEq α]

theorem Holds.push (holds : q.Holds xs) (nodup : xs.Nodup) (new : m ∉ xs) : (q.push m).Holds (xs ++ [m]) := by
  have cleared : Chain (Function.update q.next m none) q.head xs := by
    apply holds.chain.frame
    intro x mem
    have other : x ≠ m := fun same => new (same ▸ mem)
    exact Function.update_of_ne other _ _
  unfold LinkedQueue.push
  cases last : q.tail with
  | some t =>
    rw [holds.tail] at last
    exact ⟨cleared.snoc nodup last new (Function.update_self m none q.next), by simp⟩
  | none =>
    rw [holds.tail, List.getLast?_eq_none_iff] at last
    subst last
    refine ⟨⟨rfl, ?_⟩, rfl⟩
    exact (Function.update_self m none q.next : Function.update q.next m none m = none)

/-- **Pushing does not disturb a list that was detached.** -/
theorem Holds.push_frame {start : Option α} {ys : List α} (holds : q.Holds xs) (detached : Chain q.next start ys)
    (apart : ∀ y ∈ ys, y ∉ xs) (new : m ∉ ys) : Chain (q.push m).next start ys := by
  apply detached.frame
  intro y mem
  have other : y ≠ m := fun same => new (same ▸ mem)
  unfold LinkedQueue.push
  cases last : q.tail with
  | some t =>
    rw [holds.tail] at last
    have outside : y ≠ t := by
      rintro rfl
      exact apart y mem (List.mem_of_getLast? last)
    dsimp only
    rw [Function.update_of_ne outside, Function.update_of_ne other]
  | none =>
    dsimp only
    rw [Function.update_of_ne other]

end LinkedQueue

end Lib
