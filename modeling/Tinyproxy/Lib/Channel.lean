import Mathlib.Data.List.Infix
import Tinyproxy.Lib.Machine

/-!
# FIFO channels with their history

A `Channel` keeps everything it ever accepted, everything it ever delivered and
what is still pending, and carries the law between the three as a field: nothing
is reordered, duplicated or dropped. `fifo` is the machine whose only moves are to
accept at the back and to deliver from the front; a `Duplex` is a pair of channels,
and `duplex` its machine.
-/

namespace Lib

/-- A first-in first-out channel with its full history. -/
structure Channel (α : Type) where
  accepted : List α
  delivered : List α
  pending : List α
  conserved : delivered ++ pending = accepted

namespace Channel

variable {α : Type}

/-- A channel that has accepted `xs` and delivered nothing. -/
def start (xs : List α) : Channel α := ⟨xs, [], xs, rfl⟩

/-- Accept `xs` at the back. -/
def accept (c : Channel α) (xs : List α) : Channel α where
  accepted := c.accepted ++ xs
  delivered := c.delivered
  pending := c.pending ++ xs
  conserved := by rw [← List.append_assoc, c.conserved]

/-- Deliver the first `n` pending items. -/
def deliver (c : Channel α) (n : Nat) : Channel α where
  accepted := c.accepted
  delivered := c.delivered ++ c.pending.take n
  pending := c.pending.drop n
  conserved := by rw [List.append_assoc, List.take_append_drop, c.conserved]

@[simp] theorem accept_accepted (c : Channel α) (xs : List α) : (c.accept xs).accepted = c.accepted ++ xs := rfl
@[simp] theorem accept_delivered (c : Channel α) (xs : List α) : (c.accept xs).delivered = c.delivered := rfl
@[simp] theorem accept_pending (c : Channel α) (xs : List α) : (c.accept xs).pending = c.pending ++ xs := rfl
@[simp] theorem deliver_accepted (c : Channel α) (n : Nat) : (c.deliver n).accepted = c.accepted := rfl
@[simp] theorem deliver_delivered (c : Channel α) (n : Nat) :
    (c.deliver n).delivered = c.delivered ++ c.pending.take n := rfl
@[simp] theorem deliver_pending (c : Channel α) (n : Nat) : (c.deliver n).pending = c.pending.drop n := rfl

/-- What left is an initial segment of what entered. -/
theorem delivered_isPrefix (c : Channel α) : c.delivered <+: c.accepted :=
  ⟨c.pending, c.conserved⟩

end Channel

/-- The moves of a single channel. -/
inductive FifoMove (α : Type) where
  | accept (xs : List α)
  | deliver (n : Nat)

/-- A channel as a machine. -/
def fifo (α : Type) : Machine (Channel α) (FifoMove α) where
  step c
    | .accept xs => some (c.accept xs)
    | .deliver n => some (c.deliver n)

/-- Two channels in opposite directions. -/
structure Duplex (α : Type) where
  forward : Channel α
  backward : Channel α

/-- The moves of a duplex: accept at the back or deliver from the front of one side. -/
inductive DuplexMove (α : Type) where
  | acceptForward (xs : List α)
  | acceptBackward (xs : List α)
  | deliverForward (n : Nat)
  | deliverBackward (n : Nat)

/-- The duplex as a machine. -/
def duplex (α : Type) : Machine (Duplex α) (DuplexMove α) where
  step d
    | .acceptForward xs => some { d with forward := d.forward.accept xs }
    | .acceptBackward xs => some { d with backward := d.backward.accept xs }
    | .deliverForward n => some { d with forward := d.forward.deliver n }
    | .deliverBackward n => some { d with backward := d.backward.deliver n }

end Lib
