import Tinyproxy.Lib.Channel
import Tinyproxy.Worker.Worker

/-!
# Exactly once, in order

A worker's messages as a first-in first-out channel: what is accepted is what calls
append, what is delivered is what the worker processes and then what `worker_free`
frees, and what is pending is what is left of the list taken last and the queue. The
queue's links are shared by the calls that append and the thread that walks the list it
has taken, so the channel's pending list is split at where each of them is.
-/

namespace Tinyproxy

/-- The message `worker_process_pending` is at. -/
def LoopPhase.current : LoopPhase → Option Nat
  | .processing msg => msg
  | _ => none

/-- The message the loop of `worker_free` is at. -/
def FreePhase.current : FreePhase → Option Nat
  | .freeing msg => msg
  | _ => none

/-- The messages passed to `free_worker_msg`, by a refused call or by `worker_free`. -/
def Worker.released (w : Worker) : List Nat := w.cancelled ++ w.freed

/-- The queue, and what became of the messages that passed through it. -/
def Worker.ledger (w : Worker) : List Nat × List Nat × List Nat × Lib.LinkedQueue Nat :=
  (w.appended, w.processed, w.freed, w.pending)

theorem LoopPhase.Ended.current_eq {l : LoopPhase} (ended : l.Ended) : l.current = none := by
  cases l with
  | processing => cases ended
  | _ => rfl

/-- A `worker_free` that has not joined the thread is at no message. -/
theorem FreePhase.current_of_unjoined {f : FreePhase} (unjoined : ¬ f.Joined) : f.current = none := by
  cases f with
  | freeing => exact absurd trivial unjoined
  | _ => rfl

/-! ## What the calls returned -/

/-- The message is the worker's: it was appended, whether or not the call has returned. -/
def EnqueuePhase.Queued (p : EnqueuePhase) : Prop := p = .appended ∨ p = .returned none

/-- How often a call has released its own message. -/
def EnqueuePhase.releases : EnqueuePhase → Nat
  | .returned (some .ecanceled) => 1
  | _ => 0

/-- The lists agree with what the calls have done. -/
structure Recorded (w : Worker) : Prop where
  distinct : w.appended.Nodup
  appended : ∀ k, k ∈ w.appended ↔ (w.enqueues k).Queued
  cancelled : ∀ k, w.cancelled.count k = (w.enqueues k).releases

theorem recorded_initWorker (started : Bool) : Recorded (initWorker started) where
  distinct := List.nodup_nil
  appended := by simp [initWorker, EnqueuePhase.Queued]
  cancelled := fun _ => rfl

namespace Recorded

variable {w w' : Worker}

/-- A call goes on without its message changing hands. -/
theorem proceeds (recorded : Recorded w) {k n : Nat} {p : EnqueuePhase} (queued : p.Queued ↔ (w.enqueues k).Queued)
    (releases : p.releases = (w.enqueues k).releases) :
    Recorded { w with unread := n, enqueues := Function.update w.enqueues k p } where
  distinct := recorded.distinct
  appended := by
    intro i
    dsimp only
    rw [recorded.appended]
    by_cases own : i = k
    · subst own
      rw [Function.update_self, queued]
    · rw [Function.update_of_ne own]
  cancelled := by
    intro i
    dsimp only
    rw [recorded.cancelled]
    by_cases own : i = k
    · subst own
      rw [Function.update_self, releases]
    · rw [Function.update_of_ne own]

theorem appends (recorded : Recorded w) {k : Nat} {q : Lib.LinkedQueue Nat} (new : w.enqueues k = .fresh) :
    Recorded { w with
      pending := q
      appended := w.appended ++ [k]
      enqueues := Function.update w.enqueues k .appended } where
  distinct := by
    have unknown : k ∉ w.appended := by
      rw [recorded.appended, new]
      rintro (h | h) <;> cases h
    exact List.nodup_append.2 ⟨recorded.distinct, List.nodup_singleton k, by
      rintro i mem j own rfl
      rw [List.mem_singleton] at own
      exact unknown (own ▸ mem)⟩
  appended := by
    intro i
    dsimp only
    rw [List.mem_append, List.mem_singleton, recorded.appended]
    by_cases own : i = k
    · subst own
      rw [Function.update_self]
      exact ⟨fun _ => .inl rfl, fun _ => .inr rfl⟩
    · rw [Function.update_of_ne own]
      exact or_iff_left own
  cancelled := by
    intro i
    dsimp only
    rw [recorded.cancelled]
    by_cases own : i = k
    · subst own
      rw [Function.update_self, new]
      rfl
    · rw [Function.update_of_ne own]

theorem cancels (recorded : Recorded w) {k : Nat} (refused : w.enqueues k = .refused) :
    Recorded { w with
      cancelled := w.cancelled ++ [k]
      enqueues := Function.update w.enqueues k (.returned (some .ecanceled)) } where
  distinct := recorded.distinct
  appended := by
    intro i
    dsimp only
    rw [recorded.appended]
    by_cases own : i = k
    · subst own
      rw [Function.update_self, refused]
      simp [EnqueuePhase.Queued]
    · rw [Function.update_of_ne own]
  cancelled := by
    intro i
    dsimp only
    rw [List.count_append, recorded.cancelled]
    by_cases own : i = k
    · subst own
      rw [Function.update_self, refused, List.count_singleton_self]
      rfl
    · rw [Function.update_of_ne own, List.count_singleton, if_neg (by simpa using Ne.symm own), Nat.add_zero]

theorem step (recorded : Recorded w) {e : WorkerEvent} (step : workerMachine.step w e = some w') : Recorded w' := by
  cases worker_move step with
  | reject new early =>
    apply recorded.proceeds
    · rw [new]
      simp [EnqueuePhase.Queued]
    · rw [new]
      rcases early with rfl | rfl <;> rfl
  | refuse new =>
    apply recorded.proceeds
    · rw [new]
      simp [EnqueuePhase.Queued]
    · rw [new]
      rfl
  | append new => exact recorded.appends new
  | cancel refused => exact recorded.cancels refused
  | notify queued =>
    apply recorded.proceeds
    · rw [queued]
      simp [EnqueuePhase.Queued]
    · rw [queued]
      rfl
  | _ => exact { recorded with }

end Recorded

/-! ## The worker as a channel -/

/-- The messages of a worker, as the channel `c`: what is pending there is the rest of the list the thread
has `taken`, what is `left` for `worker_free`, and the `queue`. -/
structure Carries (w : Worker) (c : Lib.Channel Nat) : Prop where
  accepted : c.accepted = w.appended
  delivered : c.delivered = w.processed ++ w.freed
  pending : ∃ taken left queue, c.pending = taken ++ (left ++ queue) ∧
    Lib.Chain w.pending.next w.loop.current taken ∧ Lib.Chain w.pending.next w.free.current left ∧
    w.pending.Holds queue

/-- The simulation relation. -/
structure Refines (w : Worker) (c : Lib.Channel Nat) : Prop where
  staged : Staged w
  recorded : Recorded w
  carries : Carries w c

theorem refines_initWorker (started : Bool) : Refines (initWorker started) (.start []) where
  staged := staged_initWorker started
  recorded := recorded_initWorker started
  carries := by
    refine ⟨rfl, rfl, [], [], [], rfl, ?_, rfl, Lib.LinkedQueue.holds_empty⟩
    cases started <;> rfl

namespace Refines

variable {w w' : Worker} {c : Lib.Channel Nat}

/-- Nothing happens to the messages. -/
theorem idles (refines : Refines w c) (ledger : w'.ledger = w.ledger) (loop : w'.loop.current = w.loop.current)
    (free : w'.free.current = w.free.current) : ∃ ms c', (Lib.fifo Nat).run c ms = some c' ∧ Carries w' c' := by
  simp only [Worker.ledger, Prod.mk.injEq] at ledger
  obtain ⟨appended, processed, freed, pending⟩ := ledger
  refine ⟨[], c, rfl, ?_, ?_, ?_⟩
  · rw [appended, refines.carries.accepted]
  · rw [processed, freed, refines.carries.delivered]
  · rw [pending, loop, free]
    exact refines.carries.pending

/-- A message enters at the back. -/
theorem appends (refines : Refines w c) {k : Nat} {p : EnqueuePhase} (new : w.enqueues k = .fresh) :
    Carries { w with
      pending := w.pending.push k
      appended := w.appended ++ [k]
      enqueues := Function.update w.enqueues k p } (c.accept [k]) where
  accepted := by rw [Lib.Channel.accept_accepted, refines.carries.accepted]
  delivered := refines.carries.delivered
  pending := by
    obtain ⟨taken, left, queue, split, walked, freeing, holds⟩ := refines.carries.pending
    have unknown : k ∉ c.accepted := by
      rw [refines.carries.accepted, refines.recorded.appended, new]
      rintro (h | h) <;> cases h
    have distinct : c.accepted.Nodup := refines.carries.accepted ▸ refines.recorded.distinct
    rw [← c.conserved, split] at unknown distinct
    simp only [List.mem_append, not_or] at unknown
    obtain ⟨-, fresh, early, late⟩ := unknown
    obtain ⟨-, distinct, -⟩ := List.nodup_append.1 distinct
    obtain ⟨-, distinct, apart⟩ := List.nodup_append.1 distinct
    obtain ⟨-, distinct, others⟩ := List.nodup_append.1 distinct
    refine ⟨taken, left, queue ++ [k], by simp [split], ?_, ?_, holds.push distinct late⟩
    · exact holds.push_frame walked (fun y mem queued => apart y mem y (List.mem_append_right _ queued) rfl) fresh
    · exact holds.push_frame freeing (fun y mem queued => others y mem y queued rfl) early

/-- The thread takes the queue. -/
theorem takes (refines : Refines w c) (drained : w.loop = .drained) :
    Carries { w with loop := .processing w.pending.head, pending := w.pending.detach } c where
  accepted := refines.carries.accepted
  delivered := refines.carries.delivered
  pending := by
    obtain ⟨taken, left, queue, split, walked, freeing, holds⟩ := refines.carries.pending
    have unjoined : ¬ w.free.Joined := refines.staged.unjoined drained id
    rw [drained] at walked
    rw [FreePhase.current_of_unjoined unjoined] at freeing
    cases walked.eq_nil
    cases freeing.eq_nil
    refine ⟨queue, [], [], by simpa using split, holds.chain, ?_, w.pending.detach_holds⟩
    exact FreePhase.current_of_unjoined unjoined

/-- The thread processes the first message. -/
theorem processes (refines : Refines w c) {m : Nat} (current : w.loop = .processing (some m)) :
    Carries { w with loop := .processing (w.pending.next m), processed := w.processed ++ [m] } (c.deliver 1) := by
  obtain ⟨taken, left, queue, split, walked, freeing, holds⟩ := refines.carries.pending
  have unjoined : ¬ w.free.Joined := refines.staged.unjoined current id
  have none : w.freed = [] := by
    by_contra some
    exact unjoined (refines.staged.freed some)
  rw [current] at walked
  obtain ⟨taken, rfl, rest⟩ := walked.uncons
  constructor
  · exact refines.carries.accepted
  · rw [Lib.Channel.deliver_delivered, refines.carries.delivered, split, none]
    simp
  · exact ⟨taken, left, queue, by rw [Lib.Channel.deliver_pending, split]; rfl, rest, freeing, holds⟩

/-- `worker_free` takes the queue. -/
theorem takesLeft (refines : Refines w c) (joined : w.free = .joined) :
    Carries { w with free := .freeing w.pending.head, pending := w.pending.detach } c where
  accepted := refines.carries.accepted
  delivered := refines.carries.delivered
  pending := by
    obtain ⟨taken, left, queue, split, walked, freeing, holds⟩ := refines.carries.pending
    rw [joined] at freeing
    cases freeing.eq_nil
    exact ⟨taken, queue, [], by simpa using split, walked, holds.chain, w.pending.detach_holds⟩

/-- `worker_free` frees the first message. -/
theorem frees (refines : Refines w c) {m : Nat} (current : w.free = .freeing (some m)) :
    Carries { w with free := .freeing (w.pending.next m), freed := w.freed ++ [m] } (c.deliver 1) := by
  obtain ⟨taken, left, queue, split, walked, freeing, holds⟩ := refines.carries.pending
  have joined : w.free.Joined := by rw [current]; trivial
  have ended : w.loop.Ended := refines.staged.ended (refines.staged.joined joined)
  rw [ended.current_eq] at walked
  cases walked.eq_nil
  rw [current] at freeing
  obtain ⟨left, rfl, rest⟩ := freeing.uncons
  constructor
  · exact refines.carries.accepted
  · rw [Lib.Channel.deliver_delivered, refines.carries.delivered, split]
    simp
  · exact ⟨[], left, queue, by rw [Lib.Channel.deliver_pending, split]; rfl, ended.current_eq, rest, holds⟩

/-- The channel's side of a step. -/
theorem carried (refines : Refines w c) {e : WorkerEvent} (step : workerMachine.step w e = some w') :
    ∃ ms c', (Lib.fifo Nat).run c ms = some c' ∧ Carries w' c' := by
  cases worker_move step with
  | append new => exact ⟨[.accept [_]], _, rfl, refines.appends new⟩
  | take drained => exact ⟨[], c, rfl, refines.takes drained⟩
  | process current => exact ⟨[.deliver 1], _, rfl, refines.processes current⟩
  | freeTake joined => exact ⟨[], c, rfl, refines.takesLeft joined⟩
  | freeMsg current => exact ⟨[.deliver 1], _, rfl, refines.frees current⟩
  | wake waiting => exact refines.idles rfl (by rw [waiting]; rfl) rfl
  | recv draining =>
    refine refines.idles rfl ?_ rfl
    rw [draining]
    rcases drainNotifyFd_loop w _ with loop | loop
    · rw [loop]
    · rw [loop]
      rfl
  | recvBlocked draining => exact refines.idles rfl (by rw [draining]; rfl) rfl
  | check finished =>
    refine refines.idles rfl ?_ rfl
    rw [finished]
    dsimp only
    split <;> rfl
  | free new => exact refines.idles rfl rfl (by rw [new]; rfl)
  | freeNotify set => exact refines.idles rfl rfl (by rw [set]; rfl)
  | freeJoin notified => exact refines.idles rfl rfl (by rw [notified]; rfl)
  | freeDone finished => exact refines.idles rfl rfl (by rw [finished]; rfl)
  | _ => exact refines.idles rfl rfl rfl

/-- Where a message is, counted. -/
theorem counted (refines : Refines w c) (k : Nat) :
    w.processed.count k + w.freed.count k + c.pending.count k = w.appended.count k := by
  rw [← List.count_append, ← refines.carries.delivered, ← List.count_append, c.conserved, refines.carries.accepted]

/-- Once `worker_free` has finished, nothing is pending. -/
theorem drained (refines : Refines w c) (done : w.free = .done) : c.pending = [] := by
  obtain ⟨taken, left, queue, split, walked, freeing, holds⟩ := refines.carries.pending
  have gone : w.free.Taken := by rw [done]; trivial
  have ended : w.loop.Ended := refines.staged.ended (refines.staged.joined gone.joined)
  rw [ended.current_eq] at walked
  rw [done] at freeing
  have empty := holds.chain
  rw [refines.staged.taken gone] at empty
  rw [split, walked.eq_nil, freeing.eq_nil, empty.eq_nil]
  rfl

end Refines

/-- **A worker simulates a first-in first-out channel.** -/
theorem worker_simulates_fifo : workerMachine.Simulates (Lib.fifo Nat) Refines := by
  intro w e w' c refines step
  obtain ⟨ms, c', ran, carries⟩ := refines.carried step
  exact ⟨ms, c', ran, refines.staged.step step, refines.recorded.step step, carries⟩

/-! ## Exactly once -/

/-- What is promised of a worker's messages. -/
structure ExactlyOnce (w : Worker) : Prop where
  /-- They are processed in the order in which they were appended. -/
  ordered : w.processed <+: w.appended
  /-- After `worker_free`, a message whose call returned 0 was processed once or released once, not both. -/
  settled : w.free = .done → ∀ k, w.enqueues k = .returned none →
    (w.processed.count k = 1 ∧ w.released.count k = 0) ∨ (w.processed.count k = 0 ∧ w.released.count k = 1)
  /-- A message refused with `ECANCELED` was released once and is never processed. -/
  refused : ∀ k, w.enqueues k = .returned (some .ecanceled) → w.released.count k = 1 ∧ w.processed.count k = 0
  /-- The tail pointer is the last node of the queue, and null exactly when the head is. -/
  tail : w.pending.TailIsLast

namespace Refines

variable {w : Worker} {c : Lib.Channel Nat}

theorem ordered (refines : Refines w c) : w.processed <+: w.appended := by
  have handed : w.processed <+: c.delivered := refines.carries.delivered ▸ List.prefix_append _ _
  exact refines.carries.accepted ▸ handed.trans c.delivered_isPrefix

theorem settled (refines : Refines w c) (done : w.free = .done) {k : Nat} (returned : w.enqueues k = .returned none) :
    (w.processed.count k = 1 ∧ w.released.count k = 0) ∨ (w.processed.count k = 0 ∧ w.released.count k = 1) := by
  have mem : k ∈ w.appended := (refines.recorded.appended k).2 (.inr returned)
  have once : w.appended.count k = 1 := List.count_eq_one_of_mem refines.recorded.distinct mem
  have kept : w.cancelled.count k = 0 := by
    rw [refines.recorded.cancelled, returned]
    rfl
  have counted := refines.counted k
  rw [refines.drained done, List.count_nil] at counted
  rw [Worker.released, List.count_append]
  omega

theorem refused (refines : Refines w c) {k : Nat} (returned : w.enqueues k = .returned (some .ecanceled)) :
    w.released.count k = 1 ∧ w.processed.count k = 0 := by
  have unknown : k ∉ w.appended := by
    rw [refines.recorded.appended, returned]
    rintro (h | h) <;> cases h
  have released : w.cancelled.count k = 1 := by
    rw [refines.recorded.cancelled, returned]
    rfl
  have counted := refines.counted k
  rw [List.count_eq_zero_of_not_mem unknown] at counted
  rw [Worker.released, List.count_append]
  omega

end Refines

/-- **Every message exactly once, in order**, in every interleaving of any number of calls. -/
theorem worker_queue_exactly_once {started : Bool} {w : Worker} {es : List WorkerEvent}
    (ran : workerMachine.run (initWorker started) es = some w) : ExactlyOnce w := by
  obtain ⟨ms, c, -, refines⟩ := Lib.Machine.run_simulates worker_simulates_fifo (refines_initWorker started) ran
  obtain ⟨_, _, _, _, _, _, holds⟩ := refines.carries.pending
  constructor
  · exact refines.ordered
  · exact fun done k returned => refines.settled done returned
  · exact fun k returned => refines.refused returned
  · exact holds.tailIsLast

/-- A message is processed, one is appended while the worker is busy and stays behind, one is refused by a
stopping worker, and the worker is freed. -/
def stoppedRun : List WorkerEvent :=
  [.enqueue 0, .notify 0 .added, .wake, .recv 1, .take, .enqueue 1, .process, .stop 0, .enqueue 2, .check,
    .notify 1 .added, .cancel 2, .stopNotify 0 .eagain, .free, .freeNotify .eagain, .freeJoin, .freeTake, .freeMsg,
    .freeDone]

theorem worker_queue_exactly_once_stopped :
    ∃ w, workerMachine.run (initWorker true) stoppedRun = some w ∧ ExactlyOnce w ∧ w.free = .done ∧
      w.enqueues 0 = .returned none ∧ w.processed = [0] ∧ w.enqueues 1 = .returned none ∧
      w.enqueues 2 = .returned (some .ecanceled) ∧ w.released = [2, 1] :=
  ⟨_, rfl, @worker_queue_exactly_once true _ stoppedRun rfl, rfl, rfl, rfl, rfl, rfl, rfl⟩

end Tinyproxy
