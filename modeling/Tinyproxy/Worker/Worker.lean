import Tinyproxy.Lib.LinkedQueue
import Tinyproxy.Lib.Machine
import Tinyproxy.Net.Sockaddr

/-!
# Workers

`worker.c` as a machine: enqueue calls, `worker_stop` calls, the worker's own loop and
the final `worker_join` and `worker_free`, each cut where it takes or releases
`pending_mu` and where it touches the notify socket, in any order the program text of
each of them allows.

A message is named by the call that brings it. What `worker_process_msg` does with one
is not of interest here, only that it happens: the lists `appended`, `processed`,
`cancelled` and `freed` record what is done to the messages. The notify socket is the
number of unread bytes in it: a send adds one or, only while some are unread, fails with
`EAGAIN`; it fails otherwise only once `worker_free` has closed the socket.
-/

namespace Tinyproxy

/-- Where a call of `worker_enqueue_stream_client` or `worker_enqueue_datagram_packet` is: not made,
refused but not cleaned up, appended but not notified, or returned (`none` is 0). -/
inductive EnqueuePhase where
  | fresh
  | refused
  | appended
  | returned (rc : Option Errno)
  deriving DecidableEq

/-- Where a call of `worker_stop` is. -/
inductive StopPhase where
  | fresh
  | set
  | returned
  deriving DecidableEq

/-- Where the worker's thread is: waiting in its event loop, or inside `worker_notify_cb`. -/
inductive LoopPhase where
  | notStarted
  | waiting
  | draining
  | drained
  | processing (msg : Option Nat)
  | exited
  deriving DecidableEq

/-- Where the call of `worker_free` is. -/
inductive FreePhase where
  | notCalled
  | stopSet
  | notified
  | joined
  | freeing (msg : Option Nat)
  | done
  deriving DecidableEq

/-- What a send on the notify socket does. -/
inductive SendOutcome where
  | added
  | eagain
  | closed
  deriving DecidableEq

/-- `struct worker`, everything that is under way on it, and what became of its messages. -/
structure Worker where
  started : Bool
  stopping : Bool := false
  pending : Lib.LinkedQueue Nat := .empty
  unread : Nat := 0
  enqueues : Nat → EnqueuePhase := fun _ => .fresh
  stops : Nat → StopPhase := fun _ => .fresh
  loop : LoopPhase
  free : FreePhase := .notCalled
  appended : List Nat := []
  processed : List Nat := []
  cancelled : List Nat := []
  freed : List Nat := []

/-- A worker after `worker_init` and, if `started`, `worker_start`. -/
def initWorker (started : Bool) : Worker where
  started := started
  loop := if started then .waiting else .notStarted

/-- The steps of everyone involved. -/
inductive WorkerEvent where
  | reject (k : Nat) (err : Errno)
  | enqueue (k : Nat)
  | cancel (k : Nat)
  | notify (k : Nat) (sent : SendOutcome)
  | stop (j : Nat)
  | stopNotify (j : Nat) (sent : SendOutcome)
  | wake
  | recv (n : Nat)
  | recvBlocked
  | take
  | process
  | check
  | join
  | free
  | freeNotify (sent : SendOutcome)
  | freeJoin
  | freeTake
  | freeMsg
  | freeDone
  deriving DecidableEq

/-- `notify_worker`. -/
def notifyWorker (w : Worker) : SendOutcome → Option Worker
  | .added => if w.free = .done then none else some { w with unread := w.unread + 1 }
  | .eagain => if w.free ≠ .done ∧ 0 < w.unread then some w else none
  | .closed => if w.free = .done then some w else none

/-- The critical section of `worker_enqueue_msg` for the message of call `k`. -/
def workerEnqueueMsg (w : Worker) (k : Nat) : Worker :=
  if w.stopping then { w with enqueues := Function.update w.enqueues k .refused } else
  { w with
    pending := w.pending.push k
    appended := w.appended ++ [k]
    enqueues := Function.update w.enqueues k .appended }

/-- The size of the buffer of `drain_notify_fd`. -/
def drainBufSize : Nat := 128

/-- One `recv` of `n` bytes in `drain_notify_fd`; a short one ends it. -/
def drainNotifyFd (w : Worker) (n : Nat) : Worker :=
  { w with unread := w.unread - n, loop := if n < drainBufSize then .drained else .draining }

/-- The calls of `worker_enqueue_stream_client` and `worker_enqueue_datagram_packet`. -/
def stepEnqueue (w : Worker) : WorkerEvent → Option Worker
  | .reject k err =>
    if w.enqueues k = .fresh ∧ (err = .einval ∨ err = .enomem) then
      some { w with enqueues := Function.update w.enqueues k (.returned (some err)) }
    else none
  | .enqueue k => if w.enqueues k = .fresh then some (workerEnqueueMsg w k) else none
  | .cancel k =>
    if w.enqueues k = .refused then
      some { w with
        cancelled := w.cancelled ++ [k]
        enqueues := Function.update w.enqueues k (.returned (some .ecanceled)) }
    else none
  | .notify k sent =>
    if w.enqueues k = .appended then
      (notifyWorker w sent).map fun w => { w with enqueues := Function.update w.enqueues k (.returned none) }
    else none
  | _ => none

/-- `worker_stop` and `worker_join`. -/
def stepControl (w : Worker) : WorkerEvent → Option Worker
  | .stop j =>
    if w.stops j = .fresh then some { w with stopping := true, stops := Function.update w.stops j .set } else none
  | .stopNotify j sent =>
    if w.stops j = .set then
      (if w.started then notifyWorker w sent else some w).map fun w =>
        { w with stops := Function.update w.stops j .returned }
    else none
  | .join => if w.started ∧ w.loop = .exited then some { w with started := false } else none
  | _ => none

/-- The worker's thread: `drain_notify_fd`, `worker_process_pending` and the check of `stopping`. -/
def stepLoop (w : Worker) : WorkerEvent → Option Worker
  | .wake => if w.loop = .waiting ∧ 0 < w.unread then some { w with loop := .draining } else none
  | .recv n =>
    if w.loop = .draining ∧ 0 < n ∧ n ≤ drainBufSize ∧ n ≤ w.unread then some (drainNotifyFd w n) else none
  | .recvBlocked => if w.loop = .draining ∧ w.unread = 0 then some { w with loop := .drained } else none
  | .take =>
    if w.loop = .drained then some { w with loop := .processing w.pending.head, pending := w.pending.detach } else none
  | .process =>
    match w.loop with
    -- `msg->next` is read before the message is handed on and freed
    | .processing (some m) =>
      some { w with loop := .processing (w.pending.next m), processed := w.processed ++ [m] }
    | _ => none
  | .check =>
    if w.loop = .processing none then some { w with loop := if w.stopping then .exited else .waiting } else none
  | _ => none

/-- `worker_free`: the stop, the join, and the messages nobody will process any more. -/
def stepFree (w : Worker) : WorkerEvent → Option Worker
  | .free => if w.free = .notCalled then some { w with stopping := true, free := .stopSet } else none
  | .freeNotify sent =>
    if w.free = .stopSet then
      (if w.started then notifyWorker w sent else some w).map fun w => { w with free := .notified }
    else none
  | .freeJoin =>
    if w.free = .notified ∧ (w.started = true → w.loop = .exited) then
      some { w with started := false, free := .joined }
    else none
  | .freeTake =>
    if w.free = .joined then some { w with free := .freeing w.pending.head, pending := w.pending.detach } else none
  | .freeMsg =>
    match w.free with
    | .freeing (some m) => some { w with free := .freeing (w.pending.next m), freed := w.freed ++ [m] }
    | _ => none
  | .freeDone => if w.free = .freeing none then some { w with free := .done } else none
  | _ => none

/-- The machine of one worker. -/
def workerMachine : Lib.Machine Worker WorkerEvent where
  step w e := (stepEnqueue w e).or ((stepControl w e).or ((stepLoop w e).or (stepFree w e)))

/-! ## What a step can do -/

/-- Everything a step can do to a worker. A send that happens leaves `n` unread bytes. -/
inductive WorkerMove (w : Worker) : WorkerEvent → Worker → Prop where
  /-- A call fails before it reaches the queue. -/
  | reject {k : Nat} {err : Errno} (new : w.enqueues k = .fresh) (early : err = .einval ∨ err = .enomem) :
      WorkerMove w (.reject k err) { w with enqueues := Function.update w.enqueues k (.returned (some err)) }
  /-- A call finds the worker stopping. -/
  | refuse {k : Nat} (new : w.enqueues k = .fresh) (stopping : w.stopping = true) :
      WorkerMove w (.enqueue k) { w with enqueues := Function.update w.enqueues k .refused }
  /-- A call appends its message. -/
  | append {k : Nat} (new : w.enqueues k = .fresh) (running : w.stopping = false) :
      WorkerMove w (.enqueue k)
        { w with
          pending := w.pending.push k
          appended := w.appended ++ [k]
          enqueues := Function.update w.enqueues k .appended }
  /-- A refused call releases its message. -/
  | cancel {k : Nat} (refused : w.enqueues k = .refused) :
      WorkerMove w (.cancel k)
        { w with
          cancelled := w.cancelled ++ [k]
          enqueues := Function.update w.enqueues k (.returned (some .ecanceled)) }
  | notify {k n : Nat} {sent : SendOutcome} (queued : w.enqueues k = .appended) (more : w.unread ≤ n)
      (signalled : w.free ≠ .done → 0 < n) :
      WorkerMove w (.notify k sent) { w with unread := n, enqueues := Function.update w.enqueues k (.returned none) }
  | stop {j : Nat} (new : w.stops j = .fresh) :
      WorkerMove w (.stop j) { w with stopping := true, stops := Function.update w.stops j .set }
  | stopNotify {j n : Nat} {sent : SendOutcome} (set : w.stops j = .set) (more : w.unread ≤ n)
      (signalled : w.started = true → w.free ≠ .done → 0 < n) :
      WorkerMove w (.stopNotify j sent) { w with unread := n, stops := Function.update w.stops j .returned }
  /-- `worker_join` by itself. -/
  | join (ended : w.loop = .exited) : WorkerMove w .join { w with started := false }
  | wake (waiting : w.loop = .waiting) (some : 0 < w.unread) : WorkerMove w .wake { w with loop := .draining }
  | recv {n : Nat} (draining : w.loop = .draining) : WorkerMove w (.recv n) (drainNotifyFd w n)
  | recvBlocked (draining : w.loop = .draining) : WorkerMove w .recvBlocked { w with loop := .drained }
  /-- The worker takes the whole queue. -/
  | take (drained : w.loop = .drained) :
      WorkerMove w .take { w with loop := .processing w.pending.head, pending := w.pending.detach }
  | process {m : Nat} (current : w.loop = .processing (some m)) :
      WorkerMove w .process { w with loop := .processing (w.pending.next m), processed := w.processed ++ [m] }
  /-- The worker goes on waiting, or leaves its loop. -/
  | check (finished : w.loop = .processing none) :
      WorkerMove w .check { w with loop := if w.stopping then .exited else .waiting }
  | free (new : w.free = .notCalled) : WorkerMove w .free { w with stopping := true, free := .stopSet }
  | freeNotify {n : Nat} {sent : SendOutcome} (set : w.free = .stopSet) (more : w.unread ≤ n)
      (signalled : w.started = true → 0 < n) :
      WorkerMove w (.freeNotify sent) { w with unread := n, free := .notified }
  | freeJoin (notified : w.free = .notified) (ended : w.started = true → w.loop = .exited) :
      WorkerMove w .freeJoin { w with started := false, free := .joined }
  /-- `worker_free` takes what is left in the queue. -/
  | freeTake (joined : w.free = .joined) :
      WorkerMove w .freeTake { w with free := .freeing w.pending.head, pending := w.pending.detach }
  | freeMsg {m : Nat} (current : w.free = .freeing (some m)) :
      WorkerMove w .freeMsg { w with free := .freeing (w.pending.next m), freed := w.freed ++ [m] }
  | freeDone (finished : w.free = .freeing none) : WorkerMove w .freeDone { w with free := .done }

/-- A send leaves at least as many bytes as before, and one at least while the socket is open. -/
theorem notifyWorker_cases {w w' : Worker} {sent : SendOutcome} (sends : notifyWorker w sent = some w') :
    ∃ n, w' = { w with unread := n } ∧ w.unread ≤ n ∧ (w.free ≠ .done → 0 < n) := by
  cases sent with
  | added =>
    simp only [notifyWorker] at sends
    split at sends
    · cases sends
    · cases sends
      exact ⟨w.unread + 1, rfl, Nat.le_succ _, fun _ => Nat.succ_pos _⟩
  | eagain =>
    simp only [notifyWorker] at sends
    split at sends
    · rename_i full
      cases sends
      exact ⟨w.unread, rfl, Nat.le_refl _, fun _ => full.2⟩
    · cases sends
  | closed =>
    simp only [notifyWorker] at sends
    split at sends
    · rename_i done
      cases sends
      exact ⟨w.unread, rfl, Nat.le_refl _, fun undone => absurd done undone⟩
    · cases sends

/-- A stop is announced to a started worker only. -/
theorem announce_cases {w w' : Worker} {sent : SendOutcome}
    (sends : (if w.started then notifyWorker w sent else some w) = some w') :
    ∃ n, w' = { w with unread := n } ∧ w.unread ≤ n ∧ (w.started = true → w.free ≠ .done → 0 < n) := by
  split at sends
  · obtain ⟨n, rfl, more, signalled⟩ := notifyWorker_cases sends
    exact ⟨n, rfl, more, fun _ => signalled⟩
  · rename_i unstarted
    cases sends
    exact ⟨w.unread, rfl, Nat.le_refl _, fun started => absurd started unstarted⟩

theorem enqueue_move {w w' : Worker} {e : WorkerEvent} (step : stepEnqueue w e = some w') : WorkerMove w e w' := by
  cases e with
  | reject k err =>
    obtain ⟨ready, rfl⟩ := Lib.guard_some step
    exact .reject ready.1 ready.2
  | enqueue k =>
    simp only [stepEnqueue, workerEnqueueMsg] at step
    split at step
    · rename_i new
      split at step
      · rename_i stopping
        cases step
        exact .refuse new stopping
      · rename_i running
        cases step
        exact .append new (eq_false_of_ne_true running)
    · cases step
  | cancel k =>
    obtain ⟨refused, rfl⟩ := Lib.guard_some step
    exact .cancel refused
  | notify k sent =>
    simp only [stepEnqueue] at step
    split at step
    · rename_i queued
      obtain ⟨v, sends, rfl⟩ := Option.map_eq_some_iff.1 step
      obtain ⟨n, rfl, more, signalled⟩ := notifyWorker_cases sends
      exact .notify queued more signalled
    · cases step
  | _ => cases step

theorem control_move {w w' : Worker} {e : WorkerEvent} (step : stepControl w e = some w') : WorkerMove w e w' := by
  cases e with
  | stop j =>
    obtain ⟨new, rfl⟩ := Lib.guard_some step
    exact .stop new
  | stopNotify j sent =>
    simp only [stepControl] at step
    split at step
    · rename_i set
      obtain ⟨v, sends, rfl⟩ := Option.map_eq_some_iff.1 step
      obtain ⟨n, rfl, more, signalled⟩ := announce_cases sends
      exact .stopNotify set more signalled
    · cases step
  | join =>
    obtain ⟨ready, rfl⟩ := Lib.guard_some step
    exact .join ready.2
  | _ => cases step

theorem loop_move {w w' : Worker} {e : WorkerEvent} (step : stepLoop w e = some w') : WorkerMove w e w' := by
  cases e with
  | wake =>
    obtain ⟨ready, rfl⟩ := Lib.guard_some step
    exact .wake ready.1 ready.2
  | recv n =>
    obtain ⟨ready, rfl⟩ := Lib.guard_some step
    exact .recv ready.1
  | recvBlocked =>
    obtain ⟨ready, rfl⟩ := Lib.guard_some step
    exact .recvBlocked ready.1
  | take =>
    obtain ⟨drained, rfl⟩ := Lib.guard_some step
    exact .take drained
  | process =>
    simp only [stepLoop] at step
    split at step
    · rename_i m current
      cases step
      exact .process current
    · cases step
  | check =>
    obtain ⟨finished, rfl⟩ := Lib.guard_some step
    exact .check finished
  | _ => cases step

theorem free_move {w w' : Worker} {e : WorkerEvent} (step : stepFree w e = some w') : WorkerMove w e w' := by
  cases e with
  | free =>
    obtain ⟨new, rfl⟩ := Lib.guard_some step
    exact .free new
  | freeNotify sent =>
    simp only [stepFree] at step
    split at step
    · rename_i set
      obtain ⟨v, sends, rfl⟩ := Option.map_eq_some_iff.1 step
      obtain ⟨n, rfl, more, signalled⟩ := announce_cases sends
      exact .freeNotify set more fun started => signalled started (by rw [set]; nofun)
    · cases step
  | freeJoin =>
    obtain ⟨ready, rfl⟩ := Lib.guard_some step
    exact .freeJoin ready.1 ready.2
  | freeTake =>
    obtain ⟨joined, rfl⟩ := Lib.guard_some step
    exact .freeTake joined
  | freeMsg =>
    simp only [stepFree] at step
    split at step
    · rename_i m current
      cases step
      exact .freeMsg current
    · cases step
  | freeDone =>
    obtain ⟨finished, rfl⟩ := Lib.guard_some step
    exact .freeDone finished
  | _ => cases step

theorem drainNotifyFd_loop (w : Worker) (n : Nat) :
    (drainNotifyFd w n).loop = .draining ∨ (drainNotifyFd w n).loop = .drained := by
  unfold drainNotifyFd
  split
  · exact .inr rfl
  · exact .inl rfl

/-- **What a step does to a worker.** -/
theorem worker_move {w w' : Worker} {e : WorkerEvent} (step : workerMachine.step w e = some w') : WorkerMove w e w' := by
  rcases Option.or_eq_some_iff.1 step with enqueued | ⟨-, step⟩
  · exact enqueue_move enqueued
  rcases Option.or_eq_some_iff.1 step with controlled | ⟨-, step⟩
  · exact control_move controlled
  rcases Option.or_eq_some_iff.1 step with looped | ⟨-, step⟩
  · exact loop_move looped
  · exact free_move step

/-! ## The phases fit together -/

/-- The worker's thread does not run: it never did, or it has left its loop. -/
def LoopPhase.Ended : LoopPhase → Prop
  | .notStarted => True
  | .exited => True
  | _ => False

/-- `worker_free` is past its `worker_join`. -/
def FreePhase.Joined : FreePhase → Prop
  | .joined => True
  | .freeing _ => True
  | .done => True
  | _ => False

/-- `worker_free` has taken the queue. -/
def FreePhase.Taken : FreePhase → Prop
  | .freeing _ => True
  | .done => True
  | _ => False

/-- How far `worker_free` is, and what that says of the worker. -/
structure Staged (w : Worker) : Prop where
  ended : w.started = false → w.loop.Ended
  stopping : w.free ≠ .notCalled → w.stopping = true
  joined : w.free.Joined → w.started = false
  taken : w.free.Taken → w.pending.head = none
  freed : w.freed ≠ [] → w.free.Joined

theorem FreePhase.Taken.joined {f : FreePhase} (taken : f.Taken) : f.Joined := by
  cases f with
  | freeing m => trivial
  | done => trivial
  | _ => cases taken

theorem staged_initWorker (started : Bool) : Staged (initWorker started) where
  ended := by
    rintro (rfl : started = false)
    trivial
  stopping called := absurd rfl called
  joined := nofun
  taken := nofun
  freed some := absurd rfl some

namespace Staged

variable {w w' : Worker}

/-- The thread is in its loop, so nobody has joined it. -/
theorem unjoined (staged : Staged w) {l : LoopPhase} (phase : w.loop = l) (running : ¬ l.Ended) : ¬ w.free.Joined :=
  fun joined => running (phase ▸ staged.ended (staged.joined joined))

/-- A step of the thread inside its loop. -/
theorem runs (staged : Staged w) {l l' : LoopPhase} {q : Lib.LinkedQueue Nat} {n : Nat} {ms : List Nat}
    (phase : w.loop = l) (running : ¬ l.Ended) :
    Staged { w with loop := l', pending := q, unread := n, processed := ms } where
  ended idle := absurd (phase ▸ staged.ended idle) running
  stopping := staged.stopping
  joined := staged.joined
  taken taken := absurd taken.joined (staged.unjoined phase running)
  freed := staged.freed

/-- A step of `worker_free` past the join that leaves the queue empty. -/
theorem frees (staged : Staged w) {f : FreePhase} {q : Lib.LinkedQueue Nat} {ms : List Nat} (past : w.free.Joined)
    (still : f.Joined) (empty : q.head = none) : Staged { w with free := f, pending := q, freed := ms } where
  ended := staged.ended
  stopping _ := staged.stopping fun uncalled => by rw [uncalled] at past; exact past
  joined _ := staged.joined past
  taken _ := empty
  freed _ := still

theorem step (staged : Staged w) {e : WorkerEvent} (step : workerMachine.step w e = some w') : Staged w' := by
  cases worker_move step with
  | reject | refuse | cancel | notify | stopNotify => exact { staged with }
  | append new running =>
    have uncalled : w.free = .notCalled := by
      by_contra called
      rw [staged.stopping called] at running
      cases running
    refine { staged with taken := ?_ }
    intro taken
    dsimp only at taken
    rw [uncalled] at taken
    cases taken
  | stop => exact { staged with stopping := fun _ => rfl }
  | join ended =>
    refine { staged with ended := ?_, joined := fun _ => rfl }
    intro _
    show w.loop.Ended
    rw [ended]
    trivial
  | wake waiting => exact staged.runs waiting id
  | recv draining => exact staged.runs draining id
  | recvBlocked draining => exact staged.runs draining id
  | take drained => exact staged.runs drained id
  | process current => exact staged.runs current id
  | check finished => exact staged.runs finished id
  | free new =>
    have started : w.freed = [] := by
      by_contra some
      have joined := staged.freed some
      rw [new] at joined
      exact joined
    exact { staged with
      stopping := fun _ => rfl
      joined := nofun
      taken := nofun
      freed := fun some => absurd started some }
  | freeNotify set =>
    have called : w.free ≠ .notCalled := by rw [set]; nofun
    refine { staged with stopping := fun _ => staged.stopping called, joined := nofun, taken := nofun, freed := ?_ }
    intro some
    have joined := staged.freed some
    rw [set] at joined
    exact joined
  | freeJoin notified ended =>
    have called : w.free ≠ .notCalled := by rw [notified]; nofun
    refine ⟨?_, fun _ => staged.stopping called, fun _ => rfl, nofun, fun _ => trivial⟩
    intro _
    show w.loop.Ended
    cases started : w.started with
    | false => exact staged.ended started
    | true =>
      rw [ended started]
      trivial
  | freeTake joined => exact staged.frees (by rw [joined]; trivial) trivial rfl
  | freeMsg current =>
    have taken : w.free.Taken := by rw [current]; trivial
    exact staged.frees taken.joined trivial (staged.taken taken)
  | freeDone finished =>
    have taken : w.free.Taken := by rw [finished]; trivial
    exact staged.frees taken.joined trivial (staged.taken taken)

end Staged

end Tinyproxy
