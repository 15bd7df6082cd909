import Tinyproxy.Worker.Worker

/-!
# No lost wakeup

A byte in the notify socket stands for any number of appended messages and for a stop.
A call appends before it sends, and the worker drains before it takes: whoever is
between the two steps is the one that still has to see, or to announce, what is new.
`Signalled` says so for the queue and for `stopping`, in every phase of the worker's loop.
-/

namespace Tinyproxy

/-- The worker has been woken and has not looked at the queue since. -/
def LoopPhase.BeforeTake : LoopPhase → Prop
  | .draining => True
  | .drained => True
  | _ => False

/-- The worker has been woken and has not looked at `stopping` since. -/
def LoopPhase.BeforeCheck : LoopPhase → Prop
  | .draining => True
  | .drained => True
  | .processing _ => True
  | _ => False

/-- Some call has appended its message and not notified yet. -/
def Worker.Announcing (w : Worker) : Prop := ∃ k, w.enqueues k = .appended

/-- Some `worker_stop`, that of `worker_free` included, has set `stopping` and not notified yet. -/
def Worker.StopAnnouncing (w : Worker) : Prop := (∃ j, w.stops j = .set) ∨ w.free = .stopSet

/-- Everything the worker has to look at is announced, about to be announced or about to be looked at. -/
structure Signalled (w : Worker) : Prop where
  queue : w.pending.head ≠ none → 0 < w.unread ∨ w.Announcing ∨ w.loop.BeforeTake ∨ w.loop.Ended
  stop : w.stopping = true → 0 < w.unread ∨ w.StopAnnouncing ∨ w.loop.BeforeCheck ∨ w.loop.Ended

theorem signalled_initWorker (started : Bool) : Signalled (initWorker started) where
  queue some := absurd rfl some
  stop := nofun

namespace Signalled

variable {w w' : Worker}

/-- A call that is not announcing moves on; those that are, still are. -/
theorem proceeds (signalled : Signalled w) {k : Nat} {p q : EnqueuePhase} (some : w.pending.head ≠ none)
    (phase : w.enqueues k = p) (own : p ≠ .appended) :
    0 < w.unread ∨ (∃ i, Function.update w.enqueues k q i = .appended) ∨ w.loop.BeforeTake ∨ w.loop.Ended := by
  rcases signalled.queue some with unread | ⟨i, appended⟩ | looking
  · exact .inl unread
  · have other : i ≠ k := by
      rintro rfl
      exact own (phase.symm.trans appended)
    exact .inr (.inl ⟨i, by rw [Function.update_of_ne other, appended]⟩)
  · exact .inr (.inr looking)

/-- The worker is between its take and its next wakeup: an announcement has been sent or is to come. -/
theorem unlooked (signalled : Signalled w) {l : LoopPhase} (some : w.pending.head ≠ none) (phase : w.loop = l)
    (taken : ¬ l.BeforeTake) (running : ¬ l.Ended) : 0 < w.unread ∨ w.Announcing := by
  rcases signalled.queue some with unread | announcing | before | ended
  · exact .inl unread
  · exact .inr announcing
  · exact absurd (phase ▸ before) taken
  · exact absurd (phase ▸ ended) running

/-- `worker_free` moves on to `g` after its own announcement. -/
theorem freed (signalled : Signalled w) {f g : FreePhase} (stopping : w.stopping = true) (phase : w.free = f)
    (announced : f ≠ .stopSet) :
    0 < w.unread ∨ ((∃ j, w.stops j = .set) ∨ g = .stopSet) ∨ w.loop.BeforeCheck ∨ w.loop.Ended := by
  rcases signalled.stop stopping with unread | (calls | own) | looking
  · exact .inl unread
  · exact .inr (.inl (.inl calls))
  · exact absurd (phase.symm.trans own) announced
  · exact .inr (.inr looking)

theorem queue_step (signalled : Signalled w) (staged : Staged w) {e : WorkerEvent}
    (step : workerMachine.step w e = some w') (some : w'.pending.head ≠ none) :
    0 < w'.unread ∨ w'.Announcing ∨ w'.loop.BeforeTake ∨ w'.loop.Ended := by
  cases worker_move step with
  | reject new => exact signalled.proceeds some new nofun
  | refuse new => exact signalled.proceeds some new nofun
  | cancel refused => exact signalled.proceeds some refused nofun
  | append => exact .inr (.inl ⟨_, Function.update_self _ _ _⟩)
  | notify queued more sent =>
    -- after `worker_free` the socket is closed, but then the queue is empty for good
    refine .inl (sent fun done => some (staged.taken ?_))
    rw [done]
    trivial
  | stopNotify set more => exact (signalled.queue some).imp_left (Nat.lt_of_lt_of_le · more)
  | freeNotify set more => exact (signalled.queue some).imp_left (Nat.lt_of_lt_of_le · more)
  | wake => exact .inr (.inr (.inl trivial))
  | recv =>
    refine .inr (.inr (.inl ?_))
    rcases drainNotifyFd_loop w _ with loop | loop <;> rw [loop] <;> trivial
  | recvBlocked => exact .inr (.inr (.inl trivial))
  | take => exact absurd rfl some
  | process current =>
    have sent := signalled.unlooked some current id id
    exact sent.imp_right .inl
  | check finished =>
    have sent := signalled.unlooked some finished id id
    exact sent.imp_right .inl
  | freeTake => exact absurd rfl some
  | _ => exact signalled.queue some

theorem stop_step (signalled : Signalled w) (staged : Staged w) {e : WorkerEvent}
    (step : workerMachine.step w e = some w') (stopping : w'.stopping = true) :
    0 < w'.unread ∨ w'.StopAnnouncing ∨ w'.loop.BeforeCheck ∨ w'.loop.Ended := by
  cases worker_move step with
  | notify queued more => exact (signalled.stop stopping).imp_left (Nat.lt_of_lt_of_le · more)
  | stop => exact .inr (.inl (.inl ⟨_, Function.update_self _ _ _⟩))
  | stopNotify set more sent =>
    cases started : w.started with
    | false => exact .inr (.inr (.inr (staged.ended started)))
    | true =>
      refine .inl (sent started fun done => ?_)
      have joined := staged.joined (by rw [done]; trivial)
      rw [started] at joined
      cases joined
  | free => exact .inr (.inl (.inr rfl))
  | freeNotify set more sent =>
    cases started : w.started with
    | false => exact .inr (.inr (.inr (staged.ended started)))
    | true => exact .inl (sent started)
  | freeJoin notified => exact signalled.freed stopping notified nofun
  | freeTake joined => exact signalled.freed stopping joined nofun
  | freeMsg current => exact signalled.freed stopping current nofun
  | freeDone finished => exact signalled.freed stopping finished nofun
  | wake => exact .inr (.inr (.inl trivial))
  | recv =>
    refine .inr (.inr (.inl ?_))
    rcases drainNotifyFd_loop w _ with loop | loop <;> rw [loop] <;> trivial
  | recvBlocked => exact .inr (.inr (.inl trivial))
  | take => exact .inr (.inr (.inl trivial))
  | process => exact .inr (.inr (.inl trivial))
  | check finished =>
    -- the worker reads `stopping` last: it either leaves, or goes to wait before any stop
    refine .inr (.inr (.inr ?_))
    dsimp only at stopping ⊢
    rw [if_pos stopping]
    trivial
  | _ => exact signalled.stop stopping

theorem step (signalled : Signalled w) (staged : Staged w) {e : WorkerEvent}
    (step : workerMachine.step w e = some w') : Signalled w' :=
  ⟨signalled.queue_step staged step, signalled.stop_step staged step⟩

end Signalled

/-- Everything new is announced or announceable in every reachable state. -/
theorem run_signalled {started : Bool} {w : Worker} {es : List WorkerEvent}
    (ran : workerMachine.run (initWorker started) es = some w) : Signalled w := by
  have both : Staged w ∧ Signalled w := by
    apply Lib.Machine.run_invariant (I := fun w => Staged w ∧ Signalled w) ?_ ?_ ran
    · rintro w e w' ⟨staged, signalled⟩ step
      exact ⟨staged.step step, signalled.step staged step⟩
    · exact ⟨staged_initWorker started, signalled_initWorker started⟩
  exact both.2

/-- **No lost wakeup.** A started worker that waits in its event loop with messages queued, or with
`stopping` set, has a byte to wake up for or somebody about to send one. -/
theorem no_lost_wakeup {w : Worker} {es : List WorkerEvent} (ran : workerMachine.run (initWorker true) es = some w)
    (waiting : w.loop = .waiting) :
    (w.pending.head ≠ none → 0 < w.unread ∨ w.Announcing) ∧
      (w.stopping = true → 0 < w.unread ∨ w.StopAnnouncing) := by
  have signalled := run_signalled ran
  constructor
  · intro some
    exact signalled.unlooked some waiting id id
  · intro stopping
    rcases signalled.stop stopping with unread | announcing | before | ended
    · exact .inl unread
    · exact .inr announcing
    · rw [waiting] at before
      cases before
    · rw [waiting] at ended
      cases ended

/-- A message comes in while the worker is at another, and a stop after it is back to waiting. -/
def lateRun : List WorkerEvent :=
  [.enqueue 0, .notify 0 .added, .wake, .recv 1, .take, .enqueue 1, .process, .check, .stop 0]

theorem no_lost_wakeup_late :
    ∃ w, workerMachine.run (initWorker true) lateRun = some w ∧ w.loop = .waiting ∧ w.pending.head = some 1 ∧
      w.stopping = true ∧ w.unread = 0 ∧ w.Announcing ∧ w.StopAnnouncing := by
  refine ⟨_, rfl, rfl, rfl, rfl, rfl, ?_⟩
  have signals := @no_lost_wakeup _ lateRun rfl rfl
  exact ⟨(signals.1 nofun).resolve_left (Nat.lt_irrefl 0), (signals.2 rfl).resolve_left (Nat.lt_irrefl 0)⟩

end Tinyproxy
