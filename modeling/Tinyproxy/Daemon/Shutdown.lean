import Mathlib.Algebra.Order.BigOperators.Group.Finset
import Tinyproxy.Daemon.Teardown
import Tinyproxy.Lib.Termination

/-!
# The process always exits

Once `main` is past its event loop, or has given up starting the workers, everything
that is left to do is finite and nobody waits for ever: a thread that sleeps has a byte
to wake up for, as `worker_stop` sends one after it has set `stopping`. `Daemon.work`
bounds the number of steps that are left, in whatever order they are made.

The steps are those of `main` and of the workers' message loops; what a worker's event
loop does for its connections between two of them is not counted.
-/

namespace Tinyproxy

/-- `main` is on its way out. -/
def MainPhase.Closing : MainPhase → Prop
  | .startWorker _ => False
  | .startRoute _ => False
  | .serving => False
  | .dispatching _ _ => False
  | _ => True

/-- The messages a worker still has, in the list it has taken, in its queue or in `worker_free`'s. -/
def Worker.remaining (w : Worker) : Nat := w.appended.length - (w.processed.length + w.freed.length)

/-- What a worker's thread is good for: a byte in the socket wakes it up once. -/
def LoopPhase.rank (unread : Nat) : LoopPhase → Nat
  | .notStarted => 0
  | .exited => 0
  | .waiting => 1
  | .processing _ => 2
  | .drained => 3
  | .draining => if unread = 0 then 4 else 0

/-- What is left of the call of `worker_stop`, which may send a byte. -/
def StopPhase.rank : StopPhase → Nat
  | .fresh => 7
  | .set => 6
  | .returned => 0

/-- What is left of `worker_free`, apart from its messages. -/
def FreePhase.rank : FreePhase → Nat
  | .notCalled => 5
  | .stopSet => 4
  | .notified => 3
  | .joined => 2
  | .freeing _ => 1
  | .done => 0

/-- The steps a worker has left. -/
def Worker.work (w : Worker) : Nat :=
  5 * w.unread + w.loop.rank w.unread + w.remaining + (w.stops 0).rank + w.free.rank + if w.started then 1 else 0

/-- The steps `main` has left outside its calls, with `count` workers and `n` routes. -/
def MainPhase.rank (count n : Nat) : MainPhase → Nat
  | .undo m => 3 * m + (6 + 3 * count + 2 * n)
  | .undoStop m => 3 * m + 2 + (6 + 3 * count + 2 * n)
  | .undoJoin m => 3 * m + 1 + (6 + 3 * count + 2 * n)
  | .stopListener j => (n - j) + (5 + 3 * count + n)
  | .stopWorker i => (count - i) + (4 + 2 * count + n)
  | .joinWorker i => (count - i) + (3 + count + n)
  | .freeRoute j => (n - j) + (2 + count)
  | .freeWorker i => (count - i) + 1
  | _ => 0

/-- The steps the process has left once `main` is on its way out. -/
def Daemon.work (g : Setup) (s : Daemon) : Nat :=
  (∑ i ∈ Finset.range g.count, (s.workers i).worker.work) + s.phase.rank g.count s.ctxCount

/-! ## Every step brings the exit closer -/

theorem notifyWorker_unread {w w' : Worker} {sent : SendOutcome} (sends : notifyWorker w sent = some w') :
    w'.unread ≤ w.unread + 1 := by
  cases sent with
  | added =>
    simp only [notifyWorker] at sends
    split at sends
    · cases sends
    · cases sends
      exact Nat.le_refl _
  | eagain =>
    obtain ⟨-, rfl⟩ := Lib.guard_some sends
    omega
  | closed =>
    obtain ⟨-, rfl⟩ := Lib.guard_some sends
    omega

/-- `worker_stop` sends one byte at most, and none to a worker that is not started. -/
theorem announce_unread {w w' : Worker} {sent : SendOutcome}
    (sends : (if w.started then notifyWorker w sent else some w) = some w') :
    w'.unread ≤ w.unread + 1 ∧ (w.started = false → w'.unread = w.unread) := by
  split at sends
  · rename_i started
    exact ⟨notifyWorker_unread sends, fun unstarted => by rw [unstarted] at started; cases started⟩
  · cases sends
    exact ⟨by omega, fun _ => rfl⟩

/-- What remains is what is pending in the worker's channel. -/
theorem Refines.remaining_eq {w : Worker} {c : Lib.Channel Nat} (refines : Refines w c) :
    w.remaining = c.pending.length := by
  have total := congrArg List.length c.conserved
  rw [refines.carries.accepted, refines.carries.delivered, List.length_append, List.length_append] at total
  rw [Worker.remaining]
  omega

/-- The message a thread is at remains. -/
theorem Refines.remaining_current {w : Worker} {c : Lib.Channel Nat} {m : Nat} (refines : Refines w c)
    (current : w.loop.current = some m ∨ w.free.current = some m) : 0 < w.remaining := by
  obtain ⟨taken, left, queue, split, walked, freeing, -⟩ := refines.carries.pending
  rw [refines.remaining_eq, split]
  rcases current with current | current
  · rw [current] at walked
    obtain ⟨rest, rfl, -⟩ := walked.uncons
    simp
  · rw [current] at freeing
    obtain ⟨rest, rfl, -⟩ := freeing.uncons
    simp only [List.length_append, List.length_cons]
    omega

/-- The thread works off its bytes, and on each round its messages. -/
theorem stepLoop_work {w w' : Worker} {c : Lib.Channel Nat} {e : WorkerEvent} (refines : Refines w c)
    (step : stepLoop w e = some w') : w'.work < w.work := by
  cases e with
  | wake =>
    obtain ⟨⟨waiting, some⟩, rfl⟩ := Lib.guard_some step
    have unblocked : w.unread ≠ 0 := by omega
    simp only [Worker.work, Worker.remaining, waiting, LoopPhase.rank, if_neg unblocked]
    omega
  | recv n =>
    obtain ⟨⟨draining, some, -, present⟩, rfl⟩ := Lib.guard_some step
    have unblocked : w.unread ≠ 0 := by omega
    obtain ⟨l, drains, later⟩ : ∃ l, drainNotifyFd w n = { w with unread := w.unread - n, loop := l } ∧
        l.rank (w.unread - n) ≤ 4 := by
      refine ⟨_, rfl, ?_⟩
      split
      · simp [LoopPhase.rank]
      · simp only [LoopPhase.rank]
        split <;> omega
    rw [drains]
    simp only [Worker.work, Worker.remaining, draining]
    rw [show LoopPhase.draining.rank w.unread = 0 from if_neg unblocked]
    omega
  | recvBlocked =>
    obtain ⟨⟨draining, blocked⟩, rfl⟩ := Lib.guard_some step
    simp only [Worker.work, Worker.remaining, draining, LoopPhase.rank, if_pos blocked]
    omega
  | take =>
    obtain ⟨drained, rfl⟩ := Lib.guard_some step
    simp only [Worker.work, Worker.remaining, drained, LoopPhase.rank]
    omega
  | process =>
    simp only [stepLoop] at step
    split at step
    · rename_i m current
      cases step
      have some := refines.remaining_current (m := m) (.inl (by rw [current]; rfl))
      simp only [Worker.remaining] at some
      simp only [Worker.work, Worker.remaining, current, LoopPhase.rank, List.length_append, List.length_singleton]
      omega
    · cases step
  | check =>
    obtain ⟨finished, rfl⟩ := Lib.guard_some step
    have later : (if w.stopping then LoopPhase.exited else .waiting).rank w.unread ≤ 1 := by
      split <;> simp [LoopPhase.rank]
    simp only [Worker.work, Worker.remaining, finished, LoopPhase.rank] at later ⊢
    omega
  | _ => cases step

/-- More bytes do not make a thread's place worth more. -/
theorem rank_unread {l : LoopPhase} {n m : Nat} (more : n ≤ m) : l.rank m ≤ l.rank n := by
  cases l with
  | draining =>
    simp only [LoopPhase.rank]
    split
    · rw [if_pos (by omega)]
    · omega
  | _ => exact Nat.le_refl _

/-- A call of `worker_stop` or `worker_join` is worth more than the byte it sends. -/
theorem stepControl_work {w w' : Worker} {e : WorkerEvent} (zero : ∀ j, e = .stop j ∨ (∃ sent, e = .stopNotify j sent) → j = 0)
    (step : stepControl w e = some w') : w'.work < w.work := by
  cases e with
  | stop j =>
    obtain ⟨new, rfl⟩ := Lib.guard_some step
    obtain rfl := zero j (.inl rfl)
    simp only [Worker.work, Worker.remaining, new, Function.update_self, StopPhase.rank]
    omega
  | stopNotify j sent =>
    obtain rfl := zero j (.inr ⟨sent, rfl⟩)
    simp only [stepControl] at step
    split at step
    · rename_i set
      obtain ⟨v, sends, rfl⟩ := Option.map_eq_some_iff.1 step
      have bytes := (announce_unread sends).1
      obtain ⟨n, rfl, more, -⟩ := announce_cases sends
      have place := rank_unread (l := w.loop) more
      simp only [Worker.work, Worker.remaining, set, Function.update_self, StopPhase.rank] at bytes ⊢
      omega
    · cases step
  | join =>
    obtain ⟨⟨started, -⟩, rfl⟩ := Lib.guard_some step
    simp only [Worker.work, Worker.remaining, started, if_true]
    simp
  | _ => cases step

/-- `worker_free` of a worker whose thread is gone. -/
theorem stepFree_work {w w' : Worker} {c : Lib.Channel Nat} {e : WorkerEvent} (refines : Refines w c)
    (unstarted : w.started = false) (step : stepFree w e = some w') : w'.work < w.work := by
  cases e with
  | free =>
    obtain ⟨new, rfl⟩ := Lib.guard_some step
    simp only [Worker.work, Worker.remaining, new, FreePhase.rank]
    omega
  | freeNotify sent =>
    simp only [stepFree] at step
    split at step
    · rename_i set
      obtain ⟨v, sends, rfl⟩ := Option.map_eq_some_iff.1 step
      rw [unstarted] at sends
      cases sends
      simp only [Worker.work, Worker.remaining, set, FreePhase.rank]
      omega
    · cases step
  | freeJoin =>
    obtain ⟨⟨notified, -⟩, rfl⟩ := Lib.guard_some step
    simp only [Worker.work, Worker.remaining, notified, unstarted, FreePhase.rank]
    omega
  | freeTake =>
    obtain ⟨joined, rfl⟩ := Lib.guard_some step
    simp only [Worker.work, Worker.remaining, joined, FreePhase.rank]
    omega
  | freeMsg =>
    simp only [stepFree] at step
    split at step
    · rename_i m current
      cases step
      have some := refines.remaining_current (m := m) (.inr (by rw [current]; rfl))
      simp only [Worker.remaining] at some
      simp only [Worker.work, Worker.remaining, current, FreePhase.rank, List.length_append, List.length_singleton]
      omega
    · cases step
  | freeDone =>
    obtain ⟨finished, rfl⟩ := Lib.guard_some step
    simp only [Worker.work, Worker.remaining, finished, FreePhase.rank]
    omega
  | _ => cases step

/-- The thread's steps are those of `stepLoop`. -/
theorem step_ofThread {w : Worker} {e : WorkerEvent} (own : (AcceptorEvent.worker e).ofThread = true) :
    workerMachine.step w e = stepLoop w e := by
  cases e with
  | wake | recv | recvBlocked | take | process | check =>
    simp [workerMachine, stepEnqueue, stepControl, stepFree]
  | _ => cases own

/-- The steps of `worker_stop` and `worker_join` are those of `stepControl`. -/
theorem step_control {w : Worker} {e : WorkerEvent}
    (makes : Call.stop.makes (.worker e) = true ∨ Call.join.makes (.worker e) = true) :
    workerMachine.step w e = stepControl w e := by
  cases e with
  | stop | stopNotify | join => simp [workerMachine, stepEnqueue, stepLoop, stepFree]
  | _ => rcases makes with makes | makes <;> cases makes

/-- The steps of `worker_free` are those of `stepFree`. -/
theorem step_free {w : Worker} {e : WorkerEvent} (makes : Call.free.makes (.worker e) = true) :
    workerMachine.step w e = stepFree w e := by
  cases e with
  | free | freeNotify | freeJoin | freeTake | freeMsg | freeDone =>
    simp [workerMachine, stepEnqueue, stepControl, stepLoop]
  | _ => cases makes

section Steps

variable {msgs : Nat → WorkerMsg} {a a' : Acceptor} {e : AcceptorEvent}

theorem thread_work (sound : WorkerSound msgs a) (own : e.ofThread = true)
    (step : (acceptorMachine msgs).step a e = some a') : a'.worker.work < a.worker.work := by
  obtain ⟨c, refines⟩ := sound.accounted.refines
  cases e with
  | adopt env =>
    simp only [acceptorMachine] at step
    split at step
    · split at step
      · obtain ⟨t, advanced, rfl⟩ := Option.map_eq_some_iff.1 step
        rw [adoptStreamClient_worker]
        have moved := advance_worker advanced
        rw [step_ofThread rfl] at moved
        exact stepLoop_work refines moved
      · cases step
    · cases step
  | worker e =>
    have moved := stepWorker_worker step
    rw [step_ofThread own] at moved
    exact stepLoop_work refines moved
  | _ => cases own

theorem call_work (sound : WorkerSound msgs a) {c : Call} (other : ∀ k, c ≠ .enqueue k)
    (unstarted : c = .free → a.worker.started = false) (makes : c.makes e = true)
    (step : (acceptorMachine msgs).step a e = some a') : a'.worker.work < a.worker.work := by
  obtain ⟨d, refines⟩ := sound.accounted.refines
  cases e with
  | worker e =>
    have moved := stepWorker_worker step
    cases c with
    | enqueue k => exact absurd rfl (other k)
    | stop =>
      rw [step_control (.inl makes)] at moved
      apply stepControl_work ?_ moved
      rintro j (rfl | ⟨sent, rfl⟩)
      · exact of_decide_eq_true makes
      · exact of_decide_eq_true makes
    | join =>
      rw [step_control (.inr makes)] at moved
      apply stepControl_work ?_ moved
      rintro j (rfl | ⟨sent, rfl⟩) <;> cases makes
    | free =>
      rw [step_free makes] at moved
      exact stepFree_work refines (unstarted rfl) moved
  | _ =>
    cases c with
    | enqueue k => exact absurd rfl (other k)
    | _ => cases makes

end Steps

namespace Sound

variable {g : Setup} {s s' : Daemon}

/-- One worker has less to do. -/
theorem worker_work {i : Nat} {a : Acceptor} {ready : Bool} (inside : i < g.count)
    (less : a.worker.work < (s.workers i).worker.work) :
    Daemon.work g { s with workers := Function.update s.workers i a, logReady := ready } < s.work g := by
  apply Nat.add_lt_add_right
  apply Finset.sum_lt_sum
  · intro j _
    by_cases own : j = i
    · subst own
      dsimp only
      rw [Function.update_self]
      exact Nat.le_of_lt less
    · dsimp only
      rw [Function.update_of_ne own]
  · refine ⟨i, Finset.mem_range.2 inside, ?_⟩
    dsimp only
    rwa [Function.update_self]

/-- `main` has gone on. -/
theorem main_work (workers : s'.workers = s.workers)
    (less : s'.phase.rank g.count s'.ctxCount < s.phase.rank g.count s.ctxCount) : s'.work g < s.work g := by
  rw [Daemon.work, Daemon.work, workers]
  exact Nat.add_lt_add_left less _

theorem goes_work (sound : Sound g s) (closing : s.phase.Closing) {p : MainPhase} (goes : Goes g s p) :
    Daemon.work g { s with phase := p } < s.work g := by
  have bounded := sound.bounded
  refine main_work (s := s) rfl ?_
  cases goes with
  | serves phase => rw [phase] at closing; cases closing
  | dispatched phase => rw [phase] at closing; cases closing
  | undone phase | undoNext phase | undoStopped phase | undoJoined phase | listenersStopped phase | unstarted phase
  | allStopped phase | allJoined phase | routesFreed phase | stopped phase | joined phase | freed phase =>
    rw [phase] at bounded ⊢
    simp only [MainPhase.rank, MainPhase.Bounded] at bounded ⊢
    omega

theorem falls (sound : Sound g s) (closing : s.phase.Closing) {e : DaemonEvent} (moved : DaemonMove g s e s') :
    s'.work g < s.work g := by
  cases moved with
  | create phase => rw [phase] at closing; cases closing
  | giveUp phase => rw [phase] at closing; cases closing
  | started phase => rw [phase] at closing; cases closing
  | route phase => rw [phase] at closing; cases closing
  | routeFails phase => rw [phase] at closing; cases closing
  | drop phase => rw [phase] at closing; cases closing
  | accept phase => rw [phase] at closing; cases closing
  | packet phase => rw [phase] at closing; cases closing
  | loopEnds phase => rw [phase] at closing; cases closing
  | @call i c e a phase inside makes step =>
    apply worker_work inside
    apply call_work (sound.workers i) ?_ ?_ makes step
    · rintro k rfl
      unfold MainPhase.call at phase
      split at phase <;> simp_all [MainPhase.Closing]
    · rintro rfl
      have fits := sound.fits i inside
      rw [MainPhase.call_free phase] at fits
      exact fits.1
  | @stopCtx j phase inside =>
    refine main_work (s := s) rfl ?_
    rw [phase]
    simp only [MainPhase.rank]
    omega
  | @freeCtx j phase inside =>
    refine main_work (s := s) rfl ?_
    rw [phase]
    simp only [MainPhase.rank]
    omega
  | @exit i phase last =>
    refine main_work (s := s) rfl ?_
    rw [phase]
    simp only [MainPhase.rank]
    omega
  | goes goes => exact sound.goes_work closing goes
  | thread inside own step => exact worker_work inside (thread_work (sound.workers _) own step)

/-- There is no way back. -/
theorem stays_closing (closing : s.phase.Closing) {e : DaemonEvent} (moved : DaemonMove g s e s') :
    s'.phase.Closing := by
  cases moved with
  | call => exact closing
  | thread => exact closing
  | goes goes => cases goes <;> simp_all [MainPhase.Closing]
  | _ => simp_all [MainPhase.Closing]

end Sound

/-! ## Nobody waits for ever -/

section Progress

variable {msgs : Nat → WorkerMsg} {a : Acceptor}

/-- A step of the worker that no callback is part of. -/
theorem advance_step (m : Nat → WorkerMsg) {e : WorkerEvent} {w : Worker} (plain : stepWorker m a e = a.advance e)
    (step : workerMachine.step a.worker e = some w) : ∃ a', (acceptorMachine m).step a (.worker e) = some a' := by
  refine ⟨{ a with worker := w }, ?_⟩
  show stepWorker m a e = _
  rw [plain, Acceptor.advance, step]
  rfl

/-- A call of `worker_stop` goes on. -/
theorem stop_progress (uncalled : a.worker.free = .notCalled) (unreturned : a.worker.stops 0 ≠ .returned) :
    ∃ e a', Call.stop.makes e = true ∧ (acceptorMachine msgs).step a e = some a' := by
  cases phase : a.worker.stops 0 with
  | returned => exact absurd phase unreturned
  | fresh =>
    obtain ⟨a', step⟩ := advance_step msgs (a := a) (e := .stop 0) rfl (by
      rw [step_control (.inl rfl), stepControl, if_pos phase])
    exact ⟨_, a', rfl, step⟩
  | set =>
    have sends : ∃ w, (if a.worker.started then notifyWorker a.worker .added else some a.worker) = some w := by
      split
      · simp [notifyWorker, uncalled]
      · exact ⟨_, rfl⟩
    obtain ⟨w, sends⟩ := sends
    obtain ⟨a', step⟩ := advance_step msgs (a := a) (e := .stopNotify 0 .added) rfl (by
      rw [step_control (.inl rfl), stepControl, if_pos phase, sends, Option.map_some])
    exact ⟨_, a', rfl, step⟩

/-- The thread processes the message it is at. -/
theorem process_progress {m : Nat} (current : a.worker.loop = .processing (some m)) :
    ∃ e a', AcceptorEvent.ofThread e = true ∧ (acceptorMachine msgs).step a e = some a' := by
  obtain ⟨w, moved⟩ : ∃ w, workerMachine.step a.worker .process = some w := by
    rw [step_ofThread rfl, stepLoop, current]
    exact ⟨_, rfl⟩
  cases msg : msgs m with
  | streamClient ac =>
    refine ⟨.adopt smoothEnv, adoptStreamClient { a with worker := w } m ac smoothEnv, rfl, ?_⟩
    simp only [acceptorMachine, current, msg, Acceptor.advance, moved]
    rfl
  | datagramPacket =>
    obtain ⟨a', step⟩ := advance_step msgs (a := a) (e := .process) (by
      simp [stepWorker, current, msg, WorkerMsg.isStream]) moved
    exact ⟨_, a', rfl, step⟩

/-- A thread that has been told to stop can go on until it has left its loop. -/
theorem thread_progress (sound : WorkerSound msgs a) (started : a.worker.started = true)
    (stopped : a.worker.stops 0 = .returned) (uncalled : a.worker.free = .notCalled)
    (inside : a.worker.loop ≠ .exited) :
    ∃ e a', AcceptorEvent.ofThread e = true ∧ (acceptorMachine msgs).step a e = some a' := by
  cases phase : a.worker.loop with
  | notStarted => exact absurd phase (sound.tended.begun started)
  | exited => exact absurd phase inside
  | waiting =>
    -- `worker_stop` has returned, so its byte is in the socket
    have stopping : a.worker.stopping = true := sound.tended.stopped (by rw [stopped]; nofun)
    have some : 0 < a.worker.unread := by
      rcases sound.signalled.stop stopping with unread | (⟨j, set⟩ | freeing) | before | ended
      · exact unread
      · by_cases own : j = 0
        · rw [own, stopped] at set
          cases set
        · rw [sound.tended.others j own] at set
          cases set
      · rw [uncalled] at freeing
        cases freeing
      · rw [phase] at before
        cases before
      · rw [phase] at ended
        cases ended
    obtain ⟨a', step⟩ := advance_step msgs (a := a) (e := .wake) rfl (by
      rw [step_ofThread rfl, stepLoop, if_pos ⟨phase, some⟩])
    exact ⟨_, a', rfl, step⟩
  | draining =>
    by_cases blocked : a.worker.unread = 0
    · obtain ⟨a', step⟩ := advance_step msgs (a := a) (e := .recvBlocked) rfl (by
        rw [step_ofThread rfl, stepLoop, if_pos ⟨phase, blocked⟩])
      exact ⟨_, a', rfl, step⟩
    · obtain ⟨a', step⟩ := advance_step msgs (a := a) (e := .recv 1) rfl (by
        rw [step_ofThread rfl, stepLoop, if_pos ⟨phase, by omega, by decide, by omega⟩])
      exact ⟨_, a', rfl, step⟩
  | drained =>
    obtain ⟨a', step⟩ := advance_step msgs (a := a) (e := .take) rfl (by
      rw [step_ofThread rfl, stepLoop, if_pos phase])
    exact ⟨_, a', rfl, step⟩
  | processing msg =>
    cases msg with
    | some m => exact process_progress phase
    | none =>
      obtain ⟨a', step⟩ := advance_step msgs (a := a) (e := .check) rfl (by
        rw [step_ofThread rfl, stepLoop, if_pos phase])
      exact ⟨_, a', rfl, step⟩

/-- A call of `worker_free` goes on. -/
theorem free_progress (unstarted : a.worker.started = false) (undone : a.worker.free ≠ .done) :
    ∃ e a', Call.free.makes e = true ∧ (acceptorMachine msgs).step a e = some a' := by
  cases phase : a.worker.free with
  | done => exact absurd phase undone
  | notCalled =>
    obtain ⟨a', step⟩ := advance_step msgs (a := a) (e := .free) rfl (by
      rw [step_free rfl, stepFree, if_pos phase])
    exact ⟨_, a', rfl, step⟩
  | stopSet =>
    obtain ⟨a', step⟩ := advance_step msgs (a := a) (e := .freeNotify .added) rfl (by
      rw [step_free rfl, stepFree, if_pos phase, unstarted, if_neg Bool.false_ne_true, Option.map_some])
    exact ⟨_, a', rfl, step⟩
  | notified =>
    obtain ⟨a', step⟩ := advance_step msgs (a := a) (e := .freeJoin) rfl (by
      rw [step_free rfl, stepFree, if_pos ⟨phase, by simp [unstarted]⟩])
    exact ⟨_, a', rfl, step⟩
  | joined =>
    obtain ⟨a', step⟩ := advance_step msgs (a := a) (e := .freeTake) rfl (by
      rw [step_free rfl, stepFree, if_pos phase])
    exact ⟨_, a', rfl, step⟩
  | freeing msg =>
    cases msg with
    | none =>
      obtain ⟨a', step⟩ := advance_step msgs (a := a) (e := .freeDone) rfl (by
        rw [step_free rfl, stepFree, if_pos phase])
      exact ⟨_, a', rfl, step⟩
    | some m =>
      refine ⟨.worker .freeMsg, freeWorkerMsg msgs { a with worker := { a.worker with
        free := .freeing (a.worker.pending.next m)
        freed := a.worker.freed ++ [m] } } m, rfl, ?_⟩
      show stepWorker msgs a .freeMsg = _
      simp only [stepWorker, phase]
      rw [Acceptor.advance, step_free rfl, stepFree, phase]
      rfl

end Progress

namespace Sound

variable {g : Setup} {s : Daemon} {i : Nat}

theorem call_progress {c : Call} {e : AcceptorEvent} {a : Acceptor} (inside : i < g.count)
    (phase : s.phase.call = some (i, c)) (makes : c.makes e = true)
    (step : (acceptorMachine g.msgs).step (s.workers i) e = some a) : ∃ e t, (daemonMachine g).step s e = some t := by
  refine ⟨.call e,
    { s with workers := Function.update s.workers i a, logReady := s.logReady && !e.freesLog }, ?_⟩
  simp only [daemonMachine, phase]
  rw [if_pos ⟨inside, makes⟩, Daemon.onWorker, step, Option.map_some, Option.map_some]

theorem thread_step {e : AcceptorEvent} {a : Acceptor} (inside : i < g.count) (own : e.ofThread = true)
    (step : (acceptorMachine g.msgs).step (s.workers i) e = some a) : ∃ e t, (daemonMachine g).step s e = some t := by
  refine ⟨.thread i e, { s with workers := Function.update s.workers i a }, ?_⟩
  simp only [daemonMachine]
  rw [if_pos ⟨inside, own⟩, Daemon.onWorker, step, Option.map_some]

theorem next_progress {t : Daemon} (step : stepNext g s = some t) : ∃ e t, (daemonMachine g).step s e = some t :=
  ⟨.next, t, step⟩

/-- `main` is in `worker_stop`. -/
theorem stopping_progress (inside : i < g.count) (phase : s.phase.call = some (i, .stop))
    (uncalled : (s.workers i).worker.free = .notCalled)
    (next : (s.workers i).worker.stops 0 = .returned → ∃ t, stepNext g s = some t) :
    ∃ e t, (daemonMachine g).step s e = some t := by
  by_cases returned : (s.workers i).worker.stops 0 = .returned
  · obtain ⟨t, step⟩ := next returned
    exact next_progress step
  · obtain ⟨e, a, makes, step⟩ := stop_progress (a := s.workers i) uncalled returned
    exact call_progress inside phase makes step

/-- `main` is in `worker_join`: it waits for the thread, and the thread does not wait. -/
theorem joining_progress (sound : Sound g s) (inside : i < g.count) (phase : s.phase.call = some (i, .join))
    (stopped : (s.workers i).worker.stops 0 = .returned) (uncalled : (s.workers i).worker.free = .notCalled)
    (next : (s.workers i).worker.started = false → ∃ t, stepNext g s = some t) :
    ∃ e t, (daemonMachine g).step s e = some t := by
  cases started : (s.workers i).worker.started with
  | false =>
    obtain ⟨t, step⟩ := next started
    exact next_progress step
  | true =>
    by_cases left : (s.workers i).worker.loop = .exited
    · obtain ⟨a, step⟩ := advance_step g.msgs (a := s.workers i) (e := .join) rfl (by
        rw [step_control (.inr rfl), stepControl, if_pos ⟨started, left⟩])
      exact call_progress inside phase rfl step
    · obtain ⟨e, a, own, step⟩ := thread_progress (sound.workers i) started stopped uncalled left
      exact thread_step inside own step

theorem progress (sound : Sound g s) (closing : s.phase.Closing) (running : s.phase ≠ .exited) :
    ∃ e t, (daemonMachine g).step s e = some t := by
  have bounded := sound.bounded
  have fits := sound.fits
  cases phase : s.phase with
  | startWorker | startRoute | serving | dispatching =>
    rw [phase] at closing
    cases closing
  | exited => exact absurd phase running
  | undo m =>
    cases m with
    | zero => exact next_progress (by simp only [stepNext, phase]; rfl)
    | succ m => exact next_progress (by simp only [stepNext, phase]; rfl)
  | undoStop m =>
    rw [phase] at bounded fits
    apply stopping_progress bounded.1 (by rw [phase]; rfl) (fits m bounded.1).2.1
    intro returned
    simp [stepNext, phase, Call.returned, returned]
  | undoJoin m =>
    rw [phase] at bounded fits
    have here := fits m bounded.1
    apply sound.joining_progress bounded.1 (by rw [phase]; rfl) (here.2.2.2.1 rfl) here.2.1
    intro joined
    simp [stepNext, phase, Call.returned, joined]
  | stopListener j =>
    by_cases inside : j < s.ctxCount
    · exact next_progress (by simp only [stepNext, phase]; rw [if_pos inside])
    · exact next_progress (by simp only [stepNext, phase]; rw [if_neg inside])
  | stopWorker m =>
    rw [phase] at fits
    by_cases inside : m < g.count
    · apply stopping_progress inside (by rw [phase]; rfl) (fits m inside).2.1
      intro returned
      simp [stepNext, phase, Call.returned, returned, inside]
    · exact next_progress (by simp only [stepNext, phase]; rw [if_neg inside])
  | joinWorker m =>
    rw [phase] at fits
    by_cases inside : m < g.count
    · have here := fits m inside
      apply sound.joining_progress inside (by rw [phase]; rfl) here.2.1 here.1
      intro joined
      simp [stepNext, phase, Call.returned, joined, inside]
    · exact next_progress (by simp only [stepNext, phase]; rw [if_neg inside])
  | freeRoute j =>
    by_cases inside : j < s.ctxCount
    · exact next_progress (by simp only [stepNext, phase]; rw [if_pos inside])
    · exact next_progress (by simp only [stepNext, phase]; rw [if_neg inside])
  | freeWorker m =>
    rw [phase] at fits
    by_cases inside : m < g.count
    · by_cases done : (s.workers m).worker.free = .done
      · exact next_progress (by simp only [stepNext, phase]; rw [if_pos inside, if_pos (by simp [Call.returned, done])])
      · obtain ⟨e, a, makes, step⟩ := free_progress (a := s.workers m) (fits m inside).1 done
        exact call_progress inside (by rw [phase]; rfl) makes step
    · exact next_progress (by simp only [stepNext, phase]; rw [if_neg inside])

end Sound

/-- **The process always exits.** From any state in which `main` is on its way out, whether `worker_pool_start` or
`start_route` has failed or the event loop has ended: no schedule of `main` and the workers has more than `s.work g`
steps, one that cannot go on has exited, and from wherever it is the process can still exit. -/
theorem shutdown_terminates {g : Setup} {s : Daemon} {es : List DaemonEvent}
    (ran : (daemonMachine g).run {} es = some s) (closing : s.phase.Closing) :
    ∀ fs t, (daemonMachine g).run s fs = some t →
      fs.length ≤ s.work g ∧ ((∀ e, (daemonMachine g).step t e = none) → t.phase = .exited) ∧
      ∃ ds u, (daemonMachine g).run t ds = some u ∧ u.phase = .exited := by
  have keeps : ∀ s e t, Sound g s ∧ s.phase.Closing → (daemonMachine g).step s e = some t →
      Sound g t ∧ t.phase.Closing := by
    rintro s e t ⟨sound, closing⟩ step
    exact ⟨sound.step (daemon_move step), Sound.stays_closing closing (daemon_move step)⟩
  have falls : ∀ s e t, Sound g s ∧ s.phase.Closing → (daemonMachine g).step s e = some t → t.work g < s.work g := by
    rintro s e t ⟨sound, closing⟩ step
    exact sound.falls closing (daemon_move step)
  intro fs t later
  have start : Sound g s ∧ s.phase.Closing := ⟨run_sound ran, closing⟩
  have there : Sound g t ∧ t.phase.Closing := 
    Lib.Machine.run_invariant (I := fun s => Sound g s ∧ s.phase.Closing) keeps start later
  refine ⟨?_, ?_, ?_⟩
  · have bound := Lib.Machine.run_length_le keeps falls start later
    omega
  · intro stuck
    by_contra running
    obtain ⟨e, u, step⟩ := there.1.progress there.2 running
    rw [stuck e] at step
    cases step
  · apply Lib.Machine.run_finishes keeps falls ?_ there
    exact fun s both running => both.1.progress both.2 running

/-- After the signal of `servedRun` the process has 56 steps left at most. -/
theorem shutdown_terminates_served :
    ∃ s, (daemonMachine pairSetup).run {} (servedRun.take 26) = some s ∧ s.phase.Closing ∧ s.work pairSetup = 56 ∧
      ∃ ds u, (daemonMachine pairSetup).run s ds = some u ∧ u.phase = .exited := by
  have seen : ((daemonMachine pairSetup).run {} (servedRun.take 26)).map
      (fun s => (s.phase, s.work pairSetup)) = some (.stopListener 0, 56) := by
    decide +kernel
  obtain ⟨s, ran, parts⟩ := Option.map_eq_some_iff.1 seen
  simp only [Prod.mk.injEq] at parts
  have closing : s.phase.Closing := by rw [parts.1]; trivial
  exact ⟨s, ran, closing, parts.2, (shutdown_terminates ran closing [] s rfl).2.2⟩

end Tinyproxy
