import Tinyproxy.Daemon.Daemon
import Tinyproxy.Worker.Wakeup

/-!
# Taking the process down in order

Nothing synchronises a worker with the route contexts, the log's mutex or the event
bases it uses: that they outlive it rests on the order of the calls in `main`. Only
`main` starts, stops, joins and frees the workers, so where it is says how far each of
them is (`MainPhase.Fits`) and what became of each route context (`MainPhase.ctx`).
-/

namespace Tinyproxy

/-! ## What each of the calls does to a worker -/

/-- A step of the worker's own thread. -/
structure ThreadStep (w w' : Worker) : Prop where
  started : w'.started = w.started
  stopping : w'.stopping = w.stopping
  stops : w'.stops = w.stops
  free : w'.free = w.free
  enqueues : w'.enqueues = w.enqueues
  appended : w'.appended = w.appended
  running : w.loop ≠ .notStarted
  still : w'.loop ≠ .notStarted
  leaves : w'.loop = .exited → w.stopping = true

/-- A step of the call that brings message `k`. -/
structure EnqueueStep (k : Nat) (w w' : Worker) : Prop where
  started : w'.started = w.started
  stopping : w'.stopping = w.stopping
  stops : w'.stops = w.stops
  free : w'.free = w.free
  loop : w'.loop = w.loop
  others : ∀ i, i ≠ k → w'.enqueues i = w.enqueues i
  appended : w'.appended = w.appended ∨ (w.enqueues k = .fresh ∧ w'.appended = w.appended ++ [k])
  kept : w.stopping = false → w.enqueues k ≠ .refused → w.enqueues k ≠ .returned (some .ecanceled) →
    w'.enqueues k ≠ .refused ∧ w'.enqueues k ≠ .returned (some .ecanceled)

/-- A step of `worker_stop`. -/
structure StopStep (w w' : Worker) : Prop where
  started : w'.started = w.started
  free : w'.free = w.free
  loop : w'.loop = w.loop
  enqueues : w'.enqueues = w.enqueues
  appended : w'.appended = w.appended
  others : ∀ j, j ≠ 0 → w'.stops j = w.stops j
  moves : (w.stops 0 = .fresh ∧ w'.stops 0 = .set ∧ w'.stopping = true) ∨
    (w.stops 0 = .set ∧ w'.stops 0 = .returned)
  keeps : w.stopping = true → w'.stopping = true

/-- A step of `worker_join`. -/
structure JoinStep (w w' : Worker) : Prop where
  started : w'.started = false
  stopping : w'.stopping = w.stopping
  stops : w'.stops = w.stops
  free : w'.free = w.free
  loop : w'.loop = w.loop
  enqueues : w'.enqueues = w.enqueues
  appended : w'.appended = w.appended

/-- A step of `worker_free`. -/
structure WorkerFreeStep (w w' : Worker) : Prop where
  started : w.started = false → w'.started = false
  stops : w'.stops = w.stops
  free : w'.free ≠ .notCalled
  loop : w'.loop = w.loop
  enqueues : w'.enqueues = w.enqueues
  appended : w'.appended = w.appended
  begun : w'.started = true → w.started = true
  keeps : w.stopping = true → w'.stopping = true

/-- The thread goes on inside its loop. -/
theorem threadStep_of {w : Worker} {l l' : LoopPhase} {q : Lib.LinkedQueue Nat} {n : Nat} {ms : List Nat}
    (phase : w.loop = l) (running : l ≠ .notStarted) (still : l' ≠ .notStarted)
    (leaves : l' = .exited → w.stopping = true) :
    ThreadStep w { w with loop := l', pending := q, unread := n, processed := ms } where
  started := rfl
  stopping := rfl
  stops := rfl
  free := rfl
  enqueues := rfl
  appended := rfl
  running := phase ▸ running
  still := still
  leaves := leaves

section Calls

variable {a a' : Acceptor} {e : AcceptorEvent} {k : Nat}

theorem process_threadStep {w w' : Worker} (moved : WorkerMove w .process w') : ThreadStep w w' := by
  cases moved with
  | process current => exact threadStep_of current nofun nofun nofun

theorem AcceptorMove.ofThread (moved : AcceptorMove a a' e) (own : e.ofThread = true) :
    ThreadStep a.worker a'.worker ∧ a'.accepts = a.accepts := by
  cases moved with
  | adopt accepts moved => exact ⟨process_threadStep moved, accepts⟩
  | worker accepts moved =>
    refine ⟨?_, accepts⟩
    generalize a'.worker = w' at moved
    cases moved with
    | wake waiting => exact threadStep_of waiting nofun nofun nofun
    | recv draining =>
      apply threadStep_of draining nofun
      · split <;> nofun
      · split <;> nofun
    | recvBlocked draining => exact threadStep_of draining nofun nofun nofun
    | take drained => exact threadStep_of drained nofun nofun nofun
    | process current => exact process_threadStep (.process current)
    | check finished =>
      apply threadStep_of finished nofun
      · split <;> nofun
      · split
        · rename_i stopping
          exact fun _ => stopping
        · nofun
    | _ => cases own
  | _ => cases own

/-- The call goes on without appending. -/
theorem enqueueStep_of {w : Worker} {n : Nat} {ms : List Nat} {p : EnqueuePhase}
    (kept : w.stopping = false → w.enqueues k ≠ .refused → p ≠ .refused ∧ p ≠ .returned (some .ecanceled)) :
    EnqueueStep k w { w with
      unread := n
      cancelled := ms
      enqueues := Function.update w.enqueues k p } where
  started := rfl
  stopping := rfl
  stops := rfl
  free := rfl
  loop := rfl
  others i other := Function.update_of_ne other _ _
  appended := .inl rfl
  kept running unrefused _ := by
    dsimp only
    rw [Function.update_self]
    exact kept running unrefused

theorem append_enqueueStep {w : Worker} {q : Lib.LinkedQueue Nat} (new : w.enqueues k = .fresh) :
    EnqueueStep k w { w with
      pending := q
      appended := w.appended ++ [k]
      enqueues := Function.update w.enqueues k .appended } where
  started := rfl
  stopping := rfl
  stops := rfl
  free := rfl
  loop := rfl
  others i other := Function.update_of_ne other _ _
  appended := .inr ⟨new, rfl⟩
  kept _ _ _ := by
    dsimp only
    rw [Function.update_self]
    exact ⟨nofun, nofun⟩

/-- What the steps of `worker_enqueue_msg` and of the checks before it have in common. -/
theorem WorkerMove.enqueueStep {w w' : Worker} {e : WorkerEvent} (moved : WorkerMove w e w')
    (makes : (Call.enqueue k).makes (.worker e) = true) : EnqueueStep k w w' := by
  cases moved with
  | reject new early =>
    obtain rfl := of_decide_eq_true makes
    apply enqueueStep_of
    intro _ _
    rcases early with rfl | rfl <;> exact ⟨nofun, nofun⟩
  | refuse new stopping =>
    obtain rfl := of_decide_eq_true makes
    apply enqueueStep_of
    intro running _
    rw [stopping] at running
    cases running
  | append new running =>
    obtain rfl := of_decide_eq_true makes
    exact append_enqueueStep new
  | cancel refused =>
    obtain rfl := of_decide_eq_true makes
    apply enqueueStep_of
    intro _ unrefused
    exact absurd refused unrefused
  | notify queued =>
    obtain rfl := of_decide_eq_true makes
    exact enqueueStep_of fun _ _ => ⟨nofun, nofun⟩
  | _ => cases makes

theorem EnqueueStep.refl (w : Worker) : EnqueueStep k w w where
  started := rfl
  stopping := rfl
  stops := rfl
  free := rfl
  loop := rfl
  others _ _ := rfl
  appended := .inl rfl
  kept _ unrefused uncancelled := ⟨unrefused, uncancelled⟩

theorem AcceptorMove.enqueue (moved : AcceptorMove a a' e) (makes : (Call.enqueue k).makes e = true) :
    EnqueueStep k a.worker a'.worker ∧ ∀ i, i ≠ k → a'.accepts i = a.accepts i := by
  cases moved with
  | resume worker inside accepts =>
    obtain rfl := of_decide_eq_true makes
    rw [worker, accepts]
    exact ⟨.refl _, fun i other => Function.update_of_ne other _ _⟩
  | reject accepts inside moved => exact ⟨moved.enqueueStep makes, fun i _ => by rw [accepts]⟩
  | dispatch accepts inside moved => exact ⟨moved.enqueueStep makes, fun i _ => by rw [accepts]⟩
  | worker accepts moved => exact ⟨moved.enqueueStep makes, fun i _ => by rw [accepts]⟩
  | _ => cases makes

theorem AcceptorMove.stop (moved : AcceptorMove a a' e) (makes : Call.stop.makes e = true) :
    StopStep a.worker a'.worker ∧ a'.accepts = a.accepts := by
  cases moved with
  | worker accepts moved =>
    refine ⟨?_, accepts⟩
    generalize a'.worker = w' at moved
    cases moved with
    | stop new =>
      obtain rfl := of_decide_eq_true makes
      refine ⟨rfl, rfl, rfl, rfl, rfl, fun j other => Function.update_of_ne other _ _, ?_, fun _ => rfl⟩
      exact .inl ⟨new, by simp, rfl⟩
    | stopNotify set =>
      obtain rfl := of_decide_eq_true makes
      refine ⟨rfl, rfl, rfl, rfl, rfl, fun j other => Function.update_of_ne other _ _, ?_, id⟩
      exact .inr ⟨set, by simp⟩
    | _ => cases makes
  | _ => cases makes

theorem AcceptorMove.join (moved : AcceptorMove a a' e) (makes : Call.join.makes e = true) :
    JoinStep a.worker a'.worker ∧ a'.accepts = a.accepts := by
  cases moved with
  | worker accepts moved =>
    refine ⟨?_, accepts⟩
    generalize a'.worker = w' at moved
    cases moved with
    | join => exact ⟨rfl, rfl, rfl, rfl, rfl, rfl, rfl⟩
    | _ => cases makes
  | _ => cases makes

theorem AcceptorMove.free (moved : AcceptorMove a a' e) (makes : Call.free.makes e = true) :
    WorkerFreeStep a.worker a'.worker ∧ a'.accepts = a.accepts := by
  cases moved with
  | worker accepts moved =>
    refine ⟨?_, accepts⟩
    generalize a'.worker = w' at moved
    cases moved with
    | free => exact ⟨id, rfl, nofun, rfl, rfl, rfl, id, fun _ => rfl⟩
    | freeNotify => exact ⟨id, rfl, nofun, rfl, rfl, rfl, id, id⟩
    | freeJoin => exact ⟨fun _ => rfl, rfl, nofun, rfl, rfl, rfl, nofun, id⟩
    | freeTake => exact ⟨id, rfl, nofun, rfl, rfl, rfl, id, id⟩
    | freeMsg => exact ⟨id, rfl, nofun, rfl, rfl, rfl, id, id⟩
    | freeDone => exact ⟨id, rfl, nofun, rfl, rfl, rfl, id, id⟩
    | _ => cases makes
  | _ => cases makes

end Calls

/-! ## Each worker by itself -/

/-- Nobody but `main` stops a worker, and its thread leaves the loop only when it is told to. -/
structure Tended (w : Worker) : Prop where
  others : ∀ j, j ≠ 0 → w.stops j = .fresh
  told : w.stopping = true → w.stops 0 ≠ .fresh ∨ w.free ≠ .notCalled
  stopped : w.stops 0 ≠ .fresh → w.stopping = true
  begun : w.started = true → w.loop ≠ .notStarted
  leaves : w.loop = .exited → w.stopping = true

theorem tended_initWorker (started : Bool) : Tended (initWorker started) where
  others _ _ := rfl
  told := nofun
  stopped called := absurd rfl called
  begun := by
    rintro (rfl : started = true)
    nofun
  leaves := by cases started <;> nofun

namespace Tended

variable {w w' : Worker} {k : Nat}

theorem thread (tended : Tended w) (step : ThreadStep w w') : Tended w' where
  others := by rw [step.stops]; exact tended.others
  told := by rw [step.stopping, step.stops, step.free]; exact tended.told
  stopped := by rw [step.stopping, step.stops]; exact tended.stopped
  begun _ := step.still
  leaves exited := by rw [step.stopping]; exact step.leaves exited

theorem enqueue (tended : Tended w) (step : EnqueueStep k w w') : Tended w' where
  others := by rw [step.stops]; exact tended.others
  told := by rw [step.stopping, step.stops, step.free]; exact tended.told
  stopped := by rw [step.stopping, step.stops]; exact tended.stopped
  begun := by rw [step.started, step.loop]; exact tended.begun
  leaves := by rw [step.loop, step.stopping]; exact tended.leaves

theorem stop (tended : Tended w) (step : StopStep w w') : Tended w' where
  others j other := by rw [step.others j other]; exact tended.others j other
  told _ := by
    left
    rcases step.moves with ⟨-, moved, -⟩ | ⟨-, moved⟩ <;> rw [moved] <;> nofun
  stopped _ := by
    rcases step.moves with ⟨-, -, stopping⟩ | ⟨set, -⟩
    · exact stopping
    · exact step.keeps (tended.stopped (by rw [set]; nofun))
  begun := by rw [step.started, step.loop]; exact tended.begun
  leaves exited := by
    rw [step.loop] at exited
    exact step.keeps (tended.leaves exited)

theorem join (tended : Tended w) (step : JoinStep w w') : Tended w' where
  others := by rw [step.stops]; exact tended.others
  told := by rw [step.stopping, step.stops, step.free]; exact tended.told
  stopped := by rw [step.stopping, step.stops]; exact tended.stopped
  begun started := by
    rw [step.started] at started
    cases started
  leaves := by rw [step.loop, step.stopping]; exact tended.leaves

theorem free (tended : Tended w) (step : WorkerFreeStep w w') : Tended w' where
  others := by rw [step.stops]; exact tended.others
  told _ := .inr step.free
  stopped := by
    rw [step.stops]
    exact fun called => step.keeps (tended.stopped called)
  begun started := by
    rw [step.loop]
    exact tended.begun (step.begun started)
  leaves exited := by
    rw [step.loop] at exited
    exact step.keeps (tended.leaves exited)

/-- A worker `main` has not begun to stop takes every message. -/
theorem running (tended : Tended w) (fresh : w.stops 0 = .fresh) (uncalled : w.free = .notCalled) :
    w.stopping = false := by
  cases stopping : w.stopping with
  | false => rfl
  | true => exact absurd (tended.told stopping) (by simp [fresh, uncalled])

end Tended

/-- What holds of each worker, wherever `main` is. -/
structure WorkerSound (msgs : Nat → WorkerMsg) (a : Acceptor) : Prop where
  accounted : Accounted msgs a
  signalled : Signalled a.worker
  tended : Tended a.worker

theorem workerSound_start (msgs : Nat → WorkerMsg) (started : Bool) :
    WorkerSound msgs { worker := initWorker started } where
  accounted := accounted_start msgs started
  signalled := signalled_initWorker started
  tended := tended_initWorker started

namespace WorkerSound

variable {msgs : Nat → WorkerMsg} {a a' : Acceptor} {e : AcceptorEvent} {c : Call}

theorem staged (sound : WorkerSound msgs a) : Staged a.worker := by
  obtain ⟨c, refines⟩ := sound.accounted.refines
  exact refines.staged

theorem signalled_step (sound : WorkerSound msgs a) (step : (acceptorMachine msgs).step a e = some a') :
    Signalled a'.worker := by
  rcases acceptor_worker step with same | ⟨e', moved⟩
  · rw [same]
    exact sound.signalled
  · exact sound.signalled.step sound.staged moved

theorem thread (sound : WorkerSound msgs a) (own : e.ofThread = true)
    (step : (acceptorMachine msgs).step a e = some a') : WorkerSound msgs a' where
  accounted := sound.accounted.step step
  signalled := sound.signalled_step step
  tended := sound.tended.thread ((acceptor_move step).ofThread own).1

theorem accept (sound : WorkerSound msgs a) {k : Nat} {args : AcceptArgs}
    (step : (acceptorMachine msgs).step a (.accept k args) = some a') : WorkerSound msgs a' where
  accounted := sound.accounted.step step
  signalled := sound.signalled_step step
  tended := by
    cases acceptor_move step with
    | accept worker => rw [worker]; exact sound.tended

theorem call (sound : WorkerSound msgs a) (makes : c.makes e = true)
    (step : (acceptorMachine msgs).step a e = some a') : WorkerSound msgs a' where
  accounted := sound.accounted.step step
  signalled := sound.signalled_step step
  tended := by
    cases c with
    | enqueue k => exact sound.tended.enqueue ((acceptor_move step).enqueue makes).1
    | stop => exact sound.tended.stop ((acceptor_move step).stop makes).1
    | join => exact sound.tended.join ((acceptor_move step).join makes).1
    | free => exact sound.tended.free ((acceptor_move step).free makes).1

end WorkerSound

/-! ## Where `main` is and how far each worker is -/

/-- How far worker `i` is when `main` is at `p`; `pool` is `worker_pool_started`. -/
def MainPhase.Fits (p : MainPhase) (pool : Bool) (i : Nat) (w : Worker) : Prop :=
  match p with
  | .startWorker m =>
    pool = false ∧ w.stops 0 = .fresh ∧ w.free = .notCalled ∧ (w.started = true ↔ i < m)
  | .undo m =>
    pool = false ∧ w.free = .notCalled ∧ (i < m → w.started = true ∧ w.stops 0 = .fresh) ∧
      (m ≤ i → w.started = false ∧ w.stops 0 ≠ .set)
  | .undoStop m =>
    pool = false ∧ w.free = .notCalled ∧ (i < m → w.started = true ∧ w.stops 0 = .fresh) ∧
      (i = m → w.started = true) ∧ (m < i → w.started = false ∧ w.stops 0 ≠ .set)
  | .undoJoin m =>
    pool = false ∧ w.free = .notCalled ∧ (i < m → w.started = true ∧ w.stops 0 = .fresh) ∧
      (i = m → w.stops 0 = .returned) ∧ (m < i → w.started = false ∧ w.stops 0 ≠ .set)
  | .startRoute _ => pool = true ∧ w.started = true ∧ w.stops 0 = .fresh ∧ w.free = .notCalled
  | .serving => pool = true ∧ w.started = true ∧ w.stops 0 = .fresh ∧ w.free = .notCalled
  | .dispatching _ _ => pool = true ∧ w.started = true ∧ w.stops 0 = .fresh ∧ w.free = .notCalled
  | .stopListener _ =>
    w.started = pool ∧ w.free = .notCalled ∧ w.stops 0 ≠ .set ∧ (pool = true → w.stops 0 = .fresh)
  | .stopWorker m =>
    w.started = true ∧ w.free = .notCalled ∧ (i < m → w.stops 0 = .returned) ∧ (m < i → w.stops 0 = .fresh)
  | .joinWorker m => w.free = .notCalled ∧ w.stops 0 = .returned ∧ (i < m → w.started = false)
  | .freeRoute _ => w.started = false ∧ w.free = .notCalled ∧ w.stops 0 ≠ .set
  | .freeWorker m =>
    w.started = false ∧ w.stops 0 ≠ .set ∧ (i < m → w.free = .done) ∧ (m < i → w.free = .notCalled)
  | .exited => w.started = false ∧ w.stops 0 ≠ .set ∧ w.free = .done

/-- What became of slot `j` of `route_ctxs` when `main` is at `p` and has filled `n` of them. -/
def MainPhase.ctx (p : MainPhase) (n j : Nat) : CtxPhase :=
  if n ≤ j then .unused else
  match p with
  | .stopListener m => if j < m then .stopped else .listening
  | .stopWorker _ => .stopped
  | .joinWorker _ => .stopped
  | .freeRoute m => if j < m then .freed else .stopped
  | .freeWorker _ => .freed
  | .exited => .freed
  | _ => .listening

/-- The indices of the loops stay in their ranges. -/
def MainPhase.Bounded (count n : Nat) : MainPhase → Prop
  | .startWorker m => m ≤ count ∧ n = 0
  | .undo m => m ≤ count ∧ n = 0
  | .undoStop m => m < count ∧ n = 0
  | .undoJoin m => m < count ∧ n = 0
  | .dispatching i _ => i < count
  | .stopListener m => m ≤ n
  | .freeRoute m => m ≤ n
  | .stopWorker m => m ≤ count
  | .joinWorker m => m ≤ count
  | .freeWorker m => m ≤ count
  | _ => True

section Fits

variable {p : MainPhase} {pool : Bool} {i k : Nat} {w w' : Worker}

/-- A step that leaves alone what `main` has done to a worker. -/
theorem MainPhase.Fits.frame (fits : p.Fits pool i w) (started : w'.started = w.started) (stops : w'.stops = w.stops)
    (free : w'.free = w.free) : p.Fits pool i w' := by
  cases p <;> simpa only [MainPhase.Fits, started, stops, free] using fits

theorem MainPhase.Fits.stop (fits : p.Fits pool i w) (calls : p.call = some (i, .stop)) (step : StopStep w w') :
    p.Fits pool i w' := by
  cases p with
  | undoStop m =>
    obtain rfl : m = i := by simpa [MainPhase.call] using calls
    obtain ⟨unstarted, uncalled, -, started, -⟩ := fits
    refine ⟨unstarted, step.free ▸ uncalled, ?_, fun _ => step.started ▸ started rfl, ?_⟩ <;> omega
  | stopWorker m =>
    obtain rfl : m = i := by simpa [MainPhase.call] using calls
    obtain ⟨started, uncalled, -⟩ := fits
    refine ⟨step.started ▸ started, step.free ▸ uncalled, ?_, ?_⟩ <;> omega
  | _ => simp [MainPhase.call] at calls

theorem MainPhase.Fits.join (fits : p.Fits pool i w) (calls : p.call = some (i, .join)) (step : JoinStep w w') :
    p.Fits pool i w' := by
  cases p with
  | undoJoin m =>
    obtain rfl : m = i := by simpa [MainPhase.call] using calls
    obtain ⟨unstarted, uncalled, -, stopped, -⟩ := fits
    refine ⟨unstarted, step.free ▸ uncalled, ?_, fun _ => step.stops ▸ stopped rfl, ?_⟩ <;> omega
  | joinWorker m =>
    obtain rfl : m = i := by simpa [MainPhase.call] using calls
    obtain ⟨uncalled, stopped, -⟩ := fits
    exact ⟨step.free ▸ uncalled, step.stops ▸ stopped, by omega⟩
  | _ => simp [MainPhase.call] at calls

theorem MainPhase.call_free (calls : p.call = some (i, .free)) : p = .freeWorker i := by
  cases p with
  | freeWorker m =>
    obtain rfl : m = i := by simpa [MainPhase.call] using calls
    rfl
  | _ => simp [MainPhase.call] at calls

theorem MainPhase.Fits.freed (fits : p.Fits pool i w) (calls : p.call = some (i, .free)) (step : WorkerFreeStep w w') :
    p.Fits pool i w' := by
  rw [MainPhase.call_free calls] at fits ⊢
  obtain ⟨unstarted, stopped, -⟩ := fits
  refine ⟨step.started unstarted, step.stops ▸ stopped, ?_, ?_⟩ <;> omega

end Fits

/-- What holds in every reachable state of the process. -/
structure Sound (g : Setup) (s : Daemon) : Prop where
  workers : ∀ i, WorkerSound g.msgs (s.workers i)
  /-- The workers `worker_pool_start` has not come to are as `worker_pool_init` left them. -/
  unborn : ∀ m, s.phase = .startWorker m → ∀ i, m ≤ i → s.workers i = { worker := initWorker false }
  fits : ∀ i, i < g.count → s.phase.Fits s.poolStarted i (s.workers i).worker
  ctxs : ∀ j, s.ctxs j = s.phase.ctx s.ctxCount j
  log : s.logReady = false → s.phase = .exited ∨ ∃ m, s.phase = .freeWorker m
  bounded : s.phase.Bounded g.count s.ctxCount

theorem sound_start (g : Setup) : Sound g {} where
  workers _ := workerSound_start g.msgs false
  unborn _ _ _ _ := rfl
  fits i inside := by
    refine ⟨rfl, rfl, rfl, ?_⟩
    simp [initWorker]
  ctxs j := by simp [MainPhase.ctx]
  log := nofun
  bounded := ⟨Nat.zero_le _, rfl⟩

namespace Sound

variable {g : Setup} {s s' : Daemon}

/-- One worker changes and `main` stays where it is. -/
theorem works (sound : Sound g s) {i : Nat} {a : Acceptor} {ready : Bool} (worker : WorkerSound g.msgs a)
    (unborn : ∀ m, s.phase = .startWorker m → m ≤ i → a = { worker := initWorker false })
    (fits : i < g.count → s.phase.Fits s.poolStarted i a.worker)
    (log : ready = false → s.phase = .exited ∨ ∃ m, s.phase = .freeWorker m) :
    Sound g { s with workers := Function.update s.workers i a, logReady := ready } where
  workers j := by
    by_cases own : j = i
    · subst own
      simpa using worker
    · simpa [Function.update_of_ne own] using sound.workers j
  unborn m phase j later := by
    by_cases own : j = i
    · subst own
      simpa using unborn m phase later
    · simpa [Function.update_of_ne own] using sound.unborn m phase j later
  fits j inside := by
    by_cases own : j = i
    · subst own
      simpa using fits inside
    · simpa [Function.update_of_ne own] using sound.fits j inside
  ctxs := sound.ctxs
  log := log
  bounded := sound.bounded

/-- `main` moves on and everything else stays. -/
theorem moves (sound : Sound g s) {p : MainPhase} {pool : Bool} {cs : Nat → CtxPhase} {n : Nat}
    (leaves : ∀ m, p ≠ .startWorker m) (fits : ∀ i, i < g.count → p.Fits pool i (s.workers i).worker)
    (ctxs : ∀ j, cs j = p.ctx n j) (log : s.logReady = false → p = .exited ∨ ∃ m, p = .freeWorker m)
    (bounded : p.Bounded g.count n) {next code : Nat} {chosen : List (Option Nat)} :
    Sound g { s with
      phase := p
      poolStarted := pool
      ctxs := cs
      ctxCount := n
      next := next
      chosen := chosen
      exitCode := code } where
  workers := sound.workers
  unborn m phase := absurd phase (leaves m)
  fits := fits
  ctxs := ctxs
  log := log
  bounded := bounded

/-- Until `main` frees the workers the log has its mutex. -/
theorem unlogged (sound : Sound g s) {P : Prop} (busy : s.phase ≠ .exited) (early : ∀ m, s.phase ≠ .freeWorker m) :
    s.logReady = false → P := by
  intro gone
  rcases sound.log gone with exited | ⟨m, freeing⟩
  · exact absurd exited busy
  · exact absurd freeing (early m)

theorem thread (sound : Sound g s) {i : Nat} {e : AcceptorEvent} {a : Acceptor} (own : e.ofThread = true)
    (step : (acceptorMachine g.msgs).step (s.workers i) e = some a) :
    Sound g { s with workers := Function.update s.workers i a } := by
  have moved := ((acceptor_move step).ofThread own).1
  apply sound.works ((sound.workers i).thread own step)
  · intro m phase later
    have running := moved.running
    rw [sound.unborn m phase i later] at running
    exact absurd rfl running
  · intro inside
    exact (sound.fits i inside).frame moved.started moved.stops moved.free
  · exact sound.log

/-- The call `main` is in fits where `main` is. -/
theorem call_fits {p : MainPhase} {pool : Bool} {i : Nat} {c : Call} {e : AcceptorEvent} {a a' : Acceptor}
    (fits : p.Fits pool i a.worker) (phase : p.call = some (i, c)) (makes : c.makes e = true)
    (moved : AcceptorMove a a' e) : p.Fits pool i a'.worker := by
  cases c with
  | enqueue k =>
    obtain ⟨step, -⟩ := moved.enqueue makes
    exact fits.frame step.started step.stops step.free
  | stop => exact fits.stop phase (moved.stop makes).1
  | join => exact fits.join phase (moved.join makes).1
  | free => exact fits.freed phase (moved.free makes).1

theorem call (sound : Sound g s) {i : Nat} {c : Call} {e : AcceptorEvent} {a : Acceptor}
    (phase : s.phase.call = some (i, c)) (makes : c.makes e = true)
    (step : (acceptorMachine g.msgs).step (s.workers i) e = some a) :
    Sound g { s with workers := Function.update s.workers i a, logReady := s.logReady && !e.freesLog } := by
  apply sound.works ((sound.workers i).call makes step)
  · intro m starting
    rw [starting] at phase
    cases phase
  · intro inside
    exact call_fits (sound.fits i inside) phase makes (acceptor_move step)
  · intro gone
    cases ready : s.logReady with
    | false => exact sound.log ready
    | true =>
      -- only the last step of `worker_free` frees the log
      have frees : e.freesLog = true := by simpa [ready] using gone
      have called : c = .free := by
        unfold AcceptorEvent.freesLog at frees
        split at frees
        · cases c with
          | free => rfl
          | _ => cases makes
        · cases frees
      rw [called] at phase
      exact .inr ⟨i, MainPhase.call_free phase⟩

theorem create (sound : Sound g s) {i : Nat} {created : Bool} {w : Worker} (phase : s.phase = .startWorker i)
    (inside : i < g.count) (starts : workerStart (s.workers i).worker created = some w) :
    Sound g { s with
      workers := Function.update s.workers i { s.workers i with worker := w }
      phase := .startWorker (i + 1) } := by
  have new : s.workers i = { worker := initWorker false } := sound.unborn i phase i (Nat.le_refl i)
  have begun : ({ s.workers i with worker := w } : Acceptor) = { worker := initWorker true } := by
    rw [new] at starts ⊢
    cases created with
    | false => cases starts
    | true =>
      cases starts
      rfl
  have bounded := sound.bounded
  rw [phase] at bounded
  rw [begun]
  constructor
  · intro j
    by_cases own : j = i
    · subst own
      simpa using workerSound_start g.msgs true
    · simpa [Function.update_of_ne own] using sound.workers j
  · intro m starting j later
    cases starting
    have other : j ≠ i := by omega
    dsimp only
    rw [Function.update_of_ne other]
    exact sound.unborn i phase j (by omega)
  · intro j before
    have fits := sound.fits j before
    rw [phase] at fits
    obtain ⟨pool, fresh, uncalled, started⟩ := fits
    by_cases own : j = i
    · subst own
      refine ⟨pool, ?_, ?_, ?_⟩ <;> simp [initWorker]
    · dsimp only
      rw [Function.update_of_ne own]
      exact ⟨pool, fresh, uncalled, by rw [started]; omega⟩
  · intro j
    have ctxs := sound.ctxs j
    rw [phase] at ctxs
    simpa [MainPhase.ctx] using ctxs
  · exact sound.unlogged (by simp [phase]) (by simp [phase])
  · exact ⟨inside, bounded.2⟩

theorem goes (sound : Sound g s) {p : MainPhase} (goes : Goes g s p) : Sound g { s with phase := p } := by
  have bounded := sound.bounded
  have fits := sound.fits
  have ctxs := sound.ctxs
  cases goes with
  | undone phase =>
    rw [phase] at bounded fits ctxs
    apply sound.moves (p := .stopListener 0) (by simp) ?_ ?_ (sound.unlogged (by simp [phase]) (by simp [phase])) (Nat.zero_le _)
    · intro i inside
      obtain ⟨pool, uncalled, -, rest⟩ := fits i inside
      exact ⟨by rw [pool]; exact (rest (Nat.zero_le i)).1, uncalled, (rest (Nat.zero_le i)).2, by simp [pool]⟩
    · intro j
      rw [ctxs j, bounded.2]
      rfl
  | @undoNext i phase =>
    rw [phase] at bounded fits ctxs
    apply sound.moves (p := .undoStop i) (by simp) ?_ ctxs (sound.unlogged (by simp [phase]) (by simp [phase]))
    · exact ⟨bounded.1, bounded.2⟩
    · intro j inside
      obtain ⟨pool, uncalled, before, after⟩ := fits j inside
      exact ⟨pool, uncalled, fun less => before (by omega), fun own => (before (by omega)).1,
        fun more => after (by omega)⟩
  | @undoStopped i phase back =>
    rw [phase] at bounded fits ctxs
    apply sound.moves (p := .undoJoin i) (by simp) ?_ ctxs (sound.unlogged (by simp [phase]) (by simp [phase])) bounded
    intro j inside
    obtain ⟨pool, uncalled, before, -, after⟩ := fits j inside
    exact ⟨pool, uncalled, before, fun own => own ▸ back, after⟩
  | @undoJoined i phase back =>
    rw [phase] at bounded fits ctxs
    apply sound.moves (p := .undo i) (by simp) ?_ ctxs (sound.unlogged (by simp [phase]) (by simp [phase]))
    · exact ⟨Nat.le_of_lt bounded.1, bounded.2⟩
    · intro j inside
      obtain ⟨pool, uncalled, before, own, after⟩ := fits j inside
      refine ⟨pool, uncalled, before, ?_⟩
      intro later
      rcases Nat.eq_or_lt_of_le later with same | more
      · subst same
        exact ⟨back, by rw [own rfl]; nofun⟩
      · exact after more
  | serves phase last =>
    rw [phase] at fits ctxs
    exact sound.moves (p := .serving) (by simp) fits ctxs (sound.unlogged (by simp [phase]) (by simp [phase])) trivial
  | dispatched phase back =>
    rw [phase] at fits ctxs
    exact sound.moves (p := .serving) (by simp) fits ctxs (sound.unlogged (by simp [phase]) (by simp [phase])) trivial
  | @listenersStopped j phase last started =>
    rw [phase] at fits ctxs bounded
    apply sound.moves (p := .stopWorker 0) (by simp) ?_ ?_ (sound.unlogged (by simp [phase]) (by simp [phase])) (Nat.zero_le _)
    · intro i inside
      obtain ⟨begun, uncalled, -, fresh⟩ := fits i inside
      exact ⟨begun.trans started, uncalled, by omega, fun _ => fresh started⟩
    · intro i
      rw [ctxs i]
      simp only [MainPhase.ctx]
      split
      · rfl
      · rw [if_pos (by omega)]
  | @unstarted j phase last unstarted =>
    rw [phase] at fits ctxs bounded
    apply sound.moves (p := .freeRoute 0) (by simp) ?_ ?_ (sound.unlogged (by simp [phase]) (by simp [phase])) (Nat.zero_le _)
    · intro i inside
      obtain ⟨begun, uncalled, unset, -⟩ := fits i inside
      exact ⟨begun.trans unstarted, uncalled, unset⟩
    · intro i
      rw [ctxs i]
      simp only [MainPhase.ctx]
      split
      · rfl
      · rw [if_pos (by omega), if_neg (by omega)]
  | @stopped i phase inside back =>
    rw [phase] at fits ctxs bounded
    apply sound.moves (p := .stopWorker (i + 1)) (by simp) ?_ ctxs (sound.unlogged (by simp [phase]) (by simp [phase])) inside
    intro j before
    obtain ⟨started, uncalled, returned, fresh⟩ := fits j before
    refine ⟨started, uncalled, ?_, fun more => fresh (by omega)⟩
    intro less
    by_cases own : j = i
    · exact own ▸ back
    · exact returned (by omega)
  | @allStopped i phase last =>
    rw [phase] at fits ctxs bounded
    apply sound.moves (p := .joinWorker 0) (by simp) ?_ ctxs (sound.unlogged (by simp [phase]) (by simp [phase])) (Nat.zero_le _)
    intro j inside
    obtain ⟨started, uncalled, returned, -⟩ := fits j inside
    exact ⟨uncalled, returned (by omega), by omega⟩
  | @joined i phase inside back =>
    rw [phase] at fits ctxs bounded
    apply sound.moves (p := .joinWorker (i + 1)) (by simp) ?_ ctxs (sound.unlogged (by simp [phase]) (by simp [phase])) inside
    intro j before
    obtain ⟨uncalled, returned, joined⟩ := fits j before
    refine ⟨uncalled, returned, ?_⟩
    intro less
    by_cases own : j = i
    · exact own ▸ back
    · exact joined (by omega)
  | @allJoined i phase last =>
    rw [phase] at fits ctxs bounded
    apply sound.moves (p := .freeRoute 0) (by simp) ?_ ?_ (sound.unlogged (by simp [phase]) (by simp [phase])) (Nat.zero_le _)
    · intro j inside
      obtain ⟨uncalled, returned, joined⟩ := fits j inside
      exact ⟨joined (by omega), uncalled, by rw [returned]; nofun⟩
    · intro j
      rw [ctxs j]
      simp only [MainPhase.ctx]
      split
      · rfl
      · rw [if_neg (by omega)]
  | @routesFreed j phase last =>
    rw [phase] at fits ctxs bounded
    apply sound.moves (p := .freeWorker 0) (by simp) ?_ ?_ (fun _ => .inr ⟨0, rfl⟩) (Nat.zero_le _)
    · intro i inside
      obtain ⟨unstarted, uncalled, unset⟩ := fits i inside
      exact ⟨unstarted, unset, by omega, fun _ => uncalled⟩
    · intro i
      rw [ctxs i]
      simp only [MainPhase.ctx]
      split
      · rfl
      · rw [if_pos (by omega)]
  | @freed i phase inside back =>
    rw [phase] at fits ctxs bounded
    apply sound.moves (p := .freeWorker (i + 1)) (by simp) ?_ ctxs (fun _ => .inr ⟨i + 1, rfl⟩) inside
    intro j before
    obtain ⟨unstarted, unset, done, uncalled⟩ := fits j before
    refine ⟨unstarted, unset, ?_, fun more => uncalled (by omega)⟩
    intro less
    by_cases own : j = i
    · exact own ▸ back
    · exact done (by omega)

/-- `main` is in its event loop, and a worker is chosen for client or packet `k`. -/
theorem dispatches (sound : Sound g s) {i k : Nat} (phase : s.phase = .serving) (inside : i < g.count) {next : Nat}
    {chosen : List (Option Nat)} : Sound g { s with next := next, chosen := chosen, phase := .dispatching i k } := by
  have fits := sound.fits
  have ctxs := sound.ctxs
  rw [phase] at fits ctxs
  exact sound.moves (p := .dispatching i k) (by simp) fits ctxs
    (sound.unlogged (by simp [phase]) (by simp [phase])) inside

/-- `accept_cb` is entered in the lists of a worker. -/
theorem accepts (sound : Sound g s) {i k : Nat} {args : AcceptArgs} {a : Acceptor} (phase : s.phase = .serving)
    (step : (acceptorMachine g.msgs).step (s.workers i) (.accept k args) = some a) :
    Sound g { s with workers := Function.update s.workers i a } := by
  apply sound.works ((sound.workers i).accept step)
  · intro m starting
    rw [phase] at starting
    cases starting
  · intro inside
    cases acceptor_move step with
    | accept worker => rw [worker]; exact sound.fits i inside
  · exact sound.log

theorem workerPoolNext_lt {next i n : Nat} (pick : workerPoolNext g.count next = (some i, n)) : i < g.count := by
  rw [workerPoolNext_some] at pick
  cases pick
  exact Nat.mod_lt _ g.nonempty

theorem step (sound : Sound g s) {e : DaemonEvent} (moved : DaemonMove g s e s') : Sound g s' := by
  have bounded := sound.bounded
  have fits := sound.fits
  have ctxs := sound.ctxs
  cases moved with
  | create phase inside starts => exact sound.create phase inside starts
  | @giveUp i created phase inside fails =>
    rw [phase] at bounded fits ctxs
    apply sound.moves (p := .undo i) (by simp) ?_ ctxs (sound.unlogged (by simp [phase]) (by simp [phase])) bounded
    intro j before
    obtain ⟨pool, fresh, uncalled, started⟩ := fits j before
    refine ⟨pool, uncalled, fun less => ⟨started.2 less, fresh⟩, fun later => ⟨?_, by rw [fresh]; nofun⟩⟩
    apply eq_false_of_ne_true
    intro begun
    have less := started.1 begun
    omega
  | @started i phase last =>
    rw [phase] at bounded fits ctxs
    apply sound.moves (p := .startRoute 0) (by simp) ?_ ctxs (sound.unlogged (by simp [phase]) (by simp [phase])) trivial
    intro j inside
    obtain ⟨-, fresh, uncalled, started⟩ := fits j inside
    exact ⟨rfl, started.2 (by omega), fresh, uncalled⟩
  | @route j phase inside =>
    rw [phase] at bounded fits ctxs
    apply sound.moves (p := .startRoute (j + 1)) (by simp) fits ?_
      (sound.unlogged (by simp [phase]) (by simp [phase])) trivial
    intro i
    by_cases own : i = s.ctxCount
    · subst own
      simp [MainPhase.ctx]
    · rw [Function.update_of_ne own, ctxs i]
      simp only [MainPhase.ctx]
      split
      · rw [if_pos (by omega)]
      · rw [if_neg (by omega)]
  | @routeFails j phase inside =>
    rw [phase] at bounded fits ctxs
    apply sound.moves (p := .stopListener 0) (by simp) ?_ ?_ (sound.unlogged (by simp [phase]) (by simp [phase]))
      (Nat.zero_le _)
    · intro i before
      obtain ⟨pool, started, fresh, uncalled⟩ := fits i before
      exact ⟨started.trans pool.symm, uncalled, by rw [fresh]; nofun, fun _ => fresh⟩
    · exact ctxs
  | drop phase listening step =>
    have same := sound.accepts phase step
    have fits := same.fits
    have ctxs := same.ctxs
    simp only [phase] at fits ctxs
    exact same.moves (p := .serving) (by simp) fits ctxs (same.unlogged (by simp [phase]) (by simp [phase])) trivial
  | accept phase listening pick step =>
    exact (sound.accepts phase step).dispatches phase (workerPoolNext_lt pick)
  | packet phase listening pick => exact sound.dispatches phase (workerPoolNext_lt pick)
  | loopEnds phase =>
    rw [phase] at bounded fits ctxs
    apply sound.moves (p := .stopListener 0) (by simp) ?_ ?_ (sound.unlogged (by simp [phase]) (by simp [phase]))
      (Nat.zero_le _)
    · intro i before
      obtain ⟨pool, started, fresh, uncalled⟩ := fits i before
      exact ⟨started.trans pool.symm, uncalled, by rw [fresh]; nofun, fun _ => fresh⟩
    · exact ctxs
  | call phase inside makes step => exact sound.call phase makes step
  | @stopCtx j phase inside =>
    rw [phase] at bounded fits ctxs
    apply sound.moves (p := .stopListener (j + 1)) (by simp) fits ?_
      (sound.unlogged (by simp [phase]) (by simp [phase])) inside
    intro i
    by_cases own : i = j
    · subst own
      rw [Function.update_self]
      simp only [MainPhase.ctx]
      rw [if_neg (by omega), if_pos (by omega)]
    · rw [Function.update_of_ne own, ctxs i]
      simp only [MainPhase.ctx, show i < j ↔ i < j + 1 by omega]
  | @freeCtx j phase inside =>
    rw [phase] at bounded fits ctxs
    apply sound.moves (p := .freeRoute (j + 1)) (by simp) fits ?_
      (sound.unlogged (by simp [phase]) (by simp [phase])) inside
    intro i
    by_cases own : i = j
    · subst own
      rw [Function.update_self]
      simp only [MainPhase.ctx]
      rw [if_neg (by omega), if_pos (by omega)]
    · rw [Function.update_of_ne own, ctxs i]
      simp only [MainPhase.ctx, show i < j ↔ i < j + 1 by omega]
  | @exit i phase last =>
    rw [phase] at bounded fits ctxs
    constructor
    · exact sound.workers
    · nofun
    · intro j inside
      obtain ⟨unstarted, unset, done, -⟩ := fits j inside
      exact ⟨unstarted, unset, done (by omega)⟩
    · exact ctxs
    · exact fun _ => .inl rfl
    · trivial
  | goes goes => exact sound.goes goes
  | thread inside own step => exact sound.thread own step

end Sound

theorem run_sound {g : Setup} {s : Daemon} {es : List DaemonEvent} (ran : (daemonMachine g).run {} es = some s) :
    Sound g s :=
  Lib.Machine.run_invariant (fun _ _ _ sound step => sound.step (daemon_move step)) (sound_start g) ran

/-! ## Nothing is freed that somebody still uses -/

/-- `main` is in its event loop, where the listeners' callbacks run. -/
def MainPhase.InLoop : MainPhase → Prop
  | .serving => True
  | .dispatching _ _ => True
  | _ => False

/-- The order in which the process is taken down. -/
structure TakenDownInOrder (g : Setup) (s : Daemon) : Prop where
  /-- No callback of a listener runs once its route's listener is gone. -/
  listeners : ∀ j, s.ctxs j = .stopped ∨ s.ctxs j = .freed → ¬ s.phase.InLoop
  /-- A route context is freed when every thread that might use it, or the listening socket in it, is gone. -/
  contexts : ∀ j, s.ctxs j = .freed → ∀ i, i < g.count → (s.workers i).worker.loop.Ended
  /-- A worker's event base is freed after the route contexts, whose clients have events on it. -/
  bases : ∀ i, i < g.count → (s.workers i).worker.free = .done → ∀ j, s.ctxs j = .unused ∨ s.ctxs j = .freed
  /-- The log's mutex, which the first `worker_free` destroys, is there as long as two threads may write. -/
  log : s.logReady = false → ∀ i, i < g.count → (s.workers i).worker.loop.Ended

namespace Sound

variable {g : Setup} {s : Daemon}

theorem ended (sound : Sound g s) {i : Nat} (unstarted : (s.workers i).worker.started = false) :
    (s.workers i).worker.loop.Ended :=
  (sound.workers i).staged.ended unstarted

theorem contexts (sound : Sound g s) {j : Nat} (freed : s.ctxs j = .freed) {i : Nat} (inside : i < g.count) :
    (s.workers i).worker.loop.Ended := by
  apply sound.ended
  have fits := sound.fits i inside
  rw [sound.ctxs j] at freed
  cases phase : s.phase with
  | freeRoute m => rw [phase] at fits; exact fits.1
  | freeWorker m => rw [phase] at fits; exact fits.1
  | exited => rw [phase] at fits; exact fits.1
  | stopListener m =>
    simp only [MainPhase.ctx, phase] at freed
    split at freed
    · cases freed
    · split at freed <;> cases freed
  | _ =>
    simp only [MainPhase.ctx, phase] at freed
    split at freed <;> cases freed

theorem bases (sound : Sound g s) {i : Nat} (inside : i < g.count) (done : (s.workers i).worker.free = .done)
    (j : Nat) : s.ctxs j = .unused ∨ s.ctxs j = .freed := by
  have fits := sound.fits i inside
  rw [sound.ctxs j]
  cases phase : s.phase with
  | freeWorker m =>
    simp only [MainPhase.ctx]
    split
    · exact .inl rfl
    · exact .inr rfl
  | exited =>
    simp only [MainPhase.ctx]
    split
    · exact .inl rfl
    · exact .inr rfl
  | _ => simp [phase, MainPhase.Fits, done] at fits

end Sound

/-- **The process is taken down in order**, in every interleaving of `main` and the workers and whichever call fails. -/
theorem daemon_taken_down_in_order {g : Setup} {s : Daemon} {es : List DaemonEvent}
    (ran : (daemonMachine g).run {} es = some s) : TakenDownInOrder g s := by
  have sound := run_sound ran
  constructor
  · rintro j gone looping
    rw [sound.ctxs j] at gone
    unfold MainPhase.InLoop at looping
    split at looping
    · rename_i phase
      simp only [phase, MainPhase.ctx] at gone
      split at gone <;> simp at gone
    · rename_i phase
      simp only [phase, MainPhase.ctx] at gone
      split at gone <;> simp at gone
    · exact looping
  · exact fun j freed i inside => sound.contexts freed inside
  · exact fun i inside done j => sound.bases inside done j
  · intro gone i inside
    apply sound.ended
    have fits := sound.fits i inside
    rcases sound.log gone with phase | ⟨m, phase⟩ <;> rw [phase] at fits <;> exact fits.1

/-- Two workers, two routes, and a packet among clients like that of `headedMsg`. -/
def pairSetup : Setup where
  count := 2
  nonempty := Nat.zero_lt_two
  routes := 2
  msgs k := if k = 1 then .datagramPacket else .streamClient headedMsg
  ctxOf k := if k = 1 then 1 else 0

/-- A client is adopted, a packet handled, a client without a usable address is dropped, and one more is queued when
the process is told to stop: its worker leaves the loop without having seen it. -/
def servedRun : List DaemonEvent :=
  [.create true, .create true, .next, .route true, .route true, .next,
    .accept true 16, .call (.dispatch 0 true), .call (.worker (.notify 0 .added)), .call (.resume 0), .next,
    .packet, .call (.worker (.enqueue 1)), .call (.worker (.notify 1 .added)), .next,
    .thread 0 (.worker .wake), .thread 0 (.worker (.recv 1)), .thread 0 (.worker .take), .thread 0 (.adopt smoothEnv),
    .accept true 0, .accept true 16, .call (.dispatch 3 true), .call (.worker (.notify 3 .added)), .call (.resume 3),
    .next, .loopEnds true, .next, .next, .next,
    .call (.worker (.stop 0)), .call (.worker (.stopNotify 0 .eagain)), .next, .thread 0 (.worker .check),
    .call (.worker (.stop 0)), .call (.worker (.stopNotify 0 .added)), .next, .next,
    .call (.worker .join), .next, .thread 1 (.worker .wake), .thread 1 (.worker (.recv 2)), .thread 1 (.worker .take),
    .thread 1 (.worker .process), .thread 1 (.worker .check), .call (.worker .join), .next, .next,
    .next, .next, .next,
    .call (.worker .free), .call (.worker (.freeNotify .added)), .call (.worker .freeJoin), .call (.worker .freeTake),
    .call (.worker .freeMsg), .call (.worker .freeDone), .next,
    .call (.worker .free), .call (.worker (.freeNotify .added)), .call (.worker .freeJoin), .call (.worker .freeTake),
    .call (.worker .freeDone), .next, .next]

theorem daemon_taken_down_in_order_served :
    ∃ s, (daemonMachine pairSetup).run {} servedRun = some s ∧ TakenDownInOrder pairSetup s ∧
      s.phase = .exited ∧ s.exitCode = 0 ∧ s.ctxs 1 = .freed ∧ s.logReady = false := by
  have seen : ((daemonMachine pairSetup).run {} servedRun).map
      (fun s => (s.phase, s.exitCode, s.ctxs 1, s.logReady)) = some (.exited, 0, .freed, false) := by
    decide +kernel
  obtain ⟨s, ran, parts⟩ := Option.map_eq_some_iff.1 seen
  simp only [Prod.mk.injEq] at parts
  exact ⟨s, ran, daemon_taken_down_in_order ran, parts⟩

end Tinyproxy
