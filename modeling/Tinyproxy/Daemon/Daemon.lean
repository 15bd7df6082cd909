import Tinyproxy.Worker.Ownership

/-!
# The whole process

`main` from `worker_pool_start` on, with the pool's workers beside it: it starts the
workers one by one, then the routes, dispatches the listeners' callbacks to the workers
in turn, and at `out` stops the listeners, stops and joins the workers, frees the routes
and then the workers. The workers' threads run between any two of its steps.

`main` is one thread, so it is in at most one call that touches a worker; `MainPhase`
says which, and `Call` what such a call may do. The clients and packets that reach a
listener are numbered in the order of their callbacks, and `chosen` records the worker
each of them was given to.
-/

namespace Tinyproxy

/-- What `main` has set up before `worker_pool_start`: the pool of `worker_pool_init`, which refuses to make
an empty one, and the routes. `msgs k` is the message of the callback numbered `k`, and `ctxOf k` the route whose
listener it comes from. -/
structure Setup where
  count : Nat
  nonempty : 0 < count
  routes : Nat
  msgs : Nat → WorkerMsg
  ctxOf : Nat → Nat

/-- A slot of `route_ctxs`: `stop_route_listeners` leaves what the workers use, `free_route` does not. -/
inductive CtxPhase where
  | unused
  | listening
  | stopped
  | freed
  deriving DecidableEq

/-- Where `main` is; the number is the index of the loop it is in. -/
inductive MainPhase where
  | startWorker (i : Nat)
  /-- `worker_pool_start` gives up and has this many workers left to stop and join. -/
  | undo (i : Nat)
  | undoStop (i : Nat)
  | undoJoin (i : Nat)
  | startRoute (j : Nat)
  /-- In `event_base_dispatch`, between two callbacks. -/
  | serving
  /-- In the callback of client or packet `k`, which goes to worker `i`. -/
  | dispatching (i k : Nat)
  | stopListener (j : Nat)
  | stopWorker (i : Nat)
  | joinWorker (i : Nat)
  | freeRoute (j : Nat)
  | freeWorker (i : Nat)
  | exited
  deriving DecidableEq

/-- A call of `main` that works on one worker. -/
inductive Call where
  | enqueue (k : Nat)
  | stop
  | join
  | free
  deriving DecidableEq

/-- The call `main` is in, and the worker it is about. -/
def MainPhase.call : MainPhase → Option (Nat × Call)
  | .undoStop i => some (i, .stop)
  | .undoJoin i => some (i, .join)
  | .dispatching i k => some (i, .enqueue k)
  | .stopWorker i => some (i, .stop)
  | .joinWorker i => some (i, .join)
  | .freeWorker i => some (i, .free)
  | _ => none

/-- The steps a call consists of. `main` is the only one to call `worker_stop` outside `worker_free`, so its call is
number 0. -/
def Call.makes : Call → AcceptorEvent → Bool
  | .enqueue k, .dispatch i _ => i = k
  | .enqueue k, .resume i => i = k
  | .enqueue k, .worker (.reject i _) => i = k
  | .enqueue k, .worker (.enqueue i) => i = k
  | .enqueue k, .worker (.cancel i) => i = k
  | .enqueue k, .worker (.notify i _) => i = k
  | .stop, .worker (.stop j) => j = 0
  | .stop, .worker (.stopNotify j _) => j = 0
  | .join, .worker .join => true
  | .free, .worker .free => true
  | .free, .worker (.freeNotify _) => true
  | .free, .worker .freeJoin => true
  | .free, .worker .freeTake => true
  | .free, .worker .freeMsg => true
  | .free, .worker .freeDone => true
  | _, _ => false

/-- The steps of a worker's own thread. -/
def AcceptorEvent.ofThread : AcceptorEvent → Bool
  | .adopt _ => true
  | .worker .wake => true
  | .worker (.recv _) => true
  | .worker .recvBlocked => true
  | .worker .take => true
  | .worker .process => true
  | .worker .check => true
  | _ => false

/-- Whether the call has returned. `worker_join` of a worker that is not started returns at once. -/
def Call.returned (msgs : Nat → WorkerMsg) (a : Acceptor) : Call → Bool
  | .enqueue k =>
    if (msgs k).isStream then a.accepts k = .returned else
    match a.worker.enqueues k with
    | .returned _ => true
    | _ => false
  | .stop => a.worker.stops 0 = .returned
  | .join => !a.worker.started
  | .free => a.worker.free = .done

/-- The process. `ctxCount` is `route_ctx_count`, `next` the field of the pool, `logReady` the flag of the log's
mutex; `worker_pool_init` has made the workers, none of them started. -/
structure Daemon where
  phase : MainPhase := .startWorker 0
  workers : Nat → Acceptor := fun _ => { worker := initWorker false }
  next : Nat := 0
  chosen : List (Option Nat) := []
  ctxs : Nat → CtxPhase := fun _ => .unused
  ctxCount : Nat := 0
  poolStarted : Bool := false
  logReady : Bool := true
  exitCode : Nat := 1

inductive DaemonEvent where
  /-- `worker_start` on the next worker; `created` is whether its thread was created. -/
  | create (created : Bool)
  /-- `validate_route` and `start_route` on the next route. -/
  | route (started : Bool)
  /-- `accept_cb` up to its call of `dispatch_client_fd`. -/
  | accept (addr : Bool) (socklen : Int)
  /-- `listen_read_cb` up to its call of `worker_enqueue_datagram_packet`. -/
  | packet
  /-- `event_base_dispatch` returns, after a signal or an error. -/
  | loopEnds (ok : Bool)
  /-- One step of the call `main` is in. -/
  | call (e : AcceptorEvent)
  /-- `main` goes on after a call, or from one loop to the next. -/
  | next
  /-- One step of a worker's thread. -/
  | thread (i : Nat) (e : AcceptorEvent)

/-- `worker_start`; `none` where the thread is not created. -/
def workerStart (w : Worker) (created : Bool) : Option Worker :=
  if w.started then some w else
  if created then some { w with started := true, loop := .waiting } else
  none

/-- `worker_pool_next`: the worker and the new value of `next`, a `size_t`. -/
def workerPoolNext (count next : Nat) : Option Nat × Nat :=
  if count = 0 then (none, next) else (some (next % count), (next + 1) % 18446744073709551616)

/-- The first check of `accept_cb`. -/
def usableAddress (addr : Bool) (socklen : Int) : Bool :=
  addr && decide (0 < socklen) && decide (socklen.toNat ≤ sizeofSockaddrStorage)

/-- One worker makes a step. -/
def Daemon.onWorker (s : Daemon) (msgs : Nat → WorkerMsg) (i : Nat) (e : AcceptorEvent) : Option Daemon :=
  ((acceptorMachine msgs).step (s.workers i) e).map fun a => { s with workers := Function.update s.workers i a }

/-- `worker_free` ends with a call of `klog_free`. -/
def AcceptorEvent.freesLog : AcceptorEvent → Bool
  | .worker .freeDone => true
  | _ => false

variable (g : Setup)

/-- `accept_cb`. A client that no worker is chosen for is closed at once, and entered in the lists of worker 0. -/
def stepAccept (s : Daemon) (addr : Bool) (socklen : Int) : Option Daemon :=
  let k := s.chosen.length
  if s.phase = .serving ∧ s.ctxs (g.ctxOf k) = .listening then
    let picked := if usableAddress addr socklen then workerPoolNext g.count s.next else (none, s.next)
    (s.onWorker g.msgs (picked.1.getD 0) (.accept k ⟨addr, socklen, picked.1.isSome⟩)).map fun s =>
      { s with
        next := picked.2
        chosen := s.chosen ++ [picked.1]
        phase := match picked.1 with
          | some i => .dispatching i k
          | none => .serving }
  else none

/-- `listen_read_cb` and `dispatch_datagram_packet`, once `recvfrom` has returned a packet. -/
def stepPacket (s : Daemon) : Option Daemon :=
  let k := s.chosen.length
  if s.phase = .serving ∧ s.ctxs (g.ctxOf k) = .listening ∧ (g.msgs k).isStream = false then
    let picked := workerPoolNext g.count s.next
    some { s with
      next := picked.2
      chosen := s.chosen ++ [picked.1]
      phase := match picked.1 with
        | some i => .dispatching i k
        | none => .serving }
  else none

/-- `main` goes on: a loop is at its end or at its next index, or a call has returned. -/
def stepNext (s : Daemon) : Option Daemon :=
  let back (i : Nat) (c : Call) (p : MainPhase) : Option Daemon :=
    if c.returned g.msgs (s.workers i) then some { s with phase := p } else none
  match s.phase with
  | .startWorker i => if i < g.count then none else some { s with poolStarted := true, phase := .startRoute 0 }
  | .undo 0 => some { s with phase := .stopListener 0 }
  | .undo (i + 1) => some { s with phase := .undoStop i }
  | .undoStop i => back i .stop (.undoJoin i)
  | .undoJoin i => back i .join (.undo i)
  | .startRoute j => if j < g.routes then none else some { s with phase := .serving }
  | .serving => none
  | .dispatching i k => back i (.enqueue k) .serving
  | .stopListener j =>
    if j < s.ctxCount then
      some { s with ctxs := Function.update s.ctxs j .stopped, phase := .stopListener (j + 1) }
    else some { s with phase := if s.poolStarted then .stopWorker 0 else .freeRoute 0 }
  | .stopWorker i =>
    if i < g.count then back i .stop (.stopWorker (i + 1)) else some { s with phase := .joinWorker 0 }
  | .joinWorker i =>
    if i < g.count then back i .join (.joinWorker (i + 1)) else some { s with phase := .freeRoute 0 }
  | .freeRoute j =>
    if j < s.ctxCount then some { s with ctxs := Function.update s.ctxs j .freed, phase := .freeRoute (j + 1) }
    else some { s with phase := .freeWorker 0 }
  | .freeWorker i =>
    if i < g.count then back i .free (.freeWorker (i + 1)) else some { s with logReady := false, phase := .exited }
  | .exited => none

/-- The machine of the whole process. -/
def daemonMachine : Lib.Machine Daemon DaemonEvent where
  step s e := match e with
    | .create created =>
      match s.phase with
      | .startWorker i =>
        if i < g.count then
          match workerStart (s.workers i).worker created with
          | some w =>
            some { s with
              workers := Function.update s.workers i { s.workers i with worker := w }
              phase := .startWorker (i + 1) }
          | none => some { s with phase := .undo i }
        else none
      | _ => none
    | .route started =>
      match s.phase with
      | .startRoute j =>
        if j < g.routes then
          if started then
            some { s with
              ctxs := Function.update s.ctxs s.ctxCount .listening
              ctxCount := s.ctxCount + 1
              phase := .startRoute (j + 1) }
          else some { s with phase := .stopListener 0 }
        else none
      | _ => none
    | .accept addr socklen => stepAccept g s addr socklen
    | .packet => stepPacket g s
    | .loopEnds ok =>
      if s.phase = .serving then some { s with exitCode := if ok then 0 else 1, phase := .stopListener 0 } else none
    | .call e =>
      match s.phase.call with
      | some (i, c) =>
        if i < g.count ∧ c.makes e then
          (s.onWorker g.msgs i e).map fun s => { s with logReady := s.logReady && !e.freesLog }
        else none
      | none => none
    | .next => stepNext g s
    | .thread i e => if i < g.count ∧ e.ofThread then s.onWorker g.msgs i e else none

/-! ## What a step can do -/

/-- Everything a step can do to a worker and the calls that use it. -/
inductive AcceptorMove (a a' : Acceptor) : AcceptorEvent → Prop where
  | accept {k : Nat} {args : AcceptArgs} {p : AcceptPhase} (worker : a'.worker = a.worker)
      (accepts : a'.accepts = Function.update a.accepts k p) (new : a.accepts k = .fresh)
      (dropped : args.worker = false → p = .returned) : AcceptorMove a a' (.accept k args)
  | resume {k addrLen : Nat} (worker : a'.worker = a.worker) (inside : a.accepts k = .dispatching addrLen)
      (accepts : a'.accepts = Function.update a.accepts k .returned) : AcceptorMove a a' (.resume k)
  | reject {k addrLen : Nat} {callocOk : Bool} {err : Errno} (accepts : a'.accepts = a.accepts)
      (inside : a.accepts k = .dispatching addrLen) (moved : WorkerMove a.worker (.reject k err) a'.worker) :
      AcceptorMove a a' (.dispatch k callocOk)
  | dispatch {k addrLen : Nat} {callocOk : Bool} (accepts : a'.accepts = a.accepts)
      (inside : a.accepts k = .dispatching addrLen) (moved : WorkerMove a.worker (.enqueue k) a'.worker) :
      AcceptorMove a a' (.dispatch k callocOk)
  | adopt {env : AdoptEnv} (accepts : a'.accepts = a.accepts) (moved : WorkerMove a.worker .process a'.worker) :
      AcceptorMove a a' (.adopt env)
  | worker {e : WorkerEvent} (accepts : a'.accepts = a.accepts) (moved : WorkerMove a.worker e a'.worker) :
      AcceptorMove a a' (.worker e)

section Steps

variable {msgs : Nat → WorkerMsg} {a a' : Acceptor}

theorem acceptCb_accepts (a : Acceptor) (k : Nat) (args : AcceptArgs) :
    ∃ p, (acceptCb a k args).accepts = Function.update a.accepts k p ∧ (args.worker = false → p = .returned) := by
  unfold acceptCb
  split
  · exact ⟨.returned, rfl, fun _ => rfl⟩
  · split
    · exact ⟨.returned, rfl, fun _ => rfl⟩
    · rename_i worker
      exact ⟨_, rfl, fun none => absurd (by simp [none]) worker⟩

theorem acceptCbEnd_accepts (a : Acceptor) (k : Nat) (rc : Option Errno) :
    (acceptCbEnd a k rc).accepts = Function.update a.accepts k .returned := by
  unfold acceptCbEnd
  split <;> rfl

theorem advance_accepts {e : WorkerEvent} (step : a.advance e = some a') : a'.accepts = a.accepts := by
  obtain ⟨w, -, rfl⟩ := Option.map_eq_some_iff.1 step
  rfl

theorem freeWorkerMsg_accepts (a : Acceptor) (k : Nat) : (freeWorkerMsg msgs a k).accepts = a.accepts := by
  unfold freeWorkerMsg
  split
  · split <;> rfl
  · rfl

theorem adoptStreamClient_accepts (a : Acceptor) (k : Nat) (ac : WorkerStreamClientMsg) (env : AdoptEnv) :
    (adoptStreamClient a k ac env).accepts = a.accepts := by
  unfold adoptStreamClient
  split <;> rfl

theorem stepWorker_accepts {e : WorkerEvent} (step : stepWorker msgs a e = some a') : a'.accepts = a.accepts := by
  cases e with
  | cancel k =>
    obtain ⟨t, advanced, rfl⟩ := Option.map_eq_some_iff.1 step
    rw [freeWorkerMsg_accepts, advance_accepts advanced]
  | freeMsg =>
    simp only [stepWorker] at step
    split at step
    · obtain ⟨t, advanced, rfl⟩ := Option.map_eq_some_iff.1 step
      rw [freeWorkerMsg_accepts, advance_accepts advanced]
    · cases step
  | process =>
    simp only [stepWorker] at step
    split at step
    · split at step
      · cases step
      · exact advance_accepts step
    · cases step
  | reject k err =>
    simp only [stepWorker] at step
    split at step
    · cases step
    · exact advance_accepts step
  | enqueue k =>
    simp only [stepWorker] at step
    split at step
    · cases step
    · exact advance_accepts step
  | _ => exact advance_accepts step

/-- **What a step does to a worker and the calls that use it.** -/
theorem acceptor_move {e : AcceptorEvent} (step : (acceptorMachine msgs).step a e = some a') : AcceptorMove a a' e := by
  cases e with
  | accept k args =>
    obtain ⟨⟨new, -⟩, rfl⟩ := Lib.guard_some step
    obtain ⟨p, accepts, dropped⟩ := acceptCb_accepts a k args
    exact .accept (acceptCb_worker a k args) accepts new dropped
  | dispatch k callocOk =>
    simp only [acceptorMachine] at step
    split at step
    · rename_i addrLen ac inside stream
      split at step
      · exact .reject (advance_accepts step) inside (worker_move (advance_worker step))
      · exact .dispatch (advance_accepts step) inside (worker_move (advance_worker step))
    · cases step
  | resume k =>
    simp only [acceptorMachine] at step
    split at step
    · rename_i addrLen rc inside back
      cases step
      exact .resume (acceptCbEnd_worker a k rc) inside (acceptCbEnd_accepts a k rc)
    · cases step
  | adopt env =>
    simp only [acceptorMachine] at step
    split at step
    · split at step
      · obtain ⟨t, advanced, rfl⟩ := Option.map_eq_some_iff.1 step
        refine .adopt ?_ ?_
        · rw [adoptStreamClient_accepts, advance_accepts advanced]
        · rw [adoptStreamClient_worker]
          exact worker_move (advance_worker advanced)
      · cases step
    · cases step
  | worker e => exact .worker (stepWorker_accepts step) (worker_move (stepWorker_worker step))

end Steps

/-- The steps of `main` that change nothing but where it is. -/
inductive Goes (s : Daemon) : MainPhase → Prop where
  | undone (phase : s.phase = .undo 0) : Goes s (.stopListener 0)
  | undoNext {i : Nat} (phase : s.phase = .undo (i + 1)) : Goes s (.undoStop i)
  | undoStopped {i : Nat} (phase : s.phase = .undoStop i) (back : (s.workers i).worker.stops 0 = .returned) :
      Goes s (.undoJoin i)
  | undoJoined {i : Nat} (phase : s.phase = .undoJoin i) (back : (s.workers i).worker.started = false) : Goes s (.undo i)
  | serves {j : Nat} (phase : s.phase = .startRoute j) (last : g.routes ≤ j) : Goes s .serving
  | dispatched {i k : Nat} (phase : s.phase = .dispatching i k)
      (back : (Call.enqueue k).returned g.msgs (s.workers i) = true) : Goes s .serving
  | listenersStopped {j : Nat} (phase : s.phase = .stopListener j) (last : s.ctxCount ≤ j)
      (started : s.poolStarted = true) : Goes s (.stopWorker 0)
  | unstarted {j : Nat} (phase : s.phase = .stopListener j) (last : s.ctxCount ≤ j)
      (unstarted : s.poolStarted = false) : Goes s (.freeRoute 0)
  | stopped {i : Nat} (phase : s.phase = .stopWorker i) (inside : i < g.count)
      (back : (s.workers i).worker.stops 0 = .returned) : Goes s (.stopWorker (i + 1))
  | allStopped {i : Nat} (phase : s.phase = .stopWorker i) (last : g.count ≤ i) : Goes s (.joinWorker 0)
  | joined {i : Nat} (phase : s.phase = .joinWorker i) (inside : i < g.count)
      (back : (s.workers i).worker.started = false) : Goes s (.joinWorker (i + 1))
  | allJoined {i : Nat} (phase : s.phase = .joinWorker i) (last : g.count ≤ i) : Goes s (.freeRoute 0)
  | routesFreed {j : Nat} (phase : s.phase = .freeRoute j) (last : s.ctxCount ≤ j) : Goes s (.freeWorker 0)
  | freed {i : Nat} (phase : s.phase = .freeWorker i) (inside : i < g.count)
      (back : (s.workers i).worker.free = .done) : Goes s (.freeWorker (i + 1))

/-- Everything a step can do to the process. -/
inductive DaemonMove (s : Daemon) : DaemonEvent → Daemon → Prop where
  /-- A worker is started. -/
  | create {i : Nat} {created : Bool} {w : Worker} (phase : s.phase = .startWorker i) (inside : i < g.count)
      (starts : workerStart (s.workers i).worker created = some w) :
      DaemonMove s (.create created)
        { s with
          workers := Function.update s.workers i { s.workers i with worker := w }
          phase := .startWorker (i + 1) }
  /-- A worker's thread cannot be created. -/
  | giveUp {i : Nat} {created : Bool} (phase : s.phase = .startWorker i) (inside : i < g.count)
      (fails : workerStart (s.workers i).worker created = none) :
      DaemonMove s (.create created) { s with phase := .undo i }
  | started {i : Nat} (phase : s.phase = .startWorker i) (last : g.count ≤ i) :
      DaemonMove s .next { s with poolStarted := true, phase := .startRoute 0 }
  | route {j : Nat} (phase : s.phase = .startRoute j) (inside : j < g.routes) :
      DaemonMove s (.route true)
        { s with
          ctxs := Function.update s.ctxs s.ctxCount .listening
          ctxCount := s.ctxCount + 1
          phase := .startRoute (j + 1) }
  | routeFails {j : Nat} (phase : s.phase = .startRoute j) (inside : j < g.routes) :
      DaemonMove s (.route false) { s with phase := .stopListener 0 }
  /-- `accept_cb` closes its client. -/
  | drop {addr : Bool} {socklen : Int} {a : Acceptor} (phase : s.phase = .serving)
      (listening : s.ctxs (g.ctxOf s.chosen.length) = .listening)
      (step : (acceptorMachine g.msgs).step (s.workers 0) (.accept s.chosen.length ⟨addr, socklen, false⟩) = some a) :
      DaemonMove s (.accept addr socklen)
        { s with
          workers := Function.update s.workers 0 a
          chosen := s.chosen ++ [none]
          phase := .serving }
  /-- `accept_cb` chooses a worker. -/
  | accept {addr : Bool} {socklen : Int} {i n : Nat} {a : Acceptor} (phase : s.phase = .serving)
      (listening : s.ctxs (g.ctxOf s.chosen.length) = .listening)
      (pick : workerPoolNext g.count s.next = (some i, n))
      (step : (acceptorMachine g.msgs).step (s.workers i) (.accept s.chosen.length ⟨addr, socklen, true⟩) = some a) :
      DaemonMove s (.accept addr socklen)
        { s with
          workers := Function.update s.workers i a
          next := n
          chosen := s.chosen ++ [some i]
          phase := .dispatching i s.chosen.length }
  | packet {i n : Nat} (phase : s.phase = .serving) (listening : s.ctxs (g.ctxOf s.chosen.length) = .listening)
      (pick : workerPoolNext g.count s.next = (some i, n)) (datagram : (g.msgs s.chosen.length).isStream = false) :
      DaemonMove s .packet
        { s with
          next := n
          chosen := s.chosen ++ [some i]
          phase := .dispatching i s.chosen.length }
  | loopEnds {ok : Bool} (phase : s.phase = .serving) :
      DaemonMove s (.loopEnds ok) { s with exitCode := if ok then 0 else 1, phase := .stopListener 0 }
  | call {i : Nat} {c : Call} {e : AcceptorEvent} {a : Acceptor} (phase : s.phase.call = some (i, c))
      (inside : i < g.count) (makes : c.makes e = true) (step : (acceptorMachine g.msgs).step (s.workers i) e = some a) :
      DaemonMove s (.call e)
        { s with workers := Function.update s.workers i a, logReady := s.logReady && !e.freesLog }
  | stopCtx {j : Nat} (phase : s.phase = .stopListener j) (inside : j < s.ctxCount) :
      DaemonMove s .next
        { s with ctxs := Function.update s.ctxs j .stopped, phase := .stopListener (j + 1) }
  | freeCtx {j : Nat} (phase : s.phase = .freeRoute j) (inside : j < s.ctxCount) :
      DaemonMove s .next { s with ctxs := Function.update s.ctxs j .freed, phase := .freeRoute (j + 1) }
  | exit {i : Nat} (phase : s.phase = .freeWorker i) (last : g.count ≤ i) :
      DaemonMove s .next { s with logReady := false, phase := .exited }
  | goes {p : MainPhase} (goes : Goes g s p) : DaemonMove s .next { s with phase := p }
  | thread {i : Nat} {e : AcceptorEvent} {a : Acceptor} (inside : i < g.count) (own : e.ofThread = true)
      (step : (acceptorMachine g.msgs).step (s.workers i) e = some a) :
      DaemonMove s (.thread i e) { s with workers := Function.update s.workers i a }

variable {g : Setup} {s s' : Daemon}

theorem workerPoolNext_some (g : Setup) (next : Nat) :
    workerPoolNext g.count next = (some (next % g.count), (next + 1) % 18446744073709551616) := by
  have := g.nonempty
  rw [workerPoolNext, if_neg (by omega)]

theorem onWorker_some {msgs : Nat → WorkerMsg} {i : Nat} {e : AcceptorEvent} (step : s.onWorker msgs i e = some s') :
    ∃ a, (acceptorMachine msgs).step (s.workers i) e = some a ∧
      s' = { s with workers := Function.update s.workers i a } := by
  obtain ⟨a, moved, rfl⟩ := Option.map_eq_some_iff.1 step
  exact ⟨a, moved, rfl⟩

theorem next_move (step : stepNext g s = some s') : DaemonMove g s .next s' := by
  unfold stepNext at step
  dsimp only at step
  split at step
  case h_1 i phase =>
    split at step
    · cases step
    · cases step
      exact .started phase (by omega)
  case h_2 phase =>
    cases step
    exact .goes (.undone phase)
  case h_3 i phase =>
    cases step
    exact .goes (.undoNext phase)
  case h_4 i phase =>
    obtain ⟨back, rfl⟩ := Lib.guard_some step
    exact .goes (.undoStopped phase (of_decide_eq_true back))
  case h_5 i phase =>
    obtain ⟨back, rfl⟩ := Lib.guard_some step
    exact .goes (.undoJoined phase (by simpa [Call.returned] using back))
  case h_6 j phase =>
    split at step
    · cases step
    · cases step
      exact .goes (.serves phase (by omega))
  case h_7 => cases step
  case h_8 i k phase =>
    obtain ⟨back, rfl⟩ := Lib.guard_some step
    exact .goes (.dispatched phase back)
  case h_9 j phase =>
    split at step
    · rename_i inside
      cases step
      exact .stopCtx phase inside
    · cases step
      split
      · rename_i last started
        exact .goes (.listenersStopped phase (by omega) started)
      · rename_i last unstarted
        exact .goes (.unstarted phase (by omega) (eq_false_of_ne_true unstarted))
  case h_10 i phase =>
    split at step
    · rename_i inside
      obtain ⟨back, rfl⟩ := Lib.guard_some step
      exact .goes (.stopped phase inside (of_decide_eq_true back))
    · cases step
      exact .goes (.allStopped phase (by omega))
  case h_11 i phase =>
    split at step
    · rename_i inside
      obtain ⟨back, rfl⟩ := Lib.guard_some step
      exact .goes (.joined phase inside (by simpa [Call.returned] using back))
    · cases step
      exact .goes (.allJoined phase (by omega))
  case h_12 j phase =>
    split at step
    · rename_i inside
      cases step
      exact .freeCtx phase inside
    · cases step
      exact .goes (.routesFreed phase (by omega))
  case h_13 i phase =>
    split at step
    · rename_i inside
      obtain ⟨back, rfl⟩ := Lib.guard_some step
      exact .goes (.freed phase inside (of_decide_eq_true back))
    · cases step
      exact .exit phase (by omega)
  case h_14 => cases step

theorem accept_move {addr : Bool} {socklen : Int} (step : stepAccept g s addr socklen = some s') :
    DaemonMove g s (.accept addr socklen) s' := by
  unfold stepAccept at step
  dsimp only at step
  split at step
  · rename_i ready
    obtain ⟨t, worked, rfl⟩ := Option.map_eq_some_iff.1 step
    obtain ⟨a, moved, rfl⟩ := onWorker_some worked
    cases usable : usableAddress addr socklen with
    | false =>
      simp only [usable] at moved
      exact .drop ready.1 ready.2 moved
    | true =>
      simp only [usable, if_true, workerPoolNext_some] at moved ⊢
      exact .accept ready.1 ready.2 (workerPoolNext_some g s.next) moved
  · cases step

/-- **What a step does to the process.** -/
theorem daemon_move {e : DaemonEvent} (step : (daemonMachine g).step s e = some s') : DaemonMove g s e s' := by
  cases e with
  | create created =>
    simp only [daemonMachine] at step
    split at step
    · rename_i i phase
      split at step
      · rename_i inside
        split at step
        · rename_i w starts
          cases step
          exact .create phase inside starts
        · rename_i fails
          cases step
          exact .giveUp phase inside fails
      · cases step
    · cases step
  | route started =>
    simp only [daemonMachine] at step
    split at step
    · rename_i j phase
      split at step
      · rename_i inside
        cases started with
        | true =>
          cases step
          exact .route phase inside
        | false =>
          cases step
          exact .routeFails phase inside
      · cases step
    · cases step
  | accept addr socklen => exact accept_move step
  | packet =>
    simp only [daemonMachine, stepPacket] at step
    obtain ⟨⟨phase, listening, datagram⟩, rfl⟩ := Lib.guard_some step
    rw [workerPoolNext_some]
    exact .packet phase listening (workerPoolNext_some g s.next) datagram
  | loopEnds ok =>
    obtain ⟨phase, rfl⟩ := Lib.guard_some step
    exact .loopEnds phase
  | call e =>
    simp only [daemonMachine] at step
    split at step
    · rename_i i c phase
      split at step
      · rename_i ready
        obtain ⟨t, worked, rfl⟩ := Option.map_eq_some_iff.1 step
        obtain ⟨a, moved, rfl⟩ := onWorker_some worked
        exact .call phase ready.1 ready.2 moved
      · cases step
    · cases step
  | next => exact next_move step
  | thread i e =>
    simp only [daemonMachine] at step
    split at step
    · rename_i ready
      obtain ⟨a, moved, rfl⟩ := onWorker_some step
      exact .thread ready.1 ready.2 moved
    · cases step

end Tinyproxy
