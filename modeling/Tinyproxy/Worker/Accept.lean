import Tinyproxy.Stream.Adopt
import Tinyproxy.Worker.ExactlyOnce

/-!
# Accepting clients

`accept_cb` over a worker: the callback hands its client descriptor to
`worker_enqueue_stream_client`, whose message carries it through the queue to
`worker_adopt_client_fd`, which closes it or gives it to a bufferevent. Four functions
can close a descriptor on the way. A descriptor is named by the call of `accept_cb`
that was given it, as its message is; datagram packets pass through the same queue and
carry none.

`EntryStep` lists what a step can do to one descriptor. `Entry.Settled` is the ledger
that every such step keeps: what was closed or taken over is what `accept_cb` closed
itself and what became of the message.
-/

namespace Tinyproxy

/-- The payload of a `struct worker_msg`, by its kind. -/
inductive WorkerMsg where
  | streamClient (ac : WorkerStreamClientMsg)
  | datagramPacket

def WorkerMsg.isStream : WorkerMsg → Bool
  | .streamClient _ => true
  | .datagramPacket => false

/-- What `accept_cb` finds: whether `addr` is not null, `socklen`, and whether `worker_pool_next` returns a worker. -/
structure AcceptArgs where
  addr : Bool
  socklen : Int
  worker : Bool

/-- Where a call of `accept_cb` is: not made, inside `dispatch_client_fd` with this `addr_len`, or returned. -/
inductive AcceptPhase where
  | fresh
  | dispatching (addrLen : Nat)
  | returned
  deriving DecidableEq

/-- A worker, the calls of `accept_cb` that use it, the descriptors the four functions have closed and those a
connection's bufferevent has taken over. -/
structure Acceptor where
  worker : Worker
  accepts : Nat → AcceptPhase := fun _ => .fresh
  closed : List Nat := []
  owned : List Nat := []

inductive AcceptorEvent where
  /-- `accept_cb` up to its call of `dispatch_client_fd`. -/
  | accept (k : Nat) (args : AcceptArgs)
  /-- `worker_enqueue_stream_client` up to the critical section of `worker_enqueue_msg`. -/
  | dispatch (k : Nat) (callocOk : Bool)
  /-- `accept_cb` after `dispatch_client_fd` has returned. -/
  | resume (k : Nat)
  /-- `worker_adopt_client_fd` on the message the worker is at. -/
  | adopt (env : AdoptEnv)
  /-- Everything else that happens to the worker. -/
  | worker (e : WorkerEvent)

/-- `sizeof(struct sockaddr_storage)`. -/
def sizeofSockaddrStorage : Nat := 128

/-- The address checks of `accept_cb` and its search for a worker. -/
def acceptCb (s : Acceptor) (k : Nat) (a : AcceptArgs) : Acceptor :=
  if !a.addr ∨ a.socklen ≤ 0 ∨ a.socklen.toNat > sizeofSockaddrStorage then
    { s with closed := s.closed ++ [k], accepts := Function.update s.accepts k .returned }
  else if !a.worker then
    { s with closed := s.closed ++ [k], accepts := Function.update s.accepts k .returned }
  else { s with accepts := Function.update s.accepts k (.dispatching a.socklen.toNat) }

/-- The end of `accept_cb`: `rc` is what `dispatch_client_fd` has returned. -/
def acceptCbEnd (s : Acceptor) (k : Nat) (rc : Option Errno) : Acceptor :=
  if rc ≠ none then { s with closed := s.closed ++ [k], accepts := Function.update s.accepts k .returned }
  else { s with accepts := Function.update s.accepts k .returned }

/-- `worker_enqueue_stream_client` before `worker_enqueue_msg`; `w` and `route` are not null here. -/
def enqueueStreamClientCheck (fd : Int) (addrLen : Nat) (callocOk : Bool) : Option Errno :=
  if ¬ 0 ≤ fd then some .einval else
  if addrLen > sizeofSockaddrStorage then some .einval else
  if !callocOk then some .enomem else
  none

variable (msgs : Nat → WorkerMsg)

/-- `free_worker_msg`. -/
def freeWorkerMsg (s : Acceptor) (k : Nat) : Acceptor :=
  match msgs k with
  | .streamClient ac => if 0 ≤ ac.fd then { s with closed := s.closed ++ [k] } else s
  | .datagramPacket => s

/-- `worker_process_msg` and `free_processed_worker_msg` on the message of a stream client. -/
def adoptStreamClient (s : Acceptor) (k : Nat) (ac : WorkerStreamClientMsg) (env : AdoptEnv) : Acceptor :=
  match workerAdoptClientFd env ac with
  | .closed => { s with closed := s.closed ++ [k] }
  | _ => { s with owned := s.owned ++ [k] }

/-- The worker moves on. -/
def Acceptor.advance (s : Acceptor) (e : WorkerEvent) : Option Acceptor :=
  (workerMachine.step s.worker e).map fun w => { s with worker := w }

/-- One event of the worker that brings no stream client in and adopts none. -/
def stepWorker (s : Acceptor) : WorkerEvent → Option Acceptor
  | .reject k err => if (msgs k).isStream then none else s.advance (.reject k err)
  | .enqueue k => if (msgs k).isStream then none else s.advance (.enqueue k)
  | .process =>
    match s.worker.loop with
    | .processing (some m) => if (msgs m).isStream then none else s.advance .process
    | _ => none
  | .cancel k => (s.advance (.cancel k)).map (freeWorkerMsg msgs · k)
  | .freeMsg =>
    match s.worker.free with
    | .freeing (some m) => (s.advance .freeMsg).map (freeWorkerMsg msgs · m)
    | _ => none
  | e => s.advance e

/-- The machine of one worker and the calls of `accept_cb` that use it. -/
def acceptorMachine : Lib.Machine Acceptor AcceptorEvent where
  step s e := match e with
    | .accept k args => if s.accepts k = .fresh ∧ (msgs k).isStream then some (acceptCb s k args) else none
    | .dispatch k callocOk =>
      match s.accepts k, msgs k with
      | .dispatching addrLen, .streamClient ac =>
        match enqueueStreamClientCheck ac.fd addrLen callocOk with
        | some err => s.advance (.reject k err)
        | none => s.advance (.enqueue k)
      | _, _ => none
    | .resume k =>
      match s.accepts k, s.worker.enqueues k with
      | .dispatching _, .returned rc => some (acceptCbEnd s k rc)
      | _, _ => none
    | .adopt env =>
      match s.worker.loop with
      | .processing (some m) =>
        match msgs m with
        | .streamClient ac => (s.advance .process).map (adoptStreamClient · m ac env)
        | .datagramPacket => none
      | _ => none
    | .worker e => stepWorker msgs s e

/-! ## What a step does to one descriptor -/

/-- How often a message was processed or released. -/
def Worker.handled (w : Worker) (k : Nat) : Nat := w.cancelled.count k + w.processed.count k + w.freed.count k

/-- Everything about descriptor `k`: its two calls, how often its message was handled, and how often it was closed
or taken over. -/
structure Entry where
  phase : AcceptPhase
  enqueue : EnqueuePhase
  handled : Nat
  settled : Nat

def Acceptor.entry (s : Acceptor) (k : Nat) : Entry :=
  ⟨s.accepts k, s.worker.enqueues k, s.worker.handled k, s.closed.count k + s.owned.count k⟩

/-- The call of `accept_cb` gets a message to `worker_enqueue_msg` and finds the worker stopping. -/
def refusedCall (s : Acceptor) : AcceptorEvent → Bool
  | .dispatch k callocOk =>
    match s.accepts k, msgs k with
    | .dispatching addrLen, .streamClient ac =>
      (enqueueStreamClientCheck ac.fd addrLen callocOk).isNone && s.worker.stopping
    | _, _ => false
  | _ => false

/-- Everything a step can do to the entry of a message `msg`; `refused` is whether the step is a refusal. -/
inductive EntryStep (msg : WorkerMsg) (refused : Prop) (n : Entry) : Entry → Prop where
  | same : EntryStep msg refused n n
  /-- No usable address or no worker: `accept_cb` closes. -/
  | drop (stream : msg.isStream = true) (new : n.phase = .fresh) :
      EntryStep msg refused n { n with phase := .returned, settled := n.settled + 1 }
  | call {addrLen : Nat} (stream : msg.isStream = true) (new : n.phase = .fresh) :
      EntryStep msg refused n { n with phase := .dispatching addrLen }
  | reject {addrLen : Nat} {err : Errno} (stream : msg.isStream = true) (inside : n.phase = .dispatching addrLen)
      (early : err = .einval ∨ err = .enomem) :
      EntryStep msg refused n { n with enqueue := .returned (some err) }
  | refuse {addrLen : Nat} {ac : WorkerStreamClientMsg} (stream : msg = .streamClient ac) (valid : 0 ≤ ac.fd)
      (inside : n.phase = .dispatching addrLen) (stopping : refused) :
      EntryStep msg refused n { n with enqueue := .refused }
  | append {addrLen : Nat} {ac : WorkerStreamClientMsg} (stream : msg = .streamClient ac) (valid : 0 ≤ ac.fd)
      (inside : n.phase = .dispatching addrLen) :
      EntryStep msg refused n { n with enqueue := .appended }
  /-- A refused message is freed, and its descriptor closed. -/
  | cancel (stream : msg.isStream = true) (back : n.enqueue = .refused) :
      EntryStep msg refused n
        { n with enqueue := .returned (some .ecanceled), handled := n.handled + 1, settled := n.settled + 1 }
  | notify (queued : n.enqueue = .appended) : EntryStep msg refused n { n with enqueue := .returned none }
  /-- The message is adopted, or freed by `worker_free`. -/
  | settle (stream : msg.isStream = true) :
      EntryStep msg refused n { n with handled := n.handled + 1, settled := n.settled + 1 }
  | resume {addrLen : Nat} {rc : Option Errno} (inside : n.phase = .dispatching addrLen)
      (back : n.enqueue = .returned rc) :
      EntryStep msg refused n
        { n with phase := .returned, settled := n.settled + if rc = none then 0 else 1 }
  /-- A datagram packet: nothing is closed or taken over, and `accept_cb` is not involved. -/
  | packet {enqueue : EnqueuePhase} {handled : Nat} (datagram : msg.isStream = false) :
      EntryStep msg refused n { n with enqueue := enqueue, handled := handled }

/-- How often `accept_cb` itself has closed the descriptor: once, unless its message was queued. -/
def acceptCloses : AcceptPhase → EnqueuePhase → Nat
  | .returned, .returned none => 0
  | .returned, _ => 1
  | _, _ => 0

theorem acceptCloses_of_ne {phase : AcceptPhase} {p : EnqueuePhase} (unreturned : phase ≠ .returned) :
    acceptCloses phase p = 0 := by
  cases phase with
  | returned => exact absurd rfl unreturned
  | _ => rfl

theorem acceptCloses_returned (rc : Option Errno) :
    acceptCloses .returned (.returned rc) = if rc = none then 0 else 1 := by
  cases rc <;> rfl

/-- Both calls of a descriptor, what they promise about its message, and the ledger. -/
structure Entry.Settled (msg : WorkerMsg) (n : Entry) : Prop where
  ledger : n.settled = acceptCloses n.phase n.enqueue + if msg.isStream then n.handled else 0
  uncalled : msg.isStream = true → n.phase = .fresh → n.enqueue = .fresh
  foreign : msg.isStream = false → n.phase = .fresh
  back : n.phase = .returned → n.enqueue = .fresh ∨ ∃ rc, n.enqueue = .returned rc
  valid : ∀ ac, msg = .streamClient ac → n.enqueue = .refused ∨ n.enqueue.Queued → 0 ≤ ac.fd

namespace Entry.Settled

variable {msg : WorkerMsg} {refused : Prop} {n n' : Entry}

/-- While `worker_enqueue_msg` is at work `accept_cb` has not returned. -/
theorem unreturned (settled : n.Settled msg) (busy : n.enqueue = .refused ∨ n.enqueue = .appended) :
    n.phase ≠ .returned := by
  intro phase
  rcases settled.back phase with early | ⟨rc, done⟩
  · rw [early] at busy
    rcases busy with h | h <;> cases h
  · rw [done] at busy
    rcases busy with h | h <;> cases h

/-- Until `accept_cb` returns it has closed nothing itself. -/
theorem open_ledger (settled : n.Settled msg) (waits : n.phase ≠ .returned) :
    n.settled = if msg.isStream then n.handled else 0 := by
  have ledger := settled.ledger
  rwa [acceptCloses_of_ne waits, Nat.zero_add] at ledger

/-- The call goes on, with its message handled `m` times, before `accept_cb` has returned. -/
theorem proceeds (settled : n.Settled msg) {p : EnqueuePhase} {m : Nat} (waits : n.phase ≠ .returned)
    (called : msg.isStream = true → n.phase ≠ .fresh) (handles : m = 0 ∨ msg.isStream = true)
    (valid : ∀ ac, msg = .streamClient ac → p = .refused ∨ p.Queued → 0 ≤ ac.fd) :
    Entry.Settled msg { n with enqueue := p, handled := n.handled + m, settled := n.settled + m } where
  ledger := by
    rw [acceptCloses_of_ne waits, settled.open_ledger waits]
    rcases handles with none | stream
    · simp [none]
    · simp [stream]
  uncalled stream new := absurd new (called stream)
  foreign := settled.foreign
  back returned := absurd returned waits
  valid := valid

/-- The call goes on inside `accept_cb`. -/
theorem dispatches (settled : n.Settled msg) {addrLen : Nat} {p : EnqueuePhase} (inside : n.phase = .dispatching addrLen)
    (valid : ∀ ac, msg = .streamClient ac → p = .refused ∨ p.Queued → 0 ≤ ac.fd) :
    Entry.Settled msg { n with enqueue := p } := by
  apply settled.proceeds (m := 0) ?_ ?_ (.inl rfl) valid
  · simp [inside]
  · simp [inside]

theorem step (settled : n.Settled msg) (moved : EntryStep msg refused n n') : n'.Settled msg := by
  have busy_called : n.enqueue = .refused ∨ n.enqueue = .appended → msg.isStream = true → n.phase ≠ .fresh := by
    intro busy stream new
    rw [settled.uncalled stream new] at busy
    rcases busy with h | h <;> cases h
  cases moved with
  | same => exact settled
  | drop stream new =>
    have unsent := settled.uncalled stream new
    have ledger := settled.open_ledger (by simp [new])
    refine ⟨?_, nofun, ?_, fun _ => .inl unsent, settled.valid⟩
    · have closes : acceptCloses .returned n.enqueue = 1 := by rw [unsent]; rfl
      dsimp only
      rw [closes, ledger]
      omega
    · intro datagram
      rw [stream] at datagram
      cases datagram
  | call stream new =>
    have ledger := settled.open_ledger (by simp [new])
    refine ⟨?_, nofun, ?_, nofun, settled.valid⟩
    · dsimp only
      rw [acceptCloses_of_ne (by simp), ledger, Nat.zero_add]
    · intro datagram
      rw [stream] at datagram
      cases datagram
  | @reject addrLen err stream inside early =>
    apply settled.dispatches inside
    rintro ac - (h | h | h) <;> cases h
  | @refuse addrLen ac stream fd inside stopping =>
    apply settled.dispatches inside
    rintro ac' same -
    rw [stream] at same
    cases same
    exact fd
  | @append addrLen ac stream fd inside =>
    apply settled.dispatches inside
    rintro ac' same -
    rw [stream] at same
    cases same
    exact fd
  | cancel stream back =>
    refine settled.proceeds (settled.unreturned (.inl back)) (busy_called (.inl back)) (.inr stream) ?_
    rintro ac - (h | h | h) <;> cases h
  | notify queued =>
    refine settled.proceeds (m := 0) (settled.unreturned (.inr queued)) (busy_called (.inr queued)) (.inl rfl) ?_
    intro ac same _
    exact settled.valid ac same (.inr (.inl queued))
  | settle stream =>
    refine ⟨?_, settled.uncalled, settled.foreign, settled.back, settled.valid⟩
    have ledger := settled.ledger
    simp only [stream, if_true] at ledger ⊢
    omega
  | @resume addrLen rc inside back =>
    have ledger := settled.open_ledger (by simp [inside])
    refine ⟨?_, nofun, ?_, fun _ => .inr ⟨rc, back⟩, settled.valid⟩
    · dsimp only
      rw [back, acceptCloses_returned, ledger]
      omega
    · intro datagram
      have new := settled.foreign datagram
      rw [inside] at new
      cases new
  | packet datagram =>
    have new := settled.foreign datagram
    refine ⟨?_, ?_, settled.foreign, ?_, ?_⟩
    · have ledger := settled.ledger
      simpa [new, datagram, acceptCloses] using ledger
    · intro stream
      rw [datagram] at stream
      cases stream
    · intro returned
      rw [new] at returned
      cases returned
    · rintro ac rfl
      cases datagram

end Entry.Settled

end Tinyproxy
