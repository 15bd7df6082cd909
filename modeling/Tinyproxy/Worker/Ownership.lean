import Tinyproxy.Worker.Accept

/-!
# Who closes an accepted socket

Every event of a worker and of the calls of `accept_cb` that use it is on the list of
`EntryStep`, so the ledger holds in every state. A message is settled once, as the
queue hands each message out once; the only descriptor that can be closed twice is that
of a call a stopping worker has refused, which `free_worker_msg` closes before
`accept_cb` does.
-/

namespace Tinyproxy

/-! ## Every step is on the list -/

section Steps

variable {msgs : Nat → WorkerMsg} {s s' : Acceptor}

theorem advance_some {e : WorkerEvent} (step : s.advance e = some s') :
    ∃ w, WorkerMove s.worker e w ∧ s' = { s with worker := w } := by
  obtain ⟨w, moved, rfl⟩ := Option.map_eq_some_iff.1 step
  exact ⟨w, worker_move moved, rfl⟩

/-- `free_worker_msg` closes the descriptor of a stream client, if it has a valid one. -/
theorem freeWorkerMsg_stream {k : Nat} {ac : WorkerStreamClientMsg} (stream : msgs k = .streamClient ac)
    (valid : 0 ≤ ac.fd) : freeWorkerMsg msgs s k = { s with closed := s.closed ++ [k] } := by
  simp [freeWorkerMsg, stream, valid]

theorem freeWorkerMsg_datagram {k : Nat} (datagram : msgs k = .datagramPacket) : freeWorkerMsg msgs s k = s := by
  simp [freeWorkerMsg, datagram]

theorem EntryStep.of_eq {msg : WorkerMsg} {refused : Prop} {n n' : Entry} (same : n' = n) :
    EntryStep msg refused n n' := by
  rw [same]
  exact .same

theorem count_snoc_self (l : List Nat) (k : Nat) : (l ++ [k]).count k = l.count k + 1 := by
  rw [List.count_append, List.count_singleton_self]

theorem count_snoc_of_ne (l : List Nat) {i k : Nat} (other : i ≠ k) : (l ++ [k]).count i = l.count i := by
  rw [List.count_append, List.count_singleton, if_neg (by simpa using Ne.symm other), Nat.add_zero]

theorem accept_entry {k : Nat} {args : AcceptArgs} (new : s.accepts k = .fresh) (stream : (msgs k).isStream = true)
    (refused : Prop) (i : Nat) : EntryStep (msgs i) refused (s.entry i) ((acceptCb s k args).entry i) := by
  by_cases own : i = k
  · subst own
    have closes : EntryStep (msgs i) refused (s.entry i)
        (Acceptor.entry { s with closed := s.closed ++ [i], accepts := Function.update s.accepts i .returned } i) := by
      simp only [Acceptor.entry, Function.update_self, count_snoc_self, Nat.add_right_comm]
      exact .drop stream new
    unfold acceptCb
    split
    · exact closes
    · split
      · exact closes
      · simp only [Acceptor.entry, Function.update_self]
        exact .call stream new
  · apply EntryStep.of_eq
    unfold acceptCb
    split
    · simp [Acceptor.entry, Function.update_of_ne own, count_snoc_of_ne _ own]
    · split
      · simp [Acceptor.entry, Function.update_of_ne own, count_snoc_of_ne _ own]
      · simp [Acceptor.entry, Function.update_of_ne own]

theorem resume_entry {k addrLen : Nat} {rc : Option Errno} (inside : s.accepts k = .dispatching addrLen)
    (back : s.worker.enqueues k = .returned rc) (refused : Prop) (i : Nat) :
    EntryStep (msgs i) refused (s.entry i) ((acceptCbEnd s k rc).entry i) := by
  by_cases own : i = k
  · subst own
    have step : EntryStep (msgs i) refused (s.entry i) _ := .resume inside back
    cases rc with
    | none => simpa [acceptCbEnd, Acceptor.entry] using step
    | some err => simpa [acceptCbEnd, Acceptor.entry, count_snoc_self, Nat.add_right_comm] using step
  · apply EntryStep.of_eq
    cases rc with
    | none => simp [acceptCbEnd, Acceptor.entry, Function.update_of_ne own]
    | some err => simp [acceptCbEnd, Acceptor.entry, Function.update_of_ne own, count_snoc_of_ne _ own]

/-- A step of the worker that moves the call of message `k` and nothing else. -/
theorem call_entry {k : Nat} {p : EnqueuePhase} {w : Worker} (moved : w.enqueues = Function.update s.worker.enqueues k p)
    (handled : ∀ i, w.handled i = s.worker.handled i) {refused : Prop}
    (own : EntryStep (msgs k) refused (s.entry k) { s.entry k with enqueue := p }) (i : Nat) :
    EntryStep (msgs i) refused (s.entry i) (Acceptor.entry { s with worker := w } i) := by
  by_cases same : i = k
  · subst same
    simpa [Acceptor.entry, moved, handled] using own
  · apply EntryStep.of_eq
    simp [Acceptor.entry, moved, handled, Function.update_of_ne same]

theorem dispatch_entry {k addrLen : Nat} {ac : WorkerStreamClientMsg} {callocOk : Bool}
    (inside : s.accepts k = .dispatching addrLen) (stream : msgs k = .streamClient ac)
    (step : (match enqueueStreamClientCheck ac.fd addrLen callocOk with
      | some err => s.advance (.reject k err)
      | none => s.advance (.enqueue k)) = some s') (i : Nat) :
    EntryStep (msgs i) (refusedCall msgs s (.dispatch k callocOk) = true) (s.entry i) (s'.entry i) := by
  have isStream : (msgs k).isStream = true := by rw [stream]; rfl
  split at step
  · rename_i err failed
    obtain ⟨w, moved, rfl⟩ := advance_some step
    cases moved with
    | reject new early =>
      refine call_entry (w := _) ?_ ?_ (.reject isStream inside early) i
      · rfl
      · exact fun _ => rfl
  · rename_i passed
    have valid : 0 ≤ ac.fd := by
      by_contra invalid
      simp [enqueueStreamClientCheck, invalid] at passed
    obtain ⟨w, moved, rfl⟩ := advance_some step
    cases moved with
    | refuse new stopping =>
      have refused : refusedCall msgs s (.dispatch k callocOk) = true := by
        simp [refusedCall, inside, stream, passed, stopping]
      refine call_entry (w := _) ?_ ?_ (.refuse stream valid inside refused) i
      · rfl
      · exact fun _ => rfl
    | append new running =>
      refine call_entry (w := _) ?_ ?_ (.append stream valid inside) i
      · rfl
      · exact fun _ => rfl

/-- A step of the worker that touches no call and no message. -/
theorem still_entry {w : Worker} (calls : w.enqueues = s.worker.enqueues)
    (handled : ∀ i, w.handled i = s.worker.handled i) {refused : Prop} (i : Nat) :
    EntryStep (msgs i) refused (s.entry i) (Acceptor.entry { s with worker := w } i) := by
  apply EntryStep.of_eq
  simp [Acceptor.entry, calls, handled]

/-- A step of the worker that touches a datagram packet only. -/
theorem packet_entry {m : Nat} {w : Worker} (datagram : (msgs m).isStream = false)
    (others : ∀ i, i ≠ m → w.enqueues i = s.worker.enqueues i ∧ w.handled i = s.worker.handled i)
    {refused : Prop} (i : Nat) :
    EntryStep (msgs i) refused (s.entry i) (Acceptor.entry { s with worker := w } i) := by
  by_cases own : i = m
  · subst own
    exact .packet datagram
  · apply EntryStep.of_eq
    simp [Acceptor.entry, others i own]

/-- The message of a stream client is handled, and its descriptor closed or taken over. -/
theorem settle_entry {m : Nat} {w : Worker} {closed owned : List Nat} (stream : (msgs m).isStream = true)
    (calls : w.enqueues = s.worker.enqueues)
    (handled : ∀ i, w.handled i = s.worker.handled i + if i = m then 1 else 0)
    (settled : ∀ i, closed.count i + owned.count i = s.closed.count i + s.owned.count i + if i = m then 1 else 0)
    {refused : Prop} (i : Nat) :
    EntryStep (msgs i) refused (s.entry i)
      (Acceptor.entry { s with worker := w, closed := closed, owned := owned } i) := by
  by_cases own : i = m
  · subst own
    have step : EntryStep (msgs i) refused (s.entry i) _ := .settle stream
    simpa [Acceptor.entry, calls, handled, settled] using step
  · apply EntryStep.of_eq
    simp [Acceptor.entry, calls, handled, settled, own]

theorem count_snoc (l : List Nat) (i k : Nat) : (l ++ [k]).count i = l.count i + if i = k then 1 else 0 := by
  by_cases own : i = k
  · subst own
    rw [count_snoc_self, if_pos rfl]
  · rw [count_snoc_of_ne l own, if_neg own, Nat.add_zero]

theorem adopt_entry {m : Nat} {ac : WorkerStreamClientMsg} {env : AdoptEnv} {refused : Prop}
    (current : s.worker.loop = .processing (some m)) (stream : msgs m = .streamClient ac)
    (step : (s.advance .process).map (adoptStreamClient · m ac env) = some s') (i : Nat) :
    EntryStep (msgs i) refused (s.entry i) (s'.entry i) := by
  have isStream : (msgs m).isStream = true := by rw [stream]; rfl
  obtain ⟨t, advanced, rfl⟩ := Option.map_eq_some_iff.1 step
  obtain ⟨w, moved, rfl⟩ := advance_some advanced
  cases moved with
  | @process m' current' =>
    rw [current] at current'
    cases current'
    have handled : ∀ i, Worker.handled
        { s.worker with loop := .processing (s.worker.pending.next m), processed := s.worker.processed ++ [m] } i =
          s.worker.handled i + if i = m then 1 else 0 := by
      intro i
      simp only [Worker.handled, count_snoc]
      omega
    unfold adoptStreamClient
    split
    · refine settle_entry isStream ?_ handled ?_ i
      · rfl
      · intro i
        dsimp only
        rw [count_snoc]
        omega
    · refine settle_entry isStream ?_ handled ?_ i
      · rfl
      · intro i
        dsimp only
        rw [count_snoc]
        omega

/-- The message the loop of `worker_free` is at was queued. -/
theorem freeing_queued {w : Worker} {c : Lib.Channel Nat} (refines : Refines w c) {m : Nat}
    (current : w.free = .freeing (some m)) : (w.enqueues m).Queued := by
  obtain ⟨taken, left, queue, split, walked, freeing, holds⟩ := refines.carries.pending
  rw [current] at freeing
  obtain ⟨left, rfl, rest⟩ := freeing.uncons
  rw [← refines.recorded.appended, ← refines.carries.accepted, ← c.conserved, split]
  simp

/-- A refused call releases its message. -/
theorem cancel_entry {k : Nat} {refused : Prop} (settled : ∀ k, (s.entry k).Settled (msgs k))
    (step : (s.advance (.cancel k)).map (freeWorkerMsg msgs · k) = some s') (i : Nat) :
    EntryStep (msgs i) refused (s.entry i) (s'.entry i) := by
  obtain ⟨t, advanced, rfl⟩ := Option.map_eq_some_iff.1 step
  obtain ⟨w, moved, rfl⟩ := advance_some advanced
  cases moved with
  | cancel back =>
    match stream : msgs k with
    | .datagramPacket =>
      rw [freeWorkerMsg_datagram stream]
      refine packet_entry (m := k) (by rw [stream]; rfl) ?_ i
      intro i other
      simp only [Worker.handled, Function.update_of_ne other, count_snoc_of_ne _ other, and_self]
    | .streamClient ac =>
      rw [freeWorkerMsg_stream stream ((settled k).valid ac stream (.inl back))]
      by_cases own : i = k
      · subst own
        have gone : EntryStep (msgs i) refused (s.entry i) _ := .cancel (by rw [stream]; rfl) back
        simpa [Acceptor.entry, Worker.handled, count_snoc_self, Nat.add_right_comm] using gone
      · apply EntryStep.of_eq
        simp [Acceptor.entry, Worker.handled, Function.update_of_ne own, count_snoc_of_ne _ own]

/-- `worker_free` releases a message that nobody will process. -/
theorem freeMsg_entry {m : Nat} {refused : Prop} (settled : ∀ k, (s.entry k).Settled (msgs k))
    (queued : (s.worker.enqueues m).Queued) (current : s.worker.free = .freeing (some m))
    (step : (s.advance .freeMsg).map (freeWorkerMsg msgs · m) = some s') (i : Nat) :
    EntryStep (msgs i) refused (s.entry i) (s'.entry i) := by
  obtain ⟨t, advanced, rfl⟩ := Option.map_eq_some_iff.1 step
  obtain ⟨w, moved, rfl⟩ := advance_some advanced
  cases moved with
  | @freeMsg m' current' =>
    rw [current] at current'
    cases current'
    match stream : msgs m with
    | .datagramPacket =>
      rw [freeWorkerMsg_datagram stream]
      refine packet_entry (m := m) (by rw [stream]; rfl) ?_ i
      intro i other
      simp only [Worker.handled, count_snoc_of_ne _ other, and_self]
    | .streamClient ac =>
      rw [freeWorkerMsg_stream stream ((settled m).valid ac stream (.inr queued))]
      have isStream : (msgs m).isStream = true := by rw [stream]; rfl
      refine settle_entry isStream ?_ ?_ ?_ i
      · rfl
      · intro i
        simp only [Worker.handled, count_snoc]
        omega
      · intro i
        dsimp only
        rw [count_snoc]
        omega

/-- A step of the worker that touches no message and no call of `worker_enqueue_msg`. -/
theorem advance_still {e : WorkerEvent} {refused : Prop} (step : s.advance e = some s')
    (still : ∀ w, WorkerMove s.worker e w → w.enqueues = s.worker.enqueues ∧ ∀ i, w.handled i = s.worker.handled i)
    (i : Nat) : EntryStep (msgs i) refused (s.entry i) (s'.entry i) := by
  obtain ⟨w, moved, rfl⟩ := advance_some step
  obtain ⟨calls, handled⟩ := still w moved
  exact still_entry calls handled i

/-- What an event of the worker does to a descriptor. -/
theorem worker_entry {e : WorkerEvent} {c : Lib.Channel Nat} {refused : Prop}
    (settled : ∀ k, (s.entry k).Settled (msgs k)) (refines : Refines s.worker c)
    (step : stepWorker msgs s e = some s') (i : Nat) : EntryStep (msgs i) refused (s.entry i) (s'.entry i) := by
  cases e with
  | reject k err =>
    simp only [stepWorker] at step
    split at step
    · cases step
    · rename_i datagram
      obtain ⟨w, moved, rfl⟩ := advance_some step
      cases moved with
      | reject new early =>
        refine packet_entry (eq_false_of_ne_true datagram) ?_ i
        intro j other
        exact ⟨Function.update_of_ne other _ _, rfl⟩
  | enqueue k =>
    simp only [stepWorker] at step
    split at step
    · cases step
    · rename_i datagram
      obtain ⟨w, moved, rfl⟩ := advance_some step
      refine packet_entry (eq_false_of_ne_true datagram) ?_ i
      intro j other
      cases moved with
      | refuse new stopping => exact ⟨Function.update_of_ne other _ _, rfl⟩
      | append new running => exact ⟨Function.update_of_ne other _ _, rfl⟩
  | process =>
    simp only [stepWorker] at step
    split at step
    · rename_i m current
      split at step
      · cases step
      · rename_i datagram
        obtain ⟨w, moved, rfl⟩ := advance_some step
        cases moved with
        | @process m' current' =>
          rw [current] at current'
          cases current'
          refine packet_entry (eq_false_of_ne_true datagram) ?_ i
          intro j other
          simp only [Worker.handled, count_snoc_of_ne _ other, and_self]
    · cases step
  | cancel k => exact cancel_entry settled step i
  | freeMsg =>
    simp only [stepWorker] at step
    split at step
    · rename_i m current
      exact freeMsg_entry settled (freeing_queued refines current) current step i
    · cases step
  | notify k sent =>
    obtain ⟨w, moved, rfl⟩ := advance_some step
    cases moved with
    | notify queued =>
      refine call_entry (w := _) ?_ ?_ (.notify queued) i
      · rfl
      · exact fun _ => rfl
  | _ =>
    apply advance_still step
    intro w moved
    cases moved
    exact ⟨rfl, fun _ => rfl⟩

/-- **What a step does to a descriptor.** -/
theorem acceptor_entry {e : AcceptorEvent} {c : Lib.Channel Nat} (settled : ∀ k, (s.entry k).Settled (msgs k))
    (refines : Refines s.worker c) (step : (acceptorMachine msgs).step s e = some s') (i : Nat) :
    EntryStep (msgs i) (refusedCall msgs s e = true) (s.entry i) (s'.entry i) := by
  cases e with
  | accept k args =>
    obtain ⟨⟨new, stream⟩, rfl⟩ := Lib.guard_some step
    exact accept_entry new stream _ i
  | dispatch k callocOk =>
    simp only [acceptorMachine] at step
    split at step
    · rename_i addrLen ac inside stream
      exact dispatch_entry inside stream step i
    · cases step
  | resume k =>
    simp only [acceptorMachine] at step
    split at step
    · rename_i addrLen rc inside back
      cases step
      exact resume_entry inside back _ i
    · cases step
  | adopt env =>
    simp only [acceptorMachine] at step
    split at step
    · rename_i m current
      split at step
      · rename_i ac stream
        exact adopt_entry current stream step i
      · cases step
    · cases step
  | worker e => exact worker_entry settled refines step i

theorem advance_worker {e : WorkerEvent} (step : s.advance e = some s') :
    workerMachine.step s.worker e = some s'.worker := by
  obtain ⟨w, moved, rfl⟩ := Option.map_eq_some_iff.1 step
  exact moved

theorem freeWorkerMsg_worker (s : Acceptor) (k : Nat) : (freeWorkerMsg msgs s k).worker = s.worker := by
  unfold freeWorkerMsg
  split
  · split <;> rfl
  · rfl

theorem adoptStreamClient_worker (s : Acceptor) (k : Nat) (ac : WorkerStreamClientMsg) (env : AdoptEnv) :
    (adoptStreamClient s k ac env).worker = s.worker := by
  unfold adoptStreamClient
  split <;> rfl

theorem acceptCb_worker (s : Acceptor) (k : Nat) (a : AcceptArgs) : (acceptCb s k a).worker = s.worker := by
  unfold acceptCb
  split
  · rfl
  · split <;> rfl

theorem acceptCbEnd_worker (s : Acceptor) (k : Nat) (rc : Option Errno) : (acceptCbEnd s k rc).worker = s.worker := by
  unfold acceptCbEnd
  split <;> rfl

theorem stepWorker_worker {e : WorkerEvent} (step : stepWorker msgs s e = some s') :
    workerMachine.step s.worker e = some s'.worker := by
  cases e with
  | reject k err =>
    simp only [stepWorker] at step
    split at step
    · cases step
    · exact advance_worker step
  | enqueue k =>
    simp only [stepWorker] at step
    split at step
    · cases step
    · exact advance_worker step
  | process =>
    simp only [stepWorker] at step
    split at step
    · split at step
      · cases step
      · exact advance_worker step
    · cases step
  | cancel k =>
    obtain ⟨t, advanced, rfl⟩ := Option.map_eq_some_iff.1 step
    rw [freeWorkerMsg_worker]
    exact advance_worker advanced
  | freeMsg =>
    simp only [stepWorker] at step
    split at step
    · obtain ⟨t, advanced, rfl⟩ := Option.map_eq_some_iff.1 step
      rw [freeWorkerMsg_worker]
      exact advance_worker advanced
    · cases step
  | _ => exact advance_worker step

/-- The worker inside is a worker: each step is one of its own, or leaves it alone. -/
theorem acceptor_worker {e : AcceptorEvent} (step : (acceptorMachine msgs).step s e = some s') :
    s'.worker = s.worker ∨ ∃ e', workerMachine.step s.worker e' = some s'.worker := by
  cases e with
  | accept k args =>
    obtain ⟨-, rfl⟩ := Lib.guard_some step
    exact .inl (acceptCb_worker s k args)
  | dispatch k callocOk =>
    simp only [acceptorMachine] at step
    split at step
    · split at step <;> exact .inr ⟨_, advance_worker step⟩
    · cases step
  | resume k =>
    simp only [acceptorMachine] at step
    split at step
    · cases step
      exact .inl (acceptCbEnd_worker s k _)
    · cases step
  | adopt env =>
    simp only [acceptorMachine] at step
    split at step
    · split at step
      · obtain ⟨t, advanced, rfl⟩ := Option.map_eq_some_iff.1 step
        rw [adoptStreamClient_worker]
        exact .inr ⟨_, advance_worker advanced⟩
      · cases step
    · cases step
  | worker e => exact .inr ⟨e, stepWorker_worker step⟩

/-- What every reachable state satisfies, whatever the worker does. -/
structure Accounted (msgs : Nat → WorkerMsg) (s : Acceptor) : Prop where
  entries : ∀ k, (s.entry k).Settled (msgs k)
  refines : ∃ c, Refines s.worker c

theorem accounted_start (msgs : Nat → WorkerMsg) (started : Bool) :
    Accounted msgs { worker := initWorker started } where
  entries k := by
    refine ⟨?_, fun _ _ => rfl, fun _ => rfl, nofun, ?_⟩
    · simp [Acceptor.entry, Worker.handled, initWorker, acceptCloses]
    · rintro ac - (h | h | h) <;> cases h
  refines := ⟨_, refines_initWorker started⟩

theorem Accounted.step (accounted : Accounted msgs s) {e : AcceptorEvent}
    (step : (acceptorMachine msgs).step s e = some s') : Accounted msgs s' := by
  obtain ⟨c, refines⟩ := accounted.refines
  constructor
  · intro k
    exact (accounted.entries k).step (acceptor_entry accounted.entries refines step k)
  · rcases acceptor_worker step with same | ⟨e', moved⟩
    · rw [same]
      exact ⟨c, refines⟩
    · obtain ⟨ms, c', -, refines'⟩ := worker_simulates_fifo s.worker e' s'.worker c refines moved
      exact ⟨c', refines'⟩

/-- A stream client's call was never refused. -/
def Unrefused (msgs : Nat → WorkerMsg) (s : Acceptor) : Prop :=
  ∀ k, (msgs k).isStream = true →
    s.worker.enqueues k ≠ .refused ∧ s.worker.enqueues k ≠ .returned (some .ecanceled)

theorem EntryStep.unrefused {msg : WorkerMsg} {refused : Prop} {n n' : Entry} (moved : EntryStep msg refused n n')
    (never : ¬ refused) (stream : msg.isStream = true)
    (before : n.enqueue ≠ .refused ∧ n.enqueue ≠ .returned (some .ecanceled)) :
    n'.enqueue ≠ .refused ∧ n'.enqueue ≠ .returned (some .ecanceled) := by
  cases moved with
  | refuse _ _ _ stopping => exact absurd stopping never
  | cancel _ back => exact absurd back before.1
  | packet datagram =>
    rw [stream] at datagram
    cases datagram
  | reject _ _ early => rcases early with rfl | rfl <;> exact ⟨nofun, nofun⟩
  | append => exact ⟨nofun, nofun⟩
  | notify => exact ⟨nofun, nofun⟩
  | same => exact before
  | drop => exact before
  | call => exact before
  | settle => exact before
  | resume => exact before

end Steps

/-! ## Single ownership -/

/-- Everything that will happen to the descriptor of call `k` has happened: `accept_cb` has returned and its message,
if it was queued, was processed or the worker is gone. -/
def Acceptor.Finished (s : Acceptor) (k : Nat) : Prop :=
  s.accepts k = .returned ∧
    (s.worker.enqueues k = .returned none → k ∈ s.worker.processed ∨ s.worker.free = .done)

/-- Each descriptor has one owner. -/
structure SingleOwner (msgs : Nat → WorkerMsg) (s : Acceptor) : Prop where
  atMostOnce : ∀ k, (msgs k).isStream = true → s.closed.count k ≤ 1
  neverAfter : ∀ k, (msgs k).isStream = true → k ∈ s.owned → k ∉ s.closed
  exactlyOnce : ∀ k, (msgs k).isStream = true → s.Finished k → k ∉ s.owned → s.closed.count k = 1

variable {msgs : Nat → WorkerMsg}

theorem releases_eq_zero {p : EnqueuePhase} (kept : p ≠ .returned (some .ecanceled)) : p.releases = 0 := by
  unfold EnqueuePhase.releases
  split
  · exact absurd rfl kept
  · rfl

theorem acceptCloses_queued {phase : AcceptPhase} {p : EnqueuePhase} (waits : p = .appended → phase ≠ .returned)
    (queued : p.Queued) : acceptCloses phase p = 0 := by
  rcases queued with appended | returned
  · exact acceptCloses_of_ne (waits appended)
  · rw [returned]
    cases phase <;> rfl

theorem acceptCloses_le (phase : AcceptPhase) (p : EnqueuePhase) : acceptCloses phase p ≤ 1 := by
  unfold acceptCloses
  split <;> omega

theorem acceptCloses_unqueued {p : EnqueuePhase} (unqueued : ¬ p.Queued) : acceptCloses .returned p = 1 := by
  cases p with
  | returned rc =>
    cases rc with
    | none => exact absurd (.inr rfl) unqueued
    | some err => rfl
  | _ => rfl

namespace Accounted

variable {s : Acceptor} {k : Nat}

/-- The ledger of a descriptor whose call was not refused. -/
theorem ledger (accounted : Accounted msgs s) (stream : (msgs k).isStream = true)
    (kept : s.worker.enqueues k ≠ .returned (some .ecanceled)) :
    s.closed.count k + s.owned.count k =
      acceptCloses (s.accepts k) (s.worker.enqueues k) + (s.worker.processed.count k + s.worker.freed.count k) := by
  have ledger : s.closed.count k + s.owned.count k =
      acceptCloses (s.accepts k) (s.worker.enqueues k) + if (msgs k).isStream then s.worker.handled k else 0 :=
    (accounted.entries k).ledger
  obtain ⟨c, refines⟩ := accounted.refines
  rw [ledger, if_pos stream, Worker.handled, refines.recorded.cancelled, releases_eq_zero kept]
  omega

/-- A queued message: `accept_cb` leaves its descriptor alone, the worker settles it once. -/
theorem queued (accounted : Accounted msgs s) (stream : (msgs k).isStream = true)
    (queued : (s.worker.enqueues k).Queued) :
    s.closed.count k + s.owned.count k ≤ 1 ∧ (s.Finished k → s.closed.count k + s.owned.count k = 1) := by
  have kept : s.worker.enqueues k ≠ .returned (some .ecanceled) := by
    intro refused
    rw [refused] at queued
    rcases queued with h | h <;> cases h
  have waits : s.worker.enqueues k = .appended → s.accepts k ≠ .returned :=
    fun appended => (accounted.entries k).unreturned (.inr appended)
  obtain ⟨c, refines⟩ := accounted.refines
  have once : s.worker.appended.count k = 1 :=
    List.count_eq_one_of_mem refines.recorded.distinct ((refines.recorded.appended k).2 queued)
  have counted := refines.counted k
  rw [accounted.ledger stream kept, acceptCloses_queued waits queued]
  constructor
  · omega
  · rintro ⟨returned, ended⟩
    have back : s.worker.enqueues k = .returned none := queued.resolve_left fun appended => waits appended returned
    rcases ended back with processed | done
    · have some : 0 < s.worker.processed.count k := List.count_pos_iff.2 processed
      omega
    · rw [refines.drained done, List.count_nil] at counted
      omega

/-- Any other message: only `accept_cb` can close its descriptor. -/
theorem unqueued (accounted : Accounted msgs s) (stream : (msgs k).isStream = true)
    (kept : s.worker.enqueues k ≠ .returned (some .ecanceled)) (unqueued : ¬ (s.worker.enqueues k).Queued) :
    s.closed.count k + s.owned.count k ≤ 1 ∧ (s.Finished k → s.closed.count k + s.owned.count k = 1) := by
  obtain ⟨c, refines⟩ := accounted.refines
  have unknown : s.worker.appended.count k = 0 :=
    List.count_eq_zero_of_not_mem fun mem => unqueued ((refines.recorded.appended k).1 mem)
  have counted := refines.counted k
  have at_most := acceptCloses_le (s.accepts k) (s.worker.enqueues k)
  rw [accounted.ledger stream kept]
  constructor
  · omega
  · rintro ⟨returned, -⟩
    rw [returned, acceptCloses_unqueued unqueued]
    omega

/-- Without a refusal each descriptor has one owner. -/
theorem singleOwner (accounted : Accounted msgs s) (unrefused : Unrefused msgs s) : SingleOwner msgs s := by
  have settled : ∀ k, (msgs k).isStream = true →
      s.closed.count k + s.owned.count k ≤ 1 ∧ (s.Finished k → s.closed.count k + s.owned.count k = 1) := by
    intro k stream
    by_cases queued : (s.worker.enqueues k).Queued
    · exact accounted.queued stream queued
    · exact accounted.unqueued stream (unrefused k stream).2 queued
  constructor
  · intro k stream
    have total := (settled k stream).1
    omega
  · intro k stream owned closed
    have total := (settled k stream).1
    have first : 0 < s.owned.count k := List.count_pos_iff.2 owned
    have second : 0 < s.closed.count k := List.count_pos_iff.2 closed
    omega
  · intro k stream finished unowned
    have total := (settled k stream).2 finished
    rw [List.count_eq_zero_of_not_mem unowned] at total
    omega

end Accounted

/-- **Single ownership of accepted sockets**, in every state of every run in which no call of `accept_cb` reaches
`worker_enqueue_msg` while the worker is stopping: a descriptor is closed at most once, never once a connection's
bufferevent has it, and exactly once if none takes it over. -/
theorem accepted_socket_single_owner {started : Bool} {s : Acceptor} {es : List AcceptorEvent}
    (ran : (acceptorMachine msgs).run { worker := initWorker started } es = some s)
    (along : (acceptorMachine msgs).Along (fun s e => refusedCall msgs s e = false) { worker := initWorker started } es) :
    SingleOwner msgs s := by
  have kept : Accounted msgs s ∧ Unrefused msgs s := by
    refine Lib.Machine.run_along (I := fun s => Accounted msgs s ∧ Unrefused msgs s) ?_ ?_ along ran
    · rintro s e t ⟨accounted, unrefused⟩ never step
      obtain ⟨c, refines⟩ := accounted.refines
      refine ⟨accounted.step step, ?_⟩
      intro k stream
      exact (acceptor_entry accounted.entries refines step k).unrefused (by simp [never]) stream (unrefused k stream)
    · exact ⟨accounted_start msgs started, fun k _ => ⟨nofun, nofun⟩⟩
  exact kept.1.singleOwner kept.2

/-- Every message is the client of `headedMsg`. -/
def headedMsgs : Nat → WorkerMsg := fun _ => .streamClient headedMsg

/-- `accept_cb` finds an IPv4 address and a worker. -/
def goodArgs : AcceptArgs where
  addr := true
  socklen := 16
  worker := true

/-- One client is adopted, one has no usable address, for one the message cannot be allocated, and one is still
queued when the worker is freed. -/
def acceptedRun : List AcceptorEvent :=
  [.accept 0 goodArgs, .dispatch 0 true, .worker (.notify 0 .added), .resume 0, .accept 1 { goodArgs with socklen := 0 },
    .accept 2 goodArgs, .dispatch 2 false, .resume 2, .worker .wake, .worker (.recv 1), .worker .take, .adopt smoothEnv,
    .accept 3 goodArgs, .dispatch 3 true, .worker .free, .worker (.notify 3 .added), .resume 3, .worker .check,
    .worker (.freeNotify .eagain), .worker .freeJoin, .worker .freeTake, .worker .freeMsg, .worker .freeDone]

theorem accepted_socket_single_owner_run :
    ∃ s, (acceptorMachine headedMsgs).run { worker := initWorker true } acceptedRun = some s ∧
      SingleOwner headedMsgs s ∧ s.closed = [1, 2, 3] ∧ s.owned = [0] := by
  have along : (acceptorMachine headedMsgs).Along (fun s e => refusedCall headedMsgs s e = false)
      { worker := initWorker true } acceptedRun := by
    decide +kernel
  have seen : ((acceptorMachine headedMsgs).run { worker := initWorker true } acceptedRun).map
      (fun s => (s.closed, s.owned)) = some ([1, 2, 3], [0]) := by
    decide +kernel
  obtain ⟨s, ran, lists⟩ := Option.map_eq_some_iff.1 seen
  rw [Prod.mk.injEq] at lists
  exact ⟨s, ran, accepted_socket_single_owner ran along, lists.1, lists.2⟩

/-- A client that is accepted while the worker is stopping: `free_worker_msg` closes its descriptor, and `accept_cb`
closes it again. -/
theorem accepted_socket_closed_twice :
    ∃ s, (acceptorMachine headedMsgs).run { worker := initWorker true }
        [.worker (.stop 0), .accept 0 goodArgs, .dispatch 0 true, .worker (.cancel 0), .resume 0] = some s ∧
      (headedMsgs 0).isStream = true ∧ s.closed.count 0 = 2 ∧ ¬ SingleOwner headedMsgs s := by
  refine ⟨_, rfl, rfl, rfl, ?_⟩
  intro single
  exact absurd (single.atMostOnce 0 rfl) (by decide)

end Tinyproxy
