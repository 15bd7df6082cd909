import Tinyproxy.Stream.HalfClose

/-!
# Backpressure

Reading from one side is paused while the other side's output is full and resumed
once it has drained. `ClientBound` ties what is enabled on the upstream to the
length of the client's output; `Resumable` says what a pause waits for, so that no
pause is forgotten.

Two functions enable client reads without looking at the upstream's output:
`finish_client_write`, and `stream_upstream_event_cb` when the connect completes.
Each such round may add a chunk beyond the high watermark. `UpstreamBound` counts
them: a connection takes one round, and a second one when its upstream ended before
the connect completed and is then read to its end again, which `EndedOnce` leaves
out.
-/

namespace Tinyproxy

/-- The limits `worker_adopt_client_fd` sets, and an input buffer every callback leaves empty. -/
structure Tuned (b : Bufferevent) : Prop where
  maxSingleRead : b.maxSingleRead = streamIoChunkSize
  maxSingleWrite : b.maxSingleWrite = streamIoChunkSize
  input : b.input = []

/-- One read adds at most a chunk. -/
theorem Tuned.read_le {b : Bufferevent} (tuned : Tuned b) {chunk : Bytes} (ready : b.canRead chunk = true) :
    (b.input ++ chunk).length ≤ streamIoChunkSize := by
  have limit : b.readLimit ≤ streamIoChunkSize := by
    unfold Bufferevent.readLimit
    rw [tuned.maxSingleRead]
    split
    · exact Nat.le_refl _
    · exact Nat.min_le_left _ _
  simp only [Bufferevent.canRead, Bool.and_eq_true, decide_eq_true_eq] at ready
  rw [tuned.input, List.nil_append]
  exact Nat.le_trans ready.2 limit

theorem Tuned.fail {b : Bufferevent} (tuned : Tuned b) (dir : Direction) : Tuned (b.fail dir) := by
  cases dir <;> exact ⟨tuned.maxSingleRead, tuned.maxSingleWrite, tuned.input⟩

/-- Both bufferevents keep their limits. -/
structure TunedFlow (f : Flow) : Prop where
  client : Tuned f.client
  upstream : Tuned f.upstream

theorem TunedFlow.step {f g : Flow} {e : ConnEvent} (tuned : TunedFlow f) (moved : FlowStep f e g) :
    TunedFlow g := by
  obtain ⟨⟨clientRead, clientWrite, clientInput⟩, ⟨upstreamRead, upstreamWrite, upstreamInput⟩⟩ := tuned
  cases moved with
  | clientRead ready => exact ⟨⟨clientRead, clientWrite, rfl⟩, ⟨upstreamRead, upstreamWrite, upstreamInput⟩⟩
  | upstreamRead ready => exact ⟨⟨clientRead, clientWrite, clientInput⟩, ⟨upstreamRead, upstreamWrite, rfl⟩⟩
  | _ => exact ⟨⟨clientRead, clientWrite, clientInput⟩, ⟨upstreamRead, upstreamWrite, upstreamInput⟩⟩

theorem TunedFlow.freed {f g : Flow} {e : ConnEvent} (tuned : TunedFlow f) (gone : FreeStep f e g) :
    TunedFlow g := by
  cases gone with
  | @client dir cond ready => exact ⟨tuned.client.fail dir, tuned.upstream⟩
  | @timeout dir ready => exact ⟨tuned.client, tuned.upstream.fail dir⟩
  | @error dir err ready nothing => exact ⟨tuned.client, tuned.upstream.fail dir⟩
  | idle => exact tuned

theorem Bufferevent.drain_output_le (b : Bufferevent) (n : Nat) : (b.drain n).output.length ≤ b.output.length := by
  simp only [Bufferevent.drain, List.length_drop]
  omega

theorem Bufferevent.canWrite_connected (b : Bufferevent) {n : Nat} (ready : b.canWrite n = true) :
    b.connecting = false := by
  simp only [Bufferevent.canWrite, Bool.and_eq_true, Bool.not_eq_true'] at ready
  exact ready.1.1.1.2

/-- A direction that has been disabled is not enabled by a failure. -/
theorem Bufferevent.fail_evRead (b : Bufferevent) {dir : Direction} (enabled : (b.fail dir).evRead = true) :
    b.evRead = true := by
  cases dir with
  | reading => simp [Bufferevent.fail, Bufferevent.disable] at enabled
  | writing => simpa [Bufferevent.fail, Bufferevent.disable] using enabled

/-! ## The client's output -/

/-- The upstream is read only while the client's output is below the high watermark. -/
structure ClientBound (f : Flow) : Prop where
  tuned : TunedFlow f
  bound : f.client.output.length < streamReadHighWater + streamIoChunkSize
  reads : f.upstream.evRead = true → f.client.output.length < streamReadHighWater

namespace ClientBound

variable {f g : Flow} {e : ConnEvent}

theorem step (bounded : ClientBound f) (moved : FlowStep f e g) : ClientBound g := by
  have tuned := bounded.tuned.step moved
  cases moved with
  | connected ready => exact ⟨tuned, bounded.bound, bounded.reads⟩
  | clientRead ready => exact ⟨tuned, bounded.bound, bounded.reads⟩
  | upstreamRead ready =>
    have added := bounded.tuned.upstream.read_le ready
    have room := bounded.reads (f.upstream.canRead_evRead ready)
    refine ⟨tuned, ?_, fun below => of_decide_eq_true below⟩
    rw [List.length_append]
    omega
  | @clientWrite n ready left =>
    have less := f.client.drain_output_le n
    exact ⟨tuned, Nat.lt_of_le_of_lt less bounded.bound, fun reads => Nat.lt_of_le_of_lt less (bounded.reads reads)⟩
  | @clientDrained n ready empty normal =>
    have none : (f.client.drain n).output.length < streamReadHighWater := by
      rw [empty]
      decide
    exact ⟨tuned, Nat.lt_add_right _ none, fun _ => none⟩
  | @clientFinished n ready empty last =>
    have none : (f.client.drain n).output.length < streamReadHighWater := by
      rw [empty]
      decide
    exact ⟨tuned, Nat.lt_add_right _ none, fun _ => none⟩
  | upstreamWrite ready left => exact ⟨tuned, bounded.bound, bounded.reads⟩
  | upstreamDrained ready empty => exact ⟨tuned, bounded.bound, bounded.reads⟩
  | upstreamLost ready kind pending => exact ⟨tuned, bounded.bound, fun reads => by cases reads⟩
  | upstreamEnded ready nothing => exact ⟨tuned, bounded.bound, fun reads => by cases reads⟩
  | idle => exact bounded

theorem freed (bounded : ClientBound f) (gone : FreeStep f e g) : ClientBound g := by
  have tuned := bounded.tuned.freed gone
  cases gone with
  | @client dir cond ready => cases dir <;> exact ⟨tuned, bounded.bound, bounded.reads⟩
  | @timeout dir ready => exact ⟨tuned, bounded.bound, fun reads => bounded.reads (f.upstream.fail_evRead reads)⟩
  | @error dir err ready nothing =>
    exact ⟨tuned, bounded.bound, fun reads => bounded.reads (f.upstream.fail_evRead reads)⟩
  | idle => exact bounded

end ClientBound

/-! ## The upstream's output -/

/-- What `rounds` enablings of client reads without a look at the upstream's output allow: each may add one chunk
beyond the high watermark. `reads` is whether the client is read, `len` the length of the upstream's output. -/
structure Slack (rounds : Nat) (reads : Bool) (len : Nat) : Prop where
  reading : reads = true → len < streamReadHighWater + rounds * streamIoChunkSize
  bound : len < streamReadHighWater + (rounds + 1) * streamIoChunkSize

namespace Slack

variable {rounds len len' : Nat} {reads reads' : Bool}

theorem shrink (slack : Slack rounds reads len) (less : len' ≤ len) : Slack rounds reads len' where
  reading := fun enabled => Nat.lt_of_le_of_lt less (slack.reading enabled)
  bound := Nat.lt_of_le_of_lt less slack.bound

/-- Disabling client reads is always possible. -/
theorem pause (slack : Slack rounds reads len) (weaker : reads' = true → reads = true) : Slack rounds reads' len where
  reading := fun enabled => slack.reading (weaker enabled)
  bound := slack.bound

/-- Below the high watermark the client may be read. -/
theorem low (below : len < streamReadHighWater) : Slack rounds reads len where
  reading := fun _ => Nat.lt_add_right _ below
  bound := Nat.lt_add_right _ below

/-- Enabling client reads whatever is queued costs a round. -/
theorem enable (slack : Slack rounds reads len) : Slack (rounds + 1) true len where
  reading := fun _ => slack.bound
  bound := by
    have before := slack.bound
    rw [Nat.add_mul]
    omega

theorem more (slack : Slack rounds reads len) : Slack (rounds + 1) reads len := slack.enable.pause fun _ => rfl

/-- A client read leaves the client enabled only below the high watermark. -/
theorem read (slack : Slack rounds true len) {added : Nat} (chunk : added ≤ streamIoChunkSize) :
    Slack rounds (decide (len + added < streamReadHighWater)) (len + added) where
  reading := fun below => Nat.lt_add_right _ (of_decide_eq_true below)
  bound := by
    have before := slack.reading rfl
    rw [Nat.add_mul]
    omega

end Slack

/-- Nothing can start another half-close: neither side produces the events it takes. -/
structure Spent (f : Flow) : Prop where
  upstreamRead : f.upstream.evRead = false
  upstreamWrite : f.upstream.evWrite = false
  clientWrite : f.client.evWrite = false
  undrained : f.draining = false
  empty : f.client.output = []

/-- The rounds each phase has used: none before the upstream has ended, one by the half-close or, when the upstream
ended first, by the connect, and a second one by a half-close that follows such a late connect. -/
structure UpstreamBound (f : Flow) : Prop where
  tuned : TunedFlow f
  early : f.upstream.connecting = true → f.closeWait = false →
    f.client.evRead = false ∧ f.upstream.output.length < streamReadHighWater
  opened : f.closeWait = false → Slack 0 f.client.evRead f.upstream.output.length
  waiting : f.upstream.connecting = true → f.closeWait = true →
    Spent f ∧ Slack 0 f.client.evRead f.upstream.output.length
  revived : f.closeWait = true → ¬ Spent f → Slack 1 f.client.evRead f.upstream.output.length
  slack : Slack 2 f.client.evRead f.upstream.output.length
  stopped : f.draining = true → f.upstream.evRead = false ∧ f.upstream.evWrite = false

namespace UpstreamBound

variable {f g : Flow} {e : ConnEvent}

/-- Whatever the phase, one round is enough while the upstream or the client's write side can still move. -/
theorem unspent (bounded : UpstreamBound f) (moving : ¬ Spent f) :
    Slack 1 f.client.evRead f.upstream.output.length := by
  cases closing : f.closeWait with
  | false => exact (bounded.opened closing).more
  | true => exact bounded.revived closing moving

/-- While something can still move after the half-close, the connect is done. -/
theorem settled (bounded : UpstreamBound f) (moving : ¬ Spent f) (connecting : f.upstream.connecting = true) :
    f.closeWait = false :=
  eq_false_of_ne_true fun closing => moving (bounded.waiting connecting closing).1

/-- The half-close, from any phase in which something can still move. -/
theorem finished (bounded : UpstreamBound f) (moving : ¬ Spent f) {client upstream : Bufferevent}
    (tuned : TunedFlow ⟨client.halfClosed, upstream, f.connected, true, false⟩) (empty : client.output = [])
    (stopped : upstream.evRead = false ∧ upstream.evWrite = false)
    (connecting : upstream.connecting = true → f.upstream.connecting = true)
    (output : upstream.output = f.upstream.output) :
    UpstreamBound ⟨client.halfClosed, upstream, f.connected, true, false⟩ where
  tuned := tuned
  early := fun _ unclosed => by cases unclosed
  opened := fun unclosed => by cases unclosed
  waiting := by
    intro still _
    have before := connecting still
    have low := (bounded.early before (bounded.settled moving before)).2
    refine ⟨⟨stopped.1, stopped.2, rfl, rfl, empty⟩, ?_⟩
    rw [← output] at low
    exact .low low
  revived := fun _ left => absurd ⟨stopped.1, stopped.2, rfl, rfl, empty⟩ left
  slack := by
    have once := bounded.unspent moving
    rw [← output] at once
    exact once.enable
  stopped := fun draining => by cases draining

/-- An event that something can still move for, and that neither enables client reads nor adds to the output. -/
theorem carried (bounded : UpstreamBound f) (moving : ¬ Spent f) (tuned : TunedFlow g)
    (reads : g.client.evRead = f.client.evRead) (less : g.upstream.output.length ≤ f.upstream.output.length)
    (connecting : g.upstream.connecting = true → f.upstream.connecting = true) (closeWait : g.closeWait = f.closeWait)
    (stopped : g.draining = true → g.upstream.evRead = false ∧ g.upstream.evWrite = false) : UpstreamBound g := by
  have once := (bounded.unspent moving).shrink less
  rw [← reads] at once
  refine ⟨tuned, ?_, ?_, ?_, fun _ _ => once, once.more, stopped⟩
  · intro still unclosed
    rw [closeWait] at unclosed
    have before := bounded.early (connecting still) unclosed
    rw [reads]
    exact ⟨before.1, Nat.lt_of_le_of_lt less before.2⟩
  · intro unclosed
    rw [closeWait] at unclosed
    rw [reads]
    exact (bounded.opened unclosed).shrink less
  · intro still closing
    have unclosed := bounded.settled moving (connecting still)
    rw [closeWait, unclosed] at closing
    cases closing

/-- One event keeps the rounds. -/
theorem step (bounded : UpstreamBound f) (moved : FlowStep f e g) : UpstreamBound g := by
  have tuned := bounded.tuned.step moved
  cases moved with
  | connected ready =>
    have low : f.closeWait = false → f.upstream.output.length < streamReadHighWater :=
      fun unclosed => (bounded.early ready unclosed).2
    have enabled : Slack 1 true f.upstream.output.length := by
      by_cases closing : f.closeWait = true
      · exact (bounded.waiting ready closing).2.enable
      · exact .low (low (eq_false_of_ne_true closing))
    refine ⟨tuned, fun early => (nomatch early), ?_, fun early => (nomatch early), fun _ _ => enabled, enabled.more, ?_⟩
    · exact fun unclosed => .low (low unclosed)
    · exact bounded.stopped
  | clientRead ready =>
    have reading := f.client.canRead_evRead ready
    have grown {rounds : Nat} (slack : Slack rounds f.client.evRead f.upstream.output.length) := by
      rw [reading] at slack
      exact slack.read (bounded.tuned.client.read_le ready)
    simp only [← List.length_append] at grown
    refine ⟨tuned, ?_, fun unclosed => grown (bounded.opened unclosed), ?_, ?_, grown bounded.slack, bounded.stopped⟩
    · intro connecting unclosed
      have paused := (bounded.early connecting unclosed).1
      rw [reading] at paused
      cases paused
    · intro connecting closing
      obtain ⟨spent, slack⟩ := bounded.waiting connecting closing
      exact ⟨⟨spent.upstreamRead, spent.upstreamWrite, spent.clientWrite, spent.undrained, spent.empty⟩, grown slack⟩
    · intro closing moving
      apply grown (bounded.revived closing fun spent => moving ?_)
      exact ⟨spent.upstreamRead, spent.upstreamWrite, spent.clientWrite, spent.undrained, spent.empty⟩
  | upstreamRead ready =>
    have moving : ¬ Spent f := fun spent => by simp [spent.upstreamRead, Bufferevent.canRead] at ready
    refine bounded.carried moving tuned rfl (Nat.le_refl _) id rfl ?_
    intro draining
    have stopped := bounded.stopped draining
    rw [f.upstream.canRead_evRead ready] at stopped
    cases stopped.1
  | clientWrite ready left =>
    have moving : ¬ Spent f := fun spent => by simp [spent.clientWrite, Bufferevent.canWrite] at ready
    exact bounded.carried moving tuned rfl (Nat.le_refl _) id rfl bounded.stopped
  | clientDrained ready empty normal =>
    have moving : ¬ Spent f := fun spent => by simp [spent.clientWrite, Bufferevent.canWrite] at ready
    refine bounded.carried moving tuned rfl (Nat.le_refl _) id rfl ?_
    intro draining
    rw [normal] at draining
    cases draining
  | clientFinished ready empty last =>
    have moving : ¬ Spent f := fun spent => by simp [spent.undrained] at last
    exact bounded.finished moving tuned empty (bounded.stopped last) id rfl
  | @upstreamWrite n ready left =>
    have moving : ¬ Spent f := fun spent => by simp [spent.upstreamWrite, Bufferevent.canWrite] at ready
    exact bounded.carried moving tuned rfl (f.upstream.drain_output_le n) id rfl bounded.stopped
  | @upstreamDrained n ready empty =>
    have connected : (f.upstream.drain n).connecting = false := f.upstream.canWrite_connected ready
    have low : (f.upstream.drain n).output.length < streamReadHighWater := by
      rw [empty]
      decide
    refine ⟨tuned, ?_, fun _ => .low low, ?_, fun _ _ => .low low, .low low, bounded.stopped⟩
    · intro connecting
      rw [connected] at connecting
      cases connecting
    · intro connecting
      rw [connected] at connecting
      cases connecting
  | upstreamLost ready kind pending =>
    have moving : ¬ Spent f := fun spent => pending spent.empty
    exact bounded.carried moving tuned rfl (Nat.le_refl _) f.upstream.stopped_connecting rfl fun _ => ⟨rfl, rfl⟩
  | upstreamEnded ready nothing =>
    have moving : ¬ Spent f := by
      intro spent
      rcases f.upstream.canSignal_enabled ready with reads | writes | ⟨-, -, other⟩
      · rw [spent.upstreamRead] at reads
        cases reads
      · rw [spent.upstreamWrite] at writes
        cases writes
      · exact other rfl
    exact bounded.finished moving tuned nothing ⟨rfl, rfl⟩ f.upstream.stopped_connecting rfl
  | idle => exact bounded

/-- Disabling a direction of the client keeps the rounds. -/
theorem fail_client (bounded : UpstreamBound f) (dir : Direction) :
    UpstreamBound { f with client := f.client.fail dir } := by
  have weaker : (f.client.fail dir).evRead = true → f.client.evRead = true := f.client.fail_evRead
  have spent (before : Spent f) : Spent { f with client := f.client.fail dir } := by
    refine ⟨before.upstreamRead, before.upstreamWrite, ?_, before.undrained, ?_⟩
    · cases dir <;> simp [Bufferevent.fail, Bufferevent.disable, before.clientWrite]
    · cases dir <;> exact before.empty
  refine ⟨⟨bounded.tuned.client.fail dir, bounded.tuned.upstream⟩, ?_, ?_, ?_, ?_, bounded.slack.pause weaker, ?_⟩
  · intro connecting unclosed
    obtain ⟨paused, low⟩ := bounded.early connecting unclosed
    refine ⟨eq_false_of_ne_true fun enabled => ?_, low⟩
    rw [weaker enabled] at paused
    cases paused
  · exact fun unclosed => (bounded.opened unclosed).pause weaker
  · intro connecting closing
    obtain ⟨before, slack⟩ := bounded.waiting connecting closing
    exact ⟨spent before, slack.pause weaker⟩
  · intro closing moving
    exact (bounded.revived closing fun before => moving (spent before)).pause weaker
  · exact bounded.stopped

/-- Disabling a direction of the upstream keeps the rounds. -/
theorem fail_upstream (bounded : UpstreamBound f) (dir : Direction) :
    UpstreamBound { f with upstream := f.upstream.fail dir } := by
  have output : (f.upstream.fail dir).output = f.upstream.output := by cases dir <;> rfl
  have connecting : (f.upstream.fail dir).connecting = true → f.upstream.connecting = true := by
    cases dir with
    | reading => exact id
    | writing => exact fun still => by cases still
  have reads : f.upstream.evRead = false → (f.upstream.fail dir).evRead = false := by
    intro off
    cases dir <;> simp [Bufferevent.fail, Bufferevent.disable, off]
  have writes : f.upstream.evWrite = false → (f.upstream.fail dir).evWrite = false := by
    intro off
    cases dir <;> simp [Bufferevent.fail, Bufferevent.disable, off]
  have spent (before : Spent f) : Spent { f with upstream := f.upstream.fail dir } :=
    ⟨reads before.upstreamRead, writes before.upstreamWrite, before.clientWrite, before.undrained, before.empty⟩
  have slack := bounded.slack
  have early := bounded.early
  have opened := bounded.opened
  have waiting := bounded.waiting
  have revived := bounded.revived
  rw [← output] at slack early opened waiting revived
  refine ⟨⟨bounded.tuned.client, bounded.tuned.upstream.fail dir⟩, ?_, opened, ?_, ?_, slack, ?_⟩
  · exact fun still unclosed => early (connecting still) unclosed
  · intro still closing
    obtain ⟨before, low⟩ := waiting (connecting still) closing
    exact ⟨spent before, low⟩
  · exact fun closing moving => revived closing fun before => moving (spent before)
  · intro draining
    have before := bounded.stopped draining
    exact ⟨reads before.1, writes before.2⟩

/-- Freeing the connection keeps the rounds: it only ever disables. -/
theorem freed (bounded : UpstreamBound f) (gone : FreeStep f e g) : UpstreamBound g := by
  cases gone with
  | @client dir cond ready => exact bounded.fail_client dir
  | @timeout dir ready => exact bounded.fail_upstream dir
  | @error dir err ready nothing => exact bounded.fail_upstream dir
  | idle => exact bounded

end UpstreamBound

/-- `drain_client_then_close` does not run again in the close-wait: no end of the upstream is handled there, and no
error with a response queued. -/
def Flow.EndsOnce (f : Flow) : ConnEvent → Prop
  | .upstreamEvent _ .eof => f.closeWait = false
  | .upstreamEvent _ (.error _) => f.closeWait = true → f.client.output = []
  | _ => True

instance (f : Flow) : (e : ConnEvent) → Decidable (f.EndsOnce e)
  | .upstreamEvent _ .eof => inferInstanceAs (Decidable (_ = _))
  | .upstreamEvent _ (.error _) => inferInstanceAs (Decidable (_ → _))
  | .upstreamEvent _ .timeout => .isTrue trivial
  | .connected _ => .isTrue trivial
  | .clientRead _ => .isTrue trivial
  | .upstreamRead _ => .isTrue trivial
  | .clientWrite _ => .isTrue trivial
  | .upstreamWrite _ => .isTrue trivial
  | .clientEvent _ _ => .isTrue trivial
  | .idleTimeout => .isTrue trivial

/-- The same condition on a state of the machine. -/
def UpstreamEndsOnce (s : Session) (e : ConnEvent) : Prop := s.conn.flow.EndsOnce e

instance (s : Session) (e : ConnEvent) : Decidable (UpstreamEndsOnce s e) :=
  inferInstanceAs (Decidable (s.conn.flow.EndsOnce e))

/-- A flow whose upstream has ended once at most has used one round. -/
structure EndedOnce (f : Flow) : Prop where
  bounded : UpstreamBound f
  exclusive : f.draining = true → f.closeWait = false
  slack : Slack 1 f.client.evRead f.upstream.output.length

namespace EndedOnce

variable {f g : Flow} {e : ConnEvent}

/-- One event that is not a second end of the upstream keeps to one round. -/
theorem step (ended : EndedOnce f) (once : f.EndsOnce e) (moved : FlowStep f e g) : EndedOnce g := by
  have bounded := ended.bounded.step moved
  cases moved with
  | connected ready =>
    refine ⟨bounded, ended.exclusive, bounded.unspent ?_⟩
    intro spent
    cases spent.clientWrite
  | clientRead ready =>
    have slack := ended.slack
    rw [f.client.canRead_evRead ready] at slack
    have grown := slack.read (ended.bounded.tuned.client.read_le ready)
    rw [← List.length_append] at grown
    exact ⟨bounded, ended.exclusive, grown⟩
  | upstreamRead ready => exact ⟨bounded, ended.exclusive, ended.slack⟩
  | clientWrite ready left => exact ⟨bounded, ended.exclusive, ended.slack⟩
  | clientDrained ready empty normal => exact ⟨bounded, ended.exclusive, ended.slack⟩
  | clientFinished ready empty last =>
    refine ⟨bounded, fun draining => (nomatch draining), ?_⟩
    exact (ended.bounded.opened (ended.exclusive last)).enable
  | @upstreamWrite n ready left =>
    exact ⟨bounded, ended.exclusive, ended.slack.shrink (f.upstream.drain_output_le n)⟩
  | @upstreamDrained n ready empty =>
    refine ⟨bounded, ended.exclusive, .low ?_⟩
    rw [empty]
    decide
  | @upstreamLost dir cond ready kind pending =>
    refine ⟨bounded, fun _ => ?_, ended.slack⟩
    cases cond with
    | timeout => exact absurd rfl kind
    | eof => exact once
    | error err => exact eq_false_of_ne_true fun closing => pending (once closing)
  | upstreamEnded ready nothing =>
    refine ⟨bounded, fun draining => (nomatch draining), ?_⟩
    exact (ended.bounded.opened once).enable
  | idle => exact ended

theorem freed (ended : EndedOnce f) (gone : FreeStep f e g) : EndedOnce g := by
  have bounded := ended.bounded.freed gone
  cases gone with
  | @client dir cond ready => exact ⟨bounded, ended.exclusive, ended.slack.pause f.client.fail_evRead⟩
  | @timeout dir ready => cases dir <;> exact ⟨bounded, ended.exclusive, ended.slack⟩
  | @error dir err ready nothing => cases dir <;> exact ⟨bounded, ended.exclusive, ended.slack⟩
  | idle => exact ended

end EndedOnce

theorem freshConn_tuned (r : Route) (clientFd upstreamFd : Int) (header : Bytes) :
    TunedFlow (freshConn r clientFd upstreamFd header).flow :=
  ⟨⟨rfl, rfl, rfl⟩, ⟨rfl, rfl, rfl⟩⟩

theorem adopted_clientBound {env : AdoptEnv} {ac : WorkerStreamClientMsg} {c : Conn} {es : List ConnEvent}
    {s : Session} (adopted : workerAdoptClientFd env ac = .piped c)
    (ran : connMachine.run (.live c) es = some s) : ClientBound s.conn.flow := by
  obtain ⟨fd, header, -, rfl⟩ := adopted_piped adopted
  have empty : 0 < streamReadHighWater := by decide
  have start : ClientBound (freshConn ac.route ac.fd fd header).flow :=
    ⟨freshConn_tuned _ _ _ _, Nat.lt_add_right _ empty, fun _ => empty⟩
  apply run_flow (s := .live _) _ _ start ran
  · intro f e g bounded moved
    exact bounded.step moved
  · intro f e g bounded gone
    exact bounded.freed gone

theorem freshConn_endedOnce {env : AdoptEnv} {ac : WorkerStreamClientMsg} {header : Bytes} (fd : Int)
    (queued : queuedHeader env ac = some header) : EndedOnce (freshConn ac.route ac.fd fd header).flow := by
  have short : header.length < streamReadHighWater :=
    Nat.lt_of_le_of_lt (queuedHeader_length queued) (by decide)
  refine ⟨⟨freshConn_tuned _ _ _ _, ?_, ?_, ?_, ?_, .low short, ?_⟩, ?_, .low short⟩
  · exact fun _ _ => ⟨rfl, short⟩
  · exact fun _ => .low short
  · exact fun _ closing => nomatch closing
  · exact fun closing => nomatch closing
  · exact fun draining => nomatch draining
  · exact fun draining => nomatch draining

theorem adopted_upstreamBound {env : AdoptEnv} {ac : WorkerStreamClientMsg} {c : Conn} {es : List ConnEvent}
    {s : Session} (adopted : workerAdoptClientFd env ac = .piped c)
    (ran : connMachine.run (.live c) es = some s) : UpstreamBound s.conn.flow := by
  obtain ⟨fd, header, queued, rfl⟩ := adopted_piped adopted
  apply run_flow (s := .live _) _ _ (freshConn_endedOnce fd queued).bounded ran
  · intro f e g bounded moved
    exact bounded.step moved
  · intro f e g bounded gone
    exact bounded.freed gone

theorem adopted_endedOnce {env : AdoptEnv} {ac : WorkerStreamClientMsg} {c : Conn} {es : List ConnEvent}
    {s : Session} (adopted : workerAdoptClientFd env ac = .piped c)
    (along : connMachine.Along UpstreamEndsOnce (.live c) es) (ran : connMachine.run (.live c) es = some s) :
    EndedOnce s.conn.flow := by
  obtain ⟨fd, header, queued, rfl⟩ := adopted_piped adopted
  apply run_flow_along (s := .live _) (p := Flow.EndsOnce) _ _ (freshConn_endedOnce fd queued) along ran
  · intro f e g ended once moved
    exact ended.step once moved
  · intro f e g ended gone
    exact ended.freed gone

/-- **Bounded buffering.** However slowly either peer reads, neither output buffer outgrows its bound: the client's has
one chunk beyond the high watermark and the upstream's three, or two in a run in which the upstream ends only once. -/
theorem stream_buffers_bounded {env : AdoptEnv} {ac : WorkerStreamClientMsg} {c : Conn} {es : List ConnEvent}
    {s : Session} (adopted : workerAdoptClientFd env ac = .piped c)
    (ran : connMachine.run (.live c) es = some s) :
    s.conn.client.output.length ≤ streamReadHighWater + streamIoChunkSize - 1 ∧
      s.conn.upstream.output.length ≤ streamReadHighWater + 3 * streamIoChunkSize - 1 ∧
      (connMachine.Along UpstreamEndsOnce (.live c) es →
        s.conn.upstream.output.length ≤ streamReadHighWater + 2 * streamIoChunkSize - 1) := by
  have client : s.conn.client.output.length < _ := (adopted_clientBound adopted ran).bound
  have upstream : s.conn.upstream.output.length < _ := (adopted_upstreamBound adopted ran).slack.bound
  refine ⟨Nat.le_sub_one_of_lt client, Nat.le_sub_one_of_lt upstream, ?_⟩
  intro along
  have once : s.conn.upstream.output.length < _ := (adopted_endedOnce adopted along ran).slack.bound
  exact Nat.le_sub_one_of_lt once

/-- An upstream that ends before its connect completes, and a client that sends before and after. -/
def lateConnectRun : List ConnEvent :=
  [.upstreamEvent .reading .eof, .clientRead [1, 2], .connected true, .clientRead [3], .clientWrite 0]

theorem stream_buffers_bounded_late :
    connMachine.Along UpstreamEndsOnce (.live headedConn) lateConnectRun ∧
      (headedConn.after lateConnectRun).closeAfterClientEof = true ∧
      (headedConn.after lateConnectRun).upstream.output.length ≤ streamReadHighWater + 2 * streamIoChunkSize - 1 := by
  have ran : connMachine.run (.live headedConn) lateConnectRun = some (.live (headedConn.after lateConnectRun)) := by
    decide +kernel
  have along : connMachine.Along UpstreamEndsOnce (.live headedConn) lateConnectRun := by decide +kernel
  exact ⟨along, by decide +kernel, (stream_buffers_bounded headedConn_adopted ran).2.2 along⟩

/-- One full read of zeros. -/
def fullRead : Bytes := List.replicate streamIoChunkSize 0

theorem fullRead_length : fullRead.length = streamIoChunkSize := List.length_replicate

/-- A tuned side that is being read can deliver a full read. -/
theorem Tuned.fullRead_ready {b : Bufferevent} (tuned : Tuned b) (high : b.readHigh = streamReadHighWater)
    (reading : b.evRead = true) : b.canRead fullRead = true := by
  have limit : b.readLimit = streamIoChunkSize := by
    rw [Bufferevent.readLimit, tuned.maxSingleRead, high, tuned.input]
    decide
  simp only [Bufferevent.canRead, reading, limit, fullRead_length]
  decide

/-- A client with nothing queued for it, the flags of its connection, and how much is queued for the upstream. -/
structure Backlog (f : Flow) (reads connecting : Bool) (len : Nat) : Prop where
  tuned : TunedFlow f
  high : f.client.readHigh = streamReadHighWater
  reads : f.client.evRead = reads
  settled : f.client.connecting = false
  connecting : f.upstream.connecting = connecting
  undrained : f.draining = false
  output : f.client.output = []
  len : f.upstream.output.length = len

namespace Backlog

variable {c : Conn} {reads connecting : Bool} {len : Nat}

/-- A full read is added to the backlog and pauses the client once the high watermark is reached. -/
theorem clientRead (backlog : Backlog c.flow true connecting len) :
    ∃ d, connMachine.step (.live c) (.clientRead fullRead) = some (.live d) ∧
      Backlog d.flow (decide (len + streamIoChunkSize < streamReadHighWater)) connecting
        (len + streamIoChunkSize) ∧
      d.client.evWrite = c.client.evWrite ∧ d.upstream.evRead = c.upstream.evRead := by
  have moved := FlowStep.clientRead (backlog.tuned.client.fullRead_ready backlog.high backlog.reads)
  obtain ⟨d, step, flow⟩ := flow_steps moved (by simp)
  have tuned := backlog.tuned.step moved
  have total : (c.flow.upstream.output ++ (c.flow.client.input ++ fullRead)).length = len + streamIoChunkSize := by
    rw [backlog.tuned.client.input, List.nil_append, List.length_append, backlog.len, fullRead_length]
  refine ⟨d, step, ?_, congrArg (fun f => f.client.evWrite) flow, congrArg (fun f => f.upstream.evRead) flow⟩
  rw [flow]
  refine ⟨tuned, backlog.high, ?_, backlog.settled, backlog.connecting, backlog.undrained, backlog.output, total⟩
  show decide _ = decide _
  rw [total]

/-- The end of the upstream enables client reads whatever the backlog. -/
theorem upstreamEnded (backlog : Backlog c.flow reads connecting len) (reading : c.upstream.evRead = true) :
    ∃ d, connMachine.step (.live c) (.upstreamEvent .reading .eof) = some (.live d) ∧
      Backlog d.flow true connecting len := by
  have ready : c.flow.upstream.canSignal .reading .eof = true := by
    show c.upstream.canSignal .reading .eof = true
    simp [Bufferevent.canSignal, reading]
  have moved := FlowStep.upstreamEnded ready backlog.output
  obtain ⟨d, step, flow⟩ := flow_steps moved (by simp)
  refine ⟨d, step, ?_⟩
  rw [flow]
  refine ⟨backlog.tuned.step moved, backlog.high, rfl, backlog.settled, ?_, rfl, backlog.output, backlog.len⟩
  show (c.flow.upstream.connecting && true) = connecting
  rw [Bool.and_true, backlog.connecting]

/-- So does the end of the connect, and it enables client writes. -/
theorem connected (backlog : Backlog c.flow reads true len) :
    ∃ d, connMachine.step (.live c) (.connected true) = some (.live d) ∧
      Backlog d.flow true false len ∧ d.client.evWrite = true := by
  have moved : FlowStep c.flow (.connected true) _ := .connected backlog.connecting
  obtain ⟨d, step, flow⟩ := flow_steps moved (by simp)
  refine ⟨d, step, ?_, congrArg (fun f => f.client.evWrite) flow⟩
  rw [flow]
  exact ⟨backlog.tuned.step moved, backlog.high, rfl, backlog.settled, rfl, backlog.undrained, backlog.output,
    backlog.len⟩

/-- A write event with nothing to write lets the upstream be read again. -/
theorem clientDrained (backlog : Backlog c.flow reads connecting len) (writes : c.client.evWrite = true) :
    ∃ d, connMachine.step (.live c) (.clientWrite 0) = some (.live d) ∧
      Backlog d.flow reads connecting len ∧ d.upstream.evRead = true := by
  have empty : (c.flow.client.drain 0).output = [] := by simp [Bufferevent.drain, backlog.output]
  have ready : c.flow.client.canWrite 0 = true := by
    have enabled : c.flow.client.evWrite = true := writes
    simp [Bufferevent.canWrite, enabled, backlog.settled, backlog.output]
  have moved := FlowStep.clientDrained ready empty backlog.undrained
  obtain ⟨d, step, flow⟩ := flow_steps moved (by simp)
  refine ⟨d, step, ?_, congrArg (fun f => f.upstream.evRead) flow⟩
  rw [flow]
  exact ⟨backlog.tuned.step moved, backlog.high, backlog.reads, backlog.settled, backlog.connecting,
    backlog.undrained, empty, backlog.len⟩

end Backlog

/-- An upstream that ends before its connect completes and is read again once the client has drained: the connect and
the second half-close each enable a client whose bytes are still queued. -/
def endedTwiceRun : List ConnEvent :=
  [.upstreamEvent .reading .eof, .clientRead fullRead, .clientRead fullRead, .connected true, .clientRead fullRead,
    .clientWrite 0, .upstreamEvent .reading .eof, .clientRead fullRead]

theorem stream_buffers_outgrown :
    workerAdoptClientFd smoothEnv headedMsg = .piped headedConn ∧
    ∃ d, connMachine.run (.live headedConn) endedTwiceRun = some (.live d) ∧
      streamReadHighWater + 2 * streamIoChunkSize - 1 < d.upstream.output.length := by
  refine ⟨headedConn_adopted, ?_⟩
  have start : Backlog headedConn.flow false true 28 :=
    ⟨freshConn_tuned _ _ _ _, rfl, rfl, rfl, rfl, rfl, rfl, by decide⟩
  -- the half-close is the first round, the connect the second and the half-close after it the third
  obtain ⟨c₁, ended, backlog₁⟩ := start.upstreamEnded rfl
  obtain ⟨c₂, read₂, backlog₂, -⟩ := backlog₁.clientRead
  obtain ⟨c₃, read₃, backlog₃, -⟩ := backlog₂.clientRead
  obtain ⟨c₄, connected, backlog₄, writes₄⟩ := backlog₃.connected
  obtain ⟨c₅, read₅, backlog₅, writes₅, -⟩ := backlog₄.clientRead
  obtain ⟨c₆, drained, backlog₆, reads₆⟩ := backlog₅.clientDrained (writes₅.trans writes₄)
  obtain ⟨c₇, endedAgain, backlog₇⟩ := backlog₆.upstreamEnded reads₆
  obtain ⟨c₈, read₈, backlog₈, -⟩ := backlog₇.clientRead
  refine ⟨c₈, ?_, ?_⟩
  · simp only [endedTwiceRun, Lib.Machine.run, ended, read₂, read₃, connected, read₅, drained, endedAgain, read₈,
      Option.bind_some]
  · have len : c₈.upstream.output.length = _ := backlog₈.len
    rw [len]
    decide

/-! ## Pauses -/

/-- What a connection in its open phase waits for while one of its sides is paused. -/
structure PauseAwaited (f : Flow) : Prop where
  clientWrites : f.client.evWrite = true
  upstreamWrites : f.upstream.evWrite = true
  clientPaused : f.connected = true → f.client.evRead = false → f.upstream.output ≠ []
  upstreamPaused : f.upstream.evRead = false → f.client.output ≠ []

/-- Every pause of an open connection is awaited by a write that can happen. -/
structure Resumable (f : Flow) : Prop where
  connected : f.connected = true → f.upstream.connecting = false
  clientConnected : f.client.connecting = false
  whileOpen : f.draining = false → f.closeWait = false → PauseAwaited f

namespace Resumable

variable {f g : Flow} {e : ConnEvent}

/-- A full buffer is not an empty one. -/
theorem full_ne_nil {out : Bytes} (full : decide (out.length < streamReadHighWater) = false) : out ≠ [] := by
  rintro rfl
  exact absurd full (by decide)

/-- One event keeps every pause awaited. -/
theorem step (resumable : Resumable f) (moved : FlowStep f e g) : Resumable g := by
  obtain ⟨connected, clientConnected, whileOpen⟩ := resumable
  cases moved with
  | connected ready =>
    refine ⟨fun _ => rfl, clientConnected, fun draining closeWait => ?_⟩
    have before := whileOpen draining closeWait
    exact ⟨rfl, before.upstreamWrites, fun _ paused => (nomatch paused), before.upstreamPaused⟩
  | clientRead ready =>
    refine ⟨connected, clientConnected, fun draining closeWait => ?_⟩
    have before := whileOpen draining closeWait
    exact ⟨before.clientWrites, before.upstreamWrites, fun _ paused => full_ne_nil paused, before.upstreamPaused⟩
  | upstreamRead ready =>
    refine ⟨connected, clientConnected, fun draining closeWait => ?_⟩
    have before := whileOpen draining closeWait
    exact ⟨before.clientWrites, before.upstreamWrites, before.clientPaused, fun paused => full_ne_nil paused⟩
  | clientWrite ready left =>
    refine ⟨connected, clientConnected, fun draining closeWait => ?_⟩
    have before := whileOpen draining closeWait
    exact ⟨before.clientWrites, before.upstreamWrites, before.clientPaused, fun _ => left⟩
  | clientDrained ready empty normal =>
    refine ⟨connected, clientConnected, fun draining closeWait => ?_⟩
    have before := whileOpen draining closeWait
    exact ⟨before.clientWrites, before.upstreamWrites, before.clientPaused, fun paused => nomatch paused⟩
  | clientFinished ready empty last => exact ⟨connected, clientConnected, fun _ closing => nomatch closing⟩
  | upstreamWrite ready left =>
    refine ⟨connected, clientConnected, fun draining closeWait => ?_⟩
    have before := whileOpen draining closeWait
    exact ⟨before.clientWrites, before.upstreamWrites, fun _ _ => left, before.upstreamPaused⟩
  | upstreamDrained ready empty =>
    refine ⟨connected, clientConnected, fun draining closeWait => ?_⟩
    have before := whileOpen draining closeWait
    exact ⟨before.clientWrites, before.upstreamWrites, fun _ paused => (nomatch paused), before.upstreamPaused⟩
  | upstreamLost ready kind pending =>
    refine ⟨fun done => ?_, clientConnected, fun draining => nomatch draining⟩
    exact f.upstream.stopped_connected (connected done)
  | upstreamEnded ready nothing =>
    refine ⟨fun done => ?_, clientConnected, fun _ closing => nomatch closing⟩
    exact f.upstream.stopped_connected (connected done)
  | idle => exact ⟨connected, clientConnected, whileOpen⟩

end Resumable

/-- Every live state of an adopted connection keeps its pauses awaited. -/
theorem adopted_resumable {env : AdoptEnv} {ac : WorkerStreamClientMsg} {c₀ c : Conn} {es : List ConnEvent}
    (adopted : workerAdoptClientFd env ac = .piped c₀) (ran : connMachine.run (.live c₀) es = some (.live c)) :
    Resumable c.flow := by
  obtain ⟨fd, header, -, rfl⟩ := adopted_piped adopted
  have start : Resumable (freshConn ac.route ac.fd fd header).flow :=
    ⟨fun connected => (nomatch connected), rfl, fun _ _ =>
      ⟨rfl, rfl, fun connected => (nomatch connected), fun paused => nomatch paused⟩⟩
  have kept : ∀ c', Session.live c = .live c' → Resumable c'.flow := by
    refine Lib.Machine.run_invariant (I := fun s : Session => ∀ c', s = .live c' → Resumable c'.flow) ?_ ?_ ran
    · rintro s e t before step c' rfl
      cases s with
      | freed d => cases step
      | live d => exact (before d rfl).step (step_flow step)
    · rintro c' ⟨⟩
      exact start
  exact kept c rfl

/-- A bufferevent with output, `EV_WRITE` and a connected socket has a write that can happen. -/
theorem Tuned.canWrite {b : Bufferevent} (tuned : Tuned b) (writes : b.evWrite = true)
    (connected : b.connecting = false) (pending : b.output ≠ []) : ∃ n, 0 < n ∧ b.canWrite n = true := by
  have some : 0 < b.output.length := List.length_pos_iff.2 pending
  refine ⟨1, Nat.one_pos, ?_⟩
  have chunk : 1 ≤ b.maxSingleWrite := by
    rw [tuned.maxSingleWrite]
    decide
  simp [Bufferevent.canWrite, writes, connected, chunk, Nat.succ_le_of_lt some]

/-- The upstream write that empties the output resumes the client and nothing else. -/
theorem FlowStep.upstreamWrite_resumes {f g : Flow} {n : Nat} (moved : FlowStep f (.upstreamWrite n) g)
    (empty : g.upstream.output = []) : g.client.evRead = true ∧ g.upstream.evRead = f.upstream.evRead := by
  cases moved with
  | upstreamWrite ready left => exact absurd empty left
  | upstreamDrained ready empty => exact ⟨rfl, rfl⟩

/-- The client write that empties the output resumes the upstream and nothing else. -/
theorem FlowStep.clientWrite_resumes {f g : Flow} {n : Nat} (moved : FlowStep f (.clientWrite n) g)
    (normal : f.draining = false) (empty : g.client.output = []) :
    g.upstream.evRead = true ∧ g.client.evRead = f.client.evRead := by
  cases moved with
  | clientWrite ready left => exact absurd empty left
  | clientDrained ready empty normal => exact ⟨rfl, rfl⟩
  | clientFinished ready empty last =>
    rw [normal] at last
    cases last

/-- What stands behind a pause of the client and behind one of the upstream: output that can be written, and a
write callback that resumes the paused side and leaves the other as it is. -/
structure PauseEnds (c : Conn) : Prop where
  client : c.client.evRead = false →
    c.upstream.output ≠ [] ∧ c.upstream.evWrite = true ∧ (∃ n, 0 < n ∧ c.upstream.canWrite n = true) ∧
    ∀ n c', connMachine.step (.live c) (.upstreamWrite n) = some (.live c') → c'.upstream.output = [] →
      c'.client.evRead = true ∧ c'.upstream.evRead = c.upstream.evRead
  upstream : c.upstream.evRead = false →
    c.client.output ≠ [] ∧ c.client.evWrite = true ∧ (∃ n, 0 < n ∧ c.client.canWrite n = true) ∧
    ∀ n c', connMachine.step (.live c) (.clientWrite n) = some (.live c') → c'.client.output = [] →
      c'.upstream.evRead = true ∧ c'.client.evRead = c.client.evRead

/-- **No stuck pause.** In every open state of a connected pipe each pause has a pending drain whose write callback
re-enables exactly the paused side. -/
theorem pause_never_stuck {env : AdoptEnv} {ac : WorkerStreamClientMsg} {c₀ c : Conn} {es : List ConnEvent}
    (adopted : workerAdoptClientFd env ac = .piped c₀) (ran : connMachine.run (.live c₀) es = some (.live c))
    (connected : c.upstreamConnected = true) (normal : c.closeClientAfterDrain = false)
    (unclosed : c.closeAfterClientEof = false) : PauseEnds c := by
  have resumable := adopted_resumable adopted ran
  have awaited := resumable.whileOpen normal unclosed
  have tuned := (adopted_clientBound adopted ran).tuned
  constructor
  · intro paused
    have pending := awaited.clientPaused connected paused
    have possible := tuned.upstream.canWrite awaited.upstreamWrites (resumable.connected connected) pending
    refine ⟨pending, awaited.upstreamWrites, possible, ?_⟩
    intro n c' step empty
    exact (step_flow step).upstreamWrite_resumes empty
  · intro paused
    have pending := awaited.upstreamPaused paused
    have possible := tuned.client.canWrite awaited.clientWrites resumable.clientConnected pending
    refine ⟨pending, awaited.clientWrites, possible, ?_⟩
    intro n c' step empty
    exact (step_flow step).clientWrite_resumes normal empty

theorem pause_never_stuck_request : PauseEnds (headedConn.after requestRun) :=
  have ran : connMachine.run (.live headedConn) requestRun = some (.live (headedConn.after requestRun)) := by
    decide +kernel
  pause_never_stuck headedConn_adopted ran (by decide +kernel) (by decide +kernel) (by decide +kernel)

end Tinyproxy
