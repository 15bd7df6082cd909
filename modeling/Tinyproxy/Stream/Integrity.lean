import Tinyproxy.Lib.Channel
import Tinyproxy.Stream.Events

/-!
# Byte integrity of a piped connection

What a piped connection is for: two byte channels, the forward one from the client
to the upstream and behind the PROXY v2 header, the backward one from the upstream
to the client. `connMachine` is simulated by `Lib.duplex`, whose channels lose,
reorder and duplicate nothing; the sockets and the output buffers of the
connection are the three parts of those channels.

A client EOF is where this stops short of delivery: the connection is freed at
once, with whatever is pending on the forward channel.
-/

namespace Tinyproxy

/-- The connection's sockets and buffers are the two channels of `d`. -/
structure Relays (header : Bytes) (b : FlowBytes) (d : Lib.Duplex UInt8) : Prop where
  clientInput : b.clientInput = []
  upstreamInput : b.upstreamInput = []
  forwardAccepted : d.forward.accepted = header ++ b.clientReceived
  forwardDelivered : d.forward.delivered = b.upstreamSent
  forwardPending : d.forward.pending = b.upstreamOutput
  backwardAccepted : d.backward.accepted = b.upstreamReceived
  backwardDelivered : d.backward.delivered = b.clientSent
  backwardPending : d.backward.pending = b.clientOutput

namespace Relays

variable {header : Bytes} {b : FlowBytes} {d : Lib.Duplex UInt8}

/-- A read from the client is accepted by the forward channel. -/
theorem clientRead (related : Relays header b d) (chunk : Bytes) :
    Relays header
      { b with
        clientInput := []
        clientReceived := b.clientReceived ++ chunk
        upstreamOutput := b.upstreamOutput ++ (b.clientInput ++ chunk) }
      { d with forward := d.forward.accept chunk } where
  clientInput := rfl
  upstreamInput := related.upstreamInput
  forwardAccepted := by
    rw [Lib.Channel.accept_accepted, related.forwardAccepted, List.append_assoc]
  forwardDelivered := related.forwardDelivered
  forwardPending := by
    rw [Lib.Channel.accept_pending, related.forwardPending, related.clientInput, List.nil_append]
  backwardAccepted := related.backwardAccepted
  backwardDelivered := related.backwardDelivered
  backwardPending := related.backwardPending

/-- A read from the upstream is accepted by the backward channel. -/
theorem upstreamRead (related : Relays header b d) (chunk : Bytes) :
    Relays header
      { b with
        upstreamInput := []
        upstreamReceived := b.upstreamReceived ++ chunk
        clientOutput := b.clientOutput ++ (b.upstreamInput ++ chunk) }
      { d with backward := d.backward.accept chunk } where
  clientInput := related.clientInput
  upstreamInput := rfl
  forwardAccepted := related.forwardAccepted
  forwardDelivered := related.forwardDelivered
  forwardPending := related.forwardPending
  backwardAccepted := by
    rw [Lib.Channel.accept_accepted, related.backwardAccepted]
  backwardDelivered := related.backwardDelivered
  backwardPending := by
    rw [Lib.Channel.accept_pending, related.backwardPending, related.upstreamInput, List.nil_append]

/-- A write to the client is delivered by the backward channel. -/
theorem clientWrite (related : Relays header b d) (n : Nat) :
    Relays header
      { b with clientOutput := b.clientOutput.drop n, clientSent := b.clientSent ++ b.clientOutput.take n }
      { d with backward := d.backward.deliver n } where
  clientInput := related.clientInput
  upstreamInput := related.upstreamInput
  forwardAccepted := related.forwardAccepted
  forwardDelivered := related.forwardDelivered
  forwardPending := related.forwardPending
  backwardAccepted := related.backwardAccepted
  backwardDelivered := by
    rw [Lib.Channel.deliver_delivered, related.backwardDelivered, related.backwardPending]
  backwardPending := by
    rw [Lib.Channel.deliver_pending, related.backwardPending]

/-- A write to the upstream is delivered by the forward channel. -/
theorem upstreamWrite (related : Relays header b d) (n : Nat) :
    Relays header
      { b with upstreamOutput := b.upstreamOutput.drop n, upstreamSent := b.upstreamSent ++ b.upstreamOutput.take n }
      { d with forward := d.forward.deliver n } where
  clientInput := related.clientInput
  upstreamInput := related.upstreamInput
  forwardAccepted := related.forwardAccepted
  forwardDelivered := by
    rw [Lib.Channel.deliver_delivered, related.forwardDelivered, related.forwardPending]
  forwardPending := by
    rw [Lib.Channel.deliver_pending, related.forwardPending]
  backwardAccepted := related.backwardAccepted
  backwardDelivered := related.backwardDelivered
  backwardPending := related.backwardPending

/-- Each event on the connection is at most one move of the duplex. -/
theorem step {f g : Flow} {e : ConnEvent} (related : Relays header f.bytes d) (moved : FlowStep f e g) :
    ∃ moves d', (Lib.duplex UInt8).run d moves = some d' ∧ Relays header g.bytes d' := by
  cases moved with
  | connected ready => exact ⟨[], d, rfl, related⟩
  | @clientRead chunk ready => exact ⟨[.acceptForward chunk], _, rfl, related.clientRead chunk⟩
  | @upstreamRead chunk ready => exact ⟨[.acceptBackward chunk], _, rfl, related.upstreamRead chunk⟩
  | @clientWrite n ready left => exact ⟨[.deliverBackward n], _, rfl, related.clientWrite n⟩
  | @clientDrained n ready empty normal => exact ⟨[.deliverBackward n], _, rfl, related.clientWrite n⟩
  | @clientFinished n ready empty last => exact ⟨[.deliverBackward n], _, rfl, related.clientWrite n⟩
  | @upstreamWrite n ready left => exact ⟨[.deliverForward n], _, rfl, related.upstreamWrite n⟩
  | @upstreamDrained n ready empty => exact ⟨[.deliverForward n], _, rfl, related.upstreamWrite n⟩
  | upstreamLost ready kind pending => exact ⟨[], d, rfl, related⟩
  | upstreamEnded ready nothing => exact ⟨[], d, rfl, related⟩
  | idle => exact ⟨[], d, rfl, related⟩

end Relays

/-- **A piped connection is simulated by a pair of FIFO channels.** -/
theorem conn_simulates (header : Bytes) :
    Lib.Machine.Simulates connMachine (Lib.duplex UInt8) fun s d => Relays header s.conn.flow.bytes d := by
  intro s e s' d related step
  cases s with
  | freed c => cases step
  | live c =>
    cases s' with
    | live c' => exact related.step (step_flow step)
    | freed c' =>
      have same : c'.flow.bytes = c.flow.bytes := (step_freed step).bytes
      exact ⟨[], d, rfl, by simpa only [Session.conn, same] using related⟩

theorem freshConn_relays (r : Route) (clientFd upstreamFd : Int) (header : Bytes) :
    Relays header (freshConn r clientFd upstreamFd header).flow.bytes
      ⟨Lib.Channel.start header, Lib.Channel.start []⟩ where
  clientInput := rfl
  upstreamInput := rfl
  forwardAccepted := (List.append_nil header).symm
  forwardDelivered := rfl
  forwardPending := rfl
  backwardAccepted := rfl
  backwardDelivered := rfl
  backwardPending := rfl

/-- Every run of an adopted connection stays related to a run of the duplex. -/
theorem adopted_relays {env : AdoptEnv} {ac : WorkerStreamClientMsg} {c : Conn} {es : List ConnEvent} {s : Session}
    (adopted : workerAdoptClientFd env ac = .piped c) (ran : connMachine.run (.live c) es = some s) :
    ∃ d, Relays (proxyHeader ac.route ac.peerAddr.bytes env.localBytes) s.conn.flow.bytes d := by
  obtain ⟨fd, header, queued, rfl⟩ := adopted_piped adopted
  cases queuedHeader_eq queued
  obtain ⟨moves, d, moved, related⟩ :=
    Lib.Machine.run_simulates (conn_simulates _) (freshConn_relays ac.route ac.fd fd _) ran
  exact ⟨d, related⟩

/-- What is said of the bytes of a connection whose header is `header`. -/
structure BytesIntact (header : Bytes) (c : Conn) : Prop where
  upstreamSent : c.upstream.sent <+: header ++ c.client.received
  clientSent : c.client.sent <+: c.upstream.received
  upstreamQueued : c.upstream.sent ++ c.upstream.output = header ++ c.client.received
  clientQueued : c.client.sent ++ c.client.output = c.upstream.received
  clientInput : c.client.input = []
  upstreamInput : c.upstream.input = []

theorem Relays.bytesIntact {header : Bytes} {c : Conn} {d : Lib.Duplex UInt8}
    (related : Relays header c.flow.bytes d) : BytesIntact header c where
  upstreamSent := by
    have initial := d.forward.delivered_isPrefix
    rwa [related.forwardDelivered, related.forwardAccepted] at initial
  clientSent := by
    have initial := d.backward.delivered_isPrefix
    rwa [related.backwardDelivered, related.backwardAccepted] at initial
  upstreamQueued := by
    have law := d.forward.conserved
    rwa [related.forwardDelivered, related.forwardPending, related.forwardAccepted] at law
  clientQueued := by
    have law := d.backward.conserved
    rwa [related.backwardDelivered, related.backwardPending, related.backwardAccepted] at law
  clientInput := related.clientInput
  upstreamInput := related.upstreamInput

/-- **Byte integrity.** Whatever events a piped connection has seen, its sockets have carried initial segments of
what was read, the upstream's behind exactly one header where the route asks for it, and the rest is queued. -/
theorem stream_bytes_intact {env : AdoptEnv} {ac : WorkerStreamClientMsg} {c : Conn} {es : List ConnEvent}
    {s : Session} (adopted : workerAdoptClientFd env ac = .piped c)
    (ran : connMachine.run (.live c) es = some s) :
    BytesIntact (proxyHeader ac.route ac.peerAddr.bytes env.localBytes) s.conn := by
  obtain ⟨d, related⟩ := adopted_relays adopted ran
  exact related.bytesIntact

/-- A request that is half written when the response arrives. -/
def requestRun : List ConnEvent :=
  [.connected true, .clientRead [1, 2, 3], .upstreamWrite 30, .upstreamRead [4, 5], .clientWrite 1]

theorem stream_bytes_intact_request :
    BytesIntact (proxyHeader headedMsg.route headedMsg.peerAddr.bytes smoothEnv.localBytes)
      (headedConn.after requestRun) := by
  have ran : connMachine.run (.live headedConn) requestRun = some (.live (headedConn.after requestRun)) := by
    decide +kernel
  have intact := stream_bytes_intact headedConn_adopted ran
  simpa only [Session.conn] using intact

/-! ## Client EOF -/

/-- The event is no error and no timeout report of either side. -/
def ConnEvent.clean : ConnEvent → Bool
  | .clientEvent _ cond => cond == .eof
  | .upstreamEvent _ cond => cond == .eof
  | _ => true

/-- The event is the client's EOF. -/
def ConnEvent.clientEof : ConnEvent → Bool
  | .clientEvent _ cond => cond == .eof
  | _ => false

/-- A run of `c₀` in which the client signals EOF, nothing fails, and which ends in `free_conn` on `c`. -/
structure EofRun (c₀ : Conn) (es : List ConnEvent) (c : Conn) : Prop where
  ran : connMachine.run (.live c₀) es = some (.freed c)
  signalled : ∃ e ∈ es, e.clientEof = true
  clean : ∀ e ∈ es, e.clean = true

/-- Nothing is queued for the upstream when the client's EOF is delivered. -/
def FlushedAtEof (s : Session) (e : ConnEvent) : Prop :=
  e.clientEof = true → s.conn.upstream.output = []

/-- A client EOF frees the connection. -/
theorem clientEof_frees {c : Conn} {e : ConnEvent} {s : Session} (eof : e.clientEof = true)
    (step : connMachine.step (.live c) e = some s) : ∃ c', s = .freed c' := by
  cases e with
  | clientEvent dir cond =>
    cases s with
    | live c' => exact absurd (step_live.1 step).2 clientEvent_not_live
    | freed c' => exact ⟨c', rfl⟩
  | _ => cases eof

/-- A connection that is still live has seen no client EOF. -/
theorem live_no_clientEof {c₀ : Conn} {es : List ConnEvent} {s : Session}
    (ran : connMachine.run (.live c₀) es = some s) (live : ∃ c, s = .live c) :
    ∀ e ∈ es, e.clientEof = false := by
  refine Lib.Machine.run_traced (M := connMachine) (s := .live c₀)
    (P := fun es s => (∃ c, s = .live c) → ∀ e ∈ es, e.clientEof = false) ?_ ?_ ran live
  · rintro - e ⟨⟩
  · rintro es u e v - before step ⟨c, rfl⟩
    cases u with
    | freed c' => cases step
    | live c' =>
      have still : e.clientEof = false := by
        by_contra eof
        obtain ⟨c'', gone⟩ := clientEof_frees (eq_true_of_ne_false eof) step
        cases gone
      simp only [List.mem_append, List.mem_singleton]
      rintro d (earlier | rfl)
      · exact before ⟨c', rfl⟩ d earlier
      · exact still

/-- The client's EOF is the last event of such a run. -/
theorem EofRun.last {c₀ c : Conn} {es : List ConnEvent} (run : EofRun c₀ es c) :
    ∃ ds e c', es = ds ++ [e] ∧ e.clientEof = true ∧ connMachine.run (.live c₀) ds = some (.live c') ∧
      connMachine.step (.live c') e = some (.freed c) := by
  obtain ⟨d, mem, eof⟩ := run.signalled
  rcases List.eq_nil_or_concat es with rfl | ⟨ds, e, rfl⟩
  · cases mem
  · have ran := run.ran
    rw [List.concat_eq_append] at ran mem ⊢
    obtain ⟨u, before, step⟩ := Lib.Machine.run_snoc.1 ran
    cases u with
    | freed c' => cases step
    | live c' =>
      have none := live_no_clientEof before ⟨c', rfl⟩
      rcases List.mem_append.1 mem with earlier | final
      · rw [none d earlier] at eof
        cases eof
      · cases List.mem_singleton.1 final
        exact ⟨ds, d, c', rfl, eof, before, step⟩

/-- **When a client EOF loses nothing.** The bytes read from the client have all been written to the upstream
exactly when none of them was queued as the EOF arrived. -/
theorem client_eof_delivers_iff {env : AdoptEnv} {ac : WorkerStreamClientMsg} {c₀ c : Conn} {es : List ConnEvent}
    (adopted : workerAdoptClientFd env ac = .piped c₀) (run : EofRun c₀ es c) :
    c.upstream.sent = proxyHeader ac.route ac.peerAddr.bytes env.localBytes ++ c.client.received ↔
      connMachine.Along FlushedAtEof (.live c₀) es := by
  obtain ⟨ds, e, c', rfl, eof, before, step⟩ := run.last
  obtain ⟨d, related⟩ := adopted_relays adopted run.ran
  have law : c.upstream.sent ++ c.upstream.output =
      proxyHeader ac.route ac.peerAddr.bytes env.localBytes ++ c.client.received := related.bytesIntact.upstreamQueued
  have same : c.upstream.output = c'.upstream.output := congrArg FlowBytes.upstreamOutput (step_freed step).bytes
  have quiet : connMachine.Along FlushedAtEof (.live c₀) ds := by
    apply Lib.Machine.along_of_forall
    intro d mem s eof
    rw [live_no_clientEof before ⟨c', rfl⟩ d mem] at eof
    cases eof
  rw [Lib.Machine.along_snoc]
  constructor
  · intro delivered
    refine ⟨quiet, fun u ran _ => ?_⟩
    cases before.symm.trans ran
    rw [← delivered] at law
    exact same.symm.trans (List.append_right_eq_self.1 law)
  · rintro ⟨-, flushed⟩
    have nothing : c.upstream.output = [] := same.trans (flushed (.live c') before eof)
    rwa [nothing, List.append_nil] at law

/-- A request that is written out before the client closes. -/
def flushedRun : List ConnEvent :=
  [.connected true, .clientRead [1, 2, 3], .upstreamWrite 31, .clientEvent .reading .eof]

theorem client_eof_delivers_flushed :
    (headedConn.after flushedRun).client.received = [1, 2, 3] ∧
      connMachine.Along FlushedAtEof (.live headedConn) flushedRun :=
  have run : EofRun headedConn flushedRun (headedConn.after flushedRun) :=
    ⟨by decide +kernel, by decide, by decide⟩
  ⟨by decide +kernel, (client_eof_delivers_iff headedConn_adopted run).1 (by decide +kernel)⟩

/-- A request that is still queued when the client closes. -/
def queuedRun : List ConnEvent := [.connected true, .clientRead [1, 2, 3], .clientEvent .reading .eof]

/-- **Queued client bytes are lost on a client EOF**: nothing of the header or the request is ever written. -/
theorem client_eof_loses_queued :
    ¬ ∀ (env : AdoptEnv) (ac : WorkerStreamClientMsg) (c₀ c : Conn) (es : List ConnEvent),
      workerAdoptClientFd env ac = .piped c₀ → EofRun c₀ es c →
      c.upstream.sent = proxyHeader ac.route ac.peerAddr.bytes env.localBytes ++ c.client.received := by
  intro delivers
  have run : EofRun headedConn queuedRun (headedConn.after queuedRun) :=
    ⟨by decide +kernel, by decide, by decide⟩
  have lost : (headedConn.after queuedRun).upstream.sent ≠
      proxyHeader headedMsg.route headedMsg.peerAddr.bytes smoothEnv.localBytes ++
        (headedConn.after queuedRun).client.received := by
    decide +kernel
  exact lost (delivers smoothEnv headedMsg headedConn _ queuedRun headedConn_adopted run)

end Tinyproxy
