import Tinyproxy.Stream.Integrity

/-!
# Half-closing the client

An upstream that ends, or fails with a response queued, takes the connection from
its open phase through `close_client_after_drain` to `close_after_client_eof`, and
the client's write side is shut down on the way. `Phased` is what each phase has
switched off. As long as a disabled direction produces no callback the upstream
cannot start the sequence twice; `DisabledSilent` is that assumption on a step. It
leaves out the one event libevent delivers with both directions disabled, the end
of a connect that was still in progress when the upstream ended.
-/

namespace Tinyproxy

/-- Whether the direction of the upstream the event comes from is enabled. -/
def ConnEvent.fromEnabled (upstream : Bufferevent) : ConnEvent → Bool
  | .connected _ => upstream.evWrite
  | .upstreamEvent .writing _ => upstream.evWrite
  | _ => true

/-- **What is assumed of libevent here**: a disabled direction produces no callback. -/
def DisabledSilent (s : Session) (e : ConnEvent) : Prop := e.fromEnabled s.conn.upstream = true

instance (s : Session) (e : ConnEvent) : Decidable (DisabledSilent s e) :=
  inferInstanceAs (Decidable (_ = _))

/-- With disabled directions silent, an upstream event callback needs an enabled direction. -/
theorem Bufferevent.canSignal_silent {b : Bufferevent} {dir : Direction} {cond : Condition}
    (silent : (ConnEvent.upstreamEvent dir cond).fromEnabled b = true) (ready : b.canSignal dir cond = true) :
    b.evRead = true ∨ b.evWrite = true := by
  rcases b.canSignal_enabled ready with reads | writes | ⟨rfl, -⟩
  · exact .inl reads
  · exact .inr writes
  · exact .inr silent

/-- The phase flags of a connection and what each phase has switched off. -/
structure Phased (f : Flow) : Prop where
  unshut : f.closeWait = false → f.client.shutdowns = 0
  once : f.client.shutdowns ≤ 1
  exclusive : f.draining = true → f.closeWait = false
  stopped : f.draining = true ∨ f.closeWait = true → f.upstream.evRead = false ∧ f.upstream.evWrite = false
  quiet : f.closeWait = true → f.client.output = [] ∧ f.client.evWrite = false

namespace Phased

variable {f g : Flow} {e : ConnEvent}

/-- A connection in its open phase. -/
theorem of_open (draining : f.draining = false) (closeWait : f.closeWait = false)
    (shutdowns : f.client.shutdowns = 0) : Phased f where
  unshut := fun _ => shutdowns
  once := by omega
  exclusive := fun _ => closeWait
  stopped := by
    rintro (drains | closes)
    · rw [draining] at drains
      cases drains
    · rw [closeWait] at closes
      cases closes
  quiet := by
    intro closes
    rw [closeWait] at closes
    cases closes

/-- While the upstream is enabled the connection is open. -/
theorem is_open (phased : Phased f) (enabled : f.upstream.evRead = true ∨ f.upstream.evWrite = true) :
    f.draining = false ∧ f.closeWait = false := by
  have running : ¬ (f.draining = true ∨ f.closeWait = true) := by
    intro closing
    have stopped := phased.stopped closing
    rw [stopped.1, stopped.2] at enabled
    rcases enabled with read | write
    · cases read
    · cases write
  constructor
  · exact eq_false_of_ne_true fun draining => running (.inl draining)
  · exact eq_false_of_ne_true fun closeWait => running (.inr closeWait)

/-- While the client can be written to its write side has not been shut down. -/
theorem unclosed (phased : Phased f) (enabled : f.client.evWrite = true) : f.closeWait = false := by
  apply eq_false_of_ne_true
  intro closing
  rw [(phased.quiet closing).2] at enabled
  cases enabled

theorem halfClosed_shutdowns (b : Bufferevent) : b.halfClosed.shutdowns ≤ b.shutdowns + 1 := by
  unfold Bufferevent.halfClosed
  dsimp only
  split <;> omega

/-- The connection right after `finish_client_write`. -/
theorem of_finished {client upstream : Bufferevent} {connected : Bool} (shutdowns : client.shutdowns = 0)
    (empty : client.output = []) (stopped : upstream.evRead = false ∧ upstream.evWrite = false) :
    Phased ⟨client.halfClosed, upstream, connected, true, false⟩ where
  unshut := fun closing => by cases closing
  once := by
    have one := halfClosed_shutdowns client
    rwa [shutdowns] at one
  exclusive := fun draining => by cases draining
  stopped := fun _ => stopped
  quiet := fun _ => ⟨empty, rfl⟩

/-- One event from an enabled direction keeps the phases. -/
theorem step (phased : Phased f) (silent : e.fromEnabled f.upstream = true) (moved : FlowStep f e g) : Phased g := by
  cases moved with
  | connected ready =>
    obtain ⟨draining, closeWait⟩ := phased.is_open (.inr silent)
    exact of_open draining closeWait (phased.unshut closeWait)
  | clientRead ready => exact ⟨phased.unshut, phased.once, phased.exclusive, phased.stopped, phased.quiet⟩
  | upstreamRead ready =>
    obtain ⟨draining, closeWait⟩ := phased.is_open (.inl (f.upstream.canRead_evRead ready))
    exact of_open draining closeWait (phased.unshut closeWait)
  | clientWrite ready left =>
    have unclosed := phased.unclosed (f.client.canWrite_evWrite ready)
    refine ⟨phased.unshut, phased.once, phased.exclusive, phased.stopped, ?_⟩
    intro closing
    rw [unclosed] at closing
    cases closing
  | clientDrained ready empty normal =>
    have unclosed := phased.unclosed (f.client.canWrite_evWrite ready)
    exact of_open normal unclosed (phased.unshut unclosed)
  | clientFinished ready empty last =>
    exact of_finished (phased.unshut (phased.exclusive last)) empty (phased.stopped (.inl last))
  | upstreamWrite ready left =>
    obtain ⟨draining, closeWait⟩ := phased.is_open (.inr (f.upstream.canWrite_evWrite ready))
    exact of_open draining closeWait (phased.unshut closeWait)
  | upstreamDrained ready empty =>
    obtain ⟨draining, closeWait⟩ := phased.is_open (.inr (f.upstream.canWrite_evWrite ready))
    exact of_open draining closeWait (phased.unshut closeWait)
  | upstreamLost ready kind pending =>
    obtain ⟨-, closeWait⟩ := phased.is_open (Bufferevent.canSignal_silent silent ready)
    refine ⟨phased.unshut, phased.once, fun _ => closeWait, fun _ => ⟨rfl, rfl⟩, ?_⟩
    intro closing
    rw [closeWait] at closing
    cases closing
  | upstreamEnded ready nothing =>
    obtain ⟨-, closeWait⟩ := phased.is_open (Bufferevent.canSignal_silent silent ready)
    exact of_finished (phased.unshut closeWait) nothing ⟨rfl, rfl⟩
  | idle => exact phased

/-- Freeing the connection keeps the phases: it only ever disables. -/
theorem freed (phased : Phased f) (gone : FreeStep f e g) : Phased g := by
  cases gone with
  | @client dir cond ready =>
    refine ⟨?_, ?_, phased.exclusive, phased.stopped, ?_⟩
    · cases dir <;> exact phased.unshut
    · cases dir <;> exact phased.once
    · intro closing
      have quiet := phased.quiet closing
      cases dir <;> simp [Bufferevent.fail, Bufferevent.disable, quiet]
  | @timeout dir ready =>
    refine ⟨phased.unshut, phased.once, phased.exclusive, ?_, phased.quiet⟩
    intro closing
    have stopped := phased.stopped closing
    cases dir <;> simp [Bufferevent.fail, Bufferevent.disable, stopped]
  | @error dir err ready nothing =>
    refine ⟨phased.unshut, phased.once, phased.exclusive, ?_, phased.quiet⟩
    intro closing
    have stopped := phased.stopped closing
    cases dir <;> simp [Bufferevent.fail, Bufferevent.disable, stopped]
  | idle => exact phased

end Phased

/-- The client's write side has been given up with `sent` on the wire, after `n` shutdowns. -/
structure Sealed (sent : Bytes) (n : Nat) (f : Flow) : Prop where
  phased : Phased f
  closing : f.closeWait = true
  sent : f.client.sent = sent
  shutdowns : f.client.shutdowns = n

namespace Sealed

variable {sent : Bytes} {n : Nat} {f g : Flow} {e : ConnEvent}

theorem not_open (shut : Sealed sent n f) (enabled : f.upstream.evRead = true ∨ f.upstream.evWrite = true) : False := by
  have unclosed := (shut.phased.is_open enabled).2
  rw [shut.closing] at unclosed
  cases unclosed

theorem not_writing (shut : Sealed sent n f) (enabled : f.client.evWrite = true) : False := by
  have unclosed := shut.phased.unclosed enabled
  rw [shut.closing] at unclosed
  cases unclosed

/-- After the half-close only client reads and the idle timer remain. -/
theorem step (shut : Sealed sent n f) (silent : e.fromEnabled f.upstream = true) (moved : FlowStep f e g) :
    Sealed sent n g := by
  have phased := shut.phased.step silent moved
  cases moved with
  | clientRead ready => exact ⟨phased, shut.closing, shut.sent, shut.shutdowns⟩
  | idle => exact shut
  | connected ready => exact (shut.not_open (.inr silent)).elim
  | upstreamRead ready => exact (shut.not_open (.inl (f.upstream.canRead_evRead ready))).elim
  | clientWrite ready left => exact (shut.not_writing (f.client.canWrite_evWrite ready)).elim
  | clientDrained ready empty normal => exact (shut.not_writing (f.client.canWrite_evWrite ready)).elim
  | clientFinished ready empty last => exact (shut.not_writing (f.client.canWrite_evWrite ready)).elim
  | upstreamWrite ready left => exact (shut.not_open (.inr (f.upstream.canWrite_evWrite ready))).elim
  | upstreamDrained ready empty => exact (shut.not_open (.inr (f.upstream.canWrite_evWrite ready))).elim
  | upstreamLost ready kind pending => exact (shut.not_open (Bufferevent.canSignal_silent silent ready)).elim
  | upstreamEnded ready nothing => exact (shut.not_open (Bufferevent.canSignal_silent silent ready)).elim

theorem freed (shut : Sealed sent n f) (gone : FreeStep f e g) : Sealed sent n g := by
  have phased := shut.phased.freed gone
  cases gone with
  | @client dir cond ready =>
    refine ⟨phased, shut.closing, ?_, ?_⟩
    · cases dir <;> exact shut.sent
    · cases dir <;> exact shut.shutdowns
  | timeout ready => exact ⟨phased, shut.closing, shut.sent, shut.shutdowns⟩
  | error ready nothing => exact ⟨phased, shut.closing, shut.sent, shut.shutdowns⟩
  | idle => exact shut

end Sealed

theorem freshConn_phased (r : Route) (clientFd upstreamFd : Int) (header : Bytes) :
    Phased (freshConn r clientFd upstreamFd header).flow :=
  .of_open rfl rfl rfl

/-- Every run of an adopted connection in which disabled directions are silent keeps the phases. -/
theorem adopted_phased {env : AdoptEnv} {ac : WorkerStreamClientMsg} {c : Conn} {es : List ConnEvent} {s : Session}
    (adopted : workerAdoptClientFd env ac = .piped c) (silent : connMachine.Along DisabledSilent (.live c) es)
    (ran : connMachine.run (.live c) es = some s) : Phased s.conn.flow := by
  obtain ⟨fd, header, -, rfl⟩ := adopted_piped adopted
  apply run_flow_along (s := .live _) (p := fun f e => e.fromEnabled f.upstream = true) _ _
    (freshConn_phased ac.route ac.fd fd header) silent ran
  · intro f e g phased silent moved
    exact phased.step silent moved
  · intro f e g phased gone
    exact phased.freed gone

/-- What holds of a connection in which the client's write side may have been shut down. -/
structure HalfCloseKept (c : Conn) : Prop where
  once : c.client.shutdowns ≤ 1
  exclusive : ¬ (c.closeClientAfterDrain = true ∧ c.closeAfterClientEof = true)
  delivered : 0 < c.client.shutdowns → c.client.sent = c.upstream.received
  stopped : 0 < c.client.shutdowns → c.upstream.evRead = false ∧ c.upstream.evWrite = false

/-- **Half-close discipline.** In every run in which disabled directions are silent the client's write side is shut
down at most once, only with the whole response written, and from then on nothing is queued for the client and the
upstream stays disabled. -/
theorem half_close_discipline {env : AdoptEnv} {ac : WorkerStreamClientMsg} {c : Conn} {es : List ConnEvent}
    {s : Session} (adopted : workerAdoptClientFd env ac = .piped c)
    (silent : connMachine.Along DisabledSilent (.live c) es) (ran : connMachine.run (.live c) es = some s) :
    HalfCloseKept s.conn ∧
      (0 < s.conn.client.shutdowns → ∀ ds t, connMachine.Along DisabledSilent s ds →
        connMachine.run s ds = some t → t.conn.client.output = [] ∧ t.conn.client.sent = s.conn.client.sent ∧
        t.conn.client.shutdowns = s.conn.client.shutdowns ∧
        t.conn.upstream.evRead = false ∧ t.conn.upstream.evWrite = false) := by
  have phased := adopted_phased adopted silent ran
  obtain ⟨d, related⟩ := adopted_relays adopted ran
  have closing : 0 < s.conn.client.shutdowns → s.conn.flow.closeWait = true := by
    intro shut
    apply eq_true_of_ne_false
    intro unclosed
    have none : s.conn.client.shutdowns = 0 := phased.unshut unclosed
    omega
  constructor
  · refine ⟨phased.once, ?_, ?_, ?_⟩
    · rintro ⟨draining, closeWait⟩
      have unclosed : s.conn.closeAfterClientEof = false := phased.exclusive draining
      rw [closeWait] at unclosed
      cases unclosed
    · intro shut
      have empty : s.conn.client.output = [] := (phased.quiet (closing shut)).1
      have law := related.bytesIntact.clientQueued
      rwa [empty, List.append_nil] at law
    · intro shut
      exact phased.stopped (.inr (closing shut))
  · intro shut ds t quietly later
    have start : Sealed s.conn.client.sent s.conn.client.shutdowns s.conn.flow := ⟨phased, closing shut, rfl, rfl⟩
    have final : Sealed s.conn.client.sent s.conn.client.shutdowns t.conn.flow := by
      apply run_flow_along (p := fun f e => e.fromEnabled f.upstream = true) _ _ start quietly later
      · intro f e g sealed silent moved
        exact sealed.step silent moved
      · intro f e g sealed gone
        exact sealed.freed gone
    have quiet := (final.phased.quiet final.closing).1
    have stopped := final.phased.stopped (.inr final.closing)
    exact ⟨quiet, final.sent, final.shutdowns, stopped.1, stopped.2⟩

/-- A response that is written out after the upstream has ended. -/
def drainedRun : List ConnEvent :=
  [.connected true, .upstreamRead [4, 5], .clientWrite 1, .upstreamEvent .reading .eof, .clientWrite 1]

theorem half_close_discipline_drained :
    (headedConn.after drainedRun).client.shutdowns = 1 ∧ HalfCloseKept (headedConn.after drainedRun) :=
  have ran : connMachine.run (.live headedConn) drainedRun = some (.live (headedConn.after drainedRun)) := by
    decide +kernel
  have silent : connMachine.Along DisabledSilent (.live headedConn) drainedRun := by decide +kernel
  ⟨by decide +kernel, (half_close_discipline headedConn_adopted silent ran).1⟩

end Tinyproxy
