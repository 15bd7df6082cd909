import Mathlib.Logic.Function.Basic
import Tinyproxy.Datagram.Sessions

/-!
# Lifetime of datagram clients across workers

The steps of a datagram route with the workers in view. A worker that handles a packet
cleans up first and then forwards it, each under `clients_mu`; a worker whose event loop
watches a client enters `upstream_read_cb` with that client and takes `clients_mu` as a
step of its own. Nothing keeps another worker from expiring the client in between:
`event_free` stops later dispatches, not one that has begun.
-/

namespace Tinyproxy

/-- Where a worker is: between two events, between the two critical sections of a packet, in
`upstream_read_cb` before it has the lock, or there with the lock. -/
inductive WorkerPhase where
  | idle
  | cleaned
  | entered (id : Nat)
  | holding (id : Nat)
  deriving DecidableEq

/-- A datagram route, its workers and the holder of `clients_mu` while that is a state of its own. -/
structure RouteWorkers where
  ctx : DatagramRouteCtx
  phase : Nat → WorkerPhase := fun _ => .idle
  lock : Option Nat := none

/-- A step of worker `w`. -/
inductive WorkerStep where
  | enter (w id : Nat)
  | acquire (w : Nat)
  | read (w : Nat) (results : List RecvOutcome)
  | cleanup (w : Nat) (now : Int)
  | packet (w : Nat) (env : PacketEnv) (pkt : WorkerDatagramPacketMsg)

/-- The event of a client in the table is dispatched by the worker that watches it. -/
def DatagramRouteCtx.watched (ctx : DatagramRouteCtx) (w id : Nat) : Bool :=
  ctx.clients.any fun c => c.id = id && c.base = w

/-- The machine of a datagram route and its workers. -/
def routeWorkersMachine : Lib.Machine RouteWorkers WorkerStep where
  step st
    | .enter w id =>
      if st.phase w = .idle ∧ st.ctx.watched w id then
        some { st with phase := Function.update st.phase w (.entered id) }
      else none
    | .acquire w =>
      match st.phase w, st.lock with
      | .entered id, none => some { st with phase := Function.update st.phase w (.holding id), lock := some w }
      | _, _ => none
    | .read w results =>
      match st.phase w with
      | .holding id =>
        ((st.ctx.clients.find? fun c => c.id = id).bind fun c => upstreamReadCb st.ctx c results).map fun ctx =>
          { ctx := ctx, phase := Function.update st.phase w .idle, lock := none }
      | _ => none
    | .cleanup w now =>
      if st.phase w = .idle ∧ st.lock = none then
        some { st with ctx := cleanupIdleDatagramClients st.ctx now, phase := Function.update st.phase w .cleaned }
      else none
    | .packet w env pkt =>
      if st.phase w = .cleaned ∧ st.lock = none then
        some { st with
          ctx := (datagramRouteHandlePacket st.ctx w env pkt).1
          phase := Function.update st.phase w .idle }
      else none

/-- A client that is in the table with its socket open. -/
def DatagramRouteCtx.holds (ctx : DatagramRouteCtx) (id : Nat) : Prop :=
  ∃ c ∈ ctx.clients, c.id = id ∧ c.fd ∈ ctx.sockets.openFds

/-- The client `upstream_read_cb` works on under the lock is still there. -/
def ClientAlive (st : RouteWorkers) : Prop := ∀ w id, st.phase w = .holding id → st.ctx.holds id

/-- A cleanup expires no client for which some worker has entered `upstream_read_cb` without the lock so far. -/
def SparesEntered (st : RouteWorkers) (e : WorkerStep) : Prop :=
  ∀ w now, e = .cleanup w now → ∀ v id, st.phase v = .entered id → ∀ c ∈ st.ctx.clients, c.id = id →
    c.fresh st.ctx.route now = true

/-! ## The table keeps its clients -/

/-- `ctx'` still has the clients of `ctx`, on the same sockets. -/
def KeepsClients (ctx ctx' : DatagramRouteCtx) : Prop := ∀ c ∈ ctx.clients, ∃ d ∈ ctx'.clients, d.id = c.id

theorem keepsClients_touch (ctx : DatagramRouteCtx) (id : Nat) (now : Int) :
    KeepsClients ctx (touchDatagramClient ctx id now) := by
  intro c mem
  refine ⟨_, List.mem_map_of_mem mem, ?_⟩
  split <;> rfl

theorem keepsClients_packet {ctx ctx' : DatagramRouteCtx} {base : Nat} {env : PacketEnv} {pkt : WorkerDatagramPacketMsg}
    (step : PacketStep ctx base env pkt ctx') : KeepsClients ctx ctx' := by
  cases step with
  | nothing => exact fun c mem => ⟨c, mem, rfl⟩
  | failed => exact fun c mem => ⟨c, mem, rfl⟩
  | found known once => exact keepsClients_touch ctx _ env.now
  | created unknown once =>
    intro c mem
    exact keepsClients_touch _ ctx.nextClient env.now c (List.mem_cons_of_mem _ mem)

/-! ## The invariant -/

/-- Every worker inside `upstream_read_cb` has its client in the table, and the lock from when it has taken it. -/
structure Guarded (st : RouteWorkers) : Prop where
  sessions : ∃ owners, Sessions owners st.ctx
  entered : ∀ w id, st.phase w = .entered id → ∃ c ∈ st.ctx.clients, c.id = id
  holding : ∀ w id, st.phase w = .holding id → st.lock = some w ∧ ∃ c ∈ st.ctx.clients, c.id = id

theorem Guarded.alive {st : RouteWorkers} (guarded : Guarded st) : ClientAlive st := by
  intro w id held
  obtain ⟨owners, sessions⟩ := guarded.sessions
  obtain ⟨-, c, mem, same⟩ := guarded.holding w id held
  exact ⟨c, mem, same, sessions.opened c mem⟩

/-- What a worker's own move leaves of the others' phases. -/
theorem phase_update {phase : Nat → WorkerPhase} {w v : Nat} {p q : WorkerPhase}
    (now : Function.update phase w p v = q) : (v = w ∧ p = q) ∨ (v ≠ w ∧ phase v = q) := by
  by_cases own : v = w
  · left
    subst own
    rw [Function.update_self] at now
    exact ⟨rfl, now⟩
  · right
    rw [Function.update_of_ne own] at now
    exact ⟨own, now⟩

namespace Guarded

variable {st st' : RouteWorkers} {w : Nat}

/-- A worker that leaves `upstream_read_cb` alone, on a table that keeps its clients. -/
theorem outside (guarded : Guarded st) {ctx : DatagramRouteCtx} {p : WorkerPhase} {lock : Option Nat}
    (sessions : ∃ owners, Sessions owners ctx) (keeps : KeepsClients st.ctx ctx)
    (entered : ∀ id, p ≠ .entered id) (holding : ∀ id, p ≠ .holding id)
    (locked : lock = st.lock ∨ st.lock = some w) :
    Guarded { ctx := ctx, phase := Function.update st.phase w p, lock := lock } where
  sessions := sessions
  entered := by
    intro v id inside
    obtain ⟨-, moved⟩ | ⟨-, before⟩ := phase_update inside
    · exact absurd moved (entered id)
    · obtain ⟨c, mem, rfl⟩ := guarded.entered v id before
      exact keeps c mem
  holding := by
    intro v id inside
    obtain ⟨-, moved⟩ | ⟨other, before⟩ := phase_update inside
    · exact absurd moved (holding id)
    · obtain ⟨held, c, mem, rfl⟩ := guarded.holding v id before
      refine ⟨?_, keeps c mem⟩
      rcases locked with same | own
      · rw [same, held]
      · rw [own, Option.some.injEq] at held
        exact absurd held.symm other

theorem enter (guarded : Guarded st) {id : Nat} (watched : st.ctx.watched w id = true) :
    Guarded { st with phase := Function.update st.phase w (.entered id) } where
  sessions := guarded.sessions
  entered := by
    intro v other inside
    obtain ⟨-, moved⟩ | ⟨-, before⟩ := phase_update inside
    · cases moved
      obtain ⟨c, mem, here⟩ := List.any_eq_true.1 watched
      rw [Bool.and_eq_true] at here
      exact ⟨c, mem, of_decide_eq_true here.1⟩
    · exact guarded.entered v other before
  holding := by
    intro v other inside
    obtain ⟨-, moved⟩ | ⟨-, before⟩ := phase_update inside
    · cases moved
    · exact guarded.holding v other before

theorem acquire (guarded : Guarded st) {id : Nat} (inside : st.phase w = .entered id) (free : st.lock = none) :
    Guarded { st with phase := Function.update st.phase w (.holding id), lock := some w } where
  sessions := guarded.sessions
  entered := by
    intro v other entered
    obtain ⟨-, moved⟩ | ⟨-, before⟩ := phase_update entered
    · cases moved
    · exact guarded.entered v other before
  holding := by
    intro v other held
    obtain ⟨rfl, moved⟩ | ⟨-, before⟩ := phase_update held
    · cases moved
      exact ⟨rfl, guarded.entered v id inside⟩
    · have locked := (guarded.holding v other before).1
      rw [free] at locked
      cases locked

theorem cleanup (guarded : Guarded st) {now : Int} (free : st.lock = none)
    (spares : SparesEntered st (.cleanup w now)) :
    Guarded { st with ctx := cleanupIdleDatagramClients st.ctx now, phase := Function.update st.phase w .cleaned } where
  sessions := by
    obtain ⟨owners, sessions⟩ := guarded.sessions
    exact ⟨owners, sessions.cleanup now⟩
  entered := by
    intro v id inside
    obtain ⟨-, moved⟩ | ⟨-, before⟩ := phase_update inside
    · cases moved
    · obtain ⟨c, mem, same⟩ := guarded.entered v id before
      exact ⟨c, List.mem_filter.2 ⟨mem, spares w now rfl v id before c mem same⟩, same⟩
  holding := by
    intro v id inside
    obtain ⟨-, moved⟩ | ⟨-, before⟩ := phase_update inside
    · cases moved
    · have locked := (guarded.holding v id before).1
      rw [free] at locked
      cases locked

/-- One step that spares the entered clients keeps every worker guarded. -/
theorem step (guarded : Guarded st) {e : WorkerStep} (spares : SparesEntered st e)
    (moved : routeWorkersMachine.step st e = some st') : Guarded st' := by
  cases e with
  | enter w id =>
    obtain ⟨ready, rfl⟩ := Lib.guard_some moved
    exact guarded.enter ready.2
  | acquire w =>
    simp only [routeWorkersMachine] at moved
    split at moved
    · rename_i id inside free
      cases moved
      exact guarded.acquire inside free
    · cases moved
  | read w results =>
    simp only [routeWorkersMachine] at moved
    split at moved
    · rename_i id held
      obtain ⟨ctx, read, rfl⟩ := Option.map_eq_some_iff.1 moved
      have step : datagramMachine.step st.ctx (.upstreamRead id results) = some ctx := read
      obtain ⟨c, mem, rfl⟩ := read_step step
      obtain ⟨owners, sessions⟩ := guarded.sessions
      exact guarded.outside ⟨owners, sessions.upstreamRead mem _⟩ (fun c mem => ⟨c, mem, rfl⟩) (fun _ => nofun)
        (fun _ => nofun) (.inr (guarded.holding w id held).1)
    · cases moved
  | cleanup w now =>
    obtain ⟨ready, rfl⟩ := Lib.guard_some moved
    exact guarded.cleanup ready.2 spares
  | packet w env pkt =>
    obtain ⟨-, rfl⟩ := Lib.guard_some moved
    obtain ⟨owners, sessions⟩ := guarded.sessions
    have step := packet_step st.ctx w env pkt
    exact guarded.outside (sessions.packet step) (keepsClients_packet step) (fun _ => nofun) (fun _ => nofun) (.inl rfl)

end Guarded

/-- **Lifetime of datagram clients.** In every run in which no cleanup expires a client some worker is about to read
for, the client `upstream_read_cb` works on under the lock is in the table with its socket open. -/
theorem upstream_read_client_alive {r : Route} {localAddr : SockaddrStorage} {localAddrLen : Nat} {es : List WorkerStep}
    {st : RouteWorkers} (ran : routeWorkersMachine.run { ctx := freshCtx r localAddr localAddrLen } es = some st)
    (spares : routeWorkersMachine.Along SparesEntered { ctx := freshCtx r localAddr localAddrLen } es) :
    ClientAlive st := by
  have start : Guarded { ctx := freshCtx r localAddr localAddrLen } :=
    ⟨⟨[], freshCtx_sessions r localAddr localAddrLen⟩, fun _ _ => nofun, fun _ _ => nofun⟩
  apply Guarded.alive
  refine Lib.Machine.run_along (I := Guarded) ?_ start spares ran
  intro st e st' guarded spared moved
  exact guarded.step spared moved

/-- Worker 0 makes a client and enters `upstream_read_cb` for it. -/
def enteredRun : List WorkerStep :=
  [.cleanup 0 0, .packet 0 (smoothPacketEnv 0) (packetFrom 7 [1]), .enter 0 0]

def entered : RouteWorkers := (routeWorkersMachine.run { ctx := udpCtx } enteredRun).get (by decide +kernel)

/-- Worker 1 cleans up while the client is still fresh, then worker 0 takes the lock. -/
def sparedRun : List WorkerStep := enteredRun ++ [.cleanup 1 30] ++ [.acquire 0]

def spared : RouteWorkers := (routeWorkersMachine.run { ctx := udpCtx } sparedRun).get (by decide +kernel)

theorem sparedRun_spares : routeWorkersMachine.Along SparesEntered { ctx := udpCtx } sparedRun := by
  have made : routeWorkersMachine.Along SparesEntered { ctx := udpCtx } enteredRun := by
    constructor
    · intro w now _ v id _ c mem
      cases mem
    · intro st _
      apply Lib.Machine.along_of_forall
      intro e mem st w now cleanup
      subst cleanup
      simp at mem
  refine Lib.Machine.along_snoc.2 ⟨Lib.Machine.along_snoc.2 ⟨made, ?_⟩, ?_⟩
  · rintro st ran w now ⟨⟩ v id _ c mem _
    have reached : routeWorkersMachine.run { ctx := udpCtx } enteredRun = some entered := (Option.some_get _).symm
    rw [reached] at ran
    cases ran
    have fresh : ∀ c ∈ entered.ctx.clients, c.fresh entered.ctx.route 30 = true := by decide +kernel
    exact fresh c mem
  · rintro st _ w now ⟨⟩

theorem upstream_read_client_alive_spared : spared.phase 0 = .holding 0 ∧ ClientAlive spared :=
  ⟨by decide +kernel, upstream_read_client_alive (Option.some_get _).symm sparedRun_spares⟩

/-- Worker 0 enters `upstream_read_cb`, worker 1 cleans up, worker 0 takes the lock. -/
def expiringRun : List WorkerStep :=
  [.cleanup 0 0, .packet 0 (smoothPacketEnv 0) (packetFrom 7 [1]), .enter 0 0, .cleanup 1 1000, .acquire 0]

def expiring : RouteWorkers := (routeWorkersMachine.run { ctx := udpCtx } expiringRun).get (by decide +kernel)

/-- **A client can be freed under a worker that is about to read for it.** -/
theorem upstream_read_client_freed :
    ¬ ∀ (r : Route) (localAddr : SockaddrStorage) (localAddrLen : Nat) (es : List WorkerStep) (st : RouteWorkers),
      routeWorkersMachine.run { ctx := freshCtx r localAddr localAddrLen } es = some st → ClientAlive st := by
  intro alive
  have held : expiring.phase 0 = .holding 0 := by decide +kernel
  have gone : expiring.ctx.clients = [] := by decide +kernel
  obtain ⟨c, mem, -⟩ := alive _ _ _ expiringRun expiring (Option.some_get _).symm 0 0 held
  rw [gone] at mem
  cases mem

end Tinyproxy
