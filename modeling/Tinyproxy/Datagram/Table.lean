import Tinyproxy.Datagram.Expiry
import Mathlib.Data.List.Nodup
import Mathlib.Data.List.Perm.Subperm

/-!
# The client table and its sockets

The upstream sockets of a datagram route are those of the clients in its table: what
`create_datagram_client` opens for a client it then gives up is closed again, and a
cleanup closes what it removes. So the number of open sockets is bounded by how many
peers have been heard from since `idle_timeout_sec` before the last cleanup, and none
is left by `free_datagram_route`.
-/

namespace Tinyproxy

/-- The loop of `free_datagram_route` over the clients. -/
def freeRouteClients (ctx : DatagramRouteCtx) : DatagramRouteCtx :=
  { ctx with
    clients := []
    sockets := ctx.clients.foldl (fun s c => freeDatagramClient s (some c.fd)) ctx.sockets }

/-- The open sockets are the clients' own, one for each. -/
structure TableExact (ctx : DatagramRouteCtx) : Prop where
  fds : ctx.sockets.openFds.Perm (ctx.clients.map DatagramClient.fd)
  distinct : (ctx.clients.map DatagramClient.fd).Nodup
  below : ∀ c ∈ ctx.clients, c.fd < ctx.sockets.next

/-- Closing the sockets of clients leaves those of nobody among them. -/
theorem close_all_openFds (gone : List DatagramClient) (s : Sockets) :
    (gone.foldl (fun s c => freeDatagramClient s (some c.fd)) s).openFds =
      s.openFds.filter fun fd => decide (∀ c ∈ gone, c.fd ≠ fd) := by
  induction gone generalizing s with
  | nil => simp
  | cons d gone ih =>
    rw [List.foldl_cons, ih]
    simp only [freeDatagramClient, Sockets.close, List.filter_filter]
    apply List.filter_congr
    intro fd _
    simp only [List.forall_mem_cons, ← Bool.decide_and, decide_eq_decide]
    rw [and_comm, ne_comm]

namespace TableExact

variable {ctx : DatagramRouteCtx}

theorem fresh (r : Route) (localAddr : SockaddrStorage) (localAddrLen : Nat) :
    TableExact (freshCtx r localAddr localAddrLen) where
  fds := .nil
  distinct := .nil
  below := nofun

theorem next_notMem (table : TableExact ctx) : ctx.sockets.next ∉ ctx.clients.map DatagramClient.fd := by
  intro inside
  obtain ⟨c, mem, same⟩ := List.mem_map.1 inside
  have := table.below c mem
  omega

theorem touch (table : TableExact ctx) (id : Nat) (now : Int) : TableExact (touchDatagramClient ctx id now) := by
  have fds : (touchDatagramClient ctx id now).clients.map DatagramClient.fd = ctx.clients.map DatagramClient.fd := by
    simp only [touchDatagramClient, List.map_map]
    apply List.map_congr_left
    intro c _
    simp only [Function.comp]
    split <;> rfl
  constructor
  · rw [fds]
    exact table.fds
  · rw [fds]
    exact table.distinct
  · intro c mem
    have inside := List.mem_map_of_mem (f := DatagramClient.fd) mem
    rw [fds] at inside
    obtain ⟨d, old, same⟩ := List.mem_map.1 inside
    rw [← same]
    exact table.below d old

theorem packet (table : TableExact ctx) {base : Nat} {env : PacketEnv} {pkt : WorkerDatagramPacketMsg}
    {ctx' : DatagramRouteCtx} (step : PacketStep ctx base env pkt ctx') : TableExact ctx' := by
  cases step with
  | nothing => exact table
  | failed =>
    have unused : ∀ fd ∈ ctx.sockets.openFds, fd ≠ ctx.sockets.next := by
      rintro fd opened rfl
      exact table.next_notMem (table.fds.mem_iff.1 opened)
    have same : (ctx.sockets.socket.close ctx.sockets.next).openFds = ctx.sockets.openFds := by
      simp only [Sockets.socket, Sockets.close, ne_eq, decide_not, List.filter_cons, decide_true, Bool.not_true,
        Bool.false_eq_true, if_false]
      apply List.filter_eq_self.2
      intro fd opened
      simpa using unused fd opened
    constructor
    · show (ctx.sockets.socket.close ctx.sockets.next).openFds.Perm _
      rw [same]
      exact table.fds
    · exact table.distinct
    · intro c mem
      have := table.below c mem
      exact Nat.lt_succ_of_lt this
  | @found c sent known once =>
    have touched := table.touch c.id env.now
    exact ⟨touched.fds, touched.distinct, touched.below⟩
  | created unknown once =>
    have inserted : TableExact
        { ctx with
          clients := ⟨ctx.nextClient, base, ctx.sockets.next, pkt.peerAddr, pkt.peerAddrLen, env.now⟩ :: ctx.clients
          nextClient := ctx.nextClient + 1
          sockets := ctx.sockets.socket } := by
      constructor
      · exact table.fds.cons ctx.sockets.next
      · exact List.nodup_cons.2 ⟨table.next_notMem, table.distinct⟩
      · intro c mem
        rcases List.mem_cons.1 mem with rfl | old
        · exact Nat.lt_succ_self _
        · exact Nat.lt_succ_of_lt (table.below c old)
    have touched := inserted.touch ctx.nextClient env.now
    exact ⟨touched.fds, touched.distinct, touched.below⟩

theorem cleanup (table : TableExact ctx) (now : Int) : TableExact (cleanupIdleDatagramClients ctx now) := by
  have kept : (ctx.clients.filter (DatagramClient.fresh ctx.route now)).map DatagramClient.fd =
      (ctx.clients.map DatagramClient.fd).filter fun fd =>
        decide (∀ c ∈ ctx.clients.filter (fun (c : DatagramClient) => !c.fresh ctx.route now), c.fd ≠ fd) := by
    rw [List.filter_map]
    congr 1
    apply List.filter_congr
    intro c mem
    rw [Function.comp, Bool.eq_iff_iff, decide_eq_true_iff, iff_comm]
    constructor
    · intro others
      by_contra stale
      exact others c (List.mem_filter.2 ⟨mem, by simpa using stale⟩) rfl
    · intro fresh d gone same
      obtain ⟨there, stale⟩ := List.mem_filter.1 gone
      obtain rfl : d = c := List.inj_on_of_nodup_map table.distinct there mem same
      simp [fresh] at stale
  constructor
  · show List.Perm (List.foldl _ ctx.sockets _).openFds _
    rw [close_all_openFds]
    show List.Perm _ ((ctx.clients.filter (DatagramClient.fresh ctx.route now)).map DatagramClient.fd)
    rw [kept]
    exact table.fds.filter _
  · show ((ctx.clients.filter (DatagramClient.fresh ctx.route now)).map DatagramClient.fd).Nodup
    rw [kept]
    exact table.distinct.filter _
  · intro c mem
    show c.fd < (List.foldl _ ctx.sockets _).next
    rw [Sessions.close_all_next]
    exact table.below c (List.mem_filter.1 mem).1

theorem step (table : TableExact ctx) {e : DatagramStep} {ctx' : DatagramRouteCtx}
    (moved : datagramMachine.step ctx e = some ctx') : TableExact ctx' := by
  cases e with
  | packet base env pkt =>
    cases moved
    exact table.packet (packet_step ctx base env pkt)
  | cleanup now =>
    cases moved
    exact table.cleanup now
  | upstreamRead id results =>
    obtain ⟨c, -, rfl⟩ := read_step moved
    exact ⟨table.fds, table.distinct, table.below⟩

/-- **`free_datagram_route` leaves no upstream socket open.** -/
theorem freed (table : TableExact ctx) : (freeRouteClients ctx).sockets.openFds = [] := by
  show (List.foldl _ ctx.sockets ctx.clients).openFds = []
  rw [close_all_openFds, List.filter_eq_nil_iff]
  intro fd opened
  obtain ⟨c, mem, rfl⟩ := List.mem_map.1 (table.fds.mem_iff.1 opened)
  simp only [decide_eq_true_iff]
  exact fun others => others c mem rfl

theorem free (table : TableExact ctx) : TableExact (freeRouteClients ctx) where
  fds := by
    rw [table.freed]
    exact .nil
  distinct := .nil
  below := nofun

end TableExact

/-! ## How many sockets there are -/

/-- Every client was seen at `since` or later. -/
def SeenSince (since : Int) (ctx : DatagramRouteCtx) : Prop := ∀ c ∈ ctx.clients, since ≤ c.lastSeen

/-- A timed step is one of the route's at a time that is not past. -/
theorem timed_cases {st st' : TimedRoute} {e : TimedStep} (moved : timedMachine.step st e = some st') :
    st.now ≤ e.now ∧ st'.now = e.now ∧ datagramMachine.step st.ctx e.step = some st'.ctx := by
  simp only [timedMachine] at moved
  split at moved
  · rename_i later
    obtain ⟨after, taken, rfl⟩ := Option.map_eq_some_iff.1 moved
    exact ⟨later, rfl, taken⟩
  · cases moved

theorem seenSince_cleanup (ctx : DatagramRouteCtx) (now : Int) :
    SeenSince (now - ctx.route.opts.idleTimeoutSec) (cleanupIdleDatagramClients ctx now) := by
  intro c mem
  have fresh := (List.mem_filter.1 mem).2
  rw [DatagramClient.fresh, decide_eq_true_iff] at fresh
  omega

/-- A timed route that keeps to the peers heard since `since`. -/
structure HeardSince (since : Int) (st : TimedRoute) : Prop where
  clocked : Clocked st
  table : TableExact st.ctx
  seen : SeenSince since st.ctx
  started : since ≤ st.now

namespace HeardSince

variable {since : Int} {st st' : TimedRoute}

theorem step (heard : HeardSince since st) {e : TimedStep} (moved : timedMachine.step st e = some st') :
    HeardSince since st' := by
  obtain ⟨later, time, taken⟩ := timed_cases moved
  have started := heard.started
  refine ⟨heard.clocked.step moved, heard.table.step taken, ?_, by omega⟩
  have reads := e.reads
  cases step : e.step with
  | packet base env pkt =>
    rw [step] at taken reads
    rw [← Option.some.inj taken]
    intro c mem
    have now : env.now = e.now := reads
    obtain ⟨owners, sessions⟩ := heard.clocked.sessions
    rcases packet_clients sessions heard.clocked.named heard.clocked.bare mem with ⟨-, seen⟩ | ⟨old, -⟩
    · omega
    · exact heard.seen c old
  | cleanup t =>
    rw [step] at taken
    rw [← Option.some.inj taken]
    intro c mem
    exact heard.seen c (List.mem_filter.1 mem).1
  | upstreamRead id results =>
    rw [step] at taken
    obtain ⟨c, -, same⟩ := read_step taken
    rw [same]
    exact heard.seen

/-- No more sockets than peers that account for the packets since `since`. -/
theorem bounded (heard : HeardSince since st) {peers : List Peer}
    (account : ∀ p ∈ st.packets, since ≤ p.2 → ∃ q ∈ peers, sockaddrEqual p.1.1 p.1.2 q.1 q.2 = true) :
    st.ctx.sockets.openFds.length ≤ peers.length := by
  -- each client has one of the peers, and no two clients have the same one
  have one : ∀ c ∈ st.ctx.clients, ∃ q ∈ peers, sockaddrEqual c.clientAddr c.clientAddrLen q.1 q.2 = true := by
    intro c mem
    obtain ⟨p, packet, equal, time⟩ := heard.clocked.heard c mem
    obtain ⟨q, named, same⟩ := account p packet (time ▸ heard.seen c mem)
    exact ⟨q, named, sockaddrEqual_trans equal same⟩
  obtain ⟨owners, sessions⟩ := heard.clocked.sessions
  have injected : ∀ (clients : List DatagramClient), clients.Pairwise OtherPeer →
      (∀ c ∈ clients, ∃ q ∈ peers, sockaddrEqual c.clientAddr c.clientAddrLen q.1 q.2 = true) →
      ∃ chosen : List Peer, chosen.Nodup ∧ chosen ⊆ peers ∧ chosen.length = clients.length ∧
        ∀ q ∈ chosen, ∃ c ∈ clients, sockaddrEqual c.clientAddr c.clientAddrLen q.1 q.2 = true := by
    intro clients apart named
    induction clients with
    | nil => exact ⟨[], .nil, List.nil_subset _, rfl, nofun⟩
    | cons c clients ih =>
      obtain ⟨others, apart⟩ := List.pairwise_cons.1 apart
      obtain ⟨own, named⟩ := List.forall_mem_cons.1 named
      obtain ⟨q, inside, equal⟩ := own
      obtain ⟨chosen, distinct, subset, length, back⟩ := ih apart named
      refine ⟨q :: chosen, List.nodup_cons.2 ⟨?_, distinct⟩, List.cons_subset.2 ⟨inside, subset⟩, ?_, ?_⟩
      · intro taken
        obtain ⟨d, mem, same⟩ := back q taken
        have other := others d mem
        rw [OtherPeer, sockaddrEqual_trans equal (sockaddrEqual_symm same)] at other
        cases other
      · rw [List.length_cons, List.length_cons, length]
      · rw [List.forall_mem_cons]
        refine ⟨⟨c, List.mem_cons_self, equal⟩, fun p taken => ?_⟩
        obtain ⟨d, mem, same⟩ := back p taken
        exact ⟨d, List.mem_cons_of_mem _ mem, same⟩
  obtain ⟨chosen, distinct, subset, length, -⟩ := injected st.ctx.clients sessions.distinct one
  rw [heard.table.fds.length_eq, List.length_map, ← length]
  exact (List.Nodup.subperm distinct subset).length_le

end HeardSince

/-- The upstream sockets of a route after a cleanup at time `now`. -/
structure SocketsBounded (now : Int) (st : TimedRoute) : Prop where
  /-- The open sockets are those of the clients in the table, one for each. -/
  own : st.ctx.sockets.openFds.Perm (st.ctx.clients.map DatagramClient.fd) ∧
    (st.ctx.clients.map DatagramClient.fd).Nodup
  /-- There are at most as many as peers that account for the packets since `idle_timeout_sec` before that. -/
  bounded : ∀ peers : List Peer,
    (∀ p ∈ st.packets, now - st.ctx.route.opts.idleTimeoutSec ≤ p.2 →
      ∃ q ∈ peers, sockaddrEqual p.1.1 p.1.2 q.1 q.2 = true) →
    st.ctx.sockets.openFds.length ≤ peers.length
  /-- `free_datagram_route` closes all of them. -/
  freed : (freeRouteClients st.ctx).sockets.openFds = []

theorem route_kept {st st' : TimedRoute} {e : TimedStep} (moved : timedMachine.step st e = some st') :
    st'.ctx.route = st.ctx.route := by
  obtain ⟨-, -, taken⟩ := timed_cases moved
  cases step : e.step with
  | packet base env pkt =>
    rw [step] at taken
    have step := packet_step st.ctx base env pkt
    rw [show (datagramRouteHandlePacket st.ctx base env pkt).1 = st'.ctx from Option.some.inj taken] at step
    generalize st'.ctx = after at step
    cases step <;> rfl
  | cleanup now =>
    rw [step] at taken
    rw [← Option.some.inj taken]
    rfl
  | upstreamRead id results =>
    rw [step] at taken
    obtain ⟨c, -, same⟩ := read_step taken
    rw [same]

/-- **The upstream sockets of a datagram route are bounded by its peers**, in every run and from any cleanup on. -/
theorem datagram_sockets_bounded {r : Route} {localAddr : SockaddrStorage} {localAddrLen : Nat} {start : Int}
    {before after : List TimedStep} {cleanup : TimedStep} {now : Int} {st : TimedRoute} (cleans : cleanup.step = .cleanup now)
    (timeout : 0 ≤ r.opts.idleTimeoutSec)
    (ran : timedMachine.run (freshTimedRoute r localAddr localAddrLen start) (before ++ cleanup :: after) = some st) :
    SocketsBounded now st := by
  rw [Lib.Machine.run_append] at ran
  obtain ⟨u, first, rest⟩ := ran
  obtain ⟨v, cleaned, last⟩ := Lib.Machine.run_cons.1 rest
  have earlier : (Clocked u ∧ TableExact u.ctx) ∧ u.ctx.route = r := by
    refine Lib.Machine.run_invariant (I := fun u => (Clocked u ∧ TableExact u.ctx) ∧ u.ctx.route = r) ?_ ?_ first
    · rintro s e t ⟨⟨clocked, table⟩, route⟩ moved
      exact ⟨⟨clocked.step moved, table.step (timed_cases moved).2.2⟩, (route_kept moved).trans route⟩
    · exact ⟨⟨freshTimedRoute_clocked r localAddr localAddrLen start, .fresh r localAddr localAddrLen⟩, rfl⟩
  obtain ⟨⟨clocked, table⟩, route⟩ := earlier
  obtain ⟨-, time, taken⟩ := timed_cases cleaned
  have exact_ := table.step taken
  have reads := cleanup.reads
  rw [cleans] at taken reads
  have same : now = cleanup.now := reads
  have heard : HeardSince (now - r.opts.idleTimeoutSec) v ∧ v.ctx.route = r := by
    refine ⟨⟨clocked.step cleaned, exact_, ?_, by omega⟩, (route_kept cleaned).trans route⟩
    rw [← route, ← Option.some.inj taken]
    exact seenSince_cleanup u.ctx now
  obtain ⟨heard, route⟩ := Lib.Machine.run_invariant
    (I := fun st => HeardSince (now - r.opts.idleTimeoutSec) st ∧ st.ctx.route = r)
    (fun s e t kept moved => ⟨kept.1.step moved, (route_kept moved).trans kept.2⟩) heard last
  constructor
  · exact ⟨heard.table.fds, heard.table.distinct⟩
  · intro peers account
    rw [route] at account
    exact heard.bounded account
  · exact heard.table.freed

/-- Packets of two peers before the cleanup at time 65. -/
def beforeCleanup : List TimedStep :=
  [⟨3, .packet 0 (smoothPacketEnv 3) (packetFrom 7 [1]), rfl⟩, ⟨10, .packet 1 (smoothPacketEnv 10) (packetFrom 8 [2]), rfl⟩]

/-- Packets of a third, and of the first again. -/
def afterCleanup : List TimedStep :=
  [⟨70, .packet 0 (smoothPacketEnv 70) (packetFrom 9 [3]), rfl⟩, ⟨80, .packet 1 (smoothPacketEnv 80) (packetFrom 7 [4]), rfl⟩]

theorem datagram_sockets_bounded_three :
    ∃ st, timedMachine.run (freshTimedRoute udpCtx.route udpCtx.localAddr udpCtx.localAddrLen 0)
        (beforeCleanup ++ ⟨65, .cleanup 65, rfl⟩ :: afterCleanup) = some st ∧
      st.ctx.sockets.openFds = [3, 2, 1] ∧ SocketsBounded 65 st := by
  have seen : (timedMachine.run (freshTimedRoute udpCtx.route udpCtx.localAddr udpCtx.localAddrLen 0)
      (beforeCleanup ++ ⟨65, .cleanup 65, rfl⟩ :: afterCleanup)).map (fun st => st.ctx.sockets.openFds) =
        some [3, 2, 1] := by
    decide +kernel
  obtain ⟨st, ran, fds⟩ := Option.map_eq_some_iff.1 seen
  exact ⟨st, ran, fds, datagram_sockets_bounded rfl (by decide) ran⟩

end Tinyproxy
