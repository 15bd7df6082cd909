import Mathlib.Data.List.Pairwise
import Tinyproxy.Datagram.Client
import Tinyproxy.Lib.Machine

/-!
# Sessions of a datagram route

The lock-protected steps of one datagram route, taken by any worker in any order.
Upstream sockets are numbered in the order they are opened, and `owners` lists the
peer each of them was opened for: a list that only grows at its end, so that a
socket's owner never changes. `Sessions` says that the table and everything that
passed through the sockets agree with it.
-/

namespace Tinyproxy

/-- A critical section of a datagram route, with the worker that runs it where that matters. -/
inductive DatagramStep where
  | packet (base : Nat) (env : PacketEnv) (pkt : WorkerDatagramPacketMsg)
  | cleanup (now : Int)
  | upstreamRead (id : Nat) (results : List RecvOutcome)

/-- The machine of one datagram route. A read callback belongs to a client in the table. -/
def datagramMachine : Lib.Machine DatagramRouteCtx DatagramStep where
  step ctx
    | .packet base env pkt => some (datagramRouteHandlePacket ctx base env pkt).1
    | .cleanup now => some (cleanupIdleDatagramClients ctx now)
    | .upstreamRead id results => (ctx.clients.find? fun c => c.id = id).bind fun c => upstreamReadCb ctx c results

/-- A route as `start_datagram_route` leaves it. -/
def freshCtx (r : Route) (localAddr : SockaddrStorage) (localAddrLen : Nat) : DatagramRouteCtx :=
  { route := r, localAddr := localAddr, localAddrLen := localAddrLen, rawOpen := r.opts.broadcastReply == .upstream }

/-! ## Addresses -/

theorem sockaddrEqual_iff {a b : SockaddrStorage} {aLen bLen : Nat} :
    sockaddrEqual a aLen b bLen = true ↔
      aLen = bLen ∧ a.family = b.family ∧ a.bytes.take aLen = b.bytes.take aLen := by
  unfold sockaddrEqual
  by_cases length : aLen = bLen
  · by_cases family : a.family = b.family
    · simp [length, family]
    · simp [length, family]
  · simp [length]

theorem sockaddrEqual_refl (a : SockaddrStorage) (aLen : Nat) : sockaddrEqual a aLen a aLen = true :=
  sockaddrEqual_iff.2 ⟨rfl, rfl, rfl⟩

theorem sockaddrEqual_symm {a b : SockaddrStorage} {aLen bLen : Nat} (equal : sockaddrEqual a aLen b bLen = true) :
    sockaddrEqual b bLen a aLen = true := by
  obtain ⟨rfl, family, bytes⟩ := sockaddrEqual_iff.1 equal
  exact sockaddrEqual_iff.2 ⟨rfl, family.symm, bytes.symm⟩

/-- Two clients of different peers. -/
def OtherPeer (a b : DatagramClient) : Prop :=
  sockaddrEqual a.clientAddr a.clientAddrLen b.clientAddr b.clientAddrLen = false

theorem OtherPeer.symm {a b : DatagramClient} (other : OtherPeer a b) : OtherPeer b a := by
  apply eq_false_of_ne_true
  intro equal
  rw [OtherPeer, sockaddrEqual_symm equal] at other
  cases other

instance : Std.Symm OtherPeer := ⟨fun _ _ => OtherPeer.symm⟩

/-! ## What a packet can do -/

theorem connect_cases {env : PacketEnv} {s s' : Sockets} {upstream : Endpoint} {fd : Option Nat} {rc : Except Errno Unit}
    (connected : connectDatagramUpstream env s upstream = (s', fd, rc)) :
    (fd = none ∧ (s' = s ∨ s' = s.socket.close s.next)) ∨ (fd = some s.next ∧ s' = s.socket) := by
  unfold connectDatagramUpstream at connected
  repeat' split at connected
  all_goals
    cases connected
    simp

theorem create_cases {ctx ctx' : DatagramRouteCtx} {base : Nat} {env : PacketEnv} {addr : SockaddrStorage} {len : Nat}
    {r : Option DatagramClient} (created : createDatagramClient ctx base env addr len = (ctx', r)) :
    (r = none ∧ (ctx' = ctx ∨ ctx' = { ctx with sockets := ctx.sockets.socket.close ctx.sockets.next })) ∨
      (r = some ⟨ctx.nextClient, base, ctx.sockets.next, addr, len, env.now⟩ ∧
        ctx' = { ctx with
          clients := ⟨ctx.nextClient, base, ctx.sockets.next, addr, len, env.now⟩ :: ctx.clients
          nextClient := ctx.nextClient + 1
          sockets := ctx.sockets.socket }) := by
  unfold createDatagramClient at created
  split at created
  · cases created
    exact .inl ⟨rfl, .inl rfl⟩
  split at created
  · rename_i sockets fd rc connected
    cases created
    left
    obtain ⟨rfl, rfl | rfl⟩ | ⟨rfl, rfl⟩ := connect_cases connected
    · exact ⟨rfl, .inl rfl⟩
    · exact ⟨rfl, .inr rfl⟩
    · exact ⟨rfl, .inr rfl⟩
  · rename_i sockets connected
    cases created
    left
    obtain ⟨-, rfl | rfl⟩ | ⟨none, -⟩ := connect_cases connected
    · exact ⟨rfl, .inl rfl⟩
    · exact ⟨rfl, .inr rfl⟩
    · cases none
  · rename_i sockets fd connected
    obtain ⟨none, -⟩ | ⟨⟨⟩, rfl⟩ := connect_cases connected
    · cases none
    split at created
    · cases created
      exact .inl ⟨rfl, .inr rfl⟩
    · cases created
      exact .inr ⟨rfl, rfl⟩

/-- What is sent upstream for a packet: at most one datagram, on `fd`. -/
def ForPacket (pkt : WorkerDatagramPacketMsg) (fd : Nat) (sent : List Traffic) : Prop :=
  sent = [] ∨ ∃ bytes, sent = [.toUpstream fd pkt.peerAddr pkt.peerAddrLen bytes]

/-- Everything `datagram_route_handle_packet` can do to a route. -/
inductive PacketStep (ctx : DatagramRouteCtx) (base : Nat) (env : PacketEnv) (pkt : WorkerDatagramPacketMsg) :
    DatagramRouteCtx → Prop where
  /-- A builtin upstream, or no client and no socket. -/
  | nothing : PacketStep ctx base env pkt ctx
  /-- No client: the socket opened for it has been closed again. -/
  | failed : PacketStep ctx base env pkt { ctx with sockets := ctx.sockets.socket.close ctx.sockets.next }
  /-- The packet goes out on the socket of its peer's client. -/
  | found {c : DatagramClient} {sent : List Traffic} (known : findDatagramClient ctx pkt.peerAddr pkt.peerAddrLen = some c)
      (once : ForPacket pkt c.fd sent) :
      PacketStep ctx base env pkt { touchDatagramClient ctx c.id env.now with traffic := ctx.traffic ++ sent }
  /-- The packet goes out on a new socket, for a peer that had none. -/
  | created {sent : List Traffic} (unknown : findDatagramClient ctx pkt.peerAddr pkt.peerAddrLen = none)
      (once : ForPacket pkt ctx.sockets.next sent) :
      PacketStep ctx base env pkt
        { touchDatagramClient
            { ctx with
              clients := ⟨ctx.nextClient, base, ctx.sockets.next, pkt.peerAddr, pkt.peerAddrLen, env.now⟩ :: ctx.clients
              nextClient := ctx.nextClient + 1
              sockets := ctx.sockets.socket } ctx.nextClient env.now with
          traffic := ctx.traffic ++ sent }

theorem forwardPacket_once (ctx : DatagramRouteCtx) (env : PacketEnv) (c : DatagramClient)
    (pkt : WorkerDatagramPacketMsg) :
    ∃ sent, ForPacket pkt c.fd sent ∧ (forwardPacket ctx env c pkt).1 = { ctx with traffic := ctx.traffic ++ sent } := by
  unfold forwardPacket
  split
  · exact ⟨[], .inl rfl, by rw [List.append_nil]⟩
  · rename_i bytes rc reached
    exact ⟨_, .inr ⟨bytes, rfl⟩, rfl⟩

/-- **What a packet does to a route.** -/
theorem packet_step (ctx : DatagramRouteCtx) (base : Nat) (env : PacketEnv) (pkt : WorkerDatagramPacketMsg) :
    PacketStep ctx base env pkt (datagramRouteHandlePacket ctx base env pkt).1 := by
  unfold datagramRouteHandlePacket
  split
  · exact .nothing
  unfold datagramRouteGetOrCreateClient
  cases looked : findDatagramClient ctx pkt.peerAddr pkt.peerAddrLen with
  | some c =>
    obtain ⟨sent, once, sends⟩ := forwardPacket_once (touchDatagramClient ctx c.id env.now) env c pkt
    dsimp only
    rw [sends]
    exact .found looked once
  | none =>
    dsimp only
    cases made : createDatagramClient ctx base env pkt.peerAddr pkt.peerAddrLen with
    | mk ctx' r =>
      obtain ⟨rfl, rfl | rfl⟩ | ⟨rfl, rfl⟩ := create_cases made
      · exact .nothing
      · exact .failed
      · obtain ⟨sent, once, sends⟩ := forwardPacket_once
          (touchDatagramClient
            { ctx with
              clients := ⟨ctx.nextClient, base, ctx.sockets.next, pkt.peerAddr, pkt.peerAddrLen, env.now⟩ :: ctx.clients
              nextClient := ctx.nextClient + 1
              sockets := ctx.sockets.socket } ctx.nextClient env.now) env
          ⟨ctx.nextClient, base, ctx.sockets.next, pkt.peerAddr, pkt.peerAddrLen, env.now⟩ pkt
        dsimp only
        rw [sends]
        exact .created looked once

/-! ## What a read callback does -/

/-- The datagram a `recv` returned, if it returned one. -/
def RecvOutcome.data : RecvOutcome → Option Bytes
  | .failed _ => none
  | .datagram data _ => some data

/-- What `upstream_read_cb` does with the result of one `recv`: an empty datagram goes no further. -/
def relayed (ctx : DatagramRouteCtx) (c : DatagramClient) : RecvOutcome → List Traffic
  | .failed _ => []
  | .datagram data env =>
    if data.length = 0 then [.fromUpstream c.fd data] else
    [.fromUpstream c.fd data,
      .toClient c.fd (sendDatagramPayloadToClient ctx c env data).1 c.clientAddr c.clientAddrLen data]

/-- **What a read callback passes on**: its datagrams one after another. -/
theorem readLoop_relayed {ctx : DatagramRouteCtx} {c : DatagramClient} {results : List RecvOutcome} {passed : List Traffic}
    (read : upstreamReadLoop ctx c results = some passed) : passed = results.flatMap (relayed ctx c) := by
  induction results generalizing passed with
  | nil =>
    cases read
    rfl
  | cons result rest ih =>
    rw [List.flatMap_cons]
    cases result with
    | failed err =>
      cases rest with
      | nil =>
        cases read
        rfl
      | cons _ _ => cases read
    | datagram data env =>
      simp only [upstreamReadLoop] at read
      simp only [relayed]
      split at read
      · rename_i empty
        obtain ⟨last, rfl⟩ := Lib.guard_some read
        rw [if_pos empty, List.isEmpty_iff.1 last]
        rfl
      · rename_i filled
        rw [if_neg filled]
        split at read
        · obtain ⟨last, rfl⟩ := Lib.guard_some read
          rw [List.isEmpty_iff.1 last]
          rfl
        · obtain ⟨more, later, rfl⟩ := Option.map_eq_some_iff.1 read
          rw [ih later]

/-! ## Ownership -/

/-- The peer an upstream socket was opened for. -/
abbrev Peer := SockaddrStorage × Nat

/-- A reply that leaves on the raw socket is a packet that brings `data` to the address and port of `dst`. -/
def ReplySend.AddressedTo (via : ReplySend) (dst : SockaddrStorage) (data : Bytes) : Prop :=
  ∀ packet, via = .raw packet →
    rawDestination packet = (sinAddr dst.bytes, sinPort dst.bytes) ∧ rawPayload packet = data

theorem sendToClient_addressed (ctx : DatagramRouteCtx) (c : DatagramClient) (env : ReplyEnv) (data : Bytes) :
    (sendDatagramPayloadToClient ctx c env data).1.AddressedTo c.clientAddr data := by
  intro packet sent
  unfold sendDatagramPayloadToClient at sent
  split at sent
  · split at sent
    · rename_i built rc raw
      cases sent
      exact datagramRawSend_dst raw
    · cases sent
  · cases sent

/-- The entry of the traffic record agrees with the owners of the sockets. -/
def Owned (owners : List Peer) : Traffic → Prop
  | .toUpstream fd peer peerLen _ => ∃ owner, owners[fd]? = some owner ∧ sockaddrEqual owner.1 owner.2 peer peerLen = true
  | .fromUpstream _ _ => True
  | .toClient fd via dst dstLen data => owners[fd]? = some (dst, dstLen) ∧ via.AddressedTo dst data

/-- The table, the sockets and the traffic of a route agree with `owners`. -/
structure Sessions (owners : List Peer) (ctx : DatagramRouteCtx) : Prop where
  allocated : owners.length = ctx.sockets.next
  owned : ∀ c ∈ ctx.clients, owners[c.fd]? = some (c.clientAddr, c.clientAddrLen)
  distinct : ctx.clients.Pairwise OtherPeer
  opened : ∀ c ∈ ctx.clients, c.fd ∈ ctx.sockets.openFds
  carried : ∀ t ∈ ctx.traffic, Owned owners t

theorem Owned.extend {owners : List Peer} {t : Traffic} (owned : Owned owners t) (more : List Peer) :
    Owned (owners ++ more) t := by
  have kept : ∀ {fd : Nat} {owner : Peer}, owners[fd]? = some owner → (owners ++ more)[fd]? = some owner := by
    intro fd owner here
    rw [List.getElem?_append_left (List.getElem?_eq_some_iff.1 here).1]
    exact here
  cases t with
  | toUpstream fd peer peerLen bytes =>
    obtain ⟨owner, here, equal⟩ := owned
    exact ⟨owner, kept here, equal⟩
  | fromUpstream fd data => trivial
  | toClient fd via dst dstLen data => exact ⟨kept owned.1, owned.2⟩

namespace Sessions

variable {owners : List Peer} {ctx : DatagramRouteCtx}

/-- Two clients with one socket are one client. -/
theorem fd_inj (sessions : Sessions owners ctx) {c d : DatagramClient} (left : c ∈ ctx.clients) (right : d ∈ ctx.clients)
    (same : c.fd = d.fd) : c = d := by
  by_contra different
  have other : OtherPeer c d := sessions.distinct.forall left right different
  have owner := sessions.owned c left
  rw [same, sessions.owned d right, Option.some.injEq, Prod.mk.injEq] at owner
  rw [OtherPeer, owner.1, owner.2, sockaddrEqual_refl] at other
  cases other

theorem fd_lt (sessions : Sessions owners ctx) {c : DatagramClient} (mem : c ∈ ctx.clients) :
    c.fd < ctx.sockets.next := by
  rw [← sessions.allocated]
  exact (List.getElem?_eq_some_iff.1 (sessions.owned c mem)).1

/-- A socket is opened for `peer`, and may have been closed again. -/
theorem allocate (sessions : Sessions owners ctx) (peer : Peer) {s : Sockets} (next : s.next = ctx.sockets.next + 1)
    (kept : ∀ fd ∈ ctx.sockets.openFds, fd < ctx.sockets.next → fd ∈ s.openFds) :
    Sessions (owners ++ [peer]) { ctx with sockets := s } where
  allocated := by rw [List.length_append, List.length_singleton, sessions.allocated, next]
  owned := by
    intro c mem
    have inside : c.fd < owners.length := sessions.allocated ▸ sessions.fd_lt mem
    rw [List.getElem?_append_left inside]
    exact sessions.owned c mem
  distinct := sessions.distinct
  opened := by
    intro c mem
    exact kept c.fd (sessions.opened c mem) (sessions.fd_lt mem)
  carried := by
    intro t mem
    exact (sessions.carried t mem).extend [peer]

/-- The client of a peer that had none enters the table. -/
theorem insert (sessions : Sessions owners ctx) {c : DatagramClient} {n : Nat}
    (owned : owners[c.fd]? = some (c.clientAddr, c.clientAddrLen)) (opened : c.fd ∈ ctx.sockets.openFds)
    (unknown : findDatagramClient ctx c.clientAddr c.clientAddrLen = none) :
    Sessions owners { ctx with clients := c :: ctx.clients, nextClient := n } where
  allocated := sessions.allocated
  owned := List.forall_mem_cons.2 ⟨owned, sessions.owned⟩
  distinct := by
    rw [List.pairwise_cons]
    refine ⟨?_, sessions.distinct⟩
    intro d mem
    have other := List.find?_eq_none.1 unknown d mem
    exact OtherPeer.symm (eq_false_of_ne_true other)
  opened := List.forall_mem_cons.2 ⟨opened, sessions.opened⟩
  carried := sessions.carried

theorem mem_touch {id : Nat} {now : Int} {c : DatagramClient} (mem : c ∈ (touchDatagramClient ctx id now).clients) :
    ∃ d ∈ ctx.clients, c = { d with lastSeen := c.lastSeen } := by
  obtain ⟨d, before, rfl⟩ := List.mem_map.1 mem
  refine ⟨d, before, ?_⟩
  split <;> rfl

theorem touch (sessions : Sessions owners ctx) (id : Nat) (now : Int) :
    Sessions owners (touchDatagramClient ctx id now) where
  allocated := sessions.allocated
  owned := by
    intro c mem
    obtain ⟨d, before, same⟩ := mem_touch mem
    rw [same]
    exact sessions.owned d before
  distinct := by
    unfold touchDatagramClient
    rw [List.pairwise_map]
    apply sessions.distinct.imp
    intro c d other
    unfold OtherPeer at *
    split <;> split <;> exact other
  opened := by
    intro c mem
    obtain ⟨d, before, same⟩ := mem_touch mem
    rw [same]
    exact sessions.opened d before
  carried := sessions.carried

theorem append (sessions : Sessions owners ctx) {passed : List Traffic} (owned : ∀ t ∈ passed, Owned owners t) :
    Sessions owners { ctx with traffic := ctx.traffic ++ passed } where
  allocated := sessions.allocated
  owned := sessions.owned
  distinct := sessions.distinct
  opened := sessions.opened
  carried := by
    intro t mem
    rcases List.mem_append.1 mem with before | now
    · exact sessions.carried t before
    · exact owned t now

theorem mem_close_all {fd : Nat} {expired : List DatagramClient} {s : Sockets} (mem : fd ∈ s.openFds)
    (others : ∀ c ∈ expired, c.fd ≠ fd) :
    fd ∈ (expired.foldl (fun s c => freeDatagramClient s (some c.fd)) s).openFds := by
  induction expired generalizing s with
  | nil => exact mem
  | cons c expired ih =>
    rw [List.foldl_cons]
    apply ih
    · have other := others c List.mem_cons_self
      simpa [freeDatagramClient, Sockets.close, mem] using other.symm
    · intro d later
      exact others d (List.mem_cons_of_mem c later)

theorem close_all_next {expired : List DatagramClient} {s : Sockets} :
    (expired.foldl (fun s c => freeDatagramClient s (some c.fd)) s).next = s.next := by
  induction expired generalizing s with
  | nil => rfl
  | cons c expired ih =>
    rw [List.foldl_cons, ih]
    rfl

theorem cleanup (sessions : Sessions owners ctx) (now : Int) : Sessions owners (cleanupIdleDatagramClients ctx now) where
  allocated := by
    rw [sessions.allocated]
    exact close_all_next.symm
  owned := by
    intro c mem
    exact sessions.owned c (List.mem_filter.1 mem).1
  distinct := sessions.distinct.filter _
  opened := by
    intro c mem
    obtain ⟨before, fresh⟩ := List.mem_filter.1 mem
    apply mem_close_all (sessions.opened c before)
    intro d gone same
    obtain ⟨there, stale⟩ := List.mem_filter.1 gone
    -- a client with the same socket would be `c` itself, which is not expired
    have expired : d.fresh ctx.route now = false := by simpa using stale
    rw [sessions.fd_inj there before same, fresh] at expired
    cases expired
  carried := sessions.carried

theorem packet (sessions : Sessions owners ctx) {base : Nat} {env : PacketEnv} {pkt : WorkerDatagramPacketMsg}
    {ctx' : DatagramRouteCtx} (step : PacketStep ctx base env pkt ctx') : ∃ owners', Sessions owners' ctx' := by
  cases step with
  | nothing => exact ⟨owners, sessions⟩
  | failed =>
    refine ⟨_, sessions.allocate (pkt.peerAddr, pkt.peerAddrLen) rfl ?_⟩
    intro fd mem below
    simpa [Sockets.close, Sockets.socket, mem] using Nat.ne_of_lt below
  | @found c sent known once =>
    have equal : sockaddrEqual c.clientAddr c.clientAddrLen pkt.peerAddr pkt.peerAddrLen = true := by
      have passes := List.find?_some (show ctx.clients.find? _ = some c from known)
      exact passes
    refine ⟨owners, (sessions.touch c.id env.now).append ?_⟩
    intro t mem
    obtain rfl | ⟨bytes, rfl⟩ := once
    · cases mem
    · rw [List.mem_singleton.1 mem]
      exact ⟨_, sessions.owned c (List.mem_of_find?_eq_some known), equal⟩
  | @created sent unknown once =>
    have opened := sessions.allocate (pkt.peerAddr, pkt.peerAddrLen) (s := ctx.sockets.socket) rfl
      (fun fd mem _ => List.mem_cons_of_mem _ mem)
    have owner : (owners ++ [(pkt.peerAddr, pkt.peerAddrLen)])[ctx.sockets.next]? = some (pkt.peerAddr, pkt.peerAddrLen) := by
      rw [← sessions.allocated, List.getElem?_concat_length]
    have inserted := opened.insert (n := ctx.nextClient + 1)
      (c := ⟨ctx.nextClient, base, ctx.sockets.next, pkt.peerAddr, pkt.peerAddrLen, env.now⟩) owner List.mem_cons_self unknown
    refine ⟨_, (inserted.touch ctx.nextClient env.now).append ?_⟩
    intro t mem
    obtain rfl | ⟨bytes, rfl⟩ := once
    · cases mem
    · rw [List.mem_singleton.1 mem]
      exact ⟨_, owner, sockaddrEqual_refl _ _⟩

theorem upstreamRead (sessions : Sessions owners ctx) {c : DatagramClient} (mem : c ∈ ctx.clients)
    (results : List RecvOutcome) :
    Sessions owners { ctx with traffic := ctx.traffic ++ results.flatMap (relayed ctx c) } := by
  apply sessions.append
  intro t passed
  obtain ⟨result, -, here⟩ := List.mem_flatMap.1 passed
  cases result with
  | failed err => cases here
  | datagram data env =>
    simp only [relayed] at here
    split at here
    · rw [List.mem_singleton.1 here]
      trivial
    · rcases List.mem_cons.1 here with rfl | last
      · trivial
      · rw [List.mem_singleton.1 last]
        exact ⟨sessions.owned c mem, sendToClient_addressed ctx c env data⟩

end Sessions

theorem freshCtx_sessions (r : Route) (localAddr : SockaddrStorage) (localAddrLen : Nat) :
    Sessions [] (freshCtx r localAddr localAddrLen) where
  allocated := rfl
  owned := by
    intro c mem
    cases mem
  distinct := .nil
  opened := by
    intro c mem
    cases mem
  carried := by
    intro t mem
    cases mem

theorem read_found {ctx ctx' : DatagramRouteCtx} {id : Nat} {results : List RecvOutcome}
    (step : datagramMachine.step ctx (.upstreamRead id results) = some ctx') :
    ∃ c, ctx.clients.find? (fun c => c.id = id) = some c ∧
      ctx' = { ctx with traffic := ctx.traffic ++ results.flatMap (relayed ctx c) } := by
  obtain ⟨c, found, read⟩ := Option.bind_eq_some_iff.1 step
  obtain ⟨passed, looped, rfl⟩ := Option.map_eq_some_iff.1 read
  exact ⟨c, found, by rw [readLoop_relayed looped]⟩

theorem read_step {ctx ctx' : DatagramRouteCtx} {id : Nat} {results : List RecvOutcome}
    (step : datagramMachine.step ctx (.upstreamRead id results) = some ctx') :
    ∃ c ∈ ctx.clients, ctx' = { ctx with traffic := ctx.traffic ++ results.flatMap (relayed ctx c) } := by
  obtain ⟨c, found, after⟩ := read_found step
  exact ⟨c, List.mem_of_find?_eq_some found, after⟩

/-- Every reachable route has its sockets owned. -/
theorem run_sessions {r : Route} {localAddr : SockaddrStorage} {localAddrLen : Nat} {es : List DatagramStep}
    {ctx : DatagramRouteCtx} (ran : datagramMachine.run (freshCtx r localAddr localAddrLen) es = some ctx) :
    ∃ owners, Sessions owners ctx := by
  refine Lib.Machine.run_invariant (I := fun ctx => ∃ owners, Sessions owners ctx) ?_
    ⟨[], freshCtx_sessions r localAddr localAddrLen⟩ ran
  rintro ctx e ctx' ⟨owners, sessions⟩ step
  cases e with
  | packet base env pkt =>
    cases step
    exact sessions.packet (packet_step ctx base env pkt)
  | cleanup now =>
    cases step
    exact ⟨owners, sessions.cleanup now⟩
  | upstreamRead id results =>
    obtain ⟨c, mem, rfl⟩ := read_step step
    exact ⟨owners, sessions.upstreamRead mem _⟩

/-! ## Replies -/

/-- The datagram received on the upstream socket `fd`. -/
def Traffic.received (fd : Nat) : Traffic → Option Bytes
  | .fromUpstream f data => if f = fd then some data else none
  | _ => none

/-- The datagram handed to `send_datagram_payload_to_client` for the upstream socket `fd`. -/
def Traffic.handed (fd : Nat) : Traffic → Option Bytes
  | .toClient f _ _ _ data => if f = fd then some data else none
  | _ => none

/-- The datagram that `sendto` is called with for the upstream socket `fd`. -/
def Traffic.replied (fd : Nat) : Traffic → Option Bytes
  | .toClient f via _ _ data => if f = fd ∧ via ≠ .refused then some data else none
  | _ => none

/-- Whether a datagram is handed on: one that is not empty. -/
def RecvOutcome.handed : RecvOutcome → Bool
  | .failed _ => true
  | .datagram data _ => data.length != 0

/-- Whether a datagram is handed on and reaches `sendto`. -/
def RecvOutcome.replied (ctx : DatagramRouteCtx) (c : DatagramClient) : RecvOutcome → Bool
  | .failed _ => true
  | .datagram data env => data.length != 0 && (sendDatagramPayloadToClient ctx c env data).1 != .refused

/-- What a read loop leaves in the record, from what each result leaves there. -/
theorem relayed_filterMap {ctx : DatagramRouteCtx} {c : DatagramClient} {fd : Nat} {seen : Traffic → Option Bytes}
    {keep : RecvOutcome → Bool}
    (failed : ∀ err, (relayed ctx c (.failed err)).filterMap seen = [])
    (datagram : ∀ data env, (relayed ctx c (.datagram data env)).filterMap seen =
      if c.fd = fd ∧ keep (.datagram data env) = true then [data] else []) (results : List RecvOutcome) :
    (results.flatMap (relayed ctx c)).filterMap seen =
      if c.fd = fd then (results.filter keep).filterMap RecvOutcome.data else [] := by
  induction results with
  | nil => simp
  | cons result results ih =>
    rw [List.flatMap_cons, List.filterMap_append, ih]
    cases result with
    | failed err =>
      by_cases kept : keep (.failed err) = true
      · simp [failed, List.filterMap_cons, RecvOutcome.data, kept]
      · simp [failed, kept]
    | datagram data env =>
      by_cases own : c.fd = fd <;> by_cases kept : keep (.datagram data env) = true <;>
        simp [datagram, RecvOutcome.data, own, kept]

theorem relayed_received (ctx : DatagramRouteCtx) (c : DatagramClient) (fd : Nat) (results : List RecvOutcome) :
    (results.flatMap (relayed ctx c)).filterMap (Traffic.received fd) =
      if c.fd = fd then results.filterMap RecvOutcome.data else [] := by
  have all := @relayed_filterMap ctx c fd (Traffic.received fd) (fun _ => true) (fun err => rfl) ?_ results
  · rwa [List.filter_true] at all
  · intro data env
    simp only [relayed]
    by_cases own : c.fd = fd <;> split <;> simp [Traffic.received, own]

/-- The datagrams handed on are those received, less the empty ones. -/
theorem handed_data (results : List RecvOutcome) :
    (results.filter RecvOutcome.handed).filterMap RecvOutcome.data =
      (results.filterMap RecvOutcome.data).filter fun data => data.length != 0 := by
  rw [List.filterMap_filter, List.filter_filterMap]
  congr 1
  funext result
  cases result with
  | failed err => rfl
  | datagram data env => rfl

theorem relayed_handed (ctx : DatagramRouteCtx) (c : DatagramClient) (fd : Nat) (results : List RecvOutcome) :
    (results.flatMap (relayed ctx c)).filterMap (Traffic.handed fd) =
      if c.fd = fd then (results.filterMap RecvOutcome.data).filter (fun data => data.length != 0) else [] := by
  rw [← handed_data]
  refine relayed_filterMap (fun err => rfl) ?_ results
  intro data env
  simp only [relayed, RecvOutcome.handed]
  by_cases own : c.fd = fd <;> split <;> simp_all [List.filterMap_cons, Traffic.handed]

theorem relayed_replied (ctx : DatagramRouteCtx) (c : DatagramClient) (fd : Nat) (results : List RecvOutcome) :
    (results.flatMap (relayed ctx c)).filterMap (Traffic.replied fd) =
      if c.fd = fd then (results.filter (RecvOutcome.replied ctx c)).filterMap RecvOutcome.data else [] := by
  refine relayed_filterMap (fun err => rfl) ?_ results
  intro data env
  simp only [relayed, RecvOutcome.replied]
  by_cases own : c.fd = fd <;> by_cases sent : (sendDatagramPayloadToClient ctx c env data).1 = .refused <;>
    split <;> simp_all [List.filterMap_cons, Traffic.replied]

/-! ## Which replies reach `sendto` -/

/-- What `datagram_raw_send_udp_ipv4` checks before its `sendto`: an IPv4 upstream to send from, an IPv4 address to
send to, a payload that fits a packet, and the memory for it. -/
def RawSendable (upstream : Endpoint) (peer : SockaddrStorage) (peerLen : Nat) (env : ReplyEnv) (data : Bytes) : Prop :=
  (upstream.kind = .inet ∧ (env.inetPton afInet upstream.host).isSome) ∧
    (sizeofSockaddrIn ≤ peerLen ∧ peer.family = afInet) ∧ data.length ≤ 65507 ∧ env.callocOk = true

instance (upstream : Endpoint) (peer : SockaddrStorage) (peerLen : Nat) (env : ReplyEnv) (data : Bytes) :
    Decidable (RawSendable upstream peer peerLen env data) :=
  inferInstanceAs (Decidable (_ ∧ _))

/-- A result of `recv` is not an empty datagram, and on a route that answers from the upstream's address the datagram
passes the checks of the raw socket. -/
def Answerable (r : Route) (c : DatagramClient) : RecvOutcome → Prop
  | .failed _ => True
  | .datagram data env => data ≠ [] ∧
    (r.opts.broadcastReply = .upstream → RawSendable r.upstream c.clientAddr c.clientAddrLen env data)

instance (r : Route) (c : DatagramClient) : (result : RecvOutcome) → Decidable (Answerable r c result)
  | .failed _ => .isTrue trivial
  | .datagram _ _ => inferInstanceAs (Decidable (_ ∧ _))

/-- Every datagram the step receives from an upstream can be answered. -/
def RepliesAnswerable (ctx : DatagramRouteCtx) : DatagramStep → Prop
  | .upstreamRead id results =>
    ∀ c ∈ ctx.clients.find? (fun c => c.id = id), ∀ result ∈ results, Answerable ctx.route c result
  | _ => True

instance (ctx : DatagramRouteCtx) : (e : DatagramStep) → Decidable (RepliesAnswerable ctx e)
  | .packet _ _ _ => .isTrue trivial
  | .cleanup _ => .isTrue trivial
  | .upstreamRead _ _ => inferInstanceAs (Decidable (∀ _ ∈ _, _))

theorem endpointToSockaddrIn_ok (inetPton : InetPton) (ep : Endpoint) :
    (∃ src, endpointToSockaddrIn inetPton ep = .ok src) ↔ ep.kind = .inet ∧ (inetPton afInet ep.host).isSome := by
  unfold endpointToSockaddrIn
  by_cases kind : ep.kind = .inet
  · cases looked : inetPton afInet ep.host with
    | none => simp [kind]
    | some addr => simp [kind]
  · simp [kind]

/-- `datagram_raw_send_udp_ipv4` reaches its `sendto` exactly when its checks pass. -/
theorem datagramRawSend_reaches (env : ReplyEnv) (srcEp : Endpoint) (dst : SockaddrStorage) (dstLen : Nat)
    (data : Bytes) :
    (datagramRawSendUdpIpv4 env true srcEp dst.bytes dstLen data).1.isSome ↔ RawSendable srcEp dst dstLen env data := by
  have converts := endpointToSockaddrIn_ok env.inetPton srcEp
  unfold datagramRawSendUdpIpv4 RawSendable
  rw [← converts]
  by_cases short : dstLen < sizeofSockaddrIn
  · have tooShort : ¬ sizeofSockaddrIn ≤ dstLen := Nat.not_le.2 short
    simp [short, tooShort]
  have long : sizeofSockaddrIn ≤ dstLen := Nat.not_lt.1 short
  by_cases family : saFamily dst.bytes = afInet
  · have inet : dst.family = afInet := family
    cases source : endpointToSockaddrIn env.inetPton srcEp with
    | error rc => simp [short, family]
    | ok src =>
      by_cases fits : data.length ≤ 65507
      · have below : ¬ data.length > 65535 - sizeofRawIpv4Hdr - sizeofRawUdpHdr := Nat.not_lt.2 fits
        cases env.callocOk <;> simp [short, long, family, inet, fits, below]
      · have above : data.length > 65535 - sizeofRawIpv4Hdr - sizeofRawUdpHdr := Nat.not_le.1 fits
        simp [short, family, fits, above]
  · have other : dst.family ≠ afInet := family
    simp [short, family, other]

/-- A route that answers from the upstream's address has its raw socket. -/
def RawReady (ctx : DatagramRouteCtx) : Prop := ctx.route.opts.broadcastReply = .upstream → ctx.rawOpen = true

theorem replied_iff {ctx : DatagramRouteCtx} (ready : RawReady ctx) (c : DatagramClient) (result : RecvOutcome) :
    result.replied ctx c = true ↔ Answerable ctx.route c result := by
  cases result with
  | failed err => simp [RecvOutcome.replied, Answerable]
  | datagram data env =>
    have sends : (sendDatagramPayloadToClient ctx c env data).1 ≠ .refused ↔
        (ctx.route.opts.broadcastReply = .upstream →
          RawSendable ctx.route.upstream c.clientAddr c.clientAddrLen env data) := by
      unfold sendDatagramPayloadToClient
      by_cases raw : ctx.route.opts.broadcastReply = .upstream
      · have reaches := datagramRawSend_reaches env ctx.route.upstream c.clientAddr c.clientAddrLen data
        rw [if_pos raw, ready raw, ← reaches]
        split
        · rename_i packet rc built
          simp [built]
        · rename_i rc built
          simp [built, raw]
      · simp [raw]
    simp only [RecvOutcome.replied, Answerable, Bool.and_eq_true, bne_iff_ne, ne_eq, List.length_eq_zero_iff]
    rw [← sends]

/-! ## Every reply, over a run -/

/-- Every datagram received from an upstream reached `sendto`. -/
def AllReplied (ctx : DatagramRouteCtx) : Prop :=
  ∀ fd, ctx.traffic.filterMap (Traffic.replied fd) = ctx.traffic.filterMap (Traffic.received fd)

/-- The replies of a route are some of the datagrams it received. -/
structure RepliesWithin (ctx : DatagramRouteCtx) : Prop where
  raw : RawReady ctx
  within : ∀ fd, (ctx.traffic.filterMap (Traffic.replied fd)).Sublist (ctx.traffic.filterMap (Traffic.received fd))

/-- Two parts of a record that hold no more than what was received are complete when the whole is. -/
theorem append_complete {a a' b b' : List Bytes} (left : a.Sublist a') (right : b.Sublist b') :
    a ++ b = a' ++ b' ↔ a = a' ∧ b = b' := by
  constructor
  · intro whole
    have total := congrArg List.length whole
    rw [List.length_append, List.length_append] at total
    have some := left.length_le
    have rest := right.length_le
    exact ⟨left.eq_of_length (by omega), right.eq_of_length (by omega)⟩
  · rintro ⟨rfl, rfl⟩
    rfl

/-- Handling a packet receives nothing and replies nothing. -/
theorem PacketStep.silent {ctx ctx' : DatagramRouteCtx} {base : Nat} {env : PacketEnv} {pkt : WorkerDatagramPacketMsg}
    (step : PacketStep ctx base env pkt ctx') (fd : Nat) :
    ctx'.traffic.filterMap (Traffic.received fd) = ctx.traffic.filterMap (Traffic.received fd) ∧
      ctx'.traffic.filterMap (Traffic.replied fd) = ctx.traffic.filterMap (Traffic.replied fd) := by
  have none : ∀ {peer : Nat} {sent : List Traffic}, ForPacket pkt peer sent →
      sent.filterMap (Traffic.received fd) = [] ∧ sent.filterMap (Traffic.replied fd) = [] := by
    intro peer sent once
    obtain rfl | ⟨bytes, rfl⟩ := once
    · exact ⟨rfl, rfl⟩
    · exact ⟨rfl, rfl⟩
  cases step with
  | nothing => exact ⟨rfl, rfl⟩
  | failed => exact ⟨rfl, rfl⟩
  | found known once =>
    simp only [List.filterMap_append, none once, List.append_nil]
    trivial
  | created unknown once =>
    simp only [List.filterMap_append, none once, List.append_nil]
    trivial

/-- A packet changes neither the route nor its raw socket. -/
theorem PacketStep.fixed {ctx ctx' : DatagramRouteCtx} {base : Nat} {env : PacketEnv} {pkt : WorkerDatagramPacketMsg}
    (step : PacketStep ctx base env pkt ctx') : ctx'.route = ctx.route ∧ ctx'.rawOpen = ctx.rawOpen := by
  cases step <;> exact ⟨rfl, rfl⟩

/-- The results of one read, answered one by one: all of them reach `sendto` exactly when all can be answered. -/
theorem results_replied {ctx : DatagramRouteCtx} (ready : RawReady ctx) (c : DatagramClient)
    (results : List RecvOutcome) :
    (results.filter (RecvOutcome.replied ctx c)).filterMap RecvOutcome.data = results.filterMap RecvOutcome.data ↔
      ∀ result ∈ results, Answerable ctx.route c result := by
  induction results with
  | nil => simp
  | cons result results ih =>
    rw [List.forall_mem_cons, ← ih, ← replied_iff ready]
    by_cases kept : result.replied ctx c = true
    · rw [List.filter_cons_of_pos kept]
      cases result with
      | failed err => simp [List.filterMap_cons, RecvOutcome.data, RecvOutcome.replied]
      | datagram data env => simp [RecvOutcome.data, kept]
    · rw [List.filter_cons_of_neg kept]
      simp only [kept, Bool.false_eq_true, false_and, iff_false]
      intro same
      cases result with
      | failed err => exact kept rfl
      | datagram data env =>
        -- one datagram fewer on the left
        have fewer := ((List.filter_sublist (p := RecvOutcome.replied ctx c) (l := results)).filterMap
          RecvOutcome.data).length_le
        have length := congrArg List.length same
        simp only [List.filterMap_cons, RecvOutcome.data, List.length_cons] at length
        omega

/-- **One step keeps the record complete exactly when what it receives can be answered.** -/
theorem RepliesWithin.step {ctx ctx' : DatagramRouteCtx} {e : DatagramStep} (replies : RepliesWithin ctx)
    (step : datagramMachine.step ctx e = some ctx') :
    RepliesWithin ctx' ∧ (AllReplied ctx' ↔ AllReplied ctx ∧ RepliesAnswerable ctx e) := by
  cases e with
  | packet base env pkt =>
    cases step
    have moved := packet_step ctx base env pkt
    have same : ∀ fd, _ := moved.silent
    have fixed := moved.fixed
    refine ⟨⟨?_, ?_⟩, ?_⟩
    · unfold RawReady
      rw [fixed.1, fixed.2]
      exact replies.raw
    · intro fd
      rw [(same fd).1, (same fd).2]
      exact replies.within fd
    · unfold AllReplied
      simp only [(same _).1, (same _).2]
      exact (and_iff_left trivial).symm
  | cleanup now =>
    cases step
    exact ⟨⟨replies.raw, replies.within⟩, (and_iff_left trivial).symm⟩
  | upstreamRead id results =>
    obtain ⟨c, found, rfl⟩ := read_found step
    have part : ∀ fd, ((results.flatMap (relayed ctx c)).filterMap (Traffic.replied fd)).Sublist
        ((results.flatMap (relayed ctx c)).filterMap (Traffic.received fd)) := by
      intro fd
      rw [relayed_received, relayed_replied]
      split
      · exact List.filter_sublist.filterMap _
      · exact List.Sublist.refl _
    have answered : (∀ fd, (results.flatMap (relayed ctx c)).filterMap (Traffic.replied fd) =
        (results.flatMap (relayed ctx c)).filterMap (Traffic.received fd)) ↔
        RepliesAnswerable ctx (.upstreamRead id results) := by
      simp only [RepliesAnswerable, found, Option.mem_def, Option.some.injEq, forall_eq', ← results_replied replies.raw,
        relayed_received, relayed_replied]
      constructor
      · intro every
        have own := every c.fd
        rwa [if_pos rfl, if_pos rfl] at own
      · intro same fd
        rw [same]
    refine ⟨⟨replies.raw, ?_⟩, ?_⟩
    · intro fd
      rw [List.filterMap_append, List.filterMap_append]
      exact (replies.within fd).append (part fd)
    · rw [← answered]
      unfold AllReplied
      simp only [List.filterMap_append, append_complete (replies.within _) (part _), forall_and]

/-- **Every datagram received in a run is replied to exactly when each of them can be answered.** -/
theorem run_allReplied {r : Route} {localAddr : SockaddrStorage} {localAddrLen : Nat} {es : List DatagramStep}
    {ctx : DatagramRouteCtx} (ran : datagramMachine.run (freshCtx r localAddr localAddrLen) es = some ctx) :
    AllReplied ctx ↔ datagramMachine.Along RepliesAnswerable (freshCtx r localAddr localAddrLen) es := by
  have fresh : RawReady (freshCtx r localAddr localAddrLen) := by
    intro raw
    have same : r.opts.broadcastReply = .upstream := raw
    simp [freshCtx, same]
  have both := Lib.Machine.run_traced (P := fun es ctx => RepliesWithin ctx ∧
    (AllReplied ctx ↔ datagramMachine.Along RepliesAnswerable (freshCtx r localAddr localAddrLen) es)) ?_ ?_ ran
  · exact both.2
  · refine ⟨⟨fresh, fun fd => List.Sublist.refl _⟩, ?_⟩
    exact iff_of_true (fun fd => rfl) trivial
  · rintro es u e v before ⟨replies, sofar⟩ step
    obtain ⟨within, one⟩ := replies.step step
    refine ⟨within, ?_⟩
    rw [one, sofar, Lib.Machine.along_snoc, before]
    simp only [Option.some.injEq, forall_eq']

/-- One session per peer, one peer per upstream socket, and every datagram from an upstream sent to that peer: with
`sendto` on the listening socket, or on the raw socket in a packet that is addressed to it. -/
structure SessionsIsolated (ctx : DatagramRouteCtx) : Prop where
  unique : ctx.clients.Pairwise fun a b =>
    sockaddrEqual a.clientAddr a.clientAddrLen b.clientAddr b.clientAddrLen = false
  onePeer : ∀ fd, ∃ owner : Peer,
    (∀ peer peerLen bytes, .toUpstream fd peer peerLen bytes ∈ ctx.traffic →
      sockaddrEqual owner.1 owner.2 peer peerLen = true) ∧
    ∀ via dst dstLen data, .toClient fd via dst dstLen data ∈ ctx.traffic →
      (dst, dstLen) = owner ∧ via.AddressedTo dst data
  relayed : AllReplied ctx

theorem Sessions.onePeer {owners : List Peer} {ctx : DatagramRouteCtx} (sessions : Sessions owners ctx) (fd : Nat) :
    ∃ owner : Peer,
      (∀ peer peerLen bytes, .toUpstream fd peer peerLen bytes ∈ ctx.traffic →
        sockaddrEqual owner.1 owner.2 peer peerLen = true) ∧
      ∀ via dst dstLen data, .toClient fd via dst dstLen data ∈ ctx.traffic →
        (dst, dstLen) = owner ∧ via.AddressedTo dst data := by
  refine ⟨(owners[fd]?).getD (.ofBytes [], 0), ?_, ?_⟩
  · intro peer peerLen bytes mem
    obtain ⟨owner, here, equal⟩ := sessions.carried _ mem
    rw [here]
    exact equal
  · intro via dst dstLen data mem
    obtain ⟨here, addressed⟩ : owners[fd]? = some (dst, dstLen) ∧ via.AddressedTo dst data := sessions.carried _ mem
    rw [here]
    exact ⟨rfl, addressed⟩

/-- **Session uniqueness and isolation**, in every order of the lock-protected steps: it holds exactly when every
datagram received from an upstream can be answered, so is not empty and is not refused before `sendto`. -/
theorem datagram_sessions_isolated_iff {r : Route} {localAddr : SockaddrStorage} {localAddrLen : Nat}
    {es : List DatagramStep} {ctx : DatagramRouteCtx}
    (ran : datagramMachine.run (freshCtx r localAddr localAddrLen) es = some ctx) :
    SessionsIsolated ctx ↔ datagramMachine.Along RepliesAnswerable (freshCtx r localAddr localAddrLen) es := by
  obtain ⟨owners, sessions⟩ := run_sessions ran
  rw [← run_allReplied ran]
  constructor
  · exact SessionsIsolated.relayed
  · exact fun replied => ⟨sessions.distinct, sessions.onePeer, replied⟩

/-- The route after a run that is known to happen. -/
def DatagramRouteCtx.after (ctx : DatagramRouteCtx) (es : List DatagramStep) : DatagramRouteCtx :=
  (datagramMachine.run ctx es).getD ctx

/-- A packet of the peer at 192.0.2.`host`:53. -/
def packetFrom (host : UInt8) (data : Bytes) : WorkerDatagramPacketMsg where
  peerAddr := .ofBytes (sockaddrIn (192, 0, 2, host) (0, 53))
  peerAddrLen := sizeofSockaddrIn
  data := data

/-- Every call made for a packet at time `now` succeeds. -/
def smoothPacketEnv (now : Int) : PacketEnv where
  now := now
  inetPton := fun _ _ => some [127, 0, 0, 1]
  hdr := List.replicate 256 0
  hdrSize := length_zeroHdr

/-- A UDP route to a UDP upstream. -/
def udpCtx : DatagramRouteCtx :=
  freshCtx
    { listen := { kind := .inet, proto := .udp, port := 53 }, upstream := { kind := .inet, proto := .udp, port := 5353 } }
    (.ofBytes (sockaddrIn (127, 0, 0, 1) (0, 53))) sizeofSockaddrIn

/-- Two peers, a reply to each of them, and a cleanup. -/
def twoPeersRun : List DatagramStep :=
  [.packet 0 (smoothPacketEnv 0) (packetFrom 7 [1]), .packet 1 (smoothPacketEnv 0) (packetFrom 8 [2]),
    .upstreamRead 1 [.datagram [3] {}], .upstreamRead 0 [.datagram [4] {}, .datagram [5] {}], .cleanup 10]

theorem datagram_sessions_isolated_two : SessionsIsolated (udpCtx.after twoPeersRun) :=
  have ran : datagramMachine.run udpCtx twoPeersRun = some (udpCtx.after twoPeersRun) := by decide +kernel
  (datagram_sessions_isolated_iff ran).2 (by decide +kernel)

/-- A peer whose upstream answers with an empty datagram. -/
def emptyReplyRun : List DatagramStep :=
  [.packet 0 (smoothPacketEnv 0) (packetFrom 7 [1]), .upstreamRead 0 [.datagram [] {}]]

/-- A UDP route to the upstream `::1` that answers from the upstream's address. -/
def rawInet6Ctx : DatagramRouteCtx :=
  freshCtx
    { listen := { kind := .inet, proto := .udp, port := 53 }
      upstream := { kind := .inet6, proto := .udp, host := [0x3a, 0x3a, 0x31], port := 5353 }
      opts := { broadcastReply := .upstream } }
    (.ofBytes (sockaddrIn (127, 0, 0, 1) (0, 53))) sizeofSockaddrIn

/-- A peer whose upstream answers with one byte. -/
def refusedReplyRun : List DatagramStep :=
  [.packet 0 { smoothPacketEnv 0 with inetPton := fun _ _ => some (List.replicate 15 0 ++ [1]) } (packetFrom 7 [1]),
    .upstreamRead 0 [.datagram [2] {}]]

/-- **An empty datagram from an upstream is received and sent to nobody**, and so is every datagram from an IPv6
upstream of a route with `broadcast_reply=upstream`. -/
theorem datagram_reply_lost :
    (datagramMachine.run udpCtx emptyReplyRun = some (udpCtx.after emptyReplyRun) ∧
      ¬ SessionsIsolated (udpCtx.after emptyReplyRun)) ∧
    (datagramMachine.run rawInet6Ctx refusedReplyRun = some (rawInet6Ctx.after refusedReplyRun) ∧
      ¬ SessionsIsolated (rawInet6Ctx.after refusedReplyRun)) := by
  have lost {ctx : DatagramRouteCtx}
      (different : ctx.traffic.filterMap (Traffic.replied 0) ≠ ctx.traffic.filterMap (Traffic.received 0)) :
      ¬ SessionsIsolated ctx := fun isolated => different (isolated.relayed 0)
  refine ⟨⟨by decide +kernel, lost ?_⟩, ⟨by decide +kernel, lost ?_⟩⟩
  · decide +kernel
  · decide +kernel

end Tinyproxy
