import Tinyproxy.Daemon.Dispatch
import Tinyproxy.Datagram.ProxyHeader
import Tinyproxy.Datagram.Table

/-!
# UDP packets through the whole process

The process of `Daemon` with the client tables of its datagram routes: a worker at a
packet runs `cleanup_idle_datagram_clients` and then `datagram_route_handle_packet` on
the route the packet came in on, two critical sections with those of other workers
between them, and `upstream_read_cb` for the clients of its own event base while it
waits. `free_route` frees the clients.

`sent` records for each route which worker handed which packet to `send`. Packets of
one peer go to the workers in turn, so only a single worker keeps their order.
-/

namespace Tinyproxy

open ProxyV2 (header)

/-! ## What is sent for a packet -/

/-- The datagram an upstream is sent for a packet. -/
def upstreamDatagram (r : Route) (localAddr : SockaddrStorage) (pkt : WorkerDatagramPacketMsg) : Bytes :=
  if r.opts.proxyV2 then header .inet .dgram pkt.peerAddr.bytes localAddr.bytes ++ pkt.data else pkt.data

/-- The packet an entry of the traffic record was sent upstream for. -/
def Traffic.upstream : Traffic → Option (SockaddrStorage × Nat × Bytes)
  | .toUpstream _ peer peerLen bytes => some (peer, peerLen, bytes)
  | _ => none

theorem part_of_take {a b : Bytes} {n i m : Nat} (same : a.take n = b.take n) (inside : i + m ≤ n) :
    (a.drop i).take m = (b.drop i).take m := by
  have cut : ∀ s : Bytes, (s.drop i).take m = ((s.take n).drop i).take m := by
    intro s
    rw [List.drop_take, List.take_take, Nat.min_eq_left (by omega)]
  rw [cut a, cut b, same]

/-- The header has nothing of an address but its first 16 bytes. -/
theorem header_congr {src src' dst : Bytes} {n : Nat} (same : src.take n = src'.take n) (long : sizeofSockaddrIn ≤ n) :
    header .inet .dgram src dst = header .inet .dgram src' dst := by
  have addr : sinAddr src = sinAddr src' := part_of_take same (by simp only [sizeofSockaddrIn] at long; omega)
  have port : sinPort src = sinPort src' := part_of_take same (by simp only [sizeofSockaddrIn] at long; omega)
  simp only [header, ProxyV2.block, ProxyV2.Family.addrOf, addr, port]

/-- A header between IPv4 addresses is built of whole addresses only. -/
theorem built_lengths {out done : HeaderOut} {src dst : Bytes} {srcLen dstLen : Nat} {t : SockType}
    (family : saFamily src = afInet) (built : proxyV2Build out src srcLen dst dstLen t = (done, .ok ())) :
    sizeofSockaddrIn ≤ srcLen ∧ sizeofSockaddrIn ≤ dstLen := by
  unfold proxyV2Build at built
  split at built
  · cases built
  · dsimp only at built
    split at built
    · cases built
    · split at built
      · cases built
      · omega

theorem sendPayload_upstream {ctx : DatagramRouteCtx} {env : PacketEnv} {c : DatagramClient}
    {pkt : WorkerDatagramPacketMsg} {bytes : Bytes} {rc : Except Errno Unit}
    (own : sockaddrEqual c.clientAddr c.clientAddrLen pkt.peerAddr pkt.peerAddrLen = true)
    (sends : sendDatagramPayloadToUpstream ctx env c pkt.data = (some bytes, rc)) :
    bytes = upstreamDatagram ctx.route ctx.localAddr pkt := by
  unfold sendDatagramPayloadToUpstream at sends
  dsimp only at sends
  split at sends
  · rename_i plain
    cases sends
    rw [upstreamDatagram, if_neg (by simpa using plain)]
  · rename_i asked
    split at sends
    · cases sends
    · rename_i served
      obtain ⟨client, here⟩ : c.clientAddr.family = afInet ∧ ctx.localAddr.family = afInet := by
        simpa [not_or] using served
      split at sends
      · cases sends
      · rename_i hdr _ built
        split at sends
        · cases sends
        · obtain ⟨clientLen, localLen⟩ := built_lengths client built
          obtain ⟨done, built', -, written⟩ := @clientHeader_built ctx env c client here clientLen localLen
          obtain rfl : hdr = done := congrArg Prod.fst (built.symm.trans built')
          obtain ⟨-, -, same⟩ := sockaddrEqual_iff.1 own
          cases sends
          rw [upstreamDatagram, if_pos (by simpa using asked), written, header_congr same clientLen]

/-- **What a packet sends**: nothing, or the datagram for it. -/
theorem handlePacket_traffic (ctx : DatagramRouteCtx) (base : Nat) (env : PacketEnv) (pkt : WorkerDatagramPacketMsg) :
    (datagramRouteHandlePacket ctx base env pkt).1.traffic = ctx.traffic ∨
      ∃ fd, (datagramRouteHandlePacket ctx base env pkt).1.traffic =
        ctx.traffic ++ [.toUpstream fd pkt.peerAddr pkt.peerAddrLen (upstreamDatagram ctx.route ctx.localAddr pkt)] := by
  -- the end of the handler, once it has the client
  have forward : ∀ (u : DatagramRouteCtx) (c : DatagramClient), u.traffic = ctx.traffic → u.route = ctx.route →
      u.localAddr = ctx.localAddr → sockaddrEqual c.clientAddr c.clientAddrLen pkt.peerAddr pkt.peerAddrLen = true →
      (forwardPacket u env c pkt).1.traffic = ctx.traffic ∨
        ∃ fd, (forwardPacket u env c pkt).1.traffic =
          ctx.traffic ++ [.toUpstream fd pkt.peerAddr pkt.peerAddrLen (upstreamDatagram ctx.route ctx.localAddr pkt)] := by
    intro u c traffic route here own
    unfold forwardPacket
    split
    · exact .inl traffic
    · rename_i bytes rc sends
      right
      refine ⟨c.fd, ?_⟩
      rw [sendPayload_upstream own sends, traffic, route, here]
  unfold datagramRouteHandlePacket
  split
  · exact .inl rfl
  unfold datagramRouteGetOrCreateClient
  cases looked : findDatagramClient ctx pkt.peerAddr pkt.peerAddrLen with
  | some c => exact forward _ c rfl rfl rfl (isFor_of_find looked)
  | none =>
    dsimp only
    cases made : createDatagramClient ctx base env pkt.peerAddr pkt.peerAddrLen with
    | mk ctx' r =>
      obtain ⟨rfl, rfl | rfl⟩ | ⟨rfl, rfl⟩ := create_cases made
      · exact .inl rfl
      · exact .inl rfl
      · exact forward _ _ rfl rfl rfl (sockaddrEqual_refl _ _)

theorem handlePacket_route (ctx : DatagramRouteCtx) (base : Nat) (env : PacketEnv) (pkt : WorkerDatagramPacketMsg) :
    (datagramRouteHandlePacket ctx base env pkt).1.route = ctx.route ∧
      (datagramRouteHandlePacket ctx base env pkt).1.localAddr = ctx.localAddr := by
  have step := packet_step ctx base env pkt
  generalize (datagramRouteHandlePacket ctx base env pkt).1 = after at step
  cases step <;> exact ⟨rfl, rfl⟩

/-! ## The process with its client tables -/

/-- A process with datagram routes: `pkts k` is the packet of the callback numbered `k`, and `route`, `localAddr` and
`localAddrLen` are those of a context of `route_ctxs`. -/
structure RelaySetup extends Setup where
  pkts : Nat → WorkerDatagramPacketMsg
  route : Nat → Route
  localAddr : Nat → SockaddrStorage
  localAddrLen : Nat → Nat

/-- The process, its client tables by context, whether the thread of a worker has run the cleanup for the packet it is
at, and what was handed to `send`: the worker and the number of the packet. -/
structure Relay where
  daemon : Daemon := {}
  ctxs : Nat → DatagramRouteCtx
  cleaned : Nat → Bool := fun _ => false
  sent : Nat → List (Nat × Nat) := fun _ => []

inductive RelayEvent where
  /-- Everything but the handling of a packet. -/
  | daemon (e : DaemonEvent)
  /-- `cleanup_idle_datagram_clients`, for the packet the thread of worker `i` is at. -/
  | cleanup (i : Nat) (now : Int)
  /-- `datagram_route_handle_packet`, for that packet. -/
  | handle (i : Nat) (env : PacketEnv)
  /-- `upstream_read_cb`, in the event loop of worker `i`, for a client of context `j`. -/
  | upstreamRead (i j id : Nat) (results : List RecvOutcome)

/-- The step of a thread that has handled a packet. -/
def DaemonEvent.handlesPacket : DaemonEvent → Bool
  | .thread _ (.worker .process) => true
  | _ => false

/-- The context `main` frees. -/
def Daemon.freeing (s : Daemon) (e : DaemonEvent) : Option Nat :=
  match s.phase, e with
  | .freeRoute j, .next => if j < s.ctxCount then some j else none
  | _, _ => none

/-- The packet the thread of worker `i` is at. -/
def Relay.current (g : RelaySetup) (s : Relay) (i : Nat) : Option Nat :=
  if i < g.count then (s.daemon.workers i).worker.loop.current.filter fun k => !(g.msgs k).isStream else none

variable (g : RelaySetup)

/-- The tables after `free_route` of a context, if `e` is that. -/
def Relay.freed (s : Relay) (e : DaemonEvent) : Nat → DatagramRouteCtx :=
  match s.daemon.freeing e with
  | some j => Function.update s.ctxs j (freeRouteClients (s.ctxs j))
  | none => s.ctxs

/-- The machine of the process with its client tables. -/
def relayMachine : Lib.Machine Relay RelayEvent where
  step s
    | .daemon e =>
      if e.handlesPacket then none
      else ((daemonMachine g.toSetup).step s.daemon e).map fun d => { s with daemon := d, ctxs := s.freed e }
    | .cleanup i now => do
      let k ← s.current g i
      if s.cleaned i then none
      else
        let j := g.ctxOf k
        some { s with
          ctxs := Function.update s.ctxs j (cleanupIdleDatagramClients (s.ctxs j) now)
          cleaned := Function.update s.cleaned i true }
    | .handle i env => do
      let k ← s.current g i
      if s.cleaned i then
        let j := g.ctxOf k
        let ctx := (datagramRouteHandlePacket (s.ctxs j) i env (g.pkts k)).1
        let d ← (daemonMachine g.toSetup).step s.daemon (.thread i (.worker .process))
        some
          { daemon := d
            ctxs := Function.update s.ctxs j ctx
            cleaned := Function.update s.cleaned i false
            sent := if ctx.traffic.length = (s.ctxs j).traffic.length then s.sent
              else Function.update s.sent j (s.sent j ++ [(i, k)]) }
      else none
    | .upstreamRead i j id results =>
      if i < g.count ∧ (s.daemon.workers i).worker.loop = .waiting then
        (((s.ctxs j).clients.find? fun c => c.id = id).filter fun c => c.base = i).bind fun c =>
          (upstreamReadCb (s.ctxs j) c results).map fun ctx => { s with ctxs := Function.update s.ctxs j ctx }
      else none

/-- The process before `worker_pool_start`. -/
def Relay.start : Relay := { ctxs := fun j => freshCtx (g.route j) (g.localAddr j) (g.localAddrLen j) }

/-! ## What a step of the process leaves alone -/

section Frame

variable {g : Setup} {s s' : Daemon} {e : DaemonEvent}

/-- Only `process` adds to the messages a worker has processed. -/
theorem WorkerMove.processed {w w' : Worker} {e : WorkerEvent} (moved : WorkerMove w e w') :
    w.processed <+: w'.processed := by
  cases moved with
  | process current => exact List.prefix_append _ _
  | _ => exact List.prefix_rfl

theorem AcceptorMove.processed {a a' : Acceptor} {e : AcceptorEvent} (moved : AcceptorMove a a' e) :
    a.worker.processed <+: a'.worker.processed := by
  cases moved with
  | accept worker => exact worker ▸ List.prefix_rfl
  | resume worker => exact worker ▸ List.prefix_rfl
  | reject _ _ moved => exact moved.processed
  | dispatch _ _ moved => exact moved.processed
  | adopt _ moved => exact moved.processed
  | worker _ moved => exact moved.processed

theorem DaemonMove.processed (moved : DaemonMove g s e s') (i : Nat) :
    (s.workers i).worker.processed <+: (s'.workers i).worker.processed := by
  -- one worker has moved
  have one : ∀ {m : Nat} {a : Acceptor}, (s.workers m).worker.processed <+: a.worker.processed →
      (s.workers i).worker.processed <+: (Function.update s.workers m a i).worker.processed := by
    intro m a longer
    by_cases own : i = m
    · rw [own, Function.update_self]
      exact longer
    · rw [Function.update_of_ne own]
  cases moved with
  | create phase inside starts =>
    apply one
    unfold workerStart at starts
    split at starts
    · cases starts
      exact List.prefix_rfl
    · split at starts
      · cases starts
        exact List.prefix_rfl
      · cases starts
  | drop phase listening step => exact one (acceptor_move step).processed
  | accept phase listening pick step => exact one (acceptor_move step).processed
  | call phase inside makes step => exact one (acceptor_move step).processed
  | thread inside own step => exact one (acceptor_move step).processed
  | _ => exact List.prefix_rfl

/-- A context is out of use only if it was before, or is the one that is freed. -/
theorem DaemonMove.unused (moved : DaemonMove g s e s') {j : Nat} (idle : s'.ctxs j = .unused ∨ s'.ctxs j = .freed) :
    (s.ctxs j = .unused ∨ s.ctxs j = .freed) ∨ s.freeing e = some j := by
  -- a context other than `m` is as it was
  have other : ∀ {m : Nat} {p : CtxPhase}, (p = .unused ∨ p = .freed → m ≠ j) →
      (Function.update s.ctxs m p j = .unused ∨ Function.update s.ctxs m p j = .freed) →
      s.ctxs j = .unused ∨ s.ctxs j = .freed := by
    intro m p apart idle
    by_cases own : j = m
    · rw [own, Function.update_self] at idle
      exact absurd own.symm (apart idle)
    · rwa [Function.update_of_ne own] at idle
  cases moved with
  | route phase inside => exact .inl (other (by simp) idle)
  | stopCtx phase inside => exact .inl (other (by simp) idle)
  | @freeCtx m phase inside =>
    by_cases own : m = j
    · right
      subst own
      simp [Daemon.freeing, phase, inside]
    · exact .inl (other (fun _ => own) idle)
  | _ => exact .inl idle

end Frame

/-- What holds at every index holds still where one value has changed. -/
theorem forall_update {α : Type} {f : Nat → α} {j : Nat} {a : α} {P : Nat → α → Prop} (before : ∀ m, P m (f m))
    (now : P j a) (m : Nat) : P m (Function.update f j a m) := by
  by_cases own : m = j
  · rw [own, Function.update_self]
    exact now
  · rw [Function.update_of_ne own]
    exact before m

/-! ## Every state of the process -/

/-- What a route has sent upstream, by the packets it was sent for. -/
def Relay.datagrams (s : Relay) (j : Nat) : List (SockaddrStorage × Nat × Bytes) :=
  (s.sent j).map fun x =>
    ((g.pkts x.2).peerAddr, (g.pkts x.2).peerAddrLen, upstreamDatagram (g.route j) (g.localAddr j) (g.pkts x.2))

/-- The tables and what was sent agree with the process. -/
structure RelaySound (s : Relay) : Prop where
  sound : Sound g.toSetup s.daemon
  numbered : Numbered g.toSetup s.daemon
  table : ∀ j, TableExact (s.ctxs j)
  route : ∀ j, (s.ctxs j).route = g.route j ∧ (s.ctxs j).localAddr = g.localAddr j
  idle : ∀ j, s.daemon.ctxs j = .unused ∨ s.daemon.ctxs j = .freed → (s.ctxs j).clients = []
  forwarded : ∀ j, (s.ctxs j).traffic.filterMap Traffic.upstream = s.datagrams g j
  handled : ∀ j i, (((s.sent j).filter fun x => x.1 = i).map Prod.snd).Sublist (s.daemon.workers i).worker.processed
  origin : ∀ j, ∀ x ∈ s.sent j, g.ctxOf x.2 = j ∧ x.1 < g.count

namespace RelaySound

variable {g : RelaySetup} {s s' : Relay}

theorem start (g : RelaySetup) : RelaySound g (Relay.start g) where
  sound := sound_start g.toSetup
  numbered := numbered_start g.toSetup
  table _ := .fresh _ _ _
  route _ := ⟨rfl, rfl⟩
  idle _ _ := rfl
  forwarded _ := rfl
  handled _ _ := List.nil_sublist _
  origin := nofun

/-- A table changes, and nothing is sent. -/
theorem tables (relay : RelaySound g s) {j : Nat} {ctx : DatagramRouteCtx} {c : Nat → Bool} (table : TableExact ctx)
    (route : ctx.route = (s.ctxs j).route ∧ ctx.localAddr = (s.ctxs j).localAddr)
    (clients : (s.ctxs j).clients = [] → ctx.clients = [])
    (traffic : ctx.traffic.filterMap Traffic.upstream = (s.ctxs j).traffic.filterMap Traffic.upstream) :
    RelaySound g { s with ctxs := Function.update s.ctxs j ctx, cleaned := c } := by
  refine { relay with table := ?_, route := ?_, idle := ?_, forwarded := ?_ }
  · exact forall_update (P := fun _ ctx => TableExact ctx) relay.table table
  · exact forall_update (P := fun m (ctx : DatagramRouteCtx) => ctx.route = g.route m ∧ ctx.localAddr = g.localAddr m) relay.route
      ⟨route.1.trans (relay.route j).1, route.2.trans (relay.route j).2⟩
  · exact forall_update (P := fun m (ctx : DatagramRouteCtx) => s.daemon.ctxs m = .unused ∨ s.daemon.ctxs m = .freed → ctx.clients = [])
      relay.idle fun idle => clients (relay.idle j idle)
  · exact forall_update (P := fun m (ctx : DatagramRouteCtx) => ctx.traffic.filterMap Traffic.upstream = s.datagrams g m) relay.forwarded
      (traffic.trans (relay.forwarded j))

theorem daemon (relay : RelaySound g s) {e : DaemonEvent} {d : Daemon}
    (step : (daemonMachine g.toSetup).step s.daemon e = some d) :
    RelaySound g { s with daemon := d, ctxs := s.freed e } := by
  have moved := daemon_move step
  have cases_ : ∀ j, (s.freed e j = s.ctxs j ∧ s.daemon.freeing e ≠ some j) ∨ s.freed e j = freeRouteClients (s.ctxs j) := by
    intro j
    cases freeing : s.daemon.freeing e with
    | none => exact .inl ⟨by simp only [Relay.freed, freeing], nofun⟩
    | some m =>
      simp only [Relay.freed, freeing]
      by_cases own : j = m
      · right
        rw [own, Function.update_self]
      · left
        exact ⟨Function.update_of_ne own _ _, fun same => own (Option.some.inj same).symm⟩
  constructor
  · exact relay.sound.step moved
  · exact relay.numbered.step relay.sound moved
  · intro j
    show TableExact (s.freed e j)
    rcases cases_ j with ⟨same, -⟩ | freed
    · rw [same]
      exact relay.table j
    · rw [freed]
      exact (relay.table j).free
  · intro j
    show (s.freed e j).route = _ ∧ (s.freed e j).localAddr = _
    rcases cases_ j with ⟨same, -⟩ | freed
    · rw [same]
      exact relay.route j
    · rw [freed]
      exact relay.route j
  · intro j idle
    show (s.freed e j).clients = []
    rcases cases_ j with ⟨same, unlike⟩ | freed
    · rw [same]
      exact relay.idle j ((moved.unused idle).resolve_right unlike)
    · rw [freed]
      rfl
  · intro j
    show (s.freed e j).traffic.filterMap _ = s.datagrams g j
    rcases cases_ j with ⟨same, -⟩ | freed
    · rw [same]
      exact relay.forwarded j
    · rw [freed]
      exact relay.forwarded j
  · intro j i
    exact (relay.handled j i).trans (moved.processed i).sublist
  · exact relay.origin

theorem current_cases {i k : Nat} (current : s.current g i = some k) :
    i < g.count ∧ (s.daemon.workers i).worker.loop.current = some k := by
  unfold Relay.current at current
  split at current
  · rename_i inside
    exact ⟨inside, (Option.filter_eq_some_iff.1 current).1⟩
  · cases current

/-- What the thread has handled is the packet it was at. -/
theorem process_processed {d : Daemon} {i k : Nat} (current : s.current g i = some k)
    (step : (daemonMachine g.toSetup).step s.daemon (.thread i (.worker .process)) = some d) :
    (d.workers i).worker.processed = (s.daemon.workers i).worker.processed ++ [k] ∧ d.ctxs = s.daemon.ctxs := by
  obtain ⟨-, at_⟩ := current_cases current
  have moved := daemon_move step
  generalize event : DaemonEvent.thread i (.worker .process) = e at moved
  cases moved with
  | @thread m e a inside own stepped =>
    cases event
    refine ⟨?_, rfl⟩
    show (Function.update s.daemon.workers i a i).worker.processed = _
    rw [Function.update_self]
    have moved := acceptor_move stepped
    generalize event : AcceptorEvent.worker .process = e at moved
    cases moved with
    | worker accepts moved =>
      cases event
      revert moved
      generalize a.worker = w
      intro moved
      cases moved with
      | process now =>
        rw [now] at at_
        cases at_
        rfl
    | _ => cases event
  | _ => cases event

/-- The packet a thread was at is behind what its worker had processed before. -/
theorem process_sublist {d : Daemon} {i k : Nat} (current : s.current g i = some k)
    (step : (daemonMachine g.toSetup).step s.daemon (.thread i (.worker .process)) = some d) {m : Nat} {old : List Nat}
    (before : old.Sublist (s.daemon.workers m).worker.processed) :
    (old ++ (([(i, k)] : List (Nat × Nat)).filter fun x => x.1 = m).map Prod.snd).Sublist
      (d.workers m).worker.processed := by
  by_cases own : m = i
  · rw [own] at before ⊢
    rw [(process_processed current step).1]
    apply before.append
    simp
  · have other : (([(i, k)] : List (Nat × Nat)).filter fun x => x.1 = m).map Prod.snd = [] := by simp [Ne.symm own]
    rw [other, List.append_nil]
    exact before.trans ((daemon_move step).processed m).sublist

/-- A packet is handled: it was sent upstream and recorded, or neither. -/
theorem handle (relay : RelaySound g s) {d : Daemon} {i k : Nat} {env : PacketEnv} {c : Nat → Bool}
    (current : s.current g i = some k)
    (step : (daemonMachine g.toSetup).step s.daemon (.thread i (.worker .process)) = some d) :
    RelaySound g
      { daemon := d
        ctxs := Function.update s.ctxs (g.ctxOf k)
          (datagramRouteHandlePacket (s.ctxs (g.ctxOf k)) i env (g.pkts k)).1
        cleaned := c
        sent := if (datagramRouteHandlePacket (s.ctxs (g.ctxOf k)) i env (g.pkts k)).1.traffic.length =
            (s.ctxs (g.ctxOf k)).traffic.length then s.sent
          else Function.update s.sent (g.ctxOf k) (s.sent (g.ctxOf k) ++ [(i, k)]) } := by
  obtain ⟨inside, at_⟩ := current_cases current
  obtain ⟨-, ctxs⟩ := process_processed current step
  have moved := daemon_move step
  have alive := relay.numbered.current_alive relay.sound inside at_
  have route := handlePacket_route (s.ctxs (g.ctxOf k)) i env (g.pkts k)
  have table := (relay.table (g.ctxOf k)).packet (packet_step _ i env (g.pkts k))
  have traffic := handlePacket_traffic (s.ctxs (g.ctxOf k)) i env (g.pkts k)
  generalize (datagramRouteHandlePacket (s.ctxs (g.ctxOf k)) i env (g.pkts k)).1 = ctx at route table traffic ⊢
  -- what does not depend on whether it was sent
  have idle : ∀ m, d.ctxs m = .unused ∨ d.ctxs m = .freed → (Function.update s.ctxs (g.ctxOf k) ctx m).clients = [] := by
    rw [ctxs]
    apply forall_update (P := fun m (ctx : DatagramRouteCtx) => s.daemon.ctxs m = .unused ∨ s.daemon.ctxs m = .freed → ctx.clients = [])
      relay.idle
    rcases alive with listening | stopped
    · simp [listening]
    · simp [stopped]
  have tables := forall_update (j := g.ctxOf k) (P := fun _ ctx => TableExact ctx) relay.table table
  have routes := forall_update (j := g.ctxOf k) (P := fun m (ctx : DatagramRouteCtx) => ctx.route = g.route m ∧ ctx.localAddr = g.localAddr m) relay.route
    ⟨route.1.trans (relay.route _).1, route.2.trans (relay.route _).2⟩
  rcases traffic with same | ⟨fd, longer⟩
  · rw [if_pos (by rw [same])]
    refine ⟨relay.sound.step moved, relay.numbered.step relay.sound moved, tables, routes, idle, ?_, ?_, relay.origin⟩
    · exact forall_update (P := fun m (ctx : DatagramRouteCtx) => ctx.traffic.filterMap Traffic.upstream = s.datagrams g m) relay.forwarded
        (by rw [same]; exact relay.forwarded _)
    · exact fun j m => (relay.handled j m).trans (moved.processed m).sublist
  · rw [if_neg (by rw [longer]; simp)]
    refine ⟨relay.sound.step moved, relay.numbered.step relay.sound moved, tables, routes, idle, ?_, ?_, ?_⟩
    · intro j
      by_cases own : j = g.ctxOf k
      · simp only [own, Relay.datagrams, Function.update_self, List.map_append, List.map_singleton]
        rw [longer, List.filterMap_append, relay.forwarded, (relay.route _).1, (relay.route _).2]
        rfl
      · simp only [Relay.datagrams, Function.update_of_ne own]
        exact relay.forwarded j
    · intro j m
      refine forall_update (P := fun _ (sent : List (Nat × Nat)) => List.Sublist ((sent.filter fun x => x.1 = m).map Prod.snd)
        (d.workers m).worker.processed) ?_ ?_ j
      · exact fun j => (relay.handled j m).trans (moved.processed m).sublist
      · rw [List.filter_append, List.map_append]
        exact process_sublist current step (relay.handled _ m)
    · apply forall_update (P := fun j (sent : List (Nat × Nat)) => ∀ x ∈ sent, g.ctxOf x.2 = j ∧ x.1 < g.count)
        relay.origin
      intro x mem
      rcases List.mem_append.1 mem with before | now
      · exact relay.origin _ x before
      · rw [List.mem_singleton.1 now]
        exact ⟨rfl, inside⟩

theorem relayed_upstream (ctx : DatagramRouteCtx) (c : DatagramClient) (results : List RecvOutcome) :
    (results.flatMap (relayed ctx c)).filterMap Traffic.upstream = [] := by
  rw [List.filterMap_eq_nil_iff]
  intro t mem
  obtain ⟨outcome, -, mem⟩ := List.mem_flatMap.1 mem
  cases outcome with
  | failed err => cases mem
  | datagram data env =>
    simp only [relayed] at mem
    split at mem
    · rw [List.mem_singleton.1 mem]
      rfl
    · rcases List.mem_cons.1 mem with rfl | mem
      · rfl
      · rw [List.mem_singleton.1 mem]
        rfl

theorem step (relay : RelaySound g s) {e : RelayEvent} (step : (relayMachine g).step s e = some s') :
    RelaySound g s' := by
  cases e with
  | daemon e =>
    simp only [relayMachine] at step
    split at step
    · cases step
    · obtain ⟨d, moved, rfl⟩ := Option.map_eq_some_iff.1 step
      exact relay.daemon moved
  | cleanup i now =>
    simp only [relayMachine, Option.bind_eq_bind, Option.bind_eq_some_iff] at step
    obtain ⟨k, current, step⟩ := step
    split at step
    · cases step
    · cases step
      refine relay.tables ((relay.table _).cleanup now) ⟨rfl, rfl⟩ (fun none => ?_) rfl
      show (s.ctxs (g.ctxOf k)).clients.filter _ = []
      rw [none, List.filter_nil]
  | handle i env =>
    simp only [relayMachine, Option.bind_eq_bind, Option.bind_eq_some_iff] at step
    obtain ⟨k, current, step⟩ := step
    split at step
    · simp only [Option.bind_eq_some_iff, Option.some.injEq] at step
      obtain ⟨d, moved, rfl⟩ := step
      exact relay.handle current moved
    · cases step
  | upstreamRead i j id results =>
    simp only [relayMachine] at step
    split at step
    · obtain ⟨c, found, read⟩ := Option.bind_eq_some_iff.1 step
      obtain ⟨ctx, called, rfl⟩ := Option.map_eq_some_iff.1 read
      obtain ⟨looked, -⟩ := Option.filter_eq_some_iff.1 found
      have taken : datagramMachine.step (s.ctxs j) (.upstreamRead id results) = some ctx :=
        Option.bind_eq_some_iff.2 ⟨c, looked, called⟩
      obtain ⟨c, -, rfl⟩ := read_step taken
      refine relay.tables ((relay.table j).step taken) ⟨rfl, rfl⟩ (fun none => none) ?_
      rw [List.filterMap_append, relayed_upstream, List.append_nil]
    · cases step

end RelaySound

/-- What is promised of the packets that reach the listeners of datagram routes. -/
structure PacketsRelayed (s : Relay) : Prop where
  /-- Each route has sent its upstream the datagrams of the packets in `sent`, and nothing else. -/
  forwarded : ∀ j, (s.ctxs j).traffic.filterMap Traffic.upstream = s.datagrams g j
  /-- They came in on this route, and none was sent twice. -/
  once : ∀ j, (∀ x ∈ s.sent j, g.ctxOf x.2 = j) ∧ ((s.sent j).map Prod.snd).Nodup
  /-- Each worker sends in the order of arrival. -/
  ordered : ∀ j i, (((s.sent j).filter fun x => x.1 = i).map Prod.snd).Pairwise (· < ·)
  /-- With one worker they are sent in the order of arrival. -/
  inOrder : g.count = 1 → ∀ j, ((s.sent j).map Prod.snd).Pairwise (· < ·)
  /-- The open sockets are the clients', and a context out of use has none. -/
  sockets : ∀ j, (s.ctxs j).sockets.openFds.Perm ((s.ctxs j).clients.map DatagramClient.fd) ∧
    (s.daemon.ctxs j = .unused ∨ s.daemon.ctxs j = .freed → (s.ctxs j).sockets.openFds = [])
  /-- At the exit no upstream socket is open. -/
  closed : s.daemon.phase = .exited → ∀ j, (s.ctxs j).sockets.openFds = []

namespace RelaySound

variable {g : RelaySetup} {s : Relay}

theorem ordered (relay : RelaySound g s) (j i : Nat) :
    (((s.sent j).filter fun x => x.1 = i).map Prod.snd).Pairwise (· < ·) := by
  have processed := (relay.numbered.ordered relay.sound i).sublist (List.sublist_append_left _ _)
  exact processed.sublist (relay.handled j i)

/-- What one worker sends first came first. -/
theorem before (relay : RelaySound g s) {j : Nat} {x y : Nat × Nat} (pair : [x, y].Sublist (s.sent j))
    (same : y.1 = x.1) : x.2 < y.2 := by
  have kept := (pair.filter fun z => z.1 = x.1).map Prod.snd
  simp only [List.filter_cons, decide_true, if_true, same, List.filter_nil, List.map_cons, List.map_nil] at kept
  exact List.rel_of_pairwise_cons ((relay.ordered j x.1).sublist kept) List.mem_cons_self

theorem processed_of_mem (relay : RelaySound g s) {j : Nat} {x : Nat × Nat} (mem : x ∈ s.sent j) :
    x.2 ∈ (s.daemon.workers x.1).worker.processed := by
  apply (relay.handled j x.1).mem
  exact List.mem_map_of_mem (List.mem_filter.2 ⟨mem, decide_eq_true rfl⟩)

/-- Two entries for one packet would be two of one worker. -/
theorem once (relay : RelaySound g s) (j : Nat) : ((s.sent j).map Prod.snd).Nodup := by
  rw [List.Nodup, List.pairwise_map, List.pairwise_iff_forall_sublist]
  intro x y pair same
  have first := relay.processed_of_mem (pair.mem (List.mem_cons_self))
  have second := relay.processed_of_mem (pair.mem (List.mem_cons_of_mem _ List.mem_cons_self))
  rw [← same] at second
  have home := (relay.numbered.handled_home relay.sound (List.mem_append_left _ first)).2
  have home' := (relay.numbered.handled_home relay.sound (List.mem_append_left _ second)).2
  have earlier := relay.before pair (home'.symm.trans home)
  omega

theorem inOrder (relay : RelaySound g s) (one : g.count = 1) (j : Nat) :
    ((s.sent j).map Prod.snd).Pairwise (· < ·) := by
  rw [List.pairwise_map, List.pairwise_iff_forall_sublist]
  intro x y pair
  have first := (relay.origin j x (pair.mem List.mem_cons_self)).2
  have second := (relay.origin j y (pair.mem (List.mem_cons_of_mem _ List.mem_cons_self))).2
  exact relay.before pair (by omega)

theorem unusedClosed (relay : RelaySound g s) {j : Nat}
    (idle : s.daemon.ctxs j = .unused ∨ s.daemon.ctxs j = .freed) : (s.ctxs j).sockets.openFds = [] := by
  have fds := (relay.table j).fds
  rw [relay.idle j idle] at fds
  exact fds.eq_nil

theorem exitClosed (relay : RelaySound g s) (exited : s.daemon.phase = .exited) (j : Nat) :
    (s.ctxs j).sockets.openFds = [] := by
  apply relay.unusedClosed
  rw [relay.sound.ctxs j, exited]
  by_cases filled : s.daemon.ctxCount ≤ j
  · exact .inl (if_pos filled)
  · exact .inr (if_neg filled)

end RelaySound

/-- **UDP packets through the process**, in every interleaving of `main` and the workers and whichever calls fail. -/
theorem packets_relayed {g : RelaySetup} {s : Relay} {es : List RelayEvent}
    (ran : (relayMachine g).run (Relay.start g) es = some s) : PacketsRelayed g s := by
  have relay : RelaySound g s :=
    Lib.Machine.run_invariant (I := RelaySound g) (fun _ _ _ kept step => kept.step step) (.start g) ran
  constructor
  · exact relay.forwarded
  · exact fun j => ⟨fun x mem => (relay.origin j x mem).1, relay.once j⟩
  · exact relay.ordered
  · exact relay.inOrder
  · exact fun j => ⟨(relay.table j).fds, relay.unusedClosed⟩
  · exact relay.exitClosed

/-- Two workers, and a route on which two packets of one peer come in. -/
def pairRelay : RelaySetup where
  count := 2
  nonempty := Nat.zero_lt_two
  routes := 1
  msgs _ := .datagramPacket
  ctxOf _ := 0
  pkts k := packetFrom 7 [UInt8.ofNat k]
  route _ := udpCtx.route
  localAddr _ := udpCtx.localAddr
  localAddrLen _ := udpCtx.localAddrLen

/-- Both packets are queued before the second worker handles its own, and then the first; the process exits. -/
def crossedRun : List RelayEvent :=
  [.daemon (.create true), .daemon (.create true), .daemon .next, .daemon (.route true), .daemon .next,
    .daemon .packet, .daemon (.call (.worker (.enqueue 0))), .daemon (.call (.worker (.notify 0 .added))), .daemon .next,
    .daemon .packet, .daemon (.call (.worker (.enqueue 1))), .daemon (.call (.worker (.notify 1 .added))), .daemon .next,
    .daemon (.thread 0 (.worker .wake)), .daemon (.thread 1 (.worker .wake)), .daemon (.thread 1 (.worker (.recv 1))),
    .daemon (.thread 1 (.worker .take)), .daemon (.thread 0 (.worker (.recv 1))), .daemon (.thread 0 (.worker .take)),
    .cleanup 1 0, .handle 1 (smoothPacketEnv 0), .daemon (.thread 1 (.worker .check)),
    .upstreamRead 1 0 0 [.datagram [9] {}], .cleanup 0 1, .handle 0 (smoothPacketEnv 1),
    .daemon (.thread 0 (.worker .check)), .daemon (.loopEnds true), .daemon .next, .daemon .next,
    .daemon (.call (.worker (.stop 0))), .daemon (.call (.worker (.stopNotify 0 .added))), .daemon .next,
    .daemon (.call (.worker (.stop 0))), .daemon (.call (.worker (.stopNotify 0 .added))), .daemon .next, .daemon .next,
    .daemon (.thread 0 (.worker .wake)), .daemon (.thread 0 (.worker (.recv 1))), .daemon (.thread 0 (.worker .take)),
    .daemon (.thread 0 (.worker .check)), .daemon (.thread 1 (.worker .wake)), .daemon (.thread 1 (.worker (.recv 1))),
    .daemon (.thread 1 (.worker .take)), .daemon (.thread 1 (.worker .check)),
    .daemon (.call (.worker .join)), .daemon .next, .daemon (.call (.worker .join)), .daemon .next, .daemon .next,
    .daemon .next, .daemon .next,
    .daemon (.call (.worker .free)), .daemon (.call (.worker (.freeNotify .added))), .daemon (.call (.worker .freeJoin)),
    .daemon (.call (.worker .freeTake)), .daemon (.call (.worker .freeDone)), .daemon .next,
    .daemon (.call (.worker .free)), .daemon (.call (.worker (.freeNotify .added))), .daemon (.call (.worker .freeJoin)),
    .daemon (.call (.worker .freeTake)), .daemon (.call (.worker .freeDone)), .daemon .next, .daemon .next]

/-- The packets of the one peer are sent in the opposite order. -/
theorem packets_relayed_crossed :
    ∃ s, (relayMachine pairRelay).run (Relay.start pairRelay) crossedRun = some s ∧ PacketsRelayed pairRelay s ∧
      s.daemon.phase = .exited ∧ s.sent 0 = [(1, 1), (0, 0)] := by
  have seen : ((relayMachine pairRelay).run (Relay.start pairRelay) crossedRun).map
      (fun s => (s.daemon.phase, s.sent 0)) = some (.exited, [(1, 1), (0, 0)]) := by
    decide +kernel
  obtain ⟨s, ran, parts⟩ := Option.map_eq_some_iff.1 seen
  simp only [Prod.mk.injEq] at parts
  exact ⟨s, ran, packets_relayed ran, parts⟩

end Tinyproxy
