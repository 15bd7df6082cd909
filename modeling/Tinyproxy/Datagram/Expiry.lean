import Tinyproxy.Datagram.Sessions

/-!
# Expiry of datagram clients

`cleanup_idle_datagram_clients` goes by `last_seen`, which a packet from the client
refreshes and a reply from the upstream does not. `timedMachine` puts a clock beside
the steps of a route and keeps two records the code does not: which peer sent a packet
when, and which client a datagram was relayed through when, in either direction.
`Clocked` says that `last_seen` is the time of the last packet of the client's peer.
-/

namespace Tinyproxy

/-- The clock readings a step takes are `now`; `upstream_read_cb` takes none. -/
def DatagramStep.ReadsClock (now : Int) : DatagramStep → Prop
  | .packet _ env _ => env.now = now
  | .cleanup t => t = now
  | .upstreamRead _ _ => True

/-- A step and the time it is taken at. -/
structure TimedStep where
  now : Int
  step : DatagramStep
  reads : step.ReadsClock now

/-- The way a datagram went. -/
inductive RelayDirection where
  | toUpstream | toClient
  deriving DecidableEq

/-- A datagram relayed through a client. -/
structure RelayedDatagram where
  direction : RelayDirection
  client : Nat
  time : Int
  deriving DecidableEq

/-- A datagram route with the latest time and what happened when. -/
structure TimedRoute where
  ctx : DatagramRouteCtx
  now : Int
  packets : List (Peer × Int) := []
  relays : List RelayedDatagram := []
  deriving DecidableEq

/-- Whether the result of a `recv` is a datagram that goes on to the client of `c` without an error. -/
def RecvOutcome.sentOn (ctx : DatagramRouteCtx) (c : DatagramClient) : RecvOutcome → Bool
  | .failed _ => false
  | .datagram data env => data.length != 0 && (sendDatagramPayloadToClient ctx c env data).2.isOk

/-- The peer whose packet a step handles. -/
def DatagramStep.heard : DatagramStep → List Peer
  | .packet _ _ pkt => [(pkt.peerAddr, pkt.peerAddrLen)]
  | _ => []

/-- The datagrams a step relays that takes a route from `ctx` to `after`, with the clients they go through. -/
def DatagramStep.relays (ctx after : DatagramRouteCtx) : DatagramStep → List (RelayDirection × Nat)
  | .packet base env pkt =>
    match (datagramRouteHandlePacket ctx base env pkt).2 with
    | .error _ => []
    | .ok _ => (findDatagramClient after pkt.peerAddr pkt.peerAddrLen).toList.map fun c => (.toUpstream, c.id)
  | .cleanup _ => []
  | .upstreamRead id results =>
    (ctx.clients.find? fun c => c.id = id).toList.flatMap fun c =>
      (results.filter (RecvOutcome.sentOn ctx c)).map fun _ => (.toClient, id)

/-- The machine of one datagram route under a clock that never goes back. -/
def timedMachine : Lib.Machine TimedRoute TimedStep where
  step st e :=
    if st.now ≤ e.now then
      (datagramMachine.step st.ctx e.step).map fun after =>
        { ctx := after
          now := e.now
          packets := st.packets ++ e.step.heard.map fun peer => (peer, e.now)
          relays := st.relays ++ (e.step.relays st.ctx after).map fun d => ⟨d.1, d.2, e.now⟩ }
    else none

/-- A cleanup removes no client through which a datagram was relayed, in either direction, within the last
`idle_timeout_sec` seconds. -/
def ExpiresIdle (st : TimedRoute) (e : TimedStep) : Prop :=
  ∀ now, e.step = .cleanup now → ∀ c ∈ st.ctx.clients, c ∉ (cleanupIdleDatagramClients st.ctx now).clients →
    ∀ d ∈ st.relays, d.client = c.id → st.ctx.route.opts.idleTimeoutSec < now - d.time

/-- The peer of `c` has sent a packet within the last `idle_timeout_sec` seconds. -/
def TimedRoute.HeardFrom (st : TimedRoute) (now : Int) (c : DatagramClient) : Prop :=
  ∃ p ∈ st.packets, sockaddrEqual c.clientAddr c.clientAddrLen p.1.1 p.1.2 = true ∧
    now - p.2 ≤ st.ctx.route.opts.idleTimeoutSec

/-- At a cleanup, a client that had a reply within the last `idle_timeout_sec` seconds has also sent a packet within
them. -/
def RepliesAnswered (st : TimedRoute) (e : TimedStep) : Prop :=
  ∀ now, e.step = .cleanup now → ∀ c ∈ st.ctx.clients, ∀ d ∈ st.relays, d.client = c.id → d.direction = .toClient →
    now - d.time ≤ st.ctx.route.opts.idleTimeoutSec → st.HeardFrom now c

/-! ## Clients and their names -/

theorem sockaddrEqual_trans {a b c : SockaddrStorage} {aLen bLen cLen : Nat}
    (left : sockaddrEqual a aLen b bLen = true) (right : sockaddrEqual b bLen c cLen = true) :
    sockaddrEqual a aLen c cLen = true := by
  obtain ⟨rfl, family, bytes⟩ := sockaddrEqual_iff.1 left
  obtain ⟨rfl, family', bytes'⟩ := sockaddrEqual_iff.1 right
  exact sockaddrEqual_iff.2 ⟨rfl, family.trans family', bytes.trans bytes'⟩

/-- `c` is the client of the sender of `pkt`. -/
def DatagramClient.isFor (c : DatagramClient) (pkt : WorkerDatagramPacketMsg) : Prop :=
  sockaddrEqual c.clientAddr c.clientAddrLen pkt.peerAddr pkt.peerAddrLen = true

/-- No two clients have one name, and names are given out in order. -/
structure NamedClients (ctx : DatagramRouteCtx) : Prop where
  distinct : ctx.clients.Pairwise fun c d => c.id ≠ d.id
  below : ∀ c ∈ ctx.clients, c.id < ctx.nextClient

namespace NamedClients

variable {ctx : DatagramRouteCtx}

theorem inj (named : NamedClients ctx) {c d : DatagramClient} (left : c ∈ ctx.clients) (right : d ∈ ctx.clients)
    (same : c.id = d.id) : c = d := by
  by_contra different
  have symm : Std.Symm fun c d : DatagramClient => c.id ≠ d.id := ⟨fun _ _ other => other.symm⟩
  exact named.distinct.forall left right different same

theorem touch (named : NamedClients ctx) (id : Nat) (now : Int) : NamedClients (touchDatagramClient ctx id now) where
  distinct := by
    unfold touchDatagramClient
    rw [List.pairwise_map]
    apply named.distinct.imp
    intro c d other
    split <;> split <;> exact other
  below := by
    intro c mem
    obtain ⟨d, before, same⟩ := Sessions.mem_touch mem
    rw [same]
    exact named.below d before

theorem cleanup (named : NamedClients ctx) (now : Int) : NamedClients (cleanupIdleDatagramClients ctx now) where
  distinct := named.distinct.filter _
  below := by
    intro c mem
    exact named.below c (List.mem_filter.1 mem).1

theorem insert (named : NamedClients ctx) {c : DatagramClient} (name : c.id = ctx.nextClient) (s : Sockets) :
    NamedClients { ctx with clients := c :: ctx.clients, nextClient := ctx.nextClient + 1, sockets := s } where
  distinct := by
    rw [List.pairwise_cons]
    refine ⟨?_, named.distinct⟩
    intro d mem same
    have below := named.below d mem
    omega
  below := by
    rw [List.forall_mem_cons]
    constructor
    · rw [name]
      exact Nat.lt_succ_self _
    · intro d mem
      exact Nat.lt_succ_of_lt (named.below d mem)

theorem packet (named : NamedClients ctx) {base : Nat} {env : PacketEnv} {pkt : WorkerDatagramPacketMsg}
    {ctx' : DatagramRouteCtx} (step : PacketStep ctx base env pkt ctx') : NamedClients ctx' := by
  cases step with
  | nothing => exact named
  | failed => exact ⟨named.distinct, named.below⟩
  | @found c sent known once =>
    have touched := named.touch c.id env.now
    exact ⟨touched.distinct, touched.below⟩
  | created unknown once =>
    have touched := (named.insert (c := ⟨ctx.nextClient, base, ctx.sockets.next, pkt.peerAddr, pkt.peerAddrLen, env.now⟩)
      rfl ctx.sockets.socket).touch ctx.nextClient env.now
    exact ⟨touched.distinct, touched.below⟩

end NamedClients

/-! ## What a packet does to the table -/

/-- A packet of a client in the table refreshes that client, whatever becomes of the packet. -/
theorem handlePacket_known {ctx : DatagramRouteCtx} {base : Nat} {env : PacketEnv} {pkt : WorkerDatagramPacketMsg}
    {d : DatagramClient} (proxied : ctx.route.upstream.kind ≠ .builtin)
    (known : findDatagramClient ctx pkt.peerAddr pkt.peerAddrLen = some d) :
    (datagramRouteHandlePacket ctx base env pkt).1.clients = (touchDatagramClient ctx d.id env.now).clients := by
  unfold datagramRouteHandlePacket datagramRouteGetOrCreateClient
  rw [if_neg proxied, known]
  obtain ⟨sent, -, sends⟩ := forwardPacket_once (touchDatagramClient ctx d.id env.now) env d pkt
  dsimp only
  rw [sends]

theorem isFor_of_find {ctx : DatagramRouteCtx} {pkt : WorkerDatagramPacketMsg} {c : DatagramClient}
    (known : findDatagramClient ctx pkt.peerAddr pkt.peerAddrLen = some c) : c.isFor pkt := by
  have passes := List.find?_some (show ctx.clients.find? _ = some c from known)
  exact passes

/-- No client of a table without the sender of `pkt` is for it. -/
theorem not_isFor {ctx : DatagramRouteCtx} {pkt : WorkerDatagramPacketMsg} {c : DatagramClient}
    (unknown : findDatagramClient ctx pkt.peerAddr pkt.peerAddrLen = none) (mem : c ∈ ctx.clients) : ¬c.isFor pkt :=
  List.find?_eq_none.1 unknown c mem

/-- A route with a builtin upstream has no clients. -/
def BuiltinBare (ctx : DatagramRouteCtx) : Prop := ctx.route.upstream.kind = .builtin → ctx.clients = []

/-- **A packet refreshes the client it is for and no other.** -/
theorem packet_clients {ctx : DatagramRouteCtx} {owners : List Peer} {base : Nat} {env : PacketEnv}
    {pkt : WorkerDatagramPacketMsg} {c : DatagramClient} (sessions : Sessions owners ctx) (named : NamedClients ctx)
    (bare : BuiltinBare ctx) (mem : c ∈ (datagramRouteHandlePacket ctx base env pkt).1.clients) :
    (c.isFor pkt ∧ c.lastSeen = env.now) ∨ (c ∈ ctx.clients ∧ ¬c.isFor pkt) := by
  by_cases builtin : ctx.route.upstream.kind = .builtin
  · unfold datagramRouteHandlePacket at mem
    rw [if_pos builtin, bare builtin] at mem
    cases mem
  cases looked : findDatagramClient ctx pkt.peerAddr pkt.peerAddrLen with
  | some d =>
    have there : d ∈ ctx.clients := List.mem_of_find?_eq_some looked
    have own : d.isFor pkt := isFor_of_find looked
    rw [handlePacket_known builtin looked] at mem
    obtain ⟨b, before, rfl⟩ := List.mem_map.1 mem
    by_cases same : b.id = d.id
    · left
      rw [if_pos same, named.inj before there same]
      exact ⟨own, rfl⟩
    · right
      rw [if_neg same]
      refine ⟨before, ?_⟩
      intro too
      -- two clients of one peer would be one client
      have other : OtherPeer b d := sessions.distinct.forall before there fun equal => same (by rw [equal])
      rw [OtherPeer, sockaddrEqual_trans too (sockaddrEqual_symm own)] at other
      cases other
  | none =>
    have step := packet_step ctx base env pkt
    generalize (datagramRouteHandlePacket ctx base env pkt).1 = after at step mem
    cases step with
    | nothing => exact .inr ⟨mem, not_isFor looked mem⟩
    | failed => exact .inr ⟨mem, not_isFor looked mem⟩
    | found known once =>
      rw [looked] at known
      cases known
    | created unknown once =>
      obtain ⟨b, before, rfl⟩ := List.mem_map.1 mem
      rcases List.mem_cons.1 before with rfl | old
      · left
        rw [if_pos rfl]
        exact ⟨sockaddrEqual_refl _ _, rfl⟩
      · right
        rw [if_neg (Nat.ne_of_lt (named.below b old))]
        exact ⟨old, not_isFor looked old⟩

theorem handlePacket_nextClient (ctx : DatagramRouteCtx) (base : Nat) (env : PacketEnv) (pkt : WorkerDatagramPacketMsg) :
    ctx.nextClient ≤ (datagramRouteHandlePacket ctx base env pkt).1.nextClient := by
  have step := packet_step ctx base env pkt
  generalize (datagramRouteHandlePacket ctx base env pkt).1 = after at step
  cases step with
  | nothing => exact Nat.le_refl _
  | failed => exact Nat.le_refl _
  | found known once => exact Nat.le_refl _
  | created unknown once => exact Nat.le_succ _

theorem BuiltinBare.packet {ctx : DatagramRouteCtx} (bare : BuiltinBare ctx) (base : Nat) (env : PacketEnv)
    (pkt : WorkerDatagramPacketMsg) : BuiltinBare (datagramRouteHandlePacket ctx base env pkt).1 := by
  have step := packet_step ctx base env pkt
  intro builtin
  have same : ctx.route.upstream.kind = .builtin := by
    generalize (datagramRouteHandlePacket ctx base env pkt).1 = after at step builtin
    cases step <;> exact builtin
  unfold datagramRouteHandlePacket
  rw [if_pos same]
  exact bare same

/-- A packet is relayed through the client it is for. -/
theorem mem_relays_packet {ctx after : DatagramRouteCtx} {base : Nat} {env : PacketEnv} {pkt : WorkerDatagramPacketMsg}
    {d : RelayDirection × Nat} (mem : d ∈ (DatagramStep.packet base env pkt).relays ctx after) :
    ∃ c ∈ after.clients, c.isFor pkt ∧ d.2 = c.id := by
  simp only [DatagramStep.relays] at mem
  split at mem
  · cases mem
  · obtain ⟨c, found, rfl⟩ := List.mem_map.1 mem
    have known := Option.mem_toList.1 found
    exact ⟨c, List.mem_of_find?_eq_some known, isFor_of_find known, rfl⟩

/-- A reply is relayed through a client of the table. -/
theorem mem_relays_read {ctx after : DatagramRouteCtx} {id : Nat} {results : List RecvOutcome}
    {d : RelayDirection × Nat} (mem : d ∈ (DatagramStep.upstreamRead id results).relays ctx after) :
    d.1 = .toClient ∧ ∃ c ∈ ctx.clients, d.2 = c.id := by
  obtain ⟨c, found, relayed⟩ := List.mem_flatMap.1 mem
  obtain ⟨result, -, rfl⟩ := List.mem_map.1 relayed
  have known := Option.mem_toList.1 found
  have name := List.find?_some known
  exact ⟨rfl, c, List.mem_of_find?_eq_some known, (of_decide_eq_true name).symm⟩

/-- A record that is extended at time `now` holds nothing later. -/
theorem past_append {α : Type} {time : α → Int} {old new : List α} {before now : Int}
    (past : ∀ x ∈ old, time x ≤ before) (later : before ≤ now) (stamped : ∀ x ∈ new, time x = now) :
    ∀ x ∈ old ++ new, time x ≤ now := by
  intro x mem
  rcases List.mem_append.1 mem with was | added
  · have bound := past x was
    omega
  · have bound := stamped x added
    omega

theorem relays_stamped {now : Int} {relays : List (RelayDirection × Nat)} :
    ∀ d ∈ relays.map fun d => (⟨d.1, d.2, now⟩ : RelayedDatagram), d.time = now := by
  intro d mem
  obtain ⟨r, -, rfl⟩ := List.mem_map.1 mem
  rfl

/-! ## `last_seen` is the time of the last packet -/

/-- `last_seen` of a client is the time of the last packet of its peer, and no packet was relayed for it later. -/
structure Clocked (st : TimedRoute) : Prop where
  sessions : ∃ owners, Sessions owners st.ctx
  named : NamedClients st.ctx
  bare : BuiltinBare st.ctx
  heard : ∀ c ∈ st.ctx.clients, ∃ p ∈ st.packets,
    sockaddrEqual c.clientAddr c.clientAddrLen p.1.1 p.1.2 = true ∧ p.2 = c.lastSeen
  latest : ∀ c ∈ st.ctx.clients, ∀ p ∈ st.packets,
    sockaddrEqual c.clientAddr c.clientAddrLen p.1.1 p.1.2 = true → p.2 ≤ c.lastSeen
  sent : ∀ c ∈ st.ctx.clients, ∀ d ∈ st.relays, d.client = c.id → d.direction = .toUpstream → d.time ≤ c.lastSeen
  given : ∀ d ∈ st.relays, d.client < st.ctx.nextClient
  packetsPast : ∀ p ∈ st.packets, p.2 ≤ st.now
  relaysPast : ∀ d ∈ st.relays, d.time ≤ st.now

namespace Clocked

variable {st : TimedRoute}

/-- A client survives a cleanup exactly when its peer has been heard from recently. -/
theorem fresh_iff (clocked : Clocked st) {c : DatagramClient} (mem : c ∈ st.ctx.clients) (now : Int) :
    c.fresh st.ctx.route now = true ↔ st.HeardFrom now c := by
  unfold DatagramClient.fresh
  rw [decide_eq_true_iff]
  constructor
  · intro recent
    obtain ⟨p, packet, equal, same⟩ := clocked.heard c mem
    exact ⟨p, packet, equal, by omega⟩
  · rintro ⟨p, packet, equal, recent⟩
    have latest := clocked.latest c mem p packet equal
    omega

theorem packet (clocked : Clocked st) {now : Int} {base : Nat} {env : PacketEnv} {pkt : WorkerDatagramPacketMsg}
    (later : st.now ≤ now) (reads : env.now = now) :
    Clocked
      { ctx := (datagramRouteHandlePacket st.ctx base env pkt).1
        now := now
        packets := st.packets ++ [((pkt.peerAddr, pkt.peerAddrLen), now)]
        relays := st.relays ++ ((DatagramStep.packet base env pkt).relays st.ctx
          (datagramRouteHandlePacket st.ctx base env pkt).1).map fun d => ⟨d.1, d.2, now⟩ } := by
  obtain ⟨owners, sessions⟩ := clocked.sessions
  have step := packet_step st.ctx base env pkt
  have named := clocked.named.packet step
  have cases : ∀ c ∈ (datagramRouteHandlePacket st.ctx base env pkt).1.clients,
      (c.isFor pkt ∧ c.lastSeen = now) ∨ (c ∈ st.ctx.clients ∧ ¬c.isFor pkt) := by
    intro c mem
    rw [← reads]
    exact packet_clients sessions clocked.named clocked.bare mem
  have packetsPast : ∀ p ∈ st.packets ++ [((pkt.peerAddr, pkt.peerAddrLen), now)], p.2 ≤ now := by
    apply past_append clocked.packetsPast later
    intro p new
    rw [List.mem_singleton.1 new]
  have relaysPast := past_append clocked.relaysPast later (@relays_stamped now
    ((DatagramStep.packet base env pkt).relays st.ctx (datagramRouteHandlePacket st.ctx base env pkt).1))
  refine ⟨sessions.packet step, named, clocked.bare.packet base env pkt, ?heard, ?latest, ?sent, ?given, packetsPast,
    relaysPast⟩
  case heard =>
    intro c mem
    obtain ⟨own, seen⟩ | ⟨old, -⟩ := cases c mem
    · exact ⟨_, List.mem_append_right _ List.mem_cons_self, own, seen.symm⟩
    · obtain ⟨p, packet, same⟩ := clocked.heard c old
      exact ⟨p, List.mem_append_left _ packet, same⟩
  case latest =>
    intro c mem p packet equal
    obtain ⟨-, seen⟩ | ⟨old, other⟩ := cases c mem
    · rw [seen]
      exact packetsPast p packet
    · rcases List.mem_append.1 packet with before | new
      · exact clocked.latest c old p before equal
      · rw [List.mem_singleton.1 new] at equal
        exact absurd equal other
  case sent =>
    intro c mem d relay client direction
    obtain ⟨-, seen⟩ | ⟨old, other⟩ := cases c mem
    · rw [seen]
      exact relaysPast d relay
    · rcases List.mem_append.1 relay with before | new
      · exact clocked.sent c old d before client direction
      · obtain ⟨r, here, rfl⟩ := List.mem_map.1 new
        obtain ⟨f, there, own, name⟩ := mem_relays_packet here
        -- the client the packet went through is the one it is for
        have same : c = f := named.inj mem there (client.symm.trans name)
        exact absurd (same ▸ own) other
  case given =>
    intro d relay
    rcases List.mem_append.1 relay with before | new
    · exact Nat.lt_of_lt_of_le (clocked.given d before) (handlePacket_nextClient st.ctx base env pkt)
    · obtain ⟨r, here, rfl⟩ := List.mem_map.1 new
      obtain ⟨f, there, -, name⟩ := mem_relays_packet here
      rw [name]
      exact named.below f there

theorem cleanup (clocked : Clocked st) {now : Int} (later : st.now ≤ now) :
    Clocked { st with ctx := cleanupIdleDatagramClients st.ctx now, now := now } := by
  obtain ⟨owners, sessions⟩ := clocked.sessions
  have kept : ∀ c ∈ (cleanupIdleDatagramClients st.ctx now).clients, c ∈ st.ctx.clients := by
    intro c mem
    exact (List.mem_filter.1 mem).1
  refine ⟨⟨owners, sessions.cleanup now⟩, clocked.named.cleanup now, ?_, ?_, ?_, ?_, clocked.given, ?_, ?_⟩
  · intro builtin
    exact List.filter_eq_nil_iff.2 fun c mem => by rw [clocked.bare builtin] at mem; cases mem
  · intro c mem
    exact clocked.heard c (kept c mem)
  · intro c mem
    exact clocked.latest c (kept c mem)
  · intro c mem
    exact clocked.sent c (kept c mem)
  · intro p packet
    exact Int.le_trans (clocked.packetsPast p packet) later
  · intro d relay
    exact Int.le_trans (clocked.relaysPast d relay) later

theorem upstreamRead (clocked : Clocked st) {now : Int} {id : Nat} {results : List RecvOutcome} {c : DatagramClient}
    {after : DatagramRouteCtx} (later : st.now ≤ now) (mem : c ∈ st.ctx.clients)
    (read : after = { st.ctx with traffic := st.ctx.traffic ++ results.flatMap (relayed st.ctx c) }) :
    Clocked
      { ctx := after
        now := now
        packets := st.packets
        relays := st.relays ++ ((DatagramStep.upstreamRead id results).relays st.ctx after).map
          fun d => ⟨d.1, d.2, now⟩ } := by
  obtain ⟨owners, sessions⟩ := clocked.sessions
  have clients : after.clients = st.ctx.clients := by rw [read]
  refine ⟨⟨owners, ?_⟩, ?_, ?_, ?_, ?_, ?_, ?_, ?_, ?_⟩
  · rw [read]
    exact sessions.upstreamRead mem results
  · rw [read]
    exact ⟨clocked.named.distinct, clocked.named.below⟩
  · rw [read]
    exact clocked.bare
  · rw [clients]
    exact clocked.heard
  · rw [clients]
    exact clocked.latest
  · rw [clients]
    intro c mem d relay client direction
    rcases List.mem_append.1 relay with before | new
    · exact clocked.sent c mem d before client direction
    · obtain ⟨r, here, rfl⟩ := List.mem_map.1 new
      rw [(mem_relays_read here).1] at direction
      cases direction
  · intro d relay
    have next : after.nextClient = st.ctx.nextClient := by rw [read]
    show d.client < after.nextClient
    rw [next]
    rcases List.mem_append.1 relay with before | new
    · exact clocked.given d before
    · obtain ⟨r, here, rfl⟩ := List.mem_map.1 new
      obtain ⟨-, f, there, name⟩ := mem_relays_read here
      rw [name]
      exact clocked.named.below f there
  · intro p packet
    exact Int.le_trans (clocked.packetsPast p packet) later
  · exact past_append clocked.relaysPast later relays_stamped

theorem step (clocked : Clocked st) {e : TimedStep} {st' : TimedRoute} (moved : timedMachine.step st e = some st') :
    Clocked st' := by
  obtain ⟨now, step, reads⟩ := e
  simp only [timedMachine] at moved
  split at moved
  · rename_i later
    obtain ⟨after, taken, rfl⟩ := Option.map_eq_some_iff.1 moved
    cases step with
    | packet base env pkt =>
      cases taken
      exact clocked.packet later reads
    | cleanup t =>
      cases taken
      cases reads
      simpa [DatagramStep.heard, DatagramStep.relays] using clocked.cleanup later
    | upstreamRead id results =>
      obtain ⟨c, mem, read⟩ := read_step taken
      simpa [DatagramStep.heard] using clocked.upstreamRead later mem read
  · cases moved

end Clocked

/-- A route as `start_datagram_route` leaves it, at time `now`. -/
def freshTimedRoute (r : Route) (localAddr : SockaddrStorage) (localAddrLen : Nat) (now : Int) : TimedRoute :=
  { ctx := freshCtx r localAddr localAddrLen, now := now }

theorem freshTimedRoute_clocked (r : Route) (localAddr : SockaddrStorage) (localAddrLen : Nat) (now : Int) :
    Clocked (freshTimedRoute r localAddr localAddrLen now) :=
  ⟨⟨[], freshCtx_sessions r localAddr localAddrLen⟩, ⟨.nil, nofun⟩, fun _ => rfl, nofun, nofun, nofun, nofun, nofun, nofun⟩

/-- At one cleanup: it expires idle clients only exactly when every client with a recent reply was heard from. -/
theorem Clocked.expires_iff {st : TimedRoute} (clocked : Clocked st) (e : TimedStep) :
    ExpiresIdle st e ↔ RepliesAnswered st e := by
  constructor
  · intro expires now cleanup c mem d relay client _ recent
    rw [← clocked.fresh_iff mem now]
    by_contra stale
    have gone : c ∉ (cleanupIdleDatagramClients st.ctx now).clients := fun kept => stale (List.mem_filter.1 kept).2
    have idle := expires now cleanup c mem gone d relay client
    omega
  · intro answered now cleanup c mem gone d relay client
    have stale : ¬c.fresh st.ctx.route now = true := fun fresh => gone (List.mem_filter.2 ⟨mem, fresh⟩)
    by_contra recent
    cases way : d.direction with
    | toUpstream =>
      have seen := clocked.sent c mem d relay client way
      rw [DatagramClient.fresh, decide_eq_true_iff] at stale
      omega
    | toClient => exact stale ((clocked.fresh_iff mem now).2 (answered now cleanup c mem d relay client way (by omega)))

/-- **Datagram clients expire only when idle, as long as replies are answered.** In every run, the cleanups remove
no client with recent traffic exactly when, at each of them, every client that had a recent reply has also sent a
recent packet. -/
theorem datagram_expires_idle_iff (r : Route) (localAddr : SockaddrStorage) (localAddrLen : Nat) (now : Int)
    (es : List TimedStep) :
    timedMachine.Along ExpiresIdle (freshTimedRoute r localAddr localAddrLen now) es ↔
      timedMachine.Along RepliesAnswered (freshTimedRoute r localAddr localAddrLen now) es := by
  have clocked : ∀ ds u, timedMachine.run (freshTimedRoute r localAddr localAddrLen now) ds = some u → Clocked u := by
    intro ds u ran
    refine Lib.Machine.run_invariant (I := Clocked) ?_ (freshTimedRoute_clocked r localAddr localAddrLen now) ran
    intro st e st' before moved
    exact before.step moved
  rw [Lib.Machine.along_iff, Lib.Machine.along_iff]
  constructor
  · intro expires ds e cut u ran
    exact ((clocked ds u ran).expires_iff e).1 (expires ds e cut u ran)
  · intro answered ds e cut u ran
    exact ((clocked ds u ran).expires_iff e).2 (answered ds e cut u ran)

/-- A packet, and a reply 50 seconds later. -/
def lateReplyRun : List TimedStep :=
  [⟨0, .packet 0 (smoothPacketEnv 0) (packetFrom 7 [1]), rfl⟩, ⟨50, .upstreamRead 0 [.datagram [2] {}], trivial⟩]

/-- A cleanup 20 seconds after the reply. -/
def lateCleanup : TimedStep := ⟨70, .cleanup 70, rfl⟩

def lateReply : TimedRoute := (timedMachine.run { ctx := udpCtx, now := 0 } lateReplyRun).get (by decide +kernel)

/-- **A client is expired 20 seconds after a reply was relayed through it**, with an idle timeout of 60 seconds. -/
theorem datagram_expires_busy :
    ¬ ∀ (r : Route) (localAddr : SockaddrStorage) (localAddrLen : Nat) (now : Int) (es : List TimedStep) (st : TimedRoute),
      timedMachine.run (freshTimedRoute r localAddr localAddrLen now) es = some st →
        timedMachine.Along ExpiresIdle (freshTimedRoute r localAddr localAddrLen now) es := by
  intro expires
  have ran : timedMachine.run { ctx := udpCtx, now := 0 } lateReplyRun = some lateReply := (Option.some_get _).symm
  have taken : timedMachine.run { ctx := udpCtx, now := 0 } (lateReplyRun ++ [lateCleanup]) =
      some { lateReply with ctx := cleanupIdleDatagramClients lateReply.ctx 70, now := 70 } := by
    decide +kernel
  have idle := (Lib.Machine.along_snoc.1 (expires _ _ _ 0 _ _ taken)).2 lateReply ran 70 rfl
  have expired : ∃ c ∈ lateReply.ctx.clients, c ∉ (cleanupIdleDatagramClients lateReply.ctx 70).clients ∧
      ∃ d ∈ lateReply.relays, d.client = c.id ∧ ¬ lateReply.ctx.route.opts.idleTimeoutSec < 70 - d.time := by
    decide +kernel
  obtain ⟨c, mem, gone, d, relay, client, busy⟩ := expired
  exact busy (idle c mem gone d relay client)

end Tinyproxy
