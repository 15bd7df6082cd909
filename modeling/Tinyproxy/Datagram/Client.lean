import Tinyproxy.Datagram.Raw

/-!
# Datagram clients

`datagram_client.c` and the packet handler of `datagram_listener.c`: the client table
of one datagram route, the upstream socket of each client, and what is sent and
received on it. Each function here runs under `clients_mu`, which every caller holds
from start to end.

Sockets and clients are named by numbers that are never given out twice, so that a
name means one socket or one client for good; what the kernel and the allocator
reuse after a close or a free are descriptors and addresses, not these names.
What the system calls return is in `PacketEnv`, `ReplyEnv` and `RecvOutcome`. `Traffic` records
what passes through, with the packet's own source beside every payload that is sent
upstream. Paths of local Unix sockets are left out but for whether they fit.
-/

namespace Tinyproxy

/-- The sockets a route has opened: the next name and the ones not yet closed. -/
structure Sockets where
  next : Nat := 0
  openFds : List Nat := []
  deriving DecidableEq

/-- A `socket` call that succeeds. -/
def Sockets.socket (s : Sockets) : Sockets := { next := s.next + 1, openFds := s.next :: s.openFds }

/-- `evutil_closesocket`. -/
def Sockets.close (s : Sockets) (fd : Nat) : Sockets := { s with openFds := s.openFds.filter (· ≠ fd) }

/-- `struct datagram_client`; `base` is the worker whose event loop watches `fd`. -/
structure DatagramClient where
  id : Nat
  base : Nat
  fd : Nat
  clientAddr : SockaddrStorage
  clientAddrLen : Nat
  lastSeen : Int
  deriving DecidableEq

/-- `struct worker_datagram_packet_msg`. -/
structure WorkerDatagramPacketMsg where
  peerAddr : SockaddrStorage
  peerAddrLen : Nat
  data : Bytes

/-- What `send_datagram_payload_to_client` does: a `sendto` on the listening socket, one of `packet` on the
raw socket, or none where `datagram_raw_send_udp_ipv4` fails before it. -/
inductive ReplySend where
  | listen
  | raw (packet : Bytes)
  | refused
  deriving DecidableEq

/-- What passed through the sockets of a route. -/
inductive Traffic where
  /-- `send` on an upstream socket, for a packet that came from `peer`. -/
  | toUpstream (fd : Nat) (peer : SockaddrStorage) (peerLen : Nat) (bytes : Bytes)
  /-- `recv` on an upstream socket. -/
  | fromUpstream (fd : Nat) (data : Bytes)
  /-- `send_datagram_payload_to_client` for `dst`, with what came from the upstream socket `fd`. -/
  | toClient (fd : Nat) (via : ReplySend) (dst : SockaddrStorage) (dstLen : Nat) (data : Bytes)
  deriving DecidableEq

/-- `struct datagram_route_ctx`, with the sockets it uses and what has passed through them; `rawOpen` is
whether `raw_fd` is a socket. -/
structure DatagramRouteCtx where
  route : Route
  localAddr : SockaddrStorage
  localAddrLen : Nat
  rawOpen : Bool := false
  clients : List DatagramClient := []
  nextClient : Nat := 0
  sockets : Sockets := {}
  traffic : List Traffic := []
  deriving DecidableEq

/-- What the calls made for one packet return. -/
structure PacketEnv where
  now : Int
  callocOk : Bool := true
  inetPton : InetPton
  socket : Option Errno := none
  localPathFits : Bool := true
  bind : Option Errno := none
  connect : Option Errno := none
  nonblockingOk : Bool := true
  eventNewOk : Bool := true
  eventAddOk : Bool := true
  hdr : Bytes
  hdrSize : hdr.length = 256
  send : Option Errno := none
  builtin : Except Errno Unit := .ok ()

/-- `sockaddr_equal`. -/
def sockaddrEqual (a : SockaddrStorage) (aLen : Nat) (b : SockaddrStorage) (bLen : Nat) : Bool :=
  if aLen ≠ bLen then false else
  if a.family ≠ b.family then false else
  a.bytes.take aLen = b.bytes.take aLen

/-- `free_datagram_client`, of a client whose socket is `fd` if it has one. -/
def freeDatagramClient (s : Sockets) : Option Nat → Sockets
  | some fd => s.close fd
  | none => s

/-- Whether a client was seen recently enough to survive a cleanup at time `now`. -/
def DatagramClient.fresh (r : Route) (now : Int) (c : DatagramClient) : Bool :=
  decide (now - c.lastSeen ≤ r.opts.idleTimeoutSec)

/-- `cleanup_idle_datagram_clients` at time `now`. -/
def cleanupIdleDatagramClients (ctx : DatagramRouteCtx) (now : Int) : DatagramRouteCtx :=
  let expired := ctx.clients.filter fun c => !c.fresh ctx.route now
  { ctx with
    clients := ctx.clients.filter (DatagramClient.fresh ctx.route now)
    sockets := expired.foldl (fun s c => freeDatagramClient s (some c.fd)) ctx.sockets }

/-- `find_datagram_client`. -/
def findDatagramClient (ctx : DatagramRouteCtx) (addr : SockaddrStorage) (addrLen : Nat) : Option DatagramClient :=
  ctx.clients.find? fun c => sockaddrEqual c.clientAddr c.clientAddrLen addr addrLen

/-- `connect_datagram_upstream`: the sockets afterwards, `c->fd` and the result. -/
def connectDatagramUpstream (env : PacketEnv) (s : Sockets) (upstream : Endpoint) :
    Sockets × Option Nat × Except Errno Unit :=
  match upstream.kind with
  | .inet | .inet6 =>
    match endpointToSockaddr env.inetPton upstream with
    | .error rc => (s, none, .error rc)
    | .ok _ =>
      match env.socket with
      | some err => (s, none, .error err)
      | none =>
        match env.connect with
        | some err => (s.socket.close s.next, none, .error err)
        | none => (s.socket, some s.next, .ok ())
  | .unixDgram =>
    if upstream.path = [] then (s, none, .error .einval) else
    if upstream.path.length ≥ sunPathSize then (s, none, .error .enametoolong) else
    match env.socket with
    | some err => (s, none, .error err)
    | none =>
      if !env.localPathFits then (s.socket, some s.next, .error .enametoolong) else
      match env.bind with
      | some err => (s.socket, some s.next, .error err)
      | none =>
        match env.connect with
        | some err => (s.socket, some s.next, .error err)
        | none => (s.socket, some s.next, .ok ())
  | _ => (s, none, .error .enotsup)

/-- `create_datagram_client` on worker `base`. -/
def createDatagramClient (ctx : DatagramRouteCtx) (base : Nat) (env : PacketEnv) (clientAddr : SockaddrStorage)
    (clientAddrLen : Nat) : DatagramRouteCtx × Option DatagramClient :=
  if !env.callocOk then (ctx, none) else
  match connectDatagramUpstream env ctx.sockets ctx.route.upstream with
  | (sockets, fd, .error _) => ({ ctx with sockets := freeDatagramClient sockets fd }, none)
  | (sockets, none, .ok _) => ({ ctx with sockets := sockets }, none)
  | (sockets, some fd, .ok _) =>
    if !env.nonblockingOk || !env.eventNewOk || !env.eventAddOk then
      ({ ctx with sockets := freeDatagramClient sockets (some fd) }, none)
    else
      let c : DatagramClient :=
        { id := ctx.nextClient, base := base, fd := fd, clientAddr := clientAddr, clientAddrLen := clientAddrLen
          lastSeen := env.now }
      ({ ctx with clients := c :: ctx.clients, nextClient := ctx.nextClient + 1, sockets := sockets }, some c)

/-- `c->last_seen = now` on the client in the table. -/
def touchDatagramClient (ctx : DatagramRouteCtx) (id : Nat) (now : Int) : DatagramRouteCtx :=
  { ctx with clients := ctx.clients.map fun c => if c.id = id then { c with lastSeen := now } else c }

/-- `datagram_route_get_or_create_client`. -/
def datagramRouteGetOrCreateClient (ctx : DatagramRouteCtx) (base : Nat) (env : PacketEnv)
    (pkt : WorkerDatagramPacketMsg) : DatagramRouteCtx × Option DatagramClient :=
  match findDatagramClient ctx pkt.peerAddr pkt.peerAddrLen with
  | some c => (touchDatagramClient ctx c.id env.now, some c)
  | none =>
    match createDatagramClient ctx base env pkt.peerAddr pkt.peerAddrLen with
    | (ctx, none) => (ctx, none)
    | (ctx, some c) => (touchDatagramClient ctx c.id env.now, some c)

/-- `send_datagram_payload_to_upstream`: what is handed to `send`, if that is reached, and the result. -/
def sendDatagramPayloadToUpstream (ctx : DatagramRouteCtx) (env : PacketEnv) (c : DatagramClient) (payload : Bytes) :
    Option Bytes × Except Errno Unit :=
  let sent : Except Errno Unit := match env.send with
    | some err => .error err
    | none => .ok ()
  if !ctx.route.opts.proxyV2 then (some payload, sent) else
  if c.clientAddr.family ≠ afInet ∨ ctx.localAddr.family ≠ afInet then (none, .error .eafnosupport) else
  match proxyV2Build { buf := env.hdr, outLen := 0 } c.clientAddr.bytes c.clientAddrLen ctx.localAddr.bytes
      ctx.localAddrLen .dgram with
  | (_, .error rc) => (none, .error rc)
  | (hdr, .ok _) =>
    if hdr.outLen + payload.length > udpMaxPacket then (none, .error .emsgsize) else
    (some (hdr.buf.take hdr.outLen ++ payload), sent)

/-- The end of `datagram_route_handle_packet`: the payload goes out on the socket of `c`. -/
def forwardPacket (ctx : DatagramRouteCtx) (env : PacketEnv) (c : DatagramClient) (pkt : WorkerDatagramPacketMsg) :
    DatagramRouteCtx × Except Errno Unit :=
  match sendDatagramPayloadToUpstream ctx env c pkt.data with
  | (none, rc) => (ctx, rc)
  | (some bytes, rc) =>
    ({ ctx with traffic := ctx.traffic ++ [.toUpstream c.fd pkt.peerAddr pkt.peerAddrLen bytes] }, rc)

/-- `datagram_route_handle_packet` on worker `base`. A builtin upstream is answered from the listening
socket, without the client table. -/
def datagramRouteHandlePacket (ctx : DatagramRouteCtx) (base : Nat) (env : PacketEnv) (pkt : WorkerDatagramPacketMsg) :
    DatagramRouteCtx × Except Errno Unit :=
  if ctx.route.upstream.kind = .builtin then (ctx, env.builtin) else
  match datagramRouteGetOrCreateClient ctx base env pkt with
  | (ctx, none) => (ctx, .error .enomem)
  | (ctx, some c) => forwardPacket ctx env c pkt

/-- What one `recv` on an upstream socket returns, and for a datagram what the calls made to send it on return. -/
inductive RecvOutcome where
  | failed (err : Errno)
  | datagram (data : Bytes) (env : ReplyEnv)

/-- `send_datagram_payload_to_client`: what it does for the client's address, and the result. -/
def sendDatagramPayloadToClient (ctx : DatagramRouteCtx) (c : DatagramClient) (env : ReplyEnv) (data : Bytes) :
    ReplySend × Except Errno Unit :=
  if ctx.route.opts.broadcastReply = .upstream then
    match datagramRawSendUdpIpv4 env ctx.rawOpen ctx.route.upstream c.clientAddr.bytes c.clientAddrLen data with
    | (some packet, rc) => (.raw packet, rc)
    | (none, rc) => (.refused, rc)
  else (.listen, env.sendtoResult)

/-- The loop of `upstream_read_cb` on the results of its `recv` calls, up to the one that ends it; past the
last of them the socket would block. -/
def upstreamReadLoop (ctx : DatagramRouteCtx) (c : DatagramClient) : List RecvOutcome → Option (List Traffic)
  | [] => some []
  | [.failed _] => some []
  | .failed _ :: _ => none
  | .datagram data env :: rest =>
    if data.length = 0 then
      if rest.isEmpty then some [.fromUpstream c.fd data] else none
    else
      let (via, rc) := sendDatagramPayloadToClient ctx c env data
      let passed := [.fromUpstream c.fd data, .toClient c.fd via c.clientAddr c.clientAddrLen data]
      match rc with
      | .error _ => if rest.isEmpty then some passed else none
      | .ok _ => (upstreamReadLoop ctx c rest).map (passed ++ ·)

/-- `upstream_read_cb` for `c`. -/
def upstreamReadCb (ctx : DatagramRouteCtx) (c : DatagramClient) (results : List RecvOutcome) :
    Option DatagramRouteCtx :=
  (upstreamReadLoop ctx c results).map fun passed => { ctx with traffic := ctx.traffic ++ passed }

end Tinyproxy
