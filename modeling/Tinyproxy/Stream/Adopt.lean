import Tinyproxy.Net.ProxyProtoV2
import Tinyproxy.Stream.Conn

/-!
# Taking over an accepted client

`worker_adopt_client_fd` builds the connection, starts the connect to the upstream
and queues the PROXY v2 header before the first client byte can be read. What the
calls it makes return is gathered in `AdoptEnv`. `adopted_piped` describes every
connection it sets up: reading is off on the client, on on the upstream, and the
upstream's output holds exactly the header.
-/

namespace Tinyproxy

/-- `struct worker_stream_client_msg`. -/
structure WorkerStreamClientMsg where
  route : Route
  fd : Int
  peerAddr : SockaddrStorage
  peerAddrLen : Nat

/-- What `getsockname` put into the `struct sockaddr_in` it was given. -/
structure LocalAddr where
  bytes : Bytes
  size : bytes.length = sizeofSockaddrIn
  len : Nat

/-- The outcomes of the calls `worker_adopt_client_fd` makes, and the contents of
its uninitialised header buffer. -/
structure AdoptEnv where
  callocOk : Bool
  clientBevOk : Bool
  upstreamBevOk : Bool
  inetPton : InetPton
  connect : Except Errno Int
  getsockname : Option LocalAddr
  hdr : Bytes
  hdrSize : hdr.length = 256
  writeOk : Bool

/-- How `worker_adopt_client_fd` can end: the descriptor closed with nothing set up,
the connection freed again, or the connection handed to one of its kinds. -/
inductive Adopted where
  | closed
  | freed
  | builtin (c : Bufferevent)
  | file (c : Bufferevent)
  | piped (c : Conn)
  deriving DecidableEq

/-- `connect_upstream`, with the outcome of `bufferevent_socket_connect`. -/
def connectUpstream (env : AdoptEnv) (ep : Endpoint) : Except Errno Int :=
  match ep.kind with
  | .inet | .inet6 =>
    match endpointToSockaddr env.inetPton ep with
    | .error rc => .error rc
    | .ok _ => env.connect
  | .unix =>
    if ep.path = [] then .error .einval else
    if ep.path.length ≥ sunPathSize then .error .enametoolong else
    env.connect
  | _ => .error .enotsup

/-- `tune_stream_bev`. -/
def tuneStreamBev (b : Bufferevent) : Bufferevent := b.setMaxSingle streamIoChunkSize streamIoChunkSize

/-- The PROXY v2 part: the header to queue, or `none` where the connection is freed. -/
def queuedHeader (env : AdoptEnv) (ac : WorkerStreamClientMsg) : Option Bytes :=
  if !ac.route.opts.proxyV2 then some [] else
  match env.getsockname with
  | none => none
  | some localAddr =>
    if ac.peerAddrLen = 0 then none else
    if ac.peerAddr.family ≠ afInet ∨ saFamily localAddr.bytes ≠ afInet then none else
    match proxyV2Build { buf := env.hdr, outLen := 0 } ac.peerAddr.bytes ac.peerAddrLen
        localAddr.bytes localAddr.len .stream with
    | (out, .ok _) => if env.writeOk then some (out.buf.take out.outLen) else none
    | (_, .error _) => none

/-- `worker_adopt_client_fd`. -/
def workerAdoptClientFd (env : AdoptEnv) (ac : WorkerStreamClientMsg) : Adopted :=
  if !env.callocOk then .closed else
  if !env.clientBevOk then .closed else
  let client := buffereventSocketNew ac.fd
  if ac.route.upstream.kind = .builtin then .builtin client else
  if ac.route.upstream.kind = .file then .file client else
  if !env.upstreamBevOk then .freed else
  let upstream := buffereventSocketNew (-1)
  let client := (tuneStreamBev client).setReadHigh streamReadHighWater
  let upstream := (tuneStreamBev upstream).setReadHigh streamReadHighWater
  -- the client is not read before the header is queued
  let client := client.disable true false
  let c : Conn := { route := ac.route, client := client, upstream := upstream }
  let c := setConnectTimeout c ac.route
  match connectUpstream env ac.route.upstream with
  | .error _ => .freed
  | .ok fd =>
    let c := { c with upstream := c.upstream.socketConnect fd }
    match queuedHeader env ac with
    | none => .freed
    | some header =>
      let c := { c with upstream := c.upstream.write header }
      .piped { c with upstream := c.upstream.enable true true }

/-- The PROXY v2 header of a connection from `peer` that was accepted on `localAddr`:
one header when the route asks for it, nothing otherwise. -/
def proxyHeader (r : Route) (peer localAddr : Bytes) : Bytes :=
  if r.opts.proxyV2 then ProxyV2.inetStreamHeader peer localAddr else []

/-- The address `getsockname` reported, empty when it failed. -/
def AdoptEnv.localBytes (env : AdoptEnv) : Bytes := (env.getsockname.map LocalAddr.bytes).getD []

/-- A piped connection as it is handed to the event loop. -/
def freshConn (r : Route) (clientFd upstreamFd : Int) (header : Bytes) : Conn where
  route := r
  client :=
    { fd := clientFd, readHigh := streamReadHighWater, maxSingleRead := streamIoChunkSize
      maxSingleWrite := streamIoChunkSize }
  upstream :=
    { fd := upstreamFd, output := header, evRead := true, connecting := true
      timeoutWrite := some r.opts.connectTimeoutSec, readHigh := streamReadHighWater
      maxSingleRead := streamIoChunkSize, maxSingleWrite := streamIoChunkSize }

/-- What is queued is exactly one header, or nothing when the route asks for none. -/
theorem queuedHeader_eq {env : AdoptEnv} {ac : WorkerStreamClientMsg} {header : Bytes}
    (queued : queuedHeader env ac = some header) :
    header = proxyHeader ac.route ac.peerAddr.bytes env.localBytes := by
  unfold queuedHeader at queued
  unfold proxyHeader
  by_cases asked : ac.route.opts.proxyV2 = true
  · simp only [asked, Bool.not_true, Bool.false_eq_true, if_false] at queued
    cases reported : env.getsockname with
    | none => simp [reported] at queued
    | some localAddr =>
      simp only [reported] at queued
      split at queued
      · cases queued
      · split at queued
        · cases queued
        · rename_i families
          simp only [ne_eq, not_or, not_not] at families
          split at queued
          · rename_i out built
            split at queued
            · cases queued
              have peerSize : sizeofSockaddrIn ≤ ac.peerAddr.bytes.length := by
                rw [ac.peerAddr.size]
                decide
              have wrote := ProxyV2.build_inet peerSize (Nat.le_of_eq localAddr.size.symm) families.1 built
              rw [if_pos asked, wrote, AdoptEnv.localBytes, reported]
              rfl
            · cases queued
          · cases queued
  · simp only [asked, Bool.not_false, if_true, Option.some.injEq] at queued
    rw [if_neg asked, queued]

/-- The queued header has 28 bytes or none. -/
theorem queuedHeader_length {env : AdoptEnv} {ac : WorkerStreamClientMsg} {header : Bytes}
    (queued : queuedHeader env ac = some header) : header.length ≤ 28 := by
  rw [queuedHeader_eq queued]
  unfold proxyHeader
  split
  · simp only [ProxyV2.inetStreamHeader, proxyV2Sig, sinAddr, sinPort, List.length_append, List.length_cons,
      List.length_nil, List.length_take]
    omega
  · exact Nat.zero_le _

/-- **Every adopted piped connection is fresh**, with the header queued. -/
theorem adopted_piped {env : AdoptEnv} {ac : WorkerStreamClientMsg} {c : Conn}
    (adopted : workerAdoptClientFd env ac = .piped c) :
    ∃ fd header, queuedHeader env ac = some header ∧ c = freshConn ac.route ac.fd fd header := by
  unfold workerAdoptClientFd at adopted
  split at adopted
  · cases adopted
  split at adopted
  · cases adopted
  dsimp only at adopted
  split at adopted
  · cases adopted
  split at adopted
  · cases adopted
  split at adopted
  · cases adopted
  split at adopted
  · cases adopted
  · rename_i fd connected
    split at adopted
    · cases adopted
    · rename_i header queued
      cases adopted
      exact ⟨fd, header, queued, rfl⟩

/-- A client at 192.0.2.7:1111 of a route to a Unix socket that wants a PROXY v2 header and sniffs. -/
def headedMsg : WorkerStreamClientMsg where
  route :=
    { listen := { kind := .inet, proto := .tcp, port := 8080 }
      upstream := { kind := .unix, proto := .unixStream, path := [0x2f, 0x73] }
      opts := { proxyV2 := true, sniSniff := true } }
  fd := 7
  peerAddr := .ofBytes (sockaddrIn (192, 0, 2, 7) (4, 87))
  peerAddrLen := sizeofSockaddrIn

/-- Every call succeeds, and the client was accepted on 127.0.0.1:8080. -/
def smoothEnv : AdoptEnv where
  callocOk := true
  clientBevOk := true
  upstreamBevOk := true
  inetPton := fun _ _ => none
  connect := .ok 8
  getsockname := some ⟨sockaddrIn (127, 0, 0, 1) (31, 144), rfl, sizeofSockaddrIn⟩
  hdr := List.replicate 256 0
  hdrSize := length_zeroHdr
  writeOk := true

/-- The connection `worker_adopt_client_fd` makes of them. -/
def headedConn : Conn :=
  freshConn headedMsg.route 7 8 (proxyHeader headedMsg.route headedMsg.peerAddr.bytes smoothEnv.localBytes)

theorem headedConn_adopted : workerAdoptClientFd smoothEnv headedMsg = .piped headedConn := by decide +kernel

end Tinyproxy
