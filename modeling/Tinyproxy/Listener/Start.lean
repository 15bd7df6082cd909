import Tinyproxy.Conf.Serve
import Tinyproxy.Listener.BindWait
import Mathlib.Logic.Function.Basic

/-!
# Starting and freeing a route, call by call

`start_route`, `stop_route_listeners` and `free_route` with everything they call, down to
the system calls and the calls of libevent: the descriptors they open and close, and what
they do to the file a `unix` or `unix-dgram` listener is bound to.

What a call returns is up to the environment (`Env`), except where the file system decides.
Each call is made at most once in a start. A call that fails leaves an `errno` other than 0,
so that a negated `errno` is never a 0. Log lines are left out, and so are the clients of a
datagram route, which have sockets of their own.
-/

namespace Tinyproxy.Listener

def enoent : Errno := .other 2
def eisdir : Errno := .other 21

/-- What `lstat` tells apart. -/
inductive FileKind where
  | regular | directory | symlink | fifo | charDevice | blockDevice | socket
  deriving DecidableEq, Repr

/-- The calls that can fail. `lstat` and `remove` are the ones of `stop_unix_stream_route` and
`stop_unix_datagram_route`; a runtime directory that exists counts as made. -/
inductive Call where
  | rawSocket | hdrincl | mutexInit | mkdir
  | unlink | socket | reuseable | broadcast | v6only | nonblocking | reuseaddr | bind | getsockname | listen
  | evconnlistenerNew | eventNew | eventAdd
  | lstat | remove
  deriving DecidableEq, Repr

/-- The environment of a call of `start_route` or `free_route`: the `errno` of the calls that fail, and the descriptors
that `socket` returns. The raw socket is open when the other is opened. -/
structure Env where
  fails : Call → Option Errno
  inetPton : InetPton
  rawFd : Nat
  listenFd : Nat
  distinct : rawFd ≠ listenFd

/-- The files at the paths of listeners, and the descriptors opened and closed so far. -/
structure World where
  files : Bytes → Option FileKind
  opened : List Int := []
  closed : List Int := []

/-! ## The system -/

def World.openFd (w : World) (fd : Int) : World := { w with opened := w.opened ++ [fd] }

/-- `evutil_closesocket`. -/
def World.closeFd (w : World) (fd : Int) : World := { w with closed := w.closed ++ [fd] }

/-- `unlink`; `denied` is why the system refuses it, where the file itself does not. -/
def World.unlink (w : World) (denied : Option Errno) (path : Bytes) : World × Option Errno :=
  match w.files path with
  | none => (w, some enoent)
  | some .directory => (w, some eisdir)
  | some _ =>
    match denied with
    | some err => (w, some err)
    | none => ({ w with files := Function.update w.files path none }, none)

/-- `bind` to a path: it has to be free, and is a socket afterwards. -/
def World.bindPath (w : World) (denied : Option Errno) (path : Bytes) : World × Option Errno :=
  match w.files path with
  | some _ => (w, some eaddrinuse)
  | none =>
    match denied with
    | some err => (w, some err)
    | none => ({ w with files := Function.update w.files path (some .socket) }, none)

/-- The first of some calls that fails, as an `errno` is returned for it. -/
def Env.firstError (env : Env) (errno : Call → Errno → Errno) (calls : List Call) : Option Errno :=
  calls.findSome? fun call => (env.fails call).map (errno call)

/-- The `unlink` of the bind functions; that there is nothing to remove is fine. -/
def removeStale (env : Env) (path : Bytes) (w : World) : World × Option Errno :=
  match w.unlink (env.fails .unlink) path with
  | (w, some err) => (w, if err = enoent then none else some err)
  | (w, none) => (w, none)

/-- What `bind_unix_stream_listener` and `bind_unix_datagram_listener` do before they open their socket; `bind` is the
rest of them. -/
def unlinkThen {β : Type} (env : Env) (path : Bytes) (refuse : Errno → β) (bind : World → World × β) (w : World) :
    World × β :=
  if path = [] then (w, refuse .einval) else
  if path.length ≥ sunPathSize then (w, refuse .enametoolong) else
  match removeStale env path w with
  | (w, some err) => (w, refuse err)
  | (w, none) => bind w

/-- The `lstat` and the `unlink` of `stop_unix_stream_route` and `stop_unix_datagram_route`. -/
def removeSocket (env : Env) (path : Bytes) (w : World) : World :=
  if path = [] then w else
  match env.fails .lstat with
  | some _ => w
  | none =>
    match w.files path with
    | some .socket => (w.unlink (env.fails .remove) path).1
    | _ => w

/-! ## Stream routes -/

/-- `struct stream_route_ctx`; the listener is the descriptor it closes when it is freed. -/
structure StreamRouteCtx where
  route : Option Route := none
  listener : Option Int := none

/-- `err ? -err : -EIO`, as `bind_tcp_stream_listener` returns it. -/
def streamErrno (_ : Call) (err : Errno) : Errno := bindErrno err

/-- `bind_tcp_stream_listener`, with the descriptor of the listener. -/
def bindTcpStreamListener (env : Env) (r : Route) (w : World) : World × Except Errno Int :=
  match endpointToSockaddr env.inetPton r.listen with
  | .error rc => (w, .error rc)
  | .ok _ =>
    match env.fails .socket with
    | some err => (w, .error (bindErrno err))
    | none =>
      let fd : Int := env.listenFd
      let w := w.openFd fd
      match env.firstError streamErrno [.reuseable, .nonblocking, .bind, .listen, .evconnlistenerNew] with
      | some err => (w.closeFd fd, .error err)
      | none => (w, .ok fd)

/-- What `bind_unix_stream_listener` returns for an option that cannot be set. -/
def unixStreamErrno : Call → Errno → Errno
  | .reuseable, err => err
  | _, err => bindErrno err

/-- `bind_unix_stream_listener` from its `socket` on. -/
def bindUnixStreamSocket (env : Env) (path : Bytes) (w : World) : World × Except Errno Int :=
  match env.fails .socket with
  | some err => (w, .error (bindErrno err))
  | none =>
    let fd : Int := env.listenFd
    let w := w.openFd fd
    match env.firstError unixStreamErrno [.reuseable, .nonblocking] with
    | some err => (w.closeFd fd, .error err)
    | none =>
      match w.bindPath (env.fails .bind) path with
      | (w, some err) => (w.closeFd fd, .error (bindErrno err))
      | (w, none) =>
        match env.fails .evconnlistenerNew with
        | some err => (w.closeFd fd, .error (bindErrno err))
        | none => (w, .ok fd)

/-- `bind_unix_stream_listener`. -/
def bindUnixStreamListener (env : Env) (r : Route) : World → World × Except Errno Int :=
  unlinkThen env r.listen.path .error (bindUnixStreamSocket env r.listen.path)

/-- `bind_stream_listener`. -/
def bindStreamListener (env : Env) (r : Route) (w : World) : World × Except Errno Int :=
  match r.listen.kind with
  | .inet | .inet6 => bindTcpStreamListener env r w
  | .unix => bindUnixStreamListener env r w
  | _ => (w, .error .enotsup)

/-- `start_stream_route`. -/
def startStreamRoute (env : Env) (r : Route) (w : World) : World × StreamRouteCtx × Except Errno Unit :=
  match bindStreamListener env r w with
  | (w, .error rc) => (w, {}, .error rc)
  | (w, .ok fd) => (w, { route := some r, listener := some fd }, .ok ())

/-- `stop_stream_route_listener`: `evconnlistener_free` closes the socket, as `LEV_OPT_CLOSE_ON_FREE` says. -/
def stopStreamRouteListener (ctx : StreamRouteCtx) (w : World) : World × StreamRouteCtx :=
  match ctx.listener with
  | some fd => (w.closeFd fd, { ctx with listener := none })
  | none => (w, ctx)

/-- `free_stream_route`, with `stop_unix_stream_route`. -/
def freeStreamRoute (env : Env) (ctx : StreamRouteCtx) (w : World) : World × StreamRouteCtx :=
  match ctx.route with
  | some r => (if r.listen.kind ≠ .unix then w else removeSocket env r.listen.path w, {})
  | none => (w, {})

/-! ## Datagram routes -/

/-- `struct datagram_route_ctx`, as `memset` clears it; `listenEv` is `listen_ev != NULL`. -/
structure DatagramRouteCtx where
  route : Option Route := none
  listenFd : Int := 0
  listenEv : Bool := false
  rawFd : Int := 0

/-- `datagram_raw_open_ipv4`. -/
def datagramRawOpenIpv4 (env : Env) (w : World) : World × Except Errno Int :=
  match env.fails .rawSocket with
  | some err => (w, .error err)
  | none =>
    let fd : Int := env.rawFd
    let w := w.openFd fd
    match env.fails .hdrincl with
    | some err => (w.closeFd fd, .error err)
    | none => (w, .ok fd)

/-- `prepare_datagram_route`. -/
def prepareDatagramRoute (env : Env) (r : Route) : Option Errno :=
  if r.upstream.kind = .unixDgram then env.fails .mkdir else none

/-- What `bind_udp_datagram_listener` returns for a call that fails. -/
def udpErrno : Call → Errno → Errno
  | .nonblocking, _ => .einval
  | .bind, err => bindErrno err
  | _, err => err

/-- `err ? -err : -EINVAL`, as `bind_unix_datagram_listener` returns it. -/
def unixDgramErrno (_ : Call) (err : Errno) : Errno := if err = .other 0 then .einval else err

/-- The end of both bind functions: the event of the listener. -/
def addListenEvent (env : Env) (ctx : DatagramRouteCtx) (w : World) : World × DatagramRouteCtx × Except Errno Unit :=
  match env.fails .eventNew with
  | some _ => (w, ctx, .error .enomem)
  | none =>
    let ctx := { ctx with listenEv := true }
    match env.fails .eventAdd with
    | some _ => (w, ctx, .error .einval)
    | none => (w, ctx, .ok ())

/-- The calls of `bind_udp_datagram_listener` on its socket, up to the event. -/
def udpSocketCalls (r : Route) : List Call :=
  (if r.opts.broadcastReply ≠ .off then [.broadcast] else []) ++
    ((if r.listen.kind = .inet6 then [.v6only] else []) ++ [.nonblocking, .reuseaddr, .bind, .getsockname])

/-- `bind_udp_datagram_listener`; its `switch` knows the kinds that `endpoint_to_sockaddr` converts. -/
def bindUdpDatagramListener (env : Env) (r : Route) (ctx : DatagramRouteCtx) (w : World) :
    World × DatagramRouteCtx × Except Errno Unit :=
  match endpointToSockaddr env.inetPton r.listen with
  | .error rc => (w, ctx, .error rc)
  | .ok _ =>
    match env.fails .socket with
    | some err => (w, { ctx with listenFd := -1 }, .error err)
    | none =>
      let w := w.openFd env.listenFd
      let ctx := { ctx with listenFd := env.listenFd }
      if r.opts.broadcastReply ≠ .off ∧ r.listen.kind ≠ .inet then (w, ctx, .error .einval) else
      match env.firstError udpErrno (udpSocketCalls r) with
      | some err => (w, ctx, .error err)
      | none => addListenEvent env ctx w

/-- `bind_unix_datagram_listener` from its `socket` on. -/
def bindUnixDatagramSocket (env : Env) (r : Route) (ctx : DatagramRouteCtx) (w : World) :
    World × DatagramRouteCtx × Except Errno Unit :=
  match env.fails .socket with
  | some err => (w, { ctx with listenFd := -1 }, .error err)
  | none =>
    let w := w.openFd env.listenFd
    let ctx := { ctx with listenFd := env.listenFd }
    if r.opts.broadcastReply ≠ .off then (w, ctx, .error .einval) else
    match env.firstError unixDgramErrno [.nonblocking] with
    | some err => (w, ctx, .error err)
    | none =>
      match w.bindPath (env.fails .bind) r.listen.path with
      | (w, some err) => (w, ctx, .error err)
      | (w, none) =>
        match env.firstError unixDgramErrno [.getsockname] with
        | some err => (w, ctx, .error err)
        | none => addListenEvent env ctx w

/-- `bind_unix_datagram_listener`. -/
def bindUnixDatagramListener (env : Env) (r : Route) (ctx : DatagramRouteCtx) :
    World → World × DatagramRouteCtx × Except Errno Unit :=
  unlinkThen env r.listen.path (fun rc => (ctx, .error rc)) (bindUnixDatagramSocket env r ctx)

/-- `bind_datagram_listener`. -/
def bindDatagramListener (env : Env) (r : Route) (ctx : DatagramRouteCtx) (w : World) :
    World × DatagramRouteCtx × Except Errno Unit :=
  match r.listen.kind with
  | .inet | .inet6 => bindUdpDatagramListener env r ctx w
  | .unixDgram => bindUnixDatagramListener env r ctx w
  | _ => (w, ctx, .error .enotsup)

/-- `socket_is_valid`, and the same test on `listen_fd`. -/
def closeValid (fd : Int) (w : World) : World := if fd ≠ -1 then w.closeFd fd else w

/-- `free_datagram_route`, with `stop_unix_datagram_route`. -/
def freeDatagramRoute (env : Env) (ctx : DatagramRouteCtx) (w : World) : World × DatagramRouteCtx :=
  let w := closeValid ctx.listenFd (closeValid ctx.rawFd w)
  match ctx.route with
  | some r => (if r.listen.kind ≠ .unixDgram then w else removeSocket env r.listen.path w, { listenFd := -1 })
  | none => (w, { listenFd := -1 })

/-- The raw socket of `start_datagram_route`. -/
def openRaw (env : Env) (r : Route) (w : World) : World × Except Errno Int :=
  if r.opts.broadcastReply = .upstream then datagramRawOpenIpv4 env w else (w, .ok (-1))

/-- `start_datagram_route` after the mutex. -/
def startDatagramListener (env : Env) (r : Route) (ctx : DatagramRouteCtx) (w : World) :
    World × DatagramRouteCtx × Except Errno Unit :=
  match prepareDatagramRoute env r with
  | some rc =>
    let (w, ctx) := freeDatagramRoute env ctx w
    (w, ctx, .error rc)
  | none =>
    match bindDatagramListener env r ctx w with
    | (w, ctx, .error rc) =>
      let (w, ctx) := freeDatagramRoute env ctx w
      (w, ctx, .error rc)
    | (w, ctx, .ok ()) => (w, ctx, .ok ())

/-- `start_datagram_route`. -/
def startDatagramRoute (env : Env) (r : Route) (w : World) : World × DatagramRouteCtx × Except Errno Unit :=
  match openRaw env r w with
  | (w, .error rc) => (w, { route := some r, listenFd := -1, rawFd := -1 }, .error rc)
  | (w, .ok raw) =>
    match env.fails .mutexInit with
    -- the context is cleared with the raw socket in it
    | some rc => (w, { listenFd := -1 }, .error rc)
    | none => startDatagramListener env r { route := some r, listenFd := -1, rawFd := raw } w

/-! ## Routes -/

/-- `enum route_ctx_kind`. -/
inductive RouteCtxKind where
  | none | stream | datagram
  deriving DecidableEq, Repr

/-- `struct route_ctx`. -/
structure RouteCtx where
  kind : RouteCtxKind := .none
  route : Option Route := none
  stream : StreamRouteCtx := {}
  datagram : DatagramRouteCtx := {}

/-- `start_route`. -/
def startRoute (env : Env) (r : Route) (w : World) : World × RouteCtx × Except Errno Unit :=
  if endpointIsStream r.listen then
    match startStreamRoute env r w with
    | (w, _, .error rc) => (w, { route := some r }, .error rc)
    | (w, ctx, .ok ()) => (w, { kind := .stream, route := some r, stream := ctx }, .ok ())
  else if endpointIsDatagram r.listen then
    match startDatagramRoute env r w with
    | (w, _, .error rc) => (w, { route := some r }, .error rc)
    | (w, ctx, .ok ()) => (w, { kind := .datagram, route := some r, datagram := ctx }, .ok ())
  else (w, { route := some r }, .error .einval)

/-- `stop_route_listeners`. -/
def stopRouteListeners (ctx : RouteCtx) (w : World) : World × RouteCtx :=
  match ctx.kind with
  | .stream =>
    let (w, stream) := stopStreamRouteListener ctx.stream w
    (w, { ctx with stream := stream })
  -- `listen_fd` stays open: workers may still send replies through it
  | .datagram => (w, { ctx with datagram := { ctx.datagram with listenEv := false } })
  | .none => (w, ctx)

/-- `free_route`. -/
def freeRoute (env : Env) (ctx : RouteCtx) (w : World) : World × RouteCtx :=
  match ctx.kind with
  | .stream => ((freeStreamRoute env ctx.stream w).1, {})
  | .datagram => ((freeDatagramRoute env ctx.datagram w).1, {})
  | .none => (w, {})

end Tinyproxy.Listener
