import Tinyproxy.Listener.ListenPaths

/-!
# Serving what was configured

From a configuration text to the code that serves its routes. A route is served when
`start_route` succeeds wherever nothing outside the program refuses it, and when no switch
behind it, over the upstream's kind or over the action of a builtin, ends in its default
branch. `config_served_iff` says that every route of an accepted text is served, except a
datagram listener with the builtin `http_ok`, and a datagram listener with
`broadcast_reply` that is not IPv4.
-/

namespace Tinyproxy

open Lib (ascii)

namespace Listener

/-- Nothing outside the program refuses the start of `r`: no call fails, a host that is listened on is an address
`inet_pton` knows, and no directory is where the socket is to be bound. -/
structure Env.Unrefused (env : Env) (r : Route) (w : World) : Prop where
  calls : ∀ call, env.fails call = none
  address : r.listen.kind = .inet ∨ r.listen.kind = .inet6 →
    ∃ addr, endpointToSockaddr env.inetPton r.listen = .ok addr
  path : w.files r.listen.path ≠ some .directory

section Start

variable {env : Env} {r : Route} {w : World}

theorem firstError_none (calls : ∀ call, env.fails call = none) (errno : Call → Errno → Errno) (made : List Call) :
    env.firstError errno made = none := by
  unfold Env.firstError
  rw [List.findSome?_eq_none_iff]
  intro call _
  rw [calls]
  rfl

/-- What the `unlink` of the bind functions leaves is a path that can be bound. -/
theorem removeStale_free {path : Bytes} (unlinks : env.fails .unlink = none) (file : w.files path ≠ some .directory) :
    ∃ w', removeStale env path w = (w', none) ∧ w'.files path = none := by
  unfold removeStale World.unlink
  rw [unlinks]
  cases found : w.files path with
  | none => exact ⟨w, rfl, found⟩
  | some kind =>
    cases kind with
    | directory => exact absurd found file
    | regular | symlink | fifo | charDevice | blockDevice | socket => exact ⟨_, rfl, Function.update_self ..⟩

theorem bindPath_free {path : Bytes} (free : w.files path = none) :
    w.bindPath none path = ({ w with files := Function.update w.files path (some .socket) }, none) := by
  unfold World.bindPath
  rw [free]

/-- The part of the two `unix` bind functions before their socket goes through. -/
theorem unlinkThen_free {β : Type} {path : Bytes} (refuse : Errno → β) (bind : World → World × β)
    (nonempty : path ≠ []) (short : path.length < sunPathSize) (unlinks : env.fails .unlink = none)
    (file : w.files path ≠ some .directory) :
    ∃ w', w'.files path = none ∧ unlinkThen env path refuse bind w = bind w' := by
  obtain ⟨w', removed, free⟩ := removeStale_free unlinks file
  refine ⟨w', free, ?_⟩
  unfold unlinkThen
  rw [if_neg nonempty, if_neg (Nat.not_le.2 short), removed]

theorem bindTcpStreamListener_ok (unrefused : env.Unrefused r w) (inet : r.listen.kind = .inet ∨ r.listen.kind = .inet6) :
    ∃ w' fd, bindTcpStreamListener env r w = (w', .ok fd) := by
  obtain ⟨addr, converted⟩ := unrefused.address inet
  unfold bindTcpStreamListener
  rw [converted, unrefused.calls]
  dsimp only
  rw [firstError_none unrefused.calls]
  exact ⟨_, _, rfl⟩

theorem bindUnixStreamListener_ok (unrefused : env.Unrefused r w) (nonempty : r.listen.path ≠ [])
    (short : r.listen.path.length < sunPathSize) : ∃ w' fd, bindUnixStreamListener env r w = (w', .ok fd) := by
  obtain ⟨w', free, reached⟩ := unlinkThen_free Except.error
    (bindUnixStreamSocket env r.listen.path) nonempty short (unrefused.calls .unlink) unrefused.path
  have opened : (w'.openFd env.listenFd).files r.listen.path = none := free
  unfold bindUnixStreamListener
  rw [reached]
  unfold bindUnixStreamSocket
  rw [unrefused.calls]
  dsimp only
  rw [firstError_none unrefused.calls, unrefused.calls .bind, bindPath_free opened]
  dsimp only
  rw [unrefused.calls]
  exact ⟨_, _, rfl⟩

/-- **A stream listener of the configuration starts**, whatever its kind. -/
theorem startRoute_stream (good : r.listen.WellFormed) (stream : endpointIsStream r.listen = true)
    (unrefused : env.Unrefused r w) : (startRoute env r w).2.2 = .ok () := by
  obtain ⟨w', fd, bound⟩ : ∃ w' fd, bindStreamListener env r w = (w', .ok fd) := by
    unfold bindStreamListener
    rcases streamEndpoint_cases good stream with inet | ⟨kind, nonempty, short⟩
    · have bound := bindTcpStreamListener_ok unrefused inet
      rcases inet with kind | kind <;> rwa [kind]
    · rw [kind]
      exact bindUnixStreamListener_ok unrefused nonempty short
  simp only [startRoute, stream, if_true, startStreamRoute, bound]

theorem addListenEvent_ok (calls : ∀ call, env.fails call = none) (ctx : DatagramRouteCtx) (w : World) :
    (addListenEvent env ctx w).2.2 = .ok () := by
  unfold addListenEvent
  rw [calls]
  dsimp only
  rw [calls]

/-- `bind_udp_datagram_listener` refuses `broadcast_reply` on an IPv6 listener, and nothing else. -/
theorem bindUdpDatagramListener_result (unrefused : env.Unrefused r w) (ctx : DatagramRouteCtx)
    (inet : r.listen.kind = .inet ∨ r.listen.kind = .inet6) (w : World) :
    (bindUdpDatagramListener env r ctx w).2.2 =
      if r.opts.broadcastReply ≠ .off ∧ r.listen.kind ≠ .inet then .error .einval else .ok () := by
  obtain ⟨addr, converted⟩ := unrefused.address inet
  unfold bindUdpDatagramListener
  rw [converted, unrefused.calls]
  dsimp only
  split
  · rfl
  · rw [firstError_none unrefused.calls]
    exact addListenEvent_ok unrefused.calls _ _

/-- `bind_unix_datagram_listener` refuses `broadcast_reply`, and nothing else. -/
theorem bindUnixDatagramListener_result (unrefused : env.Unrefused r w) (ctx : DatagramRouteCtx)
    (nonempty : r.listen.path ≠ []) (short : r.listen.path.length < sunPathSize) (u : World)
    (files : u.files = w.files) :
    (bindUnixDatagramListener env r ctx u).2.2 =
      if r.opts.broadcastReply ≠ .off then .error .einval else .ok () := by
  have file : u.files r.listen.path ≠ some .directory := files ▸ unrefused.path
  obtain ⟨w', free, reached⟩ := unlinkThen_free (fun rc => (ctx, (.error rc : Except Errno Unit)))
    (bindUnixDatagramSocket env r ctx) nonempty short (unrefused.calls .unlink) file
  have opened : (w'.openFd env.listenFd).files r.listen.path = none := free
  unfold bindUnixDatagramListener
  rw [reached]
  unfold bindUnixDatagramSocket
  rw [unrefused.calls]
  dsimp only
  split
  · rfl
  · rw [firstError_none unrefused.calls, unrefused.calls .bind, bindPath_free opened]
    dsimp only
    rw [firstError_none unrefused.calls]
    exact addListenEvent_ok unrefused.calls _ _

/-- A bind of a datagram listener is refused only if it is to broadcast and is not IPv4. -/
theorem bindDatagramListener_result (good : r.listen.WellFormed) (datagram : endpointIsDatagram r.listen = true)
    (unrefused : env.Unrefused r w) (ctx : DatagramRouteCtx) (u : World) (files : u.files = w.files) :
    (bindDatagramListener env r ctx u).2.2 =
      if r.opts.broadcastReply ≠ .off ∧ r.listen.kind ≠ .inet then .error .einval else .ok () := by
  unfold bindDatagramListener
  rcases datagramEndpoint_cases good datagram with inet | ⟨kind, nonempty, short⟩
  · rw [← bindUdpDatagramListener_result unrefused ctx inet u]
    rcases inet with kind | kind <;> simp only [kind]
  · rw [kind, bindUnixDatagramListener_result unrefused ctx nonempty short u files]
    simp

/-- What is left of `start_datagram_route` once the mutex is there succeeds with its bind. -/
theorem startDatagramListener_result (calls : ∀ call, env.fails call = none) (ctx : DatagramRouteCtx) (u : World) :
    (startDatagramListener env r ctx u).2.2 = (bindDatagramListener env r ctx u).2.2 := by
  have prepared : prepareDatagramRoute env r = none := by
    unfold prepareDatagramRoute
    rw [calls]
    split <;> rfl
  unfold startDatagramListener
  rw [prepared]
  dsimp only
  rcases bindDatagramListener env r ctx u with ⟨u', ctx', rc⟩
  cases rc <;> rfl

/-- **A datagram listener of the configuration starts, unless it is to broadcast and is not IPv4.** -/
theorem startRoute_datagram (good : r.listen.WellFormed) (other : endpointIsStream r.listen = false)
    (datagram : endpointIsDatagram r.listen = true) (unrefused : env.Unrefused r w) :
    (startRoute env r w).2.2 =
      if r.opts.broadcastReply ≠ .off ∧ r.listen.kind ≠ .inet then .error .einval else .ok () := by
  obtain ⟨u, raw, opened⟩ := openRaw_ok (w := w) fun _ => ⟨unrefused.calls .rawSocket, unrefused.calls .hdrincl⟩
  have files : u.files = w.files := by
    rw [← @openRaw_files env r w, opened]
  have started : (startDatagramRoute env r w).2.2 =
      (startDatagramListener env r { route := some r, listenFd := -1, rawFd := raw } u).2.2 := by
    unfold startDatagramRoute
    rw [opened, unrefused.calls]
  have dispatched : (startRoute env r w).2.2 = (startDatagramRoute env r w).2.2 := by
    simp only [startRoute, other, datagram, Bool.false_eq_true, if_false, if_true]
    rcases startDatagramRoute env r w with ⟨u', ctx, rc⟩
    cases rc <;> rfl
  rw [dispatched, started, startDatagramListener_result unrefused.calls,
    bindDatagramListener_result good datagram unrefused _ u files]

end Start

end Listener

/-- A route is served: it starts wherever nothing outside the program refuses the start, and no switch behind it ends
in its default branch. Only the system itself can still report `ENOTSUP` for a connect. -/
structure FullyServed (r : Route) : Prop where
  listen : ∀ (env : Listener.Env) (w : Listener.World), env.Unrefused r w → (Listener.startRoute env r w).2.2 = .ok ()
  connectStream : endpointIsStream r.listen = true → r.upstream.kind ≠ .builtin → r.upstream.kind ≠ .file →
    ∀ env : AdoptEnv, env.connect ≠ .error .enotsup → connectUpstream env r.upstream ≠ .error .enotsup
  connectDatagram : endpointIsDatagram r.listen = true → r.upstream.kind ≠ .builtin →
    ∀ (env : PacketEnv) (s : Sockets), env.socket ≠ some .enotsup → env.bind ≠ some .enotsup →
      env.connect ≠ some .enotsup → (connectDatagramUpstream env s r.upstream).2.2 ≠ .error .enotsup
  streamBuiltin : endpointIsStream r.listen = true → r.upstream.kind = .builtin →
    ∀ clientAddr res, xBuiltinHandle r.upstream.builtin clientAddr = .ok res →
      ∃ left, streamBuiltinAction res = some left ∧ startStreamBuiltin r clientAddr = (left, .ok ())
  datagramBuiltin : endpointIsDatagram r.listen = true → r.upstream.kind = .builtin →
    ∀ clientAddr res, xBuiltinHandle r.upstream.builtin clientAddr = .ok res →
      ∃ done, datagramBuiltinAction res = some done ∧ startDatagramBuiltin r clientAddr (.ok ()) = .ok ()

/-- What the code has no case for on a datagram listener is not asked for: the builtin `http_ok`, and `broadcast_reply`
elsewhere than on IPv4 UDP. -/
def DatagramSupported (r : Route) : Prop :=
  endpointIsDatagram r.listen = true →
    r.upstream.builtin ≠ .httpOk ∧ (r.opts.broadcastReply ≠ .off → r.listen.kind = .inet)

/-- An environment in which nothing refuses a start, with nothing at the path of a listener. -/
def Listener.quietEnv : Listener.Env where
  fails := fun _ => none
  inetPton := fun _ _ => some [127, 0, 0, 1]
  rawFd := 3
  listenFd := 4
  distinct := by decide

theorem Listener.quietEnv_unrefused (r : Route) : quietEnv.Unrefused r { files := fun _ => none } where
  calls := fun _ => rfl
  address := by
    intro inet
    rcases inet with kind | kind
    · exact ⟨_, by rw [endpointToSockaddr, kind]; rfl⟩
    · exact ⟨_, by rw [endpointToSockaddr, kind]; rfl⟩
  path := by simp

/-- A well-formed and validated route is served, unless the code has no case for its datagram listener. -/
theorem fullyServed_iff {r : Route} (good : r.WellFormed) (valid : validateRoute r = .ok ()) :
    FullyServed r ↔ DatagramSupported r := by
  constructor
  · intro served datagram
    have other : endpointIsStream r.listen = false := by
      rcases validateRoute_ok valid with ⟨stream, -⟩ | ⟨other, -⟩
      · exact absurd datagram (not_datagram_of_stream stream)
      · exact other
    constructor
    · intro http
      have kind : r.upstream.kind = .builtin := good.upstream.kind_of_builtin (by rw [http]; decide)
      obtain ⟨res, answered⟩ : ∃ res, xBuiltinHandle r.upstream.builtin none = .ok res := by
        rw [http]
        exact ⟨_, rfl⟩
      have handled := served.datagramBuiltin datagram kind none _ answered
      exact (datagramBuiltin_handled_iff answered).1 handled http
    · intro broadcast
      by_contra notInet
      have started := served.listen _ _ (Listener.quietEnv_unrefused r)
      rw [Listener.startRoute_datagram good.listen other datagram (Listener.quietEnv_unrefused r),
        if_pos ⟨broadcast, notInet⟩] at started
      cases started
  · intro supported
    rcases validateRoute_ok valid with ⟨stream, upstream⟩ | ⟨notStream, datagram, upstream⟩
    · have notDatagram := not_datagram_of_stream stream
      refine ⟨?_, ?_, fun datagram => absurd datagram notDatagram, ?_, fun datagram => absurd datagram notDatagram⟩
      · intro env w unrefused
        exact Listener.startRoute_stream good.listen stream unrefused
      · intro _ notBuiltin notFile env system
        have kinds := good.upstream.kind_of_proto
        rcases upstream with upstream | file | builtin
        · exact connectUpstream_supported good.upstream upstream system
        · exact absurd (kinds.2.1 file) notFile
        · exact absurd (kinds.1.1 builtin) notBuiltin
      · intro _ _ clientAddr res answered
        exact streamBuiltin_handled answered
    · have notStream' : ¬ endpointIsStream r.listen = true := by simp [notStream]
      obtain ⟨notHttp, ipv4⟩ := supported datagram
      refine ⟨?_, fun stream => absurd stream notStream', ?_, fun stream => absurd stream notStream', ?_⟩
      · intro env w unrefused
        rw [Listener.startRoute_datagram good.listen notStream datagram unrefused, if_neg]
        rintro ⟨broadcast, notInet⟩
        exact notInet (ipv4 broadcast)
      · intro _ notBuiltin env s socket bind connect
        rcases upstream with upstream | builtin
        · exact connectDatagramUpstream_supported good.upstream upstream socket bind connect
        · exact absurd (good.upstream.kind_of_proto.1.1 builtin) notBuiltin
      · intro _ _ clientAddr res answered
        exact (datagramBuiltin_handled_iff answered).2 notHttp

/-- **When an accepted configuration is served**: a route of an accepted text that passes `validate_route` starts and is
served by every switch it meets, except when its datagram listener has the builtin upstream `http_ok`, or has
`broadcast_reply` and is not IPv4. -/
theorem config_served_iff (data : Bytes) (routes : List Route) (r : Route)
    (accepted : loadRoutesFromText data = .ok routes) (route : r ∈ routes) (valid : validateRoute r = .ok ()) :
    FullyServed r ↔ DatagramSupported r :=
  fullyServed_iff (loadRoutesFromText_wellFormed accepted r route) valid

/-- The route of `listen udp :8080 udp 127.0.0.1:8081 broadcast_reply=listen`. -/
def broadcastUdp : Route where
  listen := { kind := .inet, host := ascii "0.0.0.0", port := 8080, proto := .udp }
  upstream := { kind := .inet, host := ascii "127.0.0.1", port := 8081, proto := .udp }
  opts := { broadcastReply := .listen }
  lineNo := 1

theorem config_served_udp :
    loadRoutesFromText (ascii "listen udp :8080 udp 127.0.0.1:8081 broadcast_reply=listen") = .ok [broadcastUdp] ∧
      FullyServed broadcastUdp := by
  have accepted : loadRoutesFromText (ascii "listen udp :8080 udp 127.0.0.1:8081 broadcast_reply=listen") =
      .ok [broadcastUdp] := by decide +kernel
  refine ⟨accepted, (config_served_iff _ _ broadcastUdp accepted (List.mem_singleton_self _) rfl).2 ?_⟩
  exact fun _ => ⟨by decide, fun _ => rfl⟩

/-- The route of `listen udp :8080 builtin http_ok`. -/
def httpOkUdp : Route where
  listen := { kind := .inet, host := ascii "0.0.0.0", port := 8080, proto := .udp }
  upstream := { kind := .builtin, proto := .builtin, builtin := .httpOk }
  lineNo := 1

/-- The route of `listen udp [::1]:53 udp [::1]:54 broadcast_reply=listen`. -/
def broadcastUdp6 : Route where
  listen := { kind := .inet6, host := ascii "::1", port := 53, proto := .udp }
  upstream := { kind := .inet6, host := ascii "::1", port := 54, proto := .udp }
  opts := { broadcastReply := .listen }
  lineNo := 1

/-- A datagram that `listen udp :8080 builtin http_ok` gets is refused with `-EINVAL`, and so is the start of
`listen udp [::1]:53 udp [::1]:54 broadcast_reply=listen`. -/
theorem config_unserved_udp :
    (loadRoutesFromText (ascii "listen udp :8080 builtin http_ok") = .ok [httpOkUdp] ∧
      validateRoute httpOkUdp = .ok () ∧ ¬ FullyServed httpOkUdp) ∧
    (loadRoutesFromText (ascii "listen udp [::1]:53 udp [::1]:54 broadcast_reply=listen") = .ok [broadcastUdp6] ∧
      validateRoute broadcastUdp6 = .ok () ∧ ¬ FullyServed broadcastUdp6) := by
  refine ⟨⟨by decide +kernel, rfl, ?_⟩, ⟨by decide +kernel, rfl, ?_⟩⟩
  · intro served
    obtain ⟨done, -, result⟩ := served.datagramBuiltin rfl rfl none _ rfl
    cases result
  · intro served
    have started := served.listen _ _ (Listener.quietEnv_unrefused broadcastUdp6)
    cases started

end Tinyproxy
