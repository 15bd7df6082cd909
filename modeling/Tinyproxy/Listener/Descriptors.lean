import Tinyproxy.Listener.Start
import Mathlib.Data.List.Nodup

/-!
# The descriptors of a start

What a start opens it either closes again or leaves in the context, where
`stop_route_listeners` and `free_route` find it. There is one exception: when the mutex of
a datagram route cannot be initialised, the context is cleared with the raw socket in it.
-/

namespace Tinyproxy.Listener

open Lib (ascii)

variable {env : Env} {r : Route}

/-! ## The file system opens and closes nothing -/

section Files

variable {w : World} {path : Bytes} {denied : Option Errno}

/-- The same descriptors. -/
def World.SameFds (w w' : World) : Prop := w'.opened = w.opened ∧ w'.closed = w.closed

theorem unlink_fds : w.SameFds (w.unlink denied path).1 := by
  unfold World.unlink
  split
  · exact ⟨rfl, rfl⟩
  · exact ⟨rfl, rfl⟩
  · split
    all_goals exact ⟨rfl, rfl⟩

theorem bindPath_fds : w.SameFds (w.bindPath denied path).1 := by
  unfold World.bindPath
  split
  · exact ⟨rfl, rfl⟩
  · split
    all_goals exact ⟨rfl, rfl⟩

theorem removeStale_fds : w.SameFds (removeStale env path w).1 := by
  have same := @unlink_fds w path (env.fails .unlink)
  unfold removeStale
  split
  all_goals
    rename_i found
    rwa [found] at same

theorem removeSocket_fds : w.SameFds (removeSocket env path w) := by
  unfold removeSocket
  split
  · exact ⟨rfl, rfl⟩
  split
  · exact ⟨rfl, rfl⟩
  split
  · exact unlink_fds
  · exact ⟨rfl, rfl⟩

end Files

/-! ## Stream listeners -/

/-- A stream listener is open, or what was opened for it is closed. -/
def StreamBound (env : Env) (w : World) : World × Except Errno Int → Prop
  | (w', .ok fd) => fd = env.listenFd ∧ w'.opened = w.opened ++ [fd] ∧ w'.closed = w.closed
  | (w', .error _) => ∃ fds, fds.Nodup ∧ w'.opened = w.opened ++ fds ∧ w'.closed = w.closed ++ fds

theorem StreamBound.unopened {w w' : World} (rc : Errno) (same : w.SameFds w') : StreamBound env w (w', .error rc) :=
  ⟨[], List.nodup_nil, by rw [same.1, List.append_nil], by rw [same.2, List.append_nil]⟩

theorem StreamBound.closedAgain {w w' : World} (rc : Errno) (same : (w.openFd env.listenFd).SameFds w') :
    StreamBound env w (w'.closeFd env.listenFd, .error rc) := by
  refine ⟨[(env.listenFd : Int)], List.nodup_singleton _, same.1, ?_⟩
  show w'.closed ++ _ = _
  rw [same.2]
  rfl

theorem StreamBound.kept {w w' : World} (same : (w.openFd env.listenFd).SameFds w') :
    StreamBound env w (w', .ok env.listenFd) :=
  ⟨rfl, same.1, same.2⟩

theorem bindTcpStreamListener_bound (w : World) : StreamBound env w (bindTcpStreamListener env r w) := by
  unfold bindTcpStreamListener
  split
  · exact .unopened _ ⟨rfl, rfl⟩
  split
  · exact .unopened _ ⟨rfl, rfl⟩
  · dsimp only
    split
    · exact .closedAgain _ ⟨rfl, rfl⟩
    · exact .kept ⟨rfl, rfl⟩

theorem bindUnixStreamSocket_bound (path : Bytes) (w : World) :
    StreamBound env w (bindUnixStreamSocket env path w) := by
  unfold bindUnixStreamSocket
  split
  · exact .unopened _ ⟨rfl, rfl⟩
  dsimp only
  split
  · exact .closedAgain _ ⟨rfl, rfl⟩
  have same := @bindPath_fds (w.openFd env.listenFd) path (env.fails .bind)
  split
  · rename_i found
    rw [found] at same
    exact .closedAgain _ same
  · rename_i found
    rw [found] at same
    split
    · exact .closedAgain _ same
    · exact .kept same

theorem StreamBound.of_same {w w' : World} {result : World × Except Errno Int} (same : w.SameFds w')
    (bound : StreamBound env w' result) : StreamBound env w result := by
  obtain ⟨w'', rc⟩ := result
  simp only [StreamBound] at bound ⊢
  rwa [← same.1, ← same.2]

theorem bindUnixStreamListener_bound (w : World) : StreamBound env w (bindUnixStreamListener env r w) := by
  unfold bindUnixStreamListener unlinkThen
  split
  · exact .unopened _ ⟨rfl, rfl⟩
  split
  · exact .unopened _ ⟨rfl, rfl⟩
  have same := @removeStale_fds env w r.listen.path
  split
  · rename_i found
    rw [found] at same
    exact .unopened _ same
  · rename_i found
    rw [found] at same
    exact (bindUnixStreamSocket_bound _ _).of_same same

theorem bindStreamListener_bound (w : World) : StreamBound env w (bindStreamListener env r w) := by
  unfold bindStreamListener
  split
  · exact bindTcpStreamListener_bound w
  · exact bindTcpStreamListener_bound w
  · exact bindUnixStreamListener_bound w
  · exact .unopened _ ⟨rfl, rfl⟩

/-! ## Datagram listeners -/

/-- A datagram listener: nothing is closed, and the socket that was opened for it is in the context. -/
structure DatagramBound (env : Env) (ctx : DatagramRouteCtx) (w w' : World) (ctx' : DatagramRouteCtx)
    (rc : Except Errno Unit) : Prop where
  closed : w'.closed = w.closed
  raw : ctx'.rawFd = ctx.rawFd
  opened : (w'.opened = w.opened ∧ ctx'.listenFd = -1 ∧ rc ≠ .ok ()) ∨
    (w'.opened = w.opened ++ [(env.listenFd : Int)] ∧ ctx'.listenFd = env.listenFd)

/-- The same of a result. -/
def DatagramBound.Of (env : Env) (ctx : DatagramRouteCtx) (w : World)
    (result : World × DatagramRouteCtx × Except Errno Unit) : Prop :=
  DatagramBound env ctx w result.1 result.2.1 result.2.2

section Datagram

variable {ctx : DatagramRouteCtx} {w w' : World}

theorem DatagramBound.unopened (rc : Errno) (invalid : ctx.listenFd = -1) (same : w.SameFds w') :
    DatagramBound.Of env ctx w (w', ctx, .error rc) :=
  ⟨same.2, rfl, .inl ⟨same.1, invalid, fun ok => by cases ok⟩⟩

theorem DatagramBound.kept {ctx' : DatagramRouteCtx} (rc : Except Errno Unit) (raw : ctx'.rawFd = ctx.rawFd)
    (stored : ctx'.listenFd = env.listenFd) (same : (w.openFd env.listenFd).SameFds w') :
    DatagramBound.Of env ctx w (w', ctx', rc) :=
  ⟨same.2, raw, .inr ⟨same.1, stored⟩⟩

theorem addListenEvent_bound {ctx' : DatagramRouteCtx} (raw : ctx'.rawFd = ctx.rawFd)
    (stored : ctx'.listenFd = env.listenFd) (same : (w.openFd env.listenFd).SameFds w') :
    DatagramBound.Of env ctx w (addListenEvent env ctx' w') := by
  unfold addListenEvent
  split
  · exact .kept _ raw stored same
  dsimp only
  split
  · exact .kept _ raw stored same
  · exact .kept _ raw stored same

theorem bindUdpDatagramListener_bound (invalid : ctx.listenFd = -1) :
    DatagramBound.Of env ctx w (bindUdpDatagramListener env r ctx w) := by
  unfold bindUdpDatagramListener
  split
  · exact .unopened _ invalid ⟨rfl, rfl⟩
  split
  · exact ⟨rfl, rfl, .inl ⟨rfl, rfl, fun ok => by cases ok⟩⟩
  dsimp only
  split
  · exact .kept _ rfl rfl ⟨rfl, rfl⟩
  split
  · exact .kept _ rfl rfl ⟨rfl, rfl⟩
  · exact addListenEvent_bound rfl rfl ⟨rfl, rfl⟩

theorem bindUnixDatagramSocket_bound :
    DatagramBound.Of env ctx w (bindUnixDatagramSocket env r ctx w) := by
  unfold bindUnixDatagramSocket
  split
  · exact ⟨rfl, rfl, .inl ⟨rfl, rfl, fun ok => by cases ok⟩⟩
  dsimp only
  split
  · exact .kept _ rfl rfl ⟨rfl, rfl⟩
  split
  · exact .kept _ rfl rfl ⟨rfl, rfl⟩
  have same := @bindPath_fds (w.openFd env.listenFd) r.listen.path (env.fails .bind)
  split
  · rename_i found
    rw [found] at same
    exact .kept _ rfl rfl same
  · rename_i found
    rw [found] at same
    split
    · exact .kept _ rfl rfl same
    · exact addListenEvent_bound rfl rfl same

theorem DatagramBound.of_same {result : World × DatagramRouteCtx × Except Errno Unit} (same : w.SameFds w')
    (bound : DatagramBound.Of env ctx w' result) : DatagramBound.Of env ctx w result := by
  obtain ⟨closed, raw, opened⟩ := bound
  rw [same.1] at opened
  exact ⟨closed.trans same.2, raw, opened⟩

theorem bindUnixDatagramListener_bound (invalid : ctx.listenFd = -1) :
    DatagramBound.Of env ctx w (bindUnixDatagramListener env r ctx w) := by
  unfold bindUnixDatagramListener unlinkThen
  split
  · exact .unopened _ invalid ⟨rfl, rfl⟩
  split
  · exact .unopened _ invalid ⟨rfl, rfl⟩
  have same := @removeStale_fds env w r.listen.path
  split
  · rename_i found
    rw [found] at same
    exact .unopened _ invalid same
  · rename_i found
    rw [found] at same
    exact DatagramBound.of_same same bindUnixDatagramSocket_bound

theorem bindDatagramListener_bound (invalid : ctx.listenFd = -1) :
    DatagramBound.Of env ctx w (bindDatagramListener env r ctx w) := by
  unfold bindDatagramListener
  split
  · exact bindUdpDatagramListener_bound invalid
  · exact bindUdpDatagramListener_bound invalid
  · exact bindUnixDatagramListener_bound invalid
  · exact .unopened _ invalid ⟨rfl, rfl⟩

/-- The descriptors in a context. -/
def DatagramRouteCtx.fds (ctx : DatagramRouteCtx) : List Int :=
  (if ctx.rawFd ≠ -1 then [ctx.rawFd] else []) ++ if ctx.listenFd ≠ -1 then [ctx.listenFd] else []

theorem closeValid_fds : (closeValid ctx.listenFd (closeValid ctx.rawFd w)).opened = w.opened ∧
    (closeValid ctx.listenFd (closeValid ctx.rawFd w)).closed = w.closed ++ ctx.fds := by
  unfold closeValid DatagramRouteCtx.fds
  split_ifs
  all_goals simp [World.closeFd]

/-- `free_datagram_route` closes the descriptors of the context. -/
theorem freeDatagramRoute_fds :
    (freeDatagramRoute env ctx w).1.opened = w.opened ∧ (freeDatagramRoute env ctx w).1.closed = w.closed ++ ctx.fds := by
  have closes := @closeValid_fds ctx w
  unfold freeDatagramRoute
  dsimp only
  split
  · split
    · exact closes
    · rename_i own _ _
      have same := @removeSocket_fds env (closeValid ctx.listenFd (closeValid ctx.rawFd w)) own.listen.path
      exact ⟨same.1.trans closes.1, same.2.trans closes.2⟩
  · exact closes

theorem fd_valid (fd : Nat) : (fd : Int) ≠ -1 := by omega

/-- The raw socket of a context. -/
def DatagramRouteCtx.rawFds (ctx : DatagramRouteCtx) : List Int := if ctx.rawFd ≠ -1 then [ctx.rawFd] else []

/-- What a bind function opened is in the context beside the raw socket. -/
theorem DatagramBound.fds_eq {ctx' : DatagramRouteCtx} {rc : Except Errno Unit}
    (bound : DatagramBound env ctx w w' ctx' rc) :
    ∃ fds : List Int, (fds = [] ∨ fds = [(env.listenFd : Int)]) ∧
      w'.opened = w.opened ++ fds ∧ ctx'.fds = ctx.rawFds ++ fds := by
  obtain ⟨-, raw, ⟨none, unset, -⟩ | ⟨one, set⟩⟩ := bound
  · refine ⟨[], .inl rfl, by rw [none, List.append_nil], ?_⟩
    simp [DatagramRouteCtx.fds, DatagramRouteCtx.rawFds, raw, unset]
  · refine ⟨[(env.listenFd : Int)], .inr rfl, one, ?_⟩
    simp [DatagramRouteCtx.fds, DatagramRouteCtx.rawFds, raw, set, fd_valid]

/-- After the mutex, a start that fails closes the raw socket and what it opened itself. -/
theorem startDatagramListener_fds {result : World × DatagramRouteCtx × Except Errno Unit} (invalid : ctx.listenFd = -1)
    (run : startDatagramListener env r ctx w = result) :
    (result.2.2 ≠ .ok () ∧ ∃ fds : List Int, (fds = [] ∨ fds = [(env.listenFd : Int)]) ∧
      result.1.opened = w.opened ++ fds ∧ result.1.closed = w.closed ++ (ctx.rawFds ++ fds)) ∨
    (result.2.2 = .ok () ∧ result.1.opened = w.opened ++ [(env.listenFd : Int)] ∧ result.1.closed = w.closed ∧
      result.2.1.listenFd = env.listenFd ∧ result.2.1.rawFd = ctx.rawFd) := by
  subst run
  unfold startDatagramListener
  split
  · have frees := @freeDatagramRoute_fds env ctx w
    have own : ctx.fds = ctx.rawFds := by simp [DatagramRouteCtx.fds, DatagramRouteCtx.rawFds, invalid]
    refine .inl ⟨(fun ok => by cases ok), [], .inl rfl, ?_, ?_⟩
    · rw [List.append_nil]
      exact frees.1
    · rw [List.append_nil, ← own]
      exact frees.2
  have bound := @bindDatagramListener_bound env r ctx w invalid
  split
  · rename_i w' ctx' rc found
    rw [found] at bound
    have frees := @freeDatagramRoute_fds env ctx' w'
    obtain ⟨fds, listening, opened, own⟩ := bound.fds_eq
    refine .inl ⟨(fun ok => by cases ok), fds, listening, frees.1.trans opened, frees.2.trans ?_⟩
    rw [own, show w'.closed = w.closed from bound.closed]
  · rename_i w' ctx' found
    rw [found] at bound
    obtain ⟨closed, raw, ⟨-, -, failed⟩ | ⟨one, set⟩⟩ := bound
    · exact absurd rfl failed
    · exact .inr ⟨rfl, one, closed, set, raw⟩

end Datagram

/-! ## Routes -/

/-- What was opened has been closed, each descriptor once. -/
structure Released (w : World) : Prop where
  once : w.opened.Nodup
  closed : w.closed.Perm w.opened

/-- What a start that succeeded leaves open, and where the context has it. -/
inductive Recorded (env : Env) (r : Route) (w : World) (ctx : RouteCtx) : Prop where
  | stream (kind : ctx.kind = .stream) (listener : ctx.stream.listener = some (env.listenFd : Int))
      (opened : w.opened = [(env.listenFd : Int)])
  | datagram (kind : ctx.kind = .datagram) (mode : r.opts.broadcastReply ≠ .upstream)
      (listenFd : ctx.datagram.listenFd = env.listenFd) (rawFd : ctx.datagram.rawFd = -1)
      (opened : w.opened = [(env.listenFd : Int)])
  | spoofing (kind : ctx.kind = .datagram) (mode : r.opts.broadcastReply = .upstream)
      (listenFd : ctx.datagram.listenFd = env.listenFd) (rawFd : ctx.datagram.rawFd = env.rawFd)
      (opened : w.opened = [(env.rawFd : Int), (env.listenFd : Int)])

/-- `stop_route_listeners` and then `free_route`, which may meet other outcomes. -/
def stopAndFree (env : Env) (ctx : RouteCtx) (w : World) : World × RouteCtx :=
  let (w, ctx) := stopRouteListeners ctx w
  freeRoute env ctx w

/-- A start owns up to its sockets: one that fails has closed them and leaves no kind in the context; one that succeeds
has the listening socket open, and the raw socket where replies are sent from the upstream's address, both are in the
context, and stopping and freeing the route closes each once. -/
structure OwnsSockets (env : Env) (r : Route) (files : Bytes → Option FileKind) : Prop where
  failed : ∀ w ctx rc, startRoute env r { files := files } = (w, ctx, .error rc) → Released w ∧ ctx.kind = .none
  started : ∀ w ctx, startRoute env r { files := files } = (w, ctx, .ok ()) →
    w.closed = [] ∧ Recorded env r w ctx ∧ ∀ later, Released (stopAndFree later ctx w).1

/-- The raw socket is open and the mutex cannot be initialised. -/
structure LosesRaw (env : Env) (r : Route) : Prop where
  datagram : endpointIsDatagram r.listen = true
  mode : r.opts.broadcastReply = .upstream
  raw : env.fails .rawSocket = none ∧ env.fails .hdrincl = none
  mutex : env.fails .mutexInit ≠ none

section Routes

variable {ctx : RouteCtx} {w : World}

theorem freeStreamRoute_fds (ctx : StreamRouteCtx) : w.SameFds (freeStreamRoute env ctx w).1 := by
  unfold freeStreamRoute
  split
  · dsimp only
    split
    · exact ⟨rfl, rfl⟩
    · exact removeSocket_fds
  · exact ⟨rfl, rfl⟩

theorem stopAndFree_stream {fd : Int} (kind : ctx.kind = .stream) (listener : ctx.stream.listener = some fd) :
    (w.closeFd fd).SameFds (stopAndFree env ctx w).1 := by
  simp only [stopAndFree, stopRouteListeners, stopStreamRouteListener, freeRoute, kind, listener]
  exact freeStreamRoute_fds _

theorem stopAndFree_datagram (kind : ctx.kind = .datagram) :
    (stopAndFree env ctx w).1.opened = w.opened ∧
      (stopAndFree env ctx w).1.closed = w.closed ++ ctx.datagram.fds := by
  simp only [stopAndFree, stopRouteListeners, freeRoute, kind]
  exact freeDatagramRoute_fds

theorem Released.of_eq {fds : List Int} (once : fds.Nodup) (opened : w.opened = fds) (closed : w.closed = fds) :
    Released w :=
  ⟨by rwa [opened], by rw [opened, closed]⟩

theorem Env.sockets_nodup (env : Env) : [(env.rawFd : Int), (env.listenFd : Int)].Nodup := by
  have other : (env.rawFd : Int) ≠ env.listenFd := Int.ofNat_inj.not.mpr env.distinct
  simp [other]

/-- What is recorded is closed later, once. -/
theorem Recorded.freed {later : Env} (recorded : Recorded env r w ctx) (unclosed : w.closed = []) :
    Released (stopAndFree later ctx w).1 := by
  cases recorded with
  | stream kind listener opened =>
    have same := @stopAndFree_stream later ctx w _ kind listener
    apply Released.of_eq (List.nodup_singleton (env.listenFd : Int))
    · exact same.1.trans opened
    · rw [same.2, World.closeFd, unclosed]
      rfl
  | datagram kind _ listenFd rawFd opened =>
    have closes := @stopAndFree_datagram later ctx w kind
    have own : ctx.datagram.fds = [(env.listenFd : Int)] := by
      simp [DatagramRouteCtx.fds, listenFd, rawFd, fd_valid]
    apply Released.of_eq (List.nodup_singleton (env.listenFd : Int))
    · exact closes.1.trans opened
    · rw [closes.2, unclosed, own]
      rfl
  | spoofing kind _ listenFd rawFd opened =>
    have closes := @stopAndFree_datagram later ctx w kind
    have own : ctx.datagram.fds = [(env.rawFd : Int), (env.listenFd : Int)] := by
      simp [DatagramRouteCtx.fds, listenFd, rawFd, fd_valid]
    apply Released.of_eq env.sockets_nodup
    · exact closes.1.trans opened
    · rw [closes.2, unclosed, own]
      rfl

/-- What a start returns when no socket is lost. -/
def Accounted (env : Env) (r : Route) : World × RouteCtx × Except Errno Unit → Prop
  | (w, ctx, .error _) => Released w ∧ ctx.kind = .none
  | (w, ctx, .ok ()) => w.closed = [] ∧ Recorded env r w ctx

theorem OwnsSockets.of_accounted {files : Bytes → Option FileKind}
    (accounted : Accounted env r (startRoute env r { files := files })) : OwnsSockets env r files where
  failed w ctx rc run := by
    rw [run] at accounted
    exact accounted
  started w ctx run := by
    rw [run] at accounted
    exact ⟨accounted.1, accounted.2, fun later => accounted.2.freed accounted.1⟩

variable {files : Bytes → Option FileKind}

theorem startStream_accounted (stream : endpointIsStream r.listen = true) :
    Accounted env r (startRoute env r { files := files }) := by
  have bound := @bindStreamListener_bound env r { files := files }
  unfold startRoute startStreamRoute
  rw [if_pos stream]
  split
  · rename_i found
    split at found
    · rename_i w rc bindRun
      rw [bindRun] at bound
      obtain ⟨fds, once, opened, closed⟩ := bound
      obtain ⟨rfl, -⟩ := Prod.mk.inj found
      exact ⟨.of_eq once opened closed, rfl⟩
    · simp at found
  · rename_i found
    split at found
    · simp at found
    · rename_i w fd bindRun
      rw [bindRun] at bound
      obtain ⟨rfl, opened, closed⟩ := bound
      obtain ⟨rfl, stored⟩ := Prod.mk.inj found
      obtain ⟨rfl, -⟩ := Prod.mk.inj stored
      exact ⟨closed, .stream rfl rfl opened⟩

/-- The raw socket: not opened, open, or closed again. -/
theorem openRaw_cases (env : Env) (r : Route) (w : World) :
    (r.opts.broadcastReply ≠ .upstream ∧ openRaw env r w = (w, .ok (-1))) ∨
    (r.opts.broadcastReply = .upstream ∧ env.fails .rawSocket = none ∧ env.fails .hdrincl = none ∧
      openRaw env r w = (w.openFd env.rawFd, .ok env.rawFd)) ∨
    (∃ rc, openRaw env r w = (w, .error rc)) ∨
    (∃ rc, openRaw env r w = ((w.openFd env.rawFd).closeFd env.rawFd, .error rc)) := by
  by_cases mode : r.opts.broadcastReply = .upstream
  · have runs : openRaw env r w = datagramRawOpenIpv4 env w := if_pos mode
    rw [runs]
    unfold datagramRawOpenIpv4
    cases raw : env.fails .rawSocket with
    | some err => exact .inr (.inr (.inl ⟨err, rfl⟩))
    | none =>
      cases hdrincl : env.fails .hdrincl with
      | some err => exact .inr (.inr (.inr ⟨err, rfl⟩))
      | none => exact .inr (.inl ⟨mode, rfl, rfl, rfl⟩)
  · exact .inl ⟨mode, if_neg mode⟩

/-- The same of `start_datagram_route`. -/
def DatagramAccounted (env : Env) (r : Route) : World × DatagramRouteCtx × Except Errno Unit → Prop
  | (w, _, .error _) => Released w
  | (w, ctx, .ok ()) => w.closed = [] ∧ Recorded env r w { kind := .datagram, route := some r, datagram := ctx }

/-- The context after the raw socket, and what is open then. -/
structure RawOpened (env : Env) (r : Route) (ctx : DatagramRouteCtx) (w : World) : Prop where
  listenFd : ctx.listenFd = -1
  rawFd : (r.opts.broadcastReply ≠ .upstream ∧ ctx.rawFd = -1) ∨
    (r.opts.broadcastReply = .upstream ∧ ctx.rawFd = env.rawFd)
  opened : w.opened = ctx.rawFds
  closed : w.closed = []

theorem RawOpened.nodup {ctx : DatagramRouteCtx} {fds : List Int} (raw : RawOpened env r ctx w)
    (listening : fds = [] ∨ fds = [(env.listenFd : Int)]) : (ctx.rawFds ++ fds).Nodup := by
  have both := env.sockets_nodup
  have own : ctx.rawFds = [] ∨ ctx.rawFds = [(env.rawFd : Int)] := by
    rcases raw.rawFd with ⟨-, unset⟩ | ⟨-, set⟩
    · simp [DatagramRouteCtx.rawFds, unset]
    · simp [DatagramRouteCtx.rawFds, set, fd_valid]
  rcases own with own | own
  all_goals
    rw [own]
    rcases listening with rfl | rfl
    all_goals simp_all

theorem startDatagramListener_accounted {ctx : DatagramRouteCtx} (raw : RawOpened env r ctx w) :
    DatagramAccounted env r (startDatagramListener env r ctx w) := by
  have ends := @startDatagramListener_fds env r ctx w _ raw.listenFd rfl
  generalize startDatagramListener env r ctx w = result at ends ⊢
  obtain ⟨w', ctx', rc⟩ := result
  simp only [raw.opened, raw.closed, List.nil_append] at ends
  rcases ends with ⟨failed, fds, listening, opened, closed⟩ | ⟨rfl, opened, closed, listenFd, rawFd⟩
  · cases rc with
    | ok value => exact absurd rfl failed
    | error err => exact .of_eq (raw.nodup listening) opened closed
  · refine ⟨closed, ?_⟩
    rcases raw.rawFd with ⟨mode, unset⟩ | ⟨mode, set⟩
    · apply Recorded.datagram rfl mode listenFd (rawFd.trans unset)
      rw [opened, DatagramRouteCtx.rawFds, unset]
      rfl
    · apply Recorded.spoofing rfl mode listenFd (rawFd.trans set)
      rw [opened, DatagramRouteCtx.rawFds, set, if_pos (fd_valid env.rawFd)]
      rfl

/-- `start_datagram_route` accounts for its sockets unless the mutex fails with the raw socket open. -/
theorem startDatagramRoute_accounted
    (keeps : r.opts.broadcastReply = .upstream → env.fails .rawSocket = none → env.fails .hdrincl = none →
      env.fails .mutexInit = none) :
    DatagramAccounted env r (startDatagramRoute env r { files := files }) := by
  unfold startDatagramRoute
  rcases openRaw_cases env r { files := files } with ⟨mode, run⟩ | ⟨mode, raw, hdrincl, run⟩ | ⟨rc, run⟩ | ⟨rc, run⟩
  · rw [run]
    dsimp only
    cases env.fails .mutexInit with
    | some rc => exact Released.of_eq List.nodup_nil rfl rfl
    | none => exact startDatagramListener_accounted ⟨rfl, .inl ⟨mode, rfl⟩, rfl, rfl⟩
  · rw [run, keeps mode raw hdrincl]
    apply startDatagramListener_accounted
    refine ⟨rfl, .inr ⟨mode, rfl⟩, ?_, rfl⟩
    rw [DatagramRouteCtx.rawFds, if_pos (fd_valid env.rawFd)]
    rfl
  · rw [run]
    exact Released.of_eq List.nodup_nil rfl rfl
  · rw [run]
    exact Released.of_eq (List.nodup_singleton (env.rawFd : Int)) rfl rfl

theorem startDatagram_accounted (stream : ¬ endpointIsStream r.listen = true)
    (datagram : endpointIsDatagram r.listen = true)
    (accounted : DatagramAccounted env r (startDatagramRoute env r { files := files })) :
    Accounted env r (startRoute env r { files := files }) := by
  unfold startRoute
  rw [if_neg stream, if_pos datagram]
  split
  · rename_i found
    rw [found] at accounted
    exact ⟨accounted, rfl⟩
  · rename_i found
    rw [found] at accounted
    exact accounted

/-- The start that loses the raw socket. -/
theorem LosesRaw.start (loses : LosesRaw env r) :
    ∃ rc, startRoute env r { files := files } =
      (({ files := files } : World).openFd env.rawFd, { route := some r }, .error rc) := by
  obtain ⟨datagram, mode, raw, mutex⟩ := loses
  obtain ⟨rc, failed⟩ := Option.ne_none_iff_exists'.mp mutex
  have other : ¬ endpointIsStream r.listen = true := fun stream => not_datagram_of_stream stream datagram
  refine ⟨rc, ?_⟩
  simp [startRoute, other, datagram, startDatagramRoute, openRaw, mode, datagramRawOpenIpv4, raw, failed]

end Routes

/-- **A start accounts for every socket it opens, unless it loses the raw socket to a mutex that cannot be
initialised.** -/
theorem start_owns_sockets_iff (env : Env) (r : Route) (files : Bytes → Option FileKind) :
    OwnsSockets env r files ↔ ¬ LosesRaw env r := by
  constructor
  · intro owns loses
    obtain ⟨rc, run⟩ := @LosesRaw.start env r files loses
    have released := (owns.failed _ _ _ run).1.closed
    have empty : [(env.rawFd : Int)] = [] := released.symm.eq_nil
    cases empty
  · intro keeps
    apply OwnsSockets.of_accounted
    by_cases stream : endpointIsStream r.listen = true
    · exact startStream_accounted stream
    by_cases datagram : endpointIsDatagram r.listen = true
    · apply startDatagram_accounted stream datagram
      apply startDatagramRoute_accounted
      intro mode raw hdrincl
      by_contra mutex
      exact keeps ⟨datagram, mode, ⟨raw, hdrincl⟩, mutex⟩
    · rw [startRoute, if_neg stream, if_neg datagram]
      exact ⟨.of_eq List.nodup_nil rfl rfl, rfl⟩

/-- The mutex cannot be initialised (`EAGAIN`); every other call would succeed. -/
def mutexRefused : Env where
  fails call := if call = .mutexInit then some (.other 11) else none
  inetPton _ _ := some [0, 0, 0, 0]
  rawFd := 5
  listenFd := 6
  distinct := by decide

/-- The route of `listen udp :9 192.168.0.255:9 broadcast_reply=upstream`. -/
def wakeOnLan : Route where
  listen := { kind := .inet, host := ascii "0.0.0.0", port := 9, proto := .udp }
  upstream := { kind := .inet, host := ascii "192.168.0.255", port := 9, proto := .udp }
  opts := { broadcastReply := .upstream }

/-- **The raw socket stays open when the mutex cannot be initialised.** -/
theorem start_leaks_raw_socket :
    ¬ ∀ (env : Env) (r : Route) (files : Bytes → Option FileKind), OwnsSockets env r files := by
  intro owns
  have run : startRoute mutexRefused wakeOnLan { files := fun _ => none } =
      ({ files := fun _ => none, opened := [5], closed := [] }, { route := some wakeOnLan }, .error (.other 11)) := rfl
  have released := ((owns mutexRefused wakeOnLan fun _ => none).failed _ _ _ run).1.closed
  have empty : [(5 : Int)] = [] := released.symm.eq_nil
  cases empty

end Tinyproxy.Listener
