import Tinyproxy.Lib.Machine
import Tinyproxy.Listener.Start

/-!
# The files at listen paths

`stop_unix_stream_route` and `stop_unix_datagram_route` look with `lstat` before they
remove the file of a listener, and leave what is not a socket. The two bind functions
remove whatever `unlink` removes. So a regular file at the path of a listener is gone once
the listener is started, and the start succeeds.
-/

namespace Tinyproxy.Listener

open Lib (Machine ascii)

variable {env : Env} {r : Route}

/-! ## What changes sockets only -/

/-- No file, or a socket. -/
def Vacant (file : Option FileKind) : Prop := file = none ∨ file = some .socket

theorem not_vacant {kind : FileKind} (other : kind ≠ .socket) : ¬ Vacant (some kind) := by
  rintro (none | same)
  · cases none
  · exact other (Option.some.inj same)

/-- Only sockets are made and removed. -/
def World.SocketsOnly (w w' : World) : Prop :=
  ∀ path, w'.files path = w.files path ∨ (Vacant (w.files path) ∧ Vacant (w'.files path))

namespace World

variable {w w' w'' : World} {path : Bytes}

theorem SocketsOnly.of_files (same : w'.files = w.files) : w.SocketsOnly w' := fun path => .inl (congrFun same path)

theorem SocketsOnly.trans (first : w.SocketsOnly w') (second : w'.SocketsOnly w'') : w.SocketsOnly w'' := by
  intro path
  rcases first path with before | ⟨free, left⟩
  · rcases second path with after | ⟨left, right⟩
    · exact .inl (after.trans before)
    · exact .inr ⟨by rwa [before] at left, right⟩
  · rcases second path with after | ⟨-, right⟩
    · exact .inr ⟨free, by rwa [after]⟩
    · exact .inr ⟨free, right⟩

theorem SocketsOnly.kept {kind : FileKind} (only : w.SocketsOnly w') (found : w.files path = some kind)
    (other : kind ≠ .socket) : w'.files path = some kind := by
  rcases only path with same | ⟨free, -⟩
  · rw [same, found]
  · rw [found] at free
    exact absurd free (not_vacant other)

theorem SocketsOnly.vacant (only : w.SocketsOnly w') (free : Vacant (w.files path)) : Vacant (w'.files path) := by
  rcases only path with same | ⟨-, after⟩
  · rwa [same]
  · exact after

theorem SocketsOnly.update {file : Option FileKind} (free : Vacant (w.files path)) (after : Vacant file) :
    w.SocketsOnly { w with files := Function.update w.files path file } := by
  intro path'
  by_cases same : path' = path
  · subst same
    refine .inr ⟨free, ?_⟩
    dsimp only
    rwa [Function.update_self]
  · exact .inl (Function.update_of_ne same _ _)

end World

/-- The `unlink` of a bind function leaves everything as it was, or removes a file that is no directory. -/
theorem removeStale_cases (env : Env) (path : Bytes) (w : World) :
    (∃ rc, removeStale env path w = (w, rc)) ∨
    (env.fails .unlink = none ∧ (∃ kind, w.files path = some kind ∧ kind ≠ .directory) ∧
      removeStale env path w = ({ w with files := Function.update w.files path none }, none)) := by
  unfold removeStale World.unlink
  cases found : w.files path with
  | none => exact .inl ⟨_, rfl⟩
  | some kind =>
    by_cases directory : kind = .directory
    · subst directory
      exact .inl ⟨_, rfl⟩
    cases denied : env.fails .unlink with
    | some err =>
      refine .inl ⟨if err = enoent then none else some err, ?_⟩
      cases kind
      all_goals first
        | rfl
        | exact absurd rfl directory
    | none =>
      refine .inr ⟨rfl, ⟨kind, rfl, directory⟩, ?_⟩
      cases kind
      all_goals first
        | rfl
        | exact absurd rfl directory

section Effects

variable {w : World} {path : Bytes}

theorem bindPath_sockets (denied : Option Errno) : w.SocketsOnly (w.bindPath denied path).1 := by
  unfold World.bindPath
  split
  · exact .of_files rfl
  · rename_i free
    split
    · exact .of_files rfl
    · exact .update (.inl free) (.inr rfl)

/-- A path that is taken cannot be bound. -/
theorem bindPath_taken {kind : FileKind} (denied : Option Errno) (found : w.files path = some kind) :
    w.bindPath denied path = (w, some eaddrinuse) := by
  simp [World.bindPath, found]

theorem removeSocket_sockets : w.SocketsOnly (removeSocket env path w) := by
  unfold removeSocket
  split
  · exact .of_files rfl
  split
  · exact .of_files rfl
  split
  · rename_i socket
    unfold World.unlink
    rw [socket]
    dsimp only
    split
    · exact .of_files rfl
    · exact .update (.inr socket) (.inl rfl)
  · exact .of_files rfl

/-! ## The sockets of the bind functions -/

theorem bindUnixStreamSocket_sockets : w.SocketsOnly (bindUnixStreamSocket env path w).1 := by
  unfold bindUnixStreamSocket
  split
  · exact .of_files rfl
  dsimp only
  split
  · exact .of_files rfl
  have only := @bindPath_sockets (w.openFd env.listenFd) path (env.fails .bind)
  split
  all_goals
    rename_i found
    rw [found] at only
  · exact only
  · split
    · exact only
    · exact only

theorem bindUnixStreamSocket_taken {kind : FileKind} (found : w.files path = some kind) :
    ∃ rc, (bindUnixStreamSocket env path w).2 = .error rc := by
  unfold bindUnixStreamSocket
  split
  · exact ⟨_, rfl⟩
  dsimp only
  split
  · exact ⟨_, rfl⟩
  have taken : (w.openFd env.listenFd).bindPath (env.fails .bind) path = (w.openFd env.listenFd, some eaddrinuse) :=
    bindPath_taken _ found
  rw [taken]
  exact ⟨_, rfl⟩

theorem addListenEvent_world (ctx : DatagramRouteCtx) : (addListenEvent env ctx w).1 = w := by
  unfold addListenEvent
  split
  · rfl
  dsimp only
  split
  · rfl
  · rfl

theorem bindUnixDatagramSocket_sockets (ctx : DatagramRouteCtx) :
    w.SocketsOnly (bindUnixDatagramSocket env r ctx w).1 := by
  unfold bindUnixDatagramSocket
  split
  · exact .of_files rfl
  dsimp only
  split
  · exact .of_files rfl
  split
  · exact .of_files rfl
  have only := @bindPath_sockets (w.openFd env.listenFd) r.listen.path (env.fails .bind)
  split
  all_goals
    rename_i found
    rw [found] at only
  · exact only
  · split
    · exact only
    · rw [addListenEvent_world]
      exact only

theorem bindUnixDatagramSocket_taken {kind : FileKind} (ctx : DatagramRouteCtx)
    (found : w.files r.listen.path = some kind) :
    ∃ rc, (bindUnixDatagramSocket env r ctx w).2.2 = .error rc := by
  unfold bindUnixDatagramSocket
  split
  · exact ⟨_, rfl⟩
  dsimp only
  split
  · exact ⟨_, rfl⟩
  split
  · exact ⟨_, rfl⟩
  have taken : (w.openFd env.listenFd).bindPath (env.fails .bind) r.listen.path =
      (w.openFd env.listenFd, some eaddrinuse) :=
    bindPath_taken _ found
  rw [taken]
  exact ⟨_, rfl⟩

theorem bindTcpStreamListener_files : (bindTcpStreamListener env r w).1.files = w.files := by
  unfold bindTcpStreamListener
  split
  · rfl
  split
  · rfl
  dsimp only
  split
  · rfl
  · rfl

theorem bindUdpDatagramListener_files (ctx : DatagramRouteCtx) :
    (bindUdpDatagramListener env r ctx w).1.files = w.files := by
  unfold bindUdpDatagramListener
  split
  · rfl
  split
  · rfl
  dsimp only
  split
  · rfl
  split
  · rfl
  · rw [addListenEvent_world]
    rfl

end Effects

/-! ## Unlinking before binding -/

/-- The `unlink` of a bind function finds a file that is not a socket, and can remove it. -/
structure Takes (env : Env) (path : Bytes) (w : World) : Prop where
  unlink : env.fails .unlink = none
  file : ∃ kind, w.files path = some kind ∧ kind ≠ .socket ∧ kind ≠ .directory

/-- A bind function touches sockets only, and fails where it finds another file. -/
structure Spares (path : Bytes) (w w' : World) (failed : Prop) : Prop where
  sockets : w.SocketsOnly w'
  refused : ∀ kind, w.files path = some kind → kind ≠ .socket → failed

section Unlink

variable {β : Type} {path : Bytes} {refuse : Errno → β} {bind : World → World × β} {w : World}

theorem unlinkThen_spares {Failed : β → Prop} (safe : path ≠ [] → path.length < sunPathSize → ¬ Takes env path w)
    (refuses : ∀ rc, Failed (refuse rc)) (sockets : ∀ w : World, w.SocketsOnly (bind w).1)
    (taken : ∀ (w : World) kind, w.files path = some kind → Failed (bind w).2) :
    Spares path w (unlinkThen env path refuse bind w).1 (Failed (unlinkThen env path refuse bind w).2) := by
  unfold unlinkThen
  split
  · exact ⟨.of_files rfl, fun _ _ _ => refuses _⟩
  split
  · exact ⟨.of_files rfl, fun _ _ _ => refuses _⟩
  rename_i named fits
  rcases removeStale_cases env path w with ⟨rc, run⟩ | ⟨allowed, ⟨kind, found, directory⟩, run⟩
  · rw [run]
    cases rc with
    | some err => exact ⟨.of_files rfl, fun _ _ _ => refuses _⟩
    | none => exact ⟨sockets w, fun kind found _ => taken w kind found⟩
  · have socket : kind = .socket := by
      by_contra other
      exact safe named (by omega) ⟨allowed, kind, found, other, directory⟩
    subst socket
    rw [run]
    refine ⟨.trans (.update (.inr found) (.inl rfl)) (sockets _), ?_⟩
    intro kind' found' other
    rw [found] at found'
    exact absurd (Option.some.inj found').symm other

theorem unlinkThen_takes (takes : Takes env path w) (named : path ≠ []) (fits : path.length < sunPathSize)
    (sockets : ∀ w : World, w.SocketsOnly (bind w).1) : Vacant ((unlinkThen env path refuse bind w).1.files path) := by
  unfold unlinkThen
  rw [if_neg named, if_neg (by omega)]
  obtain ⟨allowed, kind, found, other, directory⟩ := takes
  have run : removeStale env path w = ({ w with files := Function.update w.files path none }, none) := by
    unfold removeStale World.unlink
    rw [allowed, found]
    cases kind
    all_goals first
      | rfl
      | exact absurd rfl directory
  rw [run]
  apply (sockets _).vacant
  exact .inl (Function.update_self path none w.files)

end Unlink

/-! ## Starts -/

/-- Every call of a start before its `unlink` succeeds. -/
structure ReachesUnlink (env : Env) (r : Route) : Prop where
  named : r.listen.path ≠ []
  fits : r.listen.path.length < sunPathSize
  passed : (endpointIsStream r.listen = true ∧ r.listen.kind = .unix) ∨
    (endpointIsDatagram r.listen = true ∧ r.listen.kind = .unixDgram ∧
      (r.opts.broadcastReply = .upstream → env.fails .rawSocket = none ∧ env.fails .hdrincl = none) ∧
      env.fails .mutexInit = none ∧ prepareDatagramRoute env r = none)

/-- A start comes to its `unlink` with a file at the path that is not a socket, and can remove it. -/
def Clobbers (env : Env) (r : Route) (w : World) : Prop := ReachesUnlink env r ∧ Takes env r.listen.path w

/-- A route that listens at a path. -/
def OnPath (r : Route) : Prop := r.listen.kind = .unix ∨ r.listen.kind = .unixDgram

/-- A result that is an error. -/
def Failed {α : Type} (rc : Except Errno α) : Prop := ∃ err, rc = .error err

theorem Failed.error {α : Type} (err : Errno) : Failed (.error err : Except Errno α) := ⟨err, rfl⟩

/-- A start touches sockets only, and fails where it finds another file at its path. -/
structure StartSpares (r : Route) (w w' : World) (failed : Prop) : Prop where
  sockets : w.SocketsOnly w'
  refused : OnPath r → ∀ kind, w.files r.listen.path = some kind → kind ≠ .socket → failed

section Starts

variable {w : World}

theorem bindStreamListener_spares
    (safe : r.listen.kind = .unix → r.listen.path ≠ [] → r.listen.path.length < sunPathSize →
      ¬ Takes env r.listen.path w) :
    StartSpares r w (bindStreamListener env r w).1 (Failed (bindStreamListener env r w).2) := by
  unfold bindStreamListener
  cases listen : r.listen.kind with
  | inet => exact ⟨.of_files bindTcpStreamListener_files, by simp [OnPath, listen]⟩
  | inet6 => exact ⟨.of_files bindTcpStreamListener_files, by simp [OnPath, listen]⟩
  | unix =>
    have spares := @unlinkThen_spares env (Except Errno Int) r.listen.path .error
      (bindUnixStreamSocket env r.listen.path) w Failed (safe listen) .error
      (fun _ => bindUnixStreamSocket_sockets) (fun _ _ => bindUnixStreamSocket_taken)
    exact ⟨spares.sockets, fun _ => spares.refused⟩
  | _ => exact ⟨.of_files rfl, fun _ _ _ _ => .error _⟩

theorem bindDatagramListener_spares (ctx : DatagramRouteCtx)
    (safe : r.listen.kind = .unixDgram → r.listen.path ≠ [] → r.listen.path.length < sunPathSize →
      ¬ Takes env r.listen.path w) :
    StartSpares r w (bindDatagramListener env r ctx w).1 (Failed (bindDatagramListener env r ctx w).2.2) := by
  unfold bindDatagramListener
  cases listen : r.listen.kind with
  | inet => exact ⟨.of_files (bindUdpDatagramListener_files ctx), by simp [OnPath, listen]⟩
  | inet6 => exact ⟨.of_files (bindUdpDatagramListener_files ctx), by simp [OnPath, listen]⟩
  | unixDgram =>
    have spares := @unlinkThen_spares env (DatagramRouteCtx × Except Errno Unit) r.listen.path
      (fun rc => (ctx, .error rc)) (bindUnixDatagramSocket env r ctx) w (fun result => Failed result.2) (safe listen)
      (fun _ => .error _) (fun _ => bindUnixDatagramSocket_sockets ctx)
      (fun _ _ => bindUnixDatagramSocket_taken ctx)
    exact ⟨spares.sockets, fun _ => spares.refused⟩
  | _ => exact ⟨.of_files rfl, fun _ _ _ _ => .error _⟩

theorem closeValid_files (fd : Int) (w : World) : (closeValid fd w).files = w.files := by
  unfold closeValid
  split
  · rfl
  · rfl

theorem freeDatagramRoute_sockets (ctx : DatagramRouteCtx) : w.SocketsOnly (freeDatagramRoute env ctx w).1 := by
  have closes : (closeValid ctx.listenFd (closeValid ctx.rawFd w)).files = w.files := by
    rw [closeValid_files, closeValid_files]
  unfold freeDatagramRoute
  dsimp only
  split
  · split
    · exact .of_files closes
    · exact .trans (.of_files closes) removeSocket_sockets
  · exact .of_files closes

theorem freeStreamRoute_sockets (ctx : StreamRouteCtx) : w.SocketsOnly (freeStreamRoute env ctx w).1 := by
  unfold freeStreamRoute
  split
  · dsimp only
    split
    · exact .of_files rfl
    · exact removeSocket_sockets
  · exact .of_files rfl

theorem freeRoute_sockets (ctx : RouteCtx) : w.SocketsOnly (freeRoute env ctx w).1 := by
  unfold freeRoute
  split
  · exact freeStreamRoute_sockets ctx.stream
  · exact freeDatagramRoute_sockets ctx.datagram
  · exact .of_files rfl

theorem stopRouteListeners_files (ctx : RouteCtx) : (stopRouteListeners ctx w).1.files = w.files := by
  unfold stopRouteListeners stopStreamRouteListener
  split
  · cases ctx.stream.listener
    · rfl
    · rfl
  · rfl
  · rfl

theorem openRaw_files : (openRaw env r w).1.files = w.files := by
  unfold openRaw datagramRawOpenIpv4
  split
  · split
    · rfl
    dsimp only
    split
    · rfl
    · rfl
  · rfl

theorem startDatagramListener_spares (ctx : DatagramRouteCtx)
    (safe : prepareDatagramRoute env r = none → r.listen.kind = .unixDgram → r.listen.path ≠ [] →
      r.listen.path.length < sunPathSize → ¬ Takes env r.listen.path w) :
    StartSpares r w (startDatagramListener env r ctx w).1 (Failed (startDatagramListener env r ctx w).2.2) := by
  unfold startDatagramListener
  split
  · exact ⟨freeDatagramRoute_sockets ctx, fun _ _ _ _ => .error _⟩
  rename_i prepared
  have spares := bindDatagramListener_spares ctx (safe prepared)
  split
  · rename_i found
    rw [found] at spares
    exact ⟨.trans spares.sockets (freeDatagramRoute_sockets _), fun _ _ _ _ => .error _⟩
  · rename_i found
    rw [found] at spares
    exact spares

theorem StartSpares.of_files {w' w'' : World} {failed : Prop} (same : w'.files = w.files)
    (spares : StartSpares r w' w'' failed) : StartSpares r w w'' failed := by
  refine ⟨.trans (.of_files same) spares.sockets, ?_⟩
  intro onPath kind found
  rw [← same] at found
  exact spares.refused onPath kind found

theorem Takes.of_files {w' : World} {path : Bytes} (same : w'.files = w.files) (takes : Takes env path w') :
    Takes env path w := by
  obtain ⟨allowed, file⟩ := takes
  rw [same] at file
  exact ⟨allowed, file⟩

/-- The raw socket was opened, where one is needed. -/
theorem openRaw_passed {w' : World} {raw : Int} (run : openRaw env r w = (w', .ok raw)) :
    r.opts.broadcastReply = .upstream → env.fails .rawSocket = none ∧ env.fails .hdrincl = none := by
  intro mode
  unfold openRaw datagramRawOpenIpv4 at run
  rw [if_pos mode] at run
  split at run
  · simp at run
  rename_i rawSocket
  dsimp only at run
  split at run
  · simp at run
  rename_i hdrincl
  exact ⟨rawSocket, hdrincl⟩

theorem startDatagramRoute_spares (datagram : endpointIsDatagram r.listen = true) (safe : ¬ Clobbers env r w) :
    StartSpares r w (startDatagramRoute env r w).1 (Failed (startDatagramRoute env r w).2.2) := by
  have same := @openRaw_files env r w
  unfold startDatagramRoute
  split
  · rename_i run
    rw [run] at same
    exact ⟨.of_files same, fun _ _ _ _ => .error _⟩
  rename_i w' raw run
  rw [run] at same
  split
  · exact ⟨.of_files same, fun _ _ _ _ => .error _⟩
  rename_i mutex
  apply StartSpares.of_files same
  apply startDatagramListener_spares
  intro prepared listen named fits takes
  exact safe ⟨⟨named, fits, .inr ⟨datagram, listen, openRaw_passed run, mutex, prepared⟩⟩, takes.of_files same⟩

/-- A start that does not come to remove a file spares it. -/
theorem startRoute_spares (safe : ¬ Clobbers env r w) :
    StartSpares r w (startRoute env r w).1 (Failed (startRoute env r w).2.2) := by
  unfold startRoute
  split
  · rename_i stream
    have spares := @bindStreamListener_spares env r w fun listen named fits takes =>
      safe ⟨⟨named, fits, .inl ⟨stream, listen⟩⟩, takes⟩
    unfold startStreamRoute
    generalize bindStreamListener env r w = bound at spares ⊢
    obtain ⟨w', rc⟩ := bound
    cases rc with
    | error err => exact ⟨spares.sockets, fun _ _ _ _ => .error _⟩
    | ok fd =>
      refine ⟨spares.sockets, ?_⟩
      intro onPath kind found other
      obtain ⟨err, failed⟩ := spares.refused onPath kind found other
      cases failed
  split
  · rename_i datagram
    have spares := startDatagramRoute_spares datagram safe
    split
    · rename_i run
      rw [run] at spares
      exact ⟨spares.sockets, fun _ _ _ _ => .error _⟩
    · rename_i run
      rw [run] at spares
      exact spares
  · exact ⟨.of_files rfl, fun _ _ _ _ => .error _⟩

theorem startDatagramListener_takes (ctx : DatagramRouteCtx) (prepared : prepareDatagramRoute env r = none)
    (listen : r.listen.kind = .unixDgram) (named : r.listen.path ≠ []) (fits : r.listen.path.length < sunPathSize)
    (takes : Takes env r.listen.path w) : Vacant ((startDatagramListener env r ctx w).1.files r.listen.path) := by
  have bound : Vacant ((bindDatagramListener env r ctx w).1.files r.listen.path) := by
    unfold bindDatagramListener
    rw [listen]
    exact unlinkThen_takes takes named fits fun _ => bindUnixDatagramSocket_sockets ctx
  unfold startDatagramListener
  rw [prepared]
  dsimp only
  split
  · rename_i found
    rw [found] at bound
    exact (freeDatagramRoute_sockets _).vacant bound
  · rename_i found
    rw [found] at bound
    exact bound

theorem openRaw_ok (passed : r.opts.broadcastReply = .upstream → env.fails .rawSocket = none ∧ env.fails .hdrincl = none) :
    ∃ w' raw, openRaw env r w = (w', .ok raw) := by
  unfold openRaw
  split
  · rename_i mode
    obtain ⟨rawSocket, hdrincl⟩ := passed mode
    unfold datagramRawOpenIpv4
    rw [rawSocket, hdrincl]
    exact ⟨_, _, rfl⟩
  · exact ⟨_, _, rfl⟩

/-- A start that clobbers leaves no file at the path, or a socket. -/
theorem startRoute_clobbers (clobbers : Clobbers env r w) :
    Vacant ((startRoute env r w).1.files r.listen.path) := by
  obtain ⟨⟨named, fits, ⟨stream, listen⟩ | ⟨datagram, listen, raw, mutex, prepared⟩⟩, takes⟩ := clobbers
  · have bound : Vacant ((bindStreamListener env r w).1.files r.listen.path) := by
      unfold bindStreamListener
      rw [listen]
      exact unlinkThen_takes takes named fits fun _ => bindUnixStreamSocket_sockets
    unfold startRoute startStreamRoute
    rw [if_pos stream]
    generalize bindStreamListener env r w = result at bound ⊢
    obtain ⟨w', rc⟩ := result
    cases rc with
    | error err => exact bound
    | ok fd => exact bound
  · obtain ⟨w', fd, opens⟩ := @openRaw_ok env r w raw
    have same := @openRaw_files env r w
    rw [opens] at same
    have bound := startDatagramListener_takes { route := some r, listenFd := -1, rawFd := fd } prepared listen named fits
      (takes.of_files same.symm)
    have other : ¬ endpointIsStream r.listen = true := fun stream => not_datagram_of_stream stream datagram
    unfold startRoute startDatagramRoute
    rw [if_neg other, if_pos datagram, opens, mutex]
    dsimp only
    generalize startDatagramListener env r _ w' = result at bound ⊢
    obtain ⟨w'', ctx, rc⟩ := result
    cases rc with
    | error err => exact bound
    | ok value => exact bound

end Starts

/-! ## Runs -/

/-- The files, and the contexts of the routes. -/
structure Proxy where
  world : World
  ctxs : Nat → RouteCtx := fun _ => {}

/-- A call for the context in a slot, or another program that puts a file at a path or removes one. -/
inductive ListenStep where
  | start (slot : Nat) (r : Route) (env : Env)
  | stop (slot : Nat)
  | free (slot : Nat) (env : Env)
  | outside (path : Bytes) (file : Option FileKind)

def Proxy.step (s : Proxy) : ListenStep → Proxy
  | .start slot r env =>
    let (w, ctx, _) := startRoute env r s.world
    { world := w, ctxs := Function.update s.ctxs slot ctx }
  | .stop slot =>
    let (w, ctx) := stopRouteListeners (s.ctxs slot) s.world
    { world := w, ctxs := Function.update s.ctxs slot ctx }
  | .free slot env =>
    let (w, ctx) := freeRoute env (s.ctxs slot) s.world
    { world := w, ctxs := Function.update s.ctxs slot ctx }
  | .outside path file => { s with world.files := Function.update s.world.files path file }

/-- Starts, stops and frees in any order, whatever each of their calls returns. -/
def listenMachine : Machine Proxy ListenStep where
  step s e := some (s.step e)

/-- The step is a start that clobbers. -/
def Proxy.Clobbered (s : Proxy) : ListenStep → Prop
  | .start _ r env => Clobbers env r s.world
  | _ => False

/-- Files that are not sockets are safe in a run: each stays where it is for as long as no other program changes it, and
a start at its path fails. -/
structure ListenPathsSpared (s : Proxy) (es : List ListenStep) : Prop where
  kept : ∀ ds fs u t, ds ++ fs <+: es → listenMachine.run s ds = some u → listenMachine.run u fs = some t →
    ∀ path kind, u.world.files path = some kind → kind ≠ .socket → (∀ file, ListenStep.outside path file ∉ fs) →
      t.world.files path = some kind
  refused : ∀ ds slot r env u, ds ++ [.start slot r env] <+: es → listenMachine.run s ds = some u → OnPath r →
    ∀ kind, u.world.files r.listen.path = some kind → kind ≠ .socket → Failed (startRoute env r u.world).2.2

/-- A step that does not clobber keeps the file at a path. -/
theorem Proxy.step_kept {s : Proxy} {e : ListenStep} {path : Bytes} {kind : FileKind}
    (found : s.world.files path = some kind) (other : kind ≠ .socket) (safe : ¬ s.Clobbered e)
    (own : ∀ file, e ≠ .outside path file) : (s.step e).world.files path = some kind := by
  cases e with
  | start slot r env => exact (startRoute_spares safe).sockets.kept found other
  | stop slot => exact (World.SocketsOnly.of_files (stopRouteListeners_files _)).kept found other
  | free slot env => exact (freeRoute_sockets _).kept found other
  | outside path' file =>
    have elsewhere : path ≠ path' := by
      intro same
      subst same
      exact own file rfl
    exact (Function.update_of_ne elsewhere _ _).trans found

/-- A step that clobbers does not keep it. -/
theorem Proxy.step_clobbers {s : Proxy} {slot : Nat} {r : Route} {env : Env} {kind : FileKind}
    (clobbers : Clobbers env r s.world) (other : kind ≠ .socket) :
    (s.step (.start slot r env)).world.files r.listen.path ≠ some kind := by
  intro kept
  have free : Vacant ((s.step (.start slot r env)).world.files r.listen.path) := startRoute_clobbers clobbers
  rw [kept] at free
  exact not_vacant other free

/-- **Files that are not sockets are safe in exactly the runs without a start that clobbers**, one that finds such a file
at its listen path and may remove it. -/
theorem listen_paths_spared_iff (s : Proxy) (es : List ListenStep) :
    ListenPathsSpared s es ↔ listenMachine.Along (fun u e => ¬ u.Clobbered e) s es := by
  rw [Machine.along_iff]
  constructor
  · intro spared ds e cut u ran clobbered
    cases e with
    | start slot r env =>
      obtain ⟨kind, found, other, -⟩ := clobbered.2.file
      have kept := spared.kept ds [.start slot r env] u (u.step (.start slot r env)) cut ran (Machine.run_single.2 rfl)
        r.listen.path kind found other (by simp)
      exact Proxy.step_clobbers clobbered other kept
    | stop slot => exact clobbered
    | free slot env => exact clobbered
    | outside path file => exact clobbered
  · intro safe
    constructor
    · intro ds fs u t cut ran rest path kind found other own
      -- the side condition of the whole run, for its part from `u` on
      have along : listenMachine.Along (fun u e => ¬ u.Clobbered e ∧ ∀ file, e ≠ .outside path file) u fs := by
        rw [Machine.along_iff]
        intro gs e part v more
        refine ⟨safe (ds ++ gs) e ?_ v (Machine.run_append.2 ⟨u, ran, more⟩), ?_⟩
        · rw [List.append_assoc]
          exact ((List.prefix_append_right_inj ds).2 part).trans cut
        · intro file same
          exact own file (same ▸ part.subset (by simp))
      have keeps : ∀ v e v', v.world.files path = some kind → ¬ v.Clobbered e ∧ (∀ file, e ≠ .outside path file) →
          listenMachine.step v e = some v' → v'.world.files path = some kind := by
        intro v e v' held allowed step
        obtain rfl : v.step e = v' := Option.some.inj step
        exact Proxy.step_kept held other allowed.1 allowed.2
      exact Machine.run_along (I := fun v => v.world.files path = some kind) keeps found along rest
    · intro ds slot r env u cut ran onPath kind found other
      exact (startRoute_spares (safe ds _ cut u ran)).refused onPath kind found other

/-- Every call succeeds. -/
def smoothStart : Env where
  fails _ := none
  inetPton _ _ := none
  rawFd := 7
  listenFd := 8
  distinct := by decide

/-- The route of `listen unix /run/app builtin close`. -/
def unixRoute : Route where
  listen := { kind := .unix, proto := .unixStream, path := ascii "/run/app" }
  upstream := { kind := .builtin, proto := .builtin, builtin := .close }

/-- A regular file at the path of the route. -/
def fileAtPath : Proxy where
  world.files path := if path = ascii "/run/app" then some .regular else none

/-- **A start removes a regular file at its listen path, and succeeds.** -/
theorem start_removes_regular_file :
    (startRoute smoothStart unixRoute fileAtPath.world).2.2 = .ok () ∧
      ¬ ∀ (s : Proxy) (es : List ListenStep), ListenPathsSpared s es := by
  refine ⟨rfl, fun spared => ?_⟩
  have replaced : (fileAtPath.step (.start 0 unixRoute smoothStart)).world.files unixRoute.listen.path = some .socket :=
    rfl
  have kept := (spared fileAtPath [.start 0 unixRoute smoothStart]).kept [] [.start 0 unixRoute smoothStart] fileAtPath
    (fileAtPath.step (.start 0 unixRoute smoothStart)) (List.prefix_refl _) rfl rfl unixRoute.listen.path .regular
    (by decide) (by decide) (by simp)
  rw [replaced] at kept
  cases kept

end Tinyproxy.Listener
