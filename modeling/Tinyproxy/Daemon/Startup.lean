import Tinyproxy.Conf.Loader
import Tinyproxy.Conf.Serve
import Tinyproxy.Daemon.CommandLine
import Tinyproxy.Lib.Ledger

/-!
# Setting up and taking down

`main` from its first call to its return, with what it takes and gives back: memory,
descriptors, events, event bases, mutexes and threads. `worker_init`, `worker_pool_init`,
`worker_pool_start`, `setup_signal_handlers` and `load_routes_from_file` are here call by
call, each with its own way back where a call fails.

The workers run beside `main` in `Daemon/Daemon.lean`; here only `main` is followed. A route
that was started is one resource, whose parts are in `Listener/Start.lean`.
-/

namespace Tinyproxy

open Lib (Ledger ascii)

/-- What `main` takes and gives back. -/
inductive Resource where
  | logMutex | inlineRoutes | line | file | data | routes | routeCtxs | base | sigint | sigterm | workers
  | workerBase (i : Nat) | pendingMu (i : Nat) | notifyRecv (i : Nat) | notifySend (i : Nat) | notifyEvent (i : Nat)
  | thread (i : Nat)
  | route (j : Nat)
  deriving DecidableEq

/-- The calls that can fail; `startRoute j` is `start_route` on the route `j`. -/
inductive StartCall where
  | klogMutex | routesCalloc | strdup (i : Nat)
  | fopen | fseekEnd | ftell | fseekSet | dataMalloc | fread
  | ctxsCalloc | eventBaseNew | sigintNew | sigtermNew | sigintAdd | sigtermAdd
  | poolCalloc | workerBase (i : Nat) | workerMutex (i : Nat) | socketpair (i : Nat) | notifyNew (i : Nat)
  | notifyAdd (i : Nat) | threadCreate (i : Nat)
  | startRoute (j : Nat) | dispatch
  deriving DecidableEq

/-- What `main` depends on. `content` is what the file of `-c` holds. -/
structure MainEnv where
  cli : CliEnv
  argv : List Bytes
  content : Bytes
  grow : Grow
  fails : StartCall → Bool

/-- `main` between two calls: what it holds, whether the log's mutex is ready, and which workers are `started`. -/
structure MainState where
  held : Ledger Resource := .of 0
  logReady : Bool := false
  started : Nat → Bool := fun _ => false

def MainState.acquire (p : MainState) (r : Resource) : MainState := { p with held := p.held.acquire r }

def MainState.release (p : MainState) (r : Resource) : MainState := { p with held := p.held.release r }

/-- `klog_init`, whose result `main` ignores. -/
def klogInit (env : MainEnv) (p : MainState) : MainState :=
  if p.logReady then p else
  if env.fails .klogMutex then p else { p.acquire .logMutex with logReady := true }

/-- `klog_free`. -/
def klogFree (p : MainState) : MainState :=
  if p.logReady then { p.release .logMutex with logReady := false } else p

/-! ## Workers -/

/-- `worker_init` on worker `i`, and whether it succeeds. -/
def workerInit (env : MainEnv) (i : Nat) (p : MainState) : MainState × Bool :=
  if env.fails (.workerBase i) then (p, false) else
  let p := p.acquire (.workerBase i)
  if env.fails (.workerMutex i) then (p.release (.workerBase i), false) else
  let p := p.acquire (.pendingMu i)
  if env.fails (.socketpair i) then ((p.release (.pendingMu i)).release (.workerBase i), false) else
  let p := (p.acquire (.notifyRecv i)).acquire (.notifySend i)
  if env.fails (.notifyNew i) then
    let p := (p.release (.notifyRecv i)).release (.notifySend i)
    ((p.release (.pendingMu i)).release (.workerBase i), false)
  else
  let p := p.acquire (.notifyEvent i)
  if env.fails (.notifyAdd i) then
    let p := p.release (.notifyEvent i)
    let p := (p.release (.notifyRecv i)).release (.notifySend i)
    ((p.release (.pendingMu i)).release (.workerBase i), false)
  else (p, true)

/-- `worker_join`. -/
def workerJoin (i : Nat) (p : MainState) : MainState :=
  if p.started i then { p.release (.thread i) with started := Function.update p.started i false } else p

/-- `worker_free`; `worker_stop` and the messages that are left take and give nothing of these. -/
def workerFree (i : Nat) (p : MainState) : MainState :=
  let p := workerJoin i p
  let p := p.release (.notifyEvent i)
  let p := (p.release (.notifyRecv i)).release (.notifySend i)
  let p := (p.release (.pendingMu i)).release (.workerBase i)
  klogFree p

/-- The way back of `worker_pool_init` from worker `i`: `while (i > 0) { i--; worker_free(...); }`. -/
def freeDown : Nat → MainState → MainState
  | 0, p => p
  | i + 1, p => freeDown i (workerFree i p)

/-- The loop of `worker_pool_init` at worker `i`, with `n` workers to go. -/
def initWorkers (env : MainEnv) : Nat → Nat → MainState → MainState × Bool
  | 0, _, p => (p, true)
  | n + 1, i, p =>
    match workerInit env i p with
    | (p, false) => ((freeDown i p).release .workers, false)
    | (p, true) => initWorkers env n (i + 1) p

/-- `worker_pool_init`. -/
def workerPoolInit (env : MainEnv) (count : Nat) (p : MainState) : MainState × Bool :=
  if count = 0 then (p, false) else
  if env.fails .poolCalloc then (p, false) else initWorkers env count 0 (p.acquire .workers)

/-- The way back of `worker_pool_start` from worker `i`. -/
def joinDown : Nat → MainState → MainState
  | 0, p => p
  | i + 1, p => joinDown i (workerJoin i p)

/-- The loop of `worker_pool_start` at worker `i`, with `n` workers to go. -/
def startWorkers (env : MainEnv) : Nat → Nat → MainState → MainState × Bool
  | 0, _, p => (p, true)
  | n + 1, i, p =>
    if env.fails (.threadCreate i) then (joinDown i p, false)
    else startWorkers env n (i + 1) { p.acquire (.thread i) with started := Function.update p.started i true }

/-- `worker_pool_join` and the loop of `worker_pool_free`: `act` on the workers from `i` on, with `n` to go. -/
def eachWorker (act : Nat → MainState → MainState) : Nat → Nat → MainState → MainState
  | 0, _, p => p
  | n + 1, i, p => eachWorker act n (i + 1) (act i p)

/-- `worker_pool_free`. -/
def workerPoolFree (count : Nat) (p : MainState) : MainState := (eachWorker workerFree count 0 p).release .workers

/-! ## Signals -/

/-- `event_free`, which does not take `NULL`. -/
def eventFree (ev : Option Resource) (p : MainState) : MainState :=
  match ev with
  | some r => p.release r
  | none => { p with held := .void }

/-- `free_signal_handlers`. -/
def freeSignalHandlers (sigintEv sigtermEv : Option Resource) (p : MainState) : MainState :=
  eventFree sigtermEv (eventFree sigintEv p)

/-- `setup_signal_handlers`, and whether it succeeds. -/
def setupSignalHandlers (env : MainEnv) (p : MainState) : MainState × Bool :=
  if env.fails .sigintNew then (freeSignalHandlers none none p, false) else
  let p := p.acquire .sigint
  if env.fails .sigtermNew then (freeSignalHandlers (some .sigint) none p, false) else
  let p := p.acquire .sigterm
  if env.fails .sigintAdd then (freeSignalHandlers (some .sigint) (some .sigterm) p, false) else
  if env.fails .sigtermAdd then (freeSignalHandlers (some .sigint) (some .sigterm) p, false) else (p, true)

/-! ## Routes -/

/-- `load_routes_from_file`: whether `*routes_out` is an array, and the routes where they could be loaded. -/
def loadRoutesFromFile (env : MainEnv) (p : MainState) : MainState × Bool × Option (List Route) :=
  if env.fails .fopen then (p, false, none) else
  let p := p.acquire .file
  if env.fails .fseekEnd then (p.release .file, false, none) else
  if env.fails .ftell then (p.release .file, false, none) else
  if env.fails .fseekSet then (p.release .file, false, none) else
  let filled : Bool := env.content ≠ []
  if filled && env.fails .dataMalloc then (p.release .file, false, none) else
  let p := if filled then p.acquire .data else p
  if filled && env.fails .fread then ((p.release .data).release .file, false, none) else
  let p := p.release .file
  let (rc, out) := loadText env.grow env.content { routes := none, count := 0 }
  let p := if out.routes.isSome then p.acquire .routes else p
  let p := if filled then p.release .data else p
  match rc with
  | .error _ => (p, out.routes.isSome, none)
  | .ok _ => (p, out.routes.isSome, some (out.routes.getD []))

/-- The loop of `main` over the arguments of `-L`, at index `i`. -/
def loadInline (env : MainEnv) (i : Nat) (routes : List Route) : List Bytes → MainState → MainState × Option (List Route)
  | [], p => (p, some routes)
  | arg :: rest, p =>
    if env.fails (.strdup i) then (p, none) else
    let p := (p.acquire .line).release .line
    match parseRouteLineInto { clearedRoute with lineNo := (i + 1) % 4294967296 } arg with
    | .error _ => (p, none)
    | .ok r => loadInline env (i + 1) (routes ++ [r]) rest p

/-- The loop of `main` that starts the routes, at route `j`; the number is `route_ctx_count` afterwards. -/
def startRoutes (env : MainEnv) (j : Nat) : List Route → MainState → MainState × Nat × Bool
  | [], p => (p, j, true)
  | r :: rest, p =>
    match validateRoute r with
    | .error _ => (p, j, false)
    | .ok _ =>
      if env.fails (.startRoute j) then (p, j, false) else startRoutes env (j + 1) rest (p.acquire (.route j))

/-- The loop of `main` that frees the routes, at route `j`, with `n` to go. -/
def freeRoutes : Nat → Nat → MainState → MainState
  | 0, _, p => p
  | n + 1, j, p => freeRoutes n (j + 1) (p.release (.route j))

/-! ## `main` -/

/-- The locals that the code at `out` looks at; an array or a base is there if it is not `NULL`. -/
structure Locals where
  inlineRoutes : Bool
  routes : Bool
  routeCtxs : Bool := false
  base : Bool := false
  signalsStarted : Bool := false
  poolReady : Bool := false
  poolStarted : Bool := false
  count : Nat := 0
  ctxCount : Nat := 0

/-- `main` from `out` on. -/
def mainOut (l : Locals) (p : MainState) : MainState :=
  let p := if l.poolStarted then eachWorker workerJoin l.count 0 p else p
  let p := freeRoutes l.ctxCount 0 p
  let p := if l.poolReady then workerPoolFree l.count p else p
  let p := if l.signalsStarted then freeSignalHandlers (some .sigint) (some .sigterm) p else p
  let p := if l.routeCtxs then p.release .routeCtxs else p
  let p := if l.base then p.release .base else p
  let p := if l.routes then p.release .routes else p
  let p := if l.inlineRoutes then p.release .inlineRoutes else p
  klogFree p

/-- `main` from `worker_pool_start` on, with its exit code. -/
def mainServe (env : MainEnv) (l : Locals) (routes : List Route) (p : MainState) : MainState × Nat :=
  match startWorkers env l.count 0 p with
  | (p, false) => (mainOut l p, 1)
  | (p, true) =>
    match startRoutes env 0 routes p with
    | (p, n, false) => (mainOut { l with poolStarted := true, ctxCount := n } p, 1)
    | (p, n, true) => (mainOut { l with poolStarted := true, ctxCount := n } p, if env.fails .dispatch then 1 else 0)

/-- `main` from the check on `route_count` on. -/
def mainSetup (env : MainEnv) (count : Nat) (l : Locals) (routes : List Route) (p : MainState) : MainState × Nat :=
  if routes = [] then (mainOut l p, 1) else
  if env.fails .ctxsCalloc then (mainOut l p, 1) else
  let l := { l with routeCtxs := true }
  let p := p.acquire .routeCtxs
  if env.fails .eventBaseNew then (mainOut l p, 1) else
  let l := { l with base := true }
  match setupSignalHandlers env (p.acquire .base) with
  | (p, false) => (mainOut l p, 1)
  | (p, true) =>
    let l := { l with signalsStarted := true }
    match workerPoolInit env count p with
    | (p, false) => (mainOut l p, 1)
    | (p, true) => mainServe env { l with poolReady := true, count := count } routes p

/-- The routes of `main`: whether `routes` is allocated, and the routes where they could be loaded. -/
def mainLoad (env : MainEnv) (o : Options) (p : MainState) : MainState × Bool × Option (List Route) :=
  if o.inlineRoutes ≠ [] then
    if env.fails .routesCalloc then (p, false, none) else
    let (p, routes) := loadInline env 0 [] o.inlineRoutes (p.acquire .routes)
    (p, true, routes)
  else loadRoutesFromFile env p

/-- `main`: what is left when it returns, and its exit code. -/
def mainProcess (env : MainEnv) : MainState × Nat :=
  let p := klogInit env {}
  match commandLine env.cli env.argv with
  | .error exit => (if exit.leaks then p.acquire .inlineRoutes else p, exit.code)
  | .ok o =>
    let p := if o.cap ≠ 0 then p.acquire .inlineRoutes else p
    let (p, array, routes) := mainLoad env o p
    let l : Locals := { inlineRoutes := o.cap ≠ 0, routes := array }
    match routes with
    | none => (mainOut l p, 1)
    | some routes => mainSetup env o.workerCount l routes p

/-! ## What is held -/

/-- `p` holds the mutex of the log, if that is ready, and `rest`; the workers from `lo` up to `hi` are started. -/
structure MainState.At (p : MainState) (lo hi : Nat) (rest : Multiset Resource) : Prop where
  held : p.held = .of ((if p.logReady then {.logMutex} else 0) + rest)
  started : ∀ i, p.started i = true ↔ lo ≤ i ∧ i < hi

namespace MainState.At

variable {p : MainState} {lo hi : Nat} {rest rest' : Multiset Resource} {r : Resource}

theorem acquire (here : p.At lo hi rest) (r : Resource) : (p.acquire r).At lo hi (r ::ₘ rest) := by
  refine ⟨?_, here.started⟩
  show p.held.acquire r = _
  rw [here.held, Ledger.acquire_of, Multiset.add_cons]
  rfl

theorem release (here : p.At lo hi (r ::ₘ rest)) : (p.release r).At lo hi rest := by
  refine ⟨?_, here.started⟩
  show p.held.release r = _
  rw [here.held, Ledger.release_add]
  rfl

theorem cast (here : p.At lo hi rest) (same : rest = rest') : p.At lo hi rest' := same ▸ here

/-- Below another one. -/
theorem release_second {top : Resource} (here : p.At lo hi (top ::ₘ r ::ₘ rest)) : (p.release r).At lo hi (top ::ₘ rest) :=
  (here.cast (Multiset.cons_swap top r rest)).release

theorem klogFree (here : p.At lo hi rest) : (klogFree p).At lo hi rest ∧ (Tinyproxy.klogFree p).logReady = false := by
  unfold Tinyproxy.klogFree
  split
  · rename_i ready
    refine ⟨⟨?_, here.started⟩, rfl⟩
    have held := here.held
    rw [if_pos ready, Multiset.singleton_add] at held
    show p.held.release .logMutex = _
    rw [held, Ledger.release_cons]
    simp
  · rename_i ready
    exact ⟨here, by simpa using ready⟩

end MainState.At

/-- What `worker_init` takes for worker `i`. -/
def workerParts (i : Nat) : Multiset Resource :=
  .notifyEvent i ::ₘ .notifySend i ::ₘ .notifyRecv i ::ₘ .pendingMu i ::ₘ .workerBase i ::ₘ 0

theorem workerParts_add (i : Nat) (rest : Multiset Resource) : workerParts i + rest =
    .notifyEvent i ::ₘ .notifySend i ::ₘ .notifyRecv i ::ₘ .pendingMu i ::ₘ .workerBase i ::ₘ rest := by
  simp only [workerParts, Multiset.cons_add, Multiset.zero_add]

section Workers

variable {env : MainEnv} {p : MainState} {lo hi i n : Nat} {rest : Multiset Resource}

/-- `worker_init` takes all of a worker's parts or none. -/
theorem workerInit_at (here : p.At lo hi rest) :
    (workerInit env i p).1.At lo hi (if (workerInit env i p).2 then workerParts i + rest else rest) := by
  have base := here.acquire (.workerBase i)
  have mutex := base.acquire (.pendingMu i)
  have pair := (mutex.acquire (.notifyRecv i)).acquire (.notifySend i)
  have event := pair.acquire (.notifyEvent i)
  unfold workerInit
  split
  · exact here
  dsimp only
  split
  · exact base.release
  split
  · exact mutex.release.release
  split
  · exact pair.release_second.release.release.release
  split
  · exact event.release.release_second.release.release.release
  · exact event.cast (workerParts_add i rest).symm

theorem workerFree_at (here : p.At 0 0 (workerParts i + rest)) : (workerFree i p).At 0 0 rest := by
  have idle : workerJoin i p = p := by
    rw [workerJoin, if_neg]
    rw [here.started]
    omega
  have parts := here.cast (workerParts_add i rest)
  unfold workerFree
  rw [idle]
  exact parts.release.release_second.release.release.release.klogFree.1

/-- The one that was started last. -/
theorem workerJoin_last (here : p.At 0 (i + 1) (.thread i ::ₘ rest)) : (workerJoin i p).At 0 i rest := by
  have own : p.started i = true := (here.started i).2 (by omega)
  rw [workerJoin, if_pos own]
  refine ⟨here.release.held, fun j => ?_⟩
  by_cases same : j = i
  · subst same
    simp
  · have other := here.started j
    simp only [Function.update_of_ne same]
    rw [other]
    omega

/-- The one that was started first. -/
theorem workerJoin_first (here : p.At lo hi (.thread lo ::ₘ rest)) (some : lo < hi) : (workerJoin lo p).At (lo + 1) hi rest := by
  have own : p.started lo = true := (here.started lo).2 (by omega)
  rw [workerJoin, if_pos own]
  refine ⟨here.release.held, fun j => ?_⟩
  by_cases same : j = lo
  · subst same
    simp
  · have other := here.started j
    simp only [Function.update_of_ne same]
    rw [other]
    omega

end Workers

/-! ## Loops -/

/-- What is held for the indices below `i`, the last one on top. -/
def downFrom (f : Nat → Multiset Resource) : Nat → Multiset Resource
  | 0 => 0
  | i + 1 => f i + downFrom f i

/-- What is held for `n` indices from `i` on, the first one on top. -/
def upFrom (f : Nat → Multiset Resource) : Nat → Nat → Multiset Resource
  | _, 0 => 0
  | i, n + 1 => f i + upFrom f (i + 1) n

theorem downFrom_add_upFrom (f : Nat → Multiset Resource) (i n : Nat) : downFrom f i + upFrom f i n = downFrom f (i + n) := by
  induction n generalizing i with
  | zero => simp [upFrom]
  | succ n ih =>
    have next := ih (i + 1)
    rw [downFrom] at next
    rw [upFrom, ← Multiset.add_assoc, Multiset.add_comm (downFrom f i), next]
    congr 1
    omega

theorem upFrom_zero (f : Nat → Multiset Resource) (n : Nat) : upFrom f 0 n = downFrom f n := by
  have whole := downFrom_add_upFrom f 0 n
  rwa [downFrom, Multiset.zero_add, Nat.zero_add] at whole

section Loops

variable {env : MainEnv} {p : MainState} {lo hi i n : Nat} {rest : Multiset Resource}

theorem freeDown_at (here : p.At 0 0 (downFrom workerParts i + rest)) : (freeDown i p).At 0 0 rest := by
  induction i generalizing p with
  | zero => exact here.cast (by rw [downFrom, Multiset.zero_add])
  | succ i ih =>
    rw [downFrom, Multiset.add_assoc] at here
    exact ih (workerFree_at here)

theorem initWorkers_at (here : p.At 0 0 (downFrom workerParts i + (.workers ::ₘ rest))) :
    (initWorkers env n i p).1.At 0 0
      (if (initWorkers env n i p).2 then downFrom workerParts (i + n) + (.workers ::ₘ rest) else rest) := by
  induction n generalizing i p with
  | zero => exact here
  | succ n ih =>
    have made := @workerInit_at env p 0 0 i _ here
    rw [initWorkers]
    cases init : workerInit env i p with
    | mk p' ok =>
      rw [init] at made
      cases ok with
      | false => exact (freeDown_at made).release
      | true =>
        have grown : p'.At 0 0 (downFrom workerParts (i + 1) + (.workers ::ₘ rest)) :=
          made.cast (by rw [if_pos rfl, downFrom, Multiset.add_assoc])
        have next := ih grown
        rw [Nat.add_right_comm] at next
        exact next

theorem workerPoolInit_at {count : Nat} (here : p.At 0 0 rest) :
    (workerPoolInit env count p).1.At 0 0
      (if (workerPoolInit env count p).2 then downFrom workerParts count + (.workers ::ₘ rest) else rest) := by
  unfold workerPoolInit
  split
  · exact here
  split
  · exact here
  · have made := @initWorkers_at env (p.acquire .workers) 0 count rest
      ((here.acquire .workers).cast (by rw [downFrom, Multiset.zero_add]))
    rwa [Nat.zero_add] at made

/-- The thread of worker `i`. -/
def threadOf (i : Nat) : Multiset Resource := {.thread i}

theorem joinDown_at (here : p.At 0 i (downFrom threadOf i + rest)) : (joinDown i p).At 0 0 rest := by
  induction i generalizing p with
  | zero => exact here.cast (by rw [downFrom, Multiset.zero_add])
  | succ i ih =>
    rw [downFrom, Multiset.add_assoc] at here
    exact ih (workerJoin_last here)

theorem startWorkers_at (here : p.At 0 i (downFrom threadOf i + rest)) :
    if (startWorkers env n i p).2 then
      (startWorkers env n i p).1.At 0 (i + n) (downFrom threadOf (i + n) + rest)
    else (startWorkers env n i p).1.At 0 0 rest := by
  induction n generalizing i p with
  | zero => exact here
  | succ n ih =>
    rw [startWorkers]
    split
    · exact joinDown_at here
    · have grown : ({ p.acquire (.thread i) with started := Function.update p.started i true } : MainState).At 0 (i + 1)
          (downFrom threadOf (i + 1) + rest) := by
        have taken := (here.acquire (.thread i)).held
        refine ⟨?_, fun j => ?_⟩
        · rw [downFrom, Multiset.add_assoc]
          exact taken
        · by_cases same : j = i
          · subst same
            simp
          · have other := here.started j
            simp only [Function.update_of_ne same]
            rw [other]
            omega
      have next := ih grown
      rw [Nat.add_right_comm] at next
      exact next

theorem eachWorker_join (here : p.At i (i + n) (upFrom threadOf i n + rest)) :
    (eachWorker workerJoin n i p).At (i + n) (i + n) rest := by
  induction n generalizing i p with
  | zero => exact here.cast (by rw [upFrom, Multiset.zero_add])
  | succ n ih =>
    rw [upFrom, Multiset.add_assoc] at here
    have shift : i + (n + 1) = i + 1 + n := by omega
    have next := workerJoin_first here (by omega)
    rw [shift] at next ⊢
    exact ih next

theorem eachWorker_free (here : p.At 0 0 (upFrom workerParts i n + rest)) : (eachWorker workerFree n i p).At 0 0 rest := by
  induction n generalizing i p with
  | zero => exact here.cast (by rw [upFrom, Multiset.zero_add])
  | succ n ih =>
    rw [upFrom, Multiset.add_assoc] at here
    exact ih (workerFree_at here)

/-- The route `j`. -/
def routeOf (j : Nat) : Multiset Resource := {.route j}

theorem freeRoutes_at (here : p.At lo hi (upFrom routeOf i n + rest)) : (freeRoutes n i p).At lo hi rest := by
  induction n generalizing i p with
  | zero => exact here.cast (by rw [upFrom, Multiset.zero_add])
  | succ n ih =>
    rw [upFrom, Multiset.add_assoc] at here
    exact ih (MainState.At.release here)

theorem startRoutes_at {routes : List Route} (here : p.At lo hi (downFrom routeOf i + rest)) :
    (startRoutes env i routes p).1.At lo hi (downFrom routeOf (startRoutes env i routes p).2.1 + rest) := by
  induction routes generalizing i p with
  | nil => exact here
  | cons r routes ih =>
    rw [startRoutes]
    split
    · exact here
    · split
      · exact here
      · exact ih ((here.acquire (.route i)).cast (by rw [downFrom, Multiset.add_assoc]; rfl))

end Loops

/-! ## The way out -/

/-- What the locals at `out` stand for, apart from threads and routes. -/
def Locals.below (l : Locals) : Multiset Resource :=
  (if l.poolReady then upFrom workerParts 0 l.count + {.workers} else 0) +
    ((if l.signalsStarted then {.sigint, .sigterm} else 0) + ((if l.routeCtxs then {.routeCtxs} else 0) +
      ((if l.base then {.base} else 0) + ((if l.routes then {.routes} else 0) +
        (if l.inlineRoutes then {.inlineRoutes} else 0)))))

/-- What the locals at `out` stand for. -/
def Locals.held (l : Locals) : Multiset Resource :=
  (if l.poolStarted then upFrom threadOf 0 l.count else 0) + (upFrom routeOf 0 l.ctxCount + l.below)

theorem Locals.held_unstarted {l : Locals} (unstarted : l.poolStarted = false) (unused : l.ctxCount = 0) :
    l.held = l.below := by
  rw [Locals.held, unstarted, unused, upFrom]
  simp

theorem Locals.held_started (l : Locals) (n : Nat) : ({ l with poolStarted := true, ctxCount := n } : Locals).held =
    downFrom routeOf n + (downFrom threadOf l.count + l.below) := by
  rw [Locals.held, if_pos rfl, upFrom_zero, upFrom_zero, ← Multiset.add_assoc, Multiset.add_comm (downFrom threadOf _),
    Multiset.add_assoc]
  rfl

theorem Locals.below_ready {l : Locals} {count : Nat} (unready : l.poolReady = false) :
    ({ l with poolReady := true, count := count } : Locals).below = downFrom workerParts count + (.workers ::ₘ l.below) := by
  simp only [Locals.below, unready, if_true, Bool.false_eq_true, if_false, Multiset.zero_add, upFrom_zero,
    Multiset.add_assoc, Multiset.singleton_add]

theorem MainState.At.releaseIf {p : MainState} {lo hi : Nat} {rest : Multiset Resource} {there : Bool} {r : Resource}
    (here : p.At lo hi ((if there then {r} else 0) + rest)) : (if there then p.release r else p).At lo hi rest := by
  cases there with
  | false => exact here.cast (by simp)
  | true => exact MainState.At.release here

theorem MainState.At.none_started {p : MainState} {k : Nat} {rest : Multiset Resource} (here : p.At k k rest) : p.At 0 0 rest := by
  refine ⟨here.held, fun i => ?_⟩
  rw [here.started]
  omega

section Out

variable {p : MainState} {count : Nat} {there : Bool} {rest : Multiset Resource}

theorem poolJoin_at (here : p.At 0 (if there then count else 0) ((if there then upFrom threadOf 0 count else 0) + rest)) :
    (if there then eachWorker workerJoin count 0 p else p).At 0 0 rest := by
  cases there with
  | false => exact here.cast (by simp)
  | true =>
    have started : p.At 0 (0 + count) (upFrom threadOf 0 count + rest) := by
      rw [Nat.zero_add]
      exact here
    exact (eachWorker_join started).none_started

theorem workerPoolFree_at (here : p.At 0 0 ((if there then upFrom workerParts 0 count + {.workers} else 0) + rest)) :
    (if there then workerPoolFree count p else p).At 0 0 rest := by
  cases there with
  | false => exact here.cast (by simp)
  | true =>
    have whole : p.At 0 0 (upFrom workerParts 0 count + (.workers ::ₘ rest)) :=
      here.cast (by rw [if_pos rfl, Multiset.add_assoc, Multiset.singleton_add])
    exact (eachWorker_free whole).release

theorem freeSignalHandlers_at {lo hi : Nat} (here : p.At lo hi ((if there then {.sigint, .sigterm} else 0) + rest)) :
    (if there then freeSignalHandlers (some .sigint) (some .sigterm) p else p).At lo hi rest := by
  cases there with
  | false => exact here.cast (by simp)
  | true =>
    have both : p.At lo hi (.sigint ::ₘ .sigterm ::ₘ rest) := here.cast (by simp)
    exact both.release.release

end Out

/-- Everything is given back at `out`. -/
theorem mainOut_at {l : Locals} {p : MainState} (here : p.At 0 (if l.poolStarted then l.count else 0) l.held) :
    (mainOut l p).held = .of 0 := by
  have pool := workerPoolFree_at (freeRoutes_at (poolJoin_at here))
  have arrays := (freeSignalHandlers_at pool).releaseIf.releaseIf.releaseIf
  have last := (arrays.cast (Multiset.add_zero _).symm).releaseIf
  obtain ⟨done, off⟩ := last.klogFree
  have held := done.held
  rw [off] at held
  exact held

theorem mainServe_at {env : MainEnv} {l : Locals} {routes : List Route} {p : MainState} (here : p.At 0 0 l.below)
    (unstarted : l.poolStarted = false) (unused : l.ctxCount = 0) : (mainServe env l routes p).1.held = .of 0 := by
  have threads := @startWorkers_at env p 0 l.count _ (here.cast (by rw [downFrom, Multiset.zero_add]))
  rw [Nat.zero_add] at threads
  unfold mainServe
  cases start : startWorkers env l.count 0 p with
  | mk p' ok =>
    rw [start] at threads
    cases ok with
    | false =>
      apply mainOut_at
      rw [unstarted, Locals.held_unstarted unstarted unused]
      exact threads
    | true =>
      have opened := @startRoutes_at env p' 0 l.count 0 _ routes (threads.cast (by rw [downFrom, Multiset.zero_add]))
      rw [← Locals.held_started] at opened
      dsimp only
      cases run : startRoutes env 0 routes p' with
      | mk p'' result =>
        obtain ⟨n, ok⟩ := result
        rw [run] at opened
        cases ok with
        | false => exact mainOut_at opened
        | true => exact mainOut_at opened

/-- `setup_signal_handlers` calls `event_free` with `NULL` where an event could not be made, and gives back what it has
taken otherwise. -/
theorem setupSignalHandlers_at {env : MainEnv} {p : MainState} {lo hi : Nat} {rest : Multiset Resource}
    (here : p.At lo hi rest) :
    if env.fails .sigintNew || env.fails .sigtermNew then
      (setupSignalHandlers env p).1.held = .void ∧ (setupSignalHandlers env p).2 = false
    else (setupSignalHandlers env p).1.At lo hi
      (if (setupSignalHandlers env p).2 then {.sigint, .sigterm} + rest else rest) := by
  have both := ((here.acquire .sigint).acquire .sigterm).cast (Multiset.cons_swap _ _ _)
  unfold setupSignalHandlers
  cases first : env.fails .sigintNew with
  | true => exact ⟨rfl, rfl⟩
  | false =>
    cases second : env.fails .sigtermNew with
    | true => exact ⟨rfl, rfl⟩
    | false =>
      simp only [Bool.or_false, Bool.false_eq_true, if_false]
      split
      · exact both.release.release
      split
      · exact both.release.release
      · exact both.cast (by simp)

/-! ## Loading -/

section Loading

variable {env : MainEnv} {p : MainState} {lo hi : Nat} {rest : Multiset Resource}

theorem loadInline_at {i : Nat} {routes : List Route} {args : List Bytes} (here : p.At lo hi rest) :
    (loadInline env i routes args p).1.At lo hi rest := by
  induction args generalizing i routes p with
  | nil => exact here
  | cons arg args ih =>
    have line := (here.acquire .line).release
    rw [loadInline]
    split
    · exact here
    dsimp only
    split
    · exact line
    · exact ih line

theorem loadRoutesFromFile_at (here : p.At lo hi rest) :
    (loadRoutesFromFile env p).1.At lo hi ((if (loadRoutesFromFile env p).2.1 then {.routes} else 0) + rest) := by
  have file := here.acquire .file
  have none : ∀ {p : MainState}, p.At lo hi rest → p.At lo hi ((if false = true then {.routes} else 0) + rest) :=
    fun here => here.cast (by simp)
  unfold loadRoutesFromFile
  split
  · exact none here
  dsimp only
  split
  · exact none file.release
  split
  · exact none file.release
  split
  · exact none file.release
  -- the array stays, on top of the data that is freed below it
  have array : ∀ {p : MainState} {there : Bool} {rest : Multiset Resource}, p.At lo hi rest →
      (if there then p.acquire .routes else p).At lo hi ((if there then {.routes} else 0) + rest) := by
    intro p there rest here
    cases there with
    | false => exact here.cast (by simp)
    | true => exact here.acquire .routes
  generalize decide (env.content ≠ []) = filled
  generalize loadText env.grow env.content { routes := .none, count := 0 } = out
  cases filled with
  | false =>
    simp only [Bool.false_and, Bool.false_eq_true, if_false]
    split
    · exact array file.release
    · exact array file.release
  | true =>
    have data := file.acquire .data
    simp only [Bool.true_and, if_true]
    split
    · exact none file.release
    split
    · exact none data.release.release
    have loaded := @array _ out.2.routes.isSome _ data.release_second
    have kept := (loaded.cast (Multiset.add_cons _ _ _)).release
    split
    · exact kept
    · exact kept

theorem mainLoad_at {o : Options} (here : p.At lo hi rest) :
    (mainLoad env o p).1.At lo hi ((if (mainLoad env o p).2.1 then {.routes} else 0) + rest) := by
  unfold mainLoad
  split
  · split
    · exact here.cast (by simp)
    · exact loadInline_at (here.acquire .routes)
  · exact loadRoutesFromFile_at here

theorem loadInline_routes (i : Nat) (routes : List Route) (args : List Bytes) (p p' : MainState) :
    (loadInline env i routes args p).2 = (loadInline env i routes args p').2 := by
  induction args generalizing i routes p p' with
  | nil => rfl
  | cons arg args ih =>
    rw [loadInline, loadInline]
    split
    · rfl
    dsimp only
    split
    · rfl
    · exact ih _ _ _ _

/-- The routes do not depend on what `main` holds. -/
theorem mainLoad_routes (o : Options) (p p' : MainState) : (mainLoad env o p).2.2 = (mainLoad env o p').2.2 := by
  unfold mainLoad
  split
  · split
    · rfl
    · exact loadInline_routes _ _ _ _ _
  · unfold loadRoutesFromFile
    split
    · rfl
    dsimp only
    split
    · rfl
    split
    · rfl
    split
    · rfl
    split
    · rfl
    split
    · rfl
    split
    · rfl
    · rfl

end Loading

/-! ## The whole of `main` -/

/-- The routes that `main` loads. -/
def loadedRoutes (env : MainEnv) (o : Options) : Option (List Route) := (mainLoad env o {}).2.2

/-- `main` gets to `setup_signal_handlers`, and an event cannot be made there. -/
def SignalsUnmade (env : MainEnv) (o : Options) : Prop :=
  (∃ routes, loadedRoutes env o = some routes ∧ routes ≠ []) ∧ env.fails .ctxsCalloc = false ∧
    env.fails .eventBaseNew = false ∧ (env.fails .sigintNew || env.fails .sigtermNew) = true

theorem mainOut_void {l : Locals} {p : MainState} (void : p.held = .void) (unstarted : l.poolStarted = false)
    (unready : l.poolReady = false) (unused : l.ctxCount = 0) (signals : l.signalsStarted = false) :
    (mainOut l p).held = .void := by
  have release : ∀ {p : MainState} {there : Bool} {r : Resource}, p.held = .void →
      (if there then p.release r else p).held = .void := by
    intro p there r void
    cases there with
    | false => exact void
    | true =>
      show p.held.release r = .void
      rw [void]
      rfl
  have klog : ∀ {p : MainState}, p.held = .void → (klogFree p).held = .void := by
    intro p void
    unfold klogFree
    split
    · show p.held.release .logMutex = .void
      rw [void]
      rfl
    · exact void
  simp only [mainOut, unstarted, unready, unused, signals, freeRoutes, Bool.false_eq_true, if_false]
  exact klog (release (release (release (release void))))

/-- `goto out` before the workers are started. -/
theorem mainOut_below {l : Locals} {p : MainState} (here : p.At 0 0 l.below) (unstarted : l.poolStarted = false)
    (unused : l.ctxCount = 0) : (mainOut l p).held = .of 0 := by
  apply mainOut_at
  rw [unstarted, Locals.held_unstarted unstarted unused]
  exact here

theorem mainSetup_at {env : MainEnv} {count : Nat} {inlineRoutes array : Bool} {routes : List Route} {p : MainState}
    (here : p.At 0 0 (Locals.below { inlineRoutes := inlineRoutes, routes := array })) :
    (mainSetup env count { inlineRoutes := inlineRoutes, routes := array } routes p).1.held =
      if routes ≠ [] ∧ env.fails .ctxsCalloc = false ∧ env.fails .eventBaseNew = false ∧
        (env.fails .sigintNew || env.fails .sigtermNew) = true then .void else .of 0 := by
  unfold mainSetup
  by_cases none : routes = []
  · rw [if_pos none, if_neg (fun all => all.1 none)]
    exact mainOut_below here rfl rfl
  rw [if_neg none]
  cases ctxs : env.fails .ctxsCalloc with
  | true =>
    simp only [if_true, Bool.true_eq_false, false_and, and_false, if_false]
    exact mainOut_below here rfl rfl
  | false =>
    have arrays : (p.acquire .routeCtxs).At 0 0
        (Locals.below { inlineRoutes := inlineRoutes, routes := array, routeCtxs := true }) :=
      (here.acquire .routeCtxs).cast (by simp [Locals.below])
    cases base : env.fails .eventBaseNew with
    | true =>
      simp only [if_true, Bool.true_eq_false, Bool.false_eq_true, false_and, and_false, if_false]
      exact mainOut_below arrays rfl rfl
    | false =>
      have based : ((p.acquire .routeCtxs).acquire .base).At 0 0
          (Locals.below { inlineRoutes := inlineRoutes, routes := array, routeCtxs := true, base := true }) :=
        (arrays.acquire .base).cast (by simp [Locals.below])
      have signals := @setupSignalHandlers_at env _ _ _ _ based
      simp only [Bool.false_eq_true, if_false, none, ne_eq, not_false_eq_true, true_and]
      cases setup : setupSignalHandlers env ((p.acquire .routeCtxs).acquire .base) with
      | mk p' ok =>
        rw [setup] at signals
        cases unmade : env.fails .sigintNew || env.fails .sigtermNew with
        | true =>
          rw [unmade] at signals
          obtain ⟨void, failed⟩ := signals
          cases failed
          exact mainOut_void void rfl rfl rfl rfl
        | false =>
          rw [unmade] at signals
          cases ok with
          | false => exact mainOut_below signals rfl rfl
          | true =>
            have handled : p'.At 0 0 (Locals.below
                ⟨inlineRoutes, array, true, true, true, false, false, 0, 0⟩) := signals.cast (by simp [Locals.below])
            have pool := @workerPoolInit_at env p' _ count handled
            dsimp only
            cases init : workerPoolInit env count p' with
            | mk p'' ok =>
              rw [init] at pool
              cases ok with
              | false => exact mainOut_below pool rfl rfl
              | true =>
                apply mainServe_at _ rfl rfl
                exact pool.cast (Locals.below_ready rfl).symm

/-! ## The exit code -/

/-- The calls of `worker_init` and `worker_start` on a worker succeed. -/
structure WorkerUp (env : MainEnv) (i : Nat) : Prop where
  base : env.fails (.workerBase i) = false
  mutex : env.fails (.workerMutex i) = false
  socketpair : env.fails (.socketpair i) = false
  eventNew : env.fails (.notifyNew i) = false
  eventAdd : env.fails (.notifyAdd i) = false
  thread : env.fails (.threadCreate i) = false

/-- `main` serves these routes until its loop ends. -/
structure Served (env : MainEnv) (o : Options) (routes : List Route) : Prop where
  loaded : loadedRoutes env o = some routes
  some : routes ≠ []
  ctxs : env.fails .ctxsCalloc = false
  base : env.fails .eventBaseNew = false
  signals : env.fails .sigintNew = false ∧ env.fails .sigtermNew = false ∧ env.fails .sigintAdd = false ∧
    env.fails .sigtermAdd = false
  pool : 0 < o.workerCount ∧ env.fails .poolCalloc = false
  workers : ∀ i, i < o.workerCount → WorkerUp env i
  valid : ∀ r ∈ routes, validateRoute r = .ok ()
  started : ∀ j, j < routes.length → env.fails (.startRoute j) = false
  ended : env.fails .dispatch = false

section Codes

variable {env : MainEnv}

theorem workerInit_ok (i : Nat) (p : MainState) : (workerInit env i p).2 = true ↔
    env.fails (.workerBase i) = false ∧ env.fails (.workerMutex i) = false ∧ env.fails (.socketpair i) = false ∧
      env.fails (.notifyNew i) = false ∧ env.fails (.notifyAdd i) = false := by
  unfold workerInit
  dsimp only
  split
  · simp [*]
  split
  · simp [*]
  split
  · simp [*]
  split
  · simp [*]
  split
  · simp [*]
  · simp_all

theorem initWorkers_ok (n i : Nat) (p : MainState) : (initWorkers env n i p).2 = true ↔
    ∀ k, i ≤ k → k < i + n → env.fails (.workerBase k) = false ∧ env.fails (.workerMutex k) = false ∧
      env.fails (.socketpair k) = false ∧ env.fails (.notifyNew k) = false ∧ env.fails (.notifyAdd k) = false := by
  induction n generalizing i p with
  | zero =>
    simp only [initWorkers, true_iff]
    intro k behind inside
    omega
  | succ n ih =>
    have own := @workerInit_ok env i p
    rw [initWorkers]
    cases init : workerInit env i p with
    | mk p' ok =>
      rw [init] at own
      cases ok with
      | false =>
        simp only [Bool.false_eq_true, false_iff] at own ⊢
        exact fun all => own (all i le_rfl (by omega))
      | true =>
        simp only [true_iff] at own
        dsimp only
        rw [ih]
        constructor
        · intro later k behind inside
          by_cases first : k = i
          · exact first ▸ own
          · exact later k (by omega) (by omega)
        · intro all k behind inside
          exact all k (by omega) (by omega)

theorem startWorkers_ok (n i : Nat) (p : MainState) : (startWorkers env n i p).2 = true ↔
    ∀ k, i ≤ k → k < i + n → env.fails (.threadCreate k) = false := by
  induction n generalizing i p with
  | zero =>
    simp only [startWorkers, true_iff]
    intro k behind inside
    omega
  | succ n ih =>
    rw [startWorkers]
    cases own : env.fails (.threadCreate i) with
    | true =>
      simp only [if_true, Bool.false_eq_true, false_iff]
      intro all
      rw [all i le_rfl (by omega)] at own
      cases own
    | false =>
      simp only [Bool.false_eq_true, if_false]
      rw [ih]
      constructor
      · intro later k behind inside
        by_cases first : k = i
        · exact first ▸ own
        · exact later k (by omega) (by omega)
      · intro all k behind inside
        exact all k (by omega) (by omega)

theorem startRoutes_ok (i : Nat) (routes : List Route) (p : MainState) : (startRoutes env i routes p).2.2 = true ↔
    (∀ r ∈ routes, validateRoute r = .ok ()) ∧ ∀ j, j < routes.length → env.fails (.startRoute (i + j)) = false := by
  induction routes generalizing i p with
  | nil => simp [startRoutes]
  | cons r routes ih =>
    rw [startRoutes]
    cases valid : validateRoute r with
    | error rc =>
      simp only [Bool.false_eq_true, false_iff]
      intro all
      rw [all.1 r List.mem_cons_self] at valid
      cases valid
    | ok u =>
      cases own : env.fails (.startRoute i) with
      | true =>
        simp only [if_true, Bool.false_eq_true, false_iff]
        intro all
        have first := all.2 0 (by simp)
        rw [Nat.add_zero, own] at first
        cases first
      | false =>
        simp only [Bool.false_eq_true, if_false]
        rw [ih, List.forall_mem_cons]
        refine ⟨fun later => ⟨⟨valid, later.1⟩, fun j inside => ?_⟩, fun all => ⟨all.1.2, fun j inside => ?_⟩⟩
        · cases j with
          | zero => exact own
          | succ j =>
            rw [← Nat.add_assoc, Nat.add_right_comm]
            exact later.2 j (by simpa using inside)
        · rw [Nat.add_right_comm, Nat.add_assoc]
          exact all.2 (j + 1) (by simpa using inside)

theorem mainServe_code {l : Locals} {routes : List Route} {p : MainState} : (mainServe env l routes p).2 = 0 ↔
    (∀ i, i < l.count → env.fails (.threadCreate i) = false) ∧ (∀ r ∈ routes, validateRoute r = .ok ()) ∧
      (∀ j, j < routes.length → env.fails (.startRoute j) = false) ∧ env.fails .dispatch = false := by
  have threads := @startWorkers_ok env l.count 0 p
  simp only [Nat.zero_add, Nat.zero_le, true_implies] at threads
  unfold mainServe
  cases start : startWorkers env l.count 0 p with
  | mk p' ok =>
    rw [start] at threads
    cases ok with
    | false =>
      simp only [Bool.false_eq_true, false_iff] at threads
      simp [threads]
    | true =>
      have opened := @startRoutes_ok env 0 routes p'
      simp only [Nat.zero_add] at opened
      dsimp only
      cases run : startRoutes env 0 routes p' with
      | mk p'' result =>
        obtain ⟨n, ok⟩ := result
        rw [run] at opened
        cases ok with
        | false =>
          simp only [Bool.false_eq_true, false_iff] at opened
          simp only [Nat.one_ne_zero, false_iff]
          exact fun all => opened ⟨all.2.1, all.2.2.1⟩
        | true =>
          have ended : (if env.fails .dispatch then 1 else 0) = 0 ↔ env.fails .dispatch = false := by
            cases env.fails .dispatch <;> decide
          rw [ended]
          exact ⟨fun last => ⟨threads.1 rfl, (opened.1 rfl).1, (opened.1 rfl).2, last⟩, fun all => all.2.2.2⟩

theorem setupSignalHandlers_ok (p : MainState) : (setupSignalHandlers env p).2 = true ↔
    env.fails .sigintNew = false ∧ env.fails .sigtermNew = false ∧ env.fails .sigintAdd = false ∧
      env.fails .sigtermAdd = false := by
  unfold setupSignalHandlers
  dsimp only
  split
  · simp [*]
  split
  · simp [*]
  split
  · simp [*]
  split
  · simp [*]
  · simp_all

theorem workerPoolInit_ok (count : Nat) (p : MainState) : (workerPoolInit env count p).2 = true ↔
    (0 < count ∧ env.fails .poolCalloc = false) ∧ ∀ k, k < count → env.fails (.workerBase k) = false ∧
      env.fails (.workerMutex k) = false ∧ env.fails (.socketpair k) = false ∧ env.fails (.notifyNew k) = false ∧
        env.fails (.notifyAdd k) = false := by
  have loop := @initWorkers_ok env count 0 (p.acquire .workers)
  simp only [Nat.zero_add, Nat.zero_le, true_implies] at loop
  unfold workerPoolInit
  split
  · rename_i none
    simp [none]
  · rename_i some
    split
    · rename_i failed
      simp [failed]
    · rename_i made
      rw [loop]
      exact ⟨fun all => ⟨⟨by omega, by simpa using made⟩, all⟩, fun all => all.2⟩

theorem mainSetup_code {count : Nat} {l : Locals} {routes : List Route} {p : MainState} :
    (mainSetup env count l routes p).2 = 0 ↔ routes ≠ [] ∧ env.fails .ctxsCalloc = false ∧
      env.fails .eventBaseNew = false ∧
      (env.fails .sigintNew = false ∧ env.fails .sigtermNew = false ∧ env.fails .sigintAdd = false ∧
        env.fails .sigtermAdd = false) ∧ (0 < count ∧ env.fails .poolCalloc = false) ∧
      (∀ i, i < count → WorkerUp env i) ∧ (∀ r ∈ routes, validateRoute r = .ok ()) ∧
      (∀ j, j < routes.length → env.fails (.startRoute j) = false) ∧ env.fails .dispatch = false := by
  unfold mainSetup
  by_cases none : routes = []
  · simp [none]
  rw [if_neg none]
  cases ctxs : env.fails .ctxsCalloc with
  | true => simp
  | false =>
    cases base : env.fails .eventBaseNew with
    | true => simp
    | false =>
      simp only [Bool.false_eq_true, if_false]
      have signals := @setupSignalHandlers_ok env ((p.acquire .routeCtxs).acquire .base)
      cases setup : setupSignalHandlers env ((p.acquire .routeCtxs).acquire .base) with
      | mk p' ok =>
        rw [setup] at signals
        cases ok with
        | false =>
          simp only [Bool.false_eq_true, false_iff] at signals
          simp only [Nat.one_ne_zero, false_iff]
          exact fun all => signals all.2.2.2.1
        | true =>
          have pool := @workerPoolInit_ok env count p'
          dsimp only
          cases init : workerPoolInit env count p' with
          | mk p'' ok =>
            rw [init] at pool
            cases ok with
            | false =>
              simp only [Bool.false_eq_true, false_iff] at pool
              simp only [Nat.one_ne_zero, false_iff]
              intro all
              refine pool ⟨all.2.2.2.2.1, fun k inside => ?_⟩
              have up := all.2.2.2.2.2.1 k inside
              exact ⟨up.base, up.mutex, up.socketpair, up.eventNew, up.eventAdd⟩
            | true =>
              obtain ⟨made, parts⟩ := pool.1 rfl
              dsimp only
              rw [mainServe_code]
              constructor
              · rintro ⟨threads, valid, started, ended⟩
                refine ⟨none, trivial, trivial, signals.1 rfl, made, fun i inside => ?_, valid, started, ended⟩
                obtain ⟨b, m, pair, n, a⟩ := parts i inside
                exact ⟨b, m, pair, n, a, threads i inside⟩
              · rintro ⟨-, -, -, -, -, up, valid, started, ended⟩
                exact ⟨fun i inside => (up i inside).thread, valid, started, ended⟩

end Codes

/-- **What `main` takes it gives back.** -/
theorem startup_given_back (env : MainEnv) :
    (∀ exit, commandLine env.cli env.argv = .error exit →
      (mainProcess env).1.held =
          .of ((if env.fails .klogMutex then 0 else {.logMutex}) + if exit.leaks then {.inlineRoutes} else 0) ∧
        (mainProcess env).2 = exit.code) ∧
      ∀ o, commandLine env.cli env.argv = .ok o →
        (SignalsUnmade env o → (mainProcess env).1.held = .void) ∧
        (¬ SignalsUnmade env o → (mainProcess env).1.held = .of 0) ∧
        ((mainProcess env).2 = 0 ↔ ∃ routes, Served env o routes) := by
  have log : (klogInit env {}).At 0 0 0 ∧
      (klogInit env {}).held = .of (if env.fails .klogMutex then 0 else {.logMutex}) := by
    unfold klogInit
    cases env.fails .klogMutex with
    | true => exact ⟨⟨rfl, by simp⟩, rfl⟩
    | false => exact ⟨⟨rfl, by simp [MainState.acquire]⟩, rfl⟩
  constructor
  · intro exit returned
    simp only [mainProcess, returned, and_true]
    cases exit.leaks with
    | false => simpa using log.2
    | true =>
      show (klogInit env {}).held.acquire .inlineRoutes = _
      rw [log.2, Ledger.acquire_of, if_pos rfl, Multiset.add_comm, Multiset.singleton_add]
  · intro o read
    simp only [mainProcess, read]
    have array : (if o.cap ≠ 0 then (klogInit env {}).acquire .inlineRoutes else klogInit env {}).At 0 0
        (if o.cap ≠ 0 then {.inlineRoutes} else 0) := by
      split
      · exact log.1.acquire .inlineRoutes
      · exact log.1
    generalize (if o.cap ≠ 0 then (klogInit env {}).acquire .inlineRoutes else klogInit env {}) = p at array
    have loaded := @mainLoad_at env p 0 0 _ o array
    have same : loadedRoutes env o = (mainLoad env o p).2.2 := mainLoad_routes o _ _
    cases load : mainLoad env o p with
    | mk p' result =>
      obtain ⟨there, routes⟩ := result
      rw [load] at loaded same
      have here : p'.At 0 0 (Locals.below { inlineRoutes := o.cap ≠ 0, routes := there }) :=
        loaded.cast (by simp [Locals.below])
      cases routes with
      | none =>
        have unloaded : ¬ ∃ routes, loadedRoutes env o = some routes := by
          rw [same]
          simp
        refine ⟨fun unmade => ?_, fun _ => mainOut_below here rfl rfl, ?_⟩
        · obtain ⟨routes, own, -⟩ := unmade.1
          exact absurd ⟨routes, own⟩ unloaded
        · simp only [Nat.one_ne_zero, false_iff]
          rintro ⟨routes, served⟩
          exact unloaded ⟨routes, served.loaded⟩
      | some routes =>
        have held := @mainSetup_at env o.workerCount _ there routes p' here
        have unmade : SignalsUnmade env o ↔ routes ≠ [] ∧ env.fails .ctxsCalloc = false ∧
            env.fails .eventBaseNew = false ∧ (env.fails .sigintNew || env.fails .sigtermNew) = true := by
          simp [SignalsUnmade, same]
        refine ⟨fun null => ?_, fun made => ?_, ?_⟩
        · rw [held, if_pos (unmade.1 null)]
        · rw [held, if_neg (mt unmade.2 made)]
        · rw [mainSetup_code]
          constructor
          · rintro ⟨some, ctxs, base, signals, pool, workers, valid, started, ended⟩
            exact ⟨routes, same, some, ctxs, base, signals, pool, workers, valid, started, ended⟩
          · rintro ⟨others, served⟩
            have own : others = routes := Option.some.inj (served.loaded.symm.trans same)
            subst own
            exact ⟨served.some, served.ctxs, served.base, served.signals, served.pool, served.workers, served.valid,
              served.started, served.ended⟩

/-- One route from a file, and only this call fails. -/
def oneRouteEnv (failing : Option StartCall) : MainEnv where
  cli := ⟨1, fun _ => true, true⟩
  argv := [ascii "-cf"]
  content := ascii "tcp :80 tcp 1.2.3.4:80"
  grow := ampleMemory
  fails call := some call = failing

example : (mainProcess (oneRouteEnv none)).2 = 0 := by decide +kernel

example : (mainProcess (oneRouteEnv (some .sigtermNew))).1.held = .void := by decide +kernel

end Tinyproxy
