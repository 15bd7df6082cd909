import Tinyproxy.Daemon.Teardown
import Tinyproxy.Lib.RoundRobin

/-!
# From the listeners to the workers

The callbacks run one at a time and each of them hands its client or packet to one
worker, so a message is known to that worker alone, and a worker's queue holds messages
in the order of their callbacks. `main` leaves its event loop before it stops the first
worker: no call is ever refused, and an accepted socket has one owner from its callback
to the exit of the process.
-/

namespace Tinyproxy

/-- A call for client or packet `k` has reached this worker. -/
def Acceptor.Touched (a : Acceptor) (k : Nat) : Prop := a.accepts k ≠ .fresh ∨ a.worker.enqueues k ≠ .fresh

/-- The worker client or packet `k` was given to; a client `accept_cb` has dropped is in the lists of worker 0. -/
def Daemon.home (s : Daemon) (k : Nat) : Nat := ((s.chosen[k]?).getD none).getD 0

/-- The calls and the messages, by number. -/
structure Numbered (g : Setup) (s : Daemon) : Prop where
  inside : ∀ k, s.home k < g.count
  homed : ∀ i k, (s.workers i).Touched k → k < s.chosen.length ∧ s.home k = i
  origin : ∀ k, k < s.chosen.length → g.ctxOf k < s.ctxCount
  current : ∀ i k, s.phase = .dispatching i k → s.home k = i ∧ k + 1 = s.chosen.length
  back : ∀ k, k < s.chosen.length → (∀ i, s.phase ≠ .dispatching i k) →
    (Call.enqueue k).returned g.msgs (s.workers (s.home k)) = true
  ascending : ∀ i, (s.workers i).worker.appended.Pairwise (· < ·)
  unrefused : ∀ i k, (s.workers i).worker.enqueues k ≠ .refused ∧
    (s.workers i).worker.enqueues k ≠ .returned (some .ecanceled)

theorem numbered_start (g : Setup) : Numbered g {} where
  inside _ := g.nonempty
  homed i k touched := by rcases touched with touched | touched <;> exact absurd rfl touched
  origin := nofun
  current := nofun
  back := nofun
  ascending _ := List.Pairwise.nil
  unrefused _ _ := ⟨nofun, nofun⟩

theorem home_snoc {s : Daemon} {o : Option Nat} {k : Nat} (old : k < s.chosen.length) (t : Daemon)
    (chosen : t.chosen = s.chosen ++ [o]) : t.home k = s.home k := by
  rw [Daemon.home, Daemon.home, chosen, List.getElem?_append_left old]

theorem home_last {s : Daemon} {o : Option Nat} (t : Daemon) (chosen : t.chosen = s.chosen ++ [o]) :
    t.home s.chosen.length = o.getD 0 := by
  rw [Daemon.home, chosen, List.getElem?_concat_length]
  rfl

/-- Whether the call for `k` has returned depends on its two calls only. -/
theorem returned_congr {msgs : Nat → WorkerMsg} {a a' : Acceptor} {k : Nat} (accepts : a'.accepts k = a.accepts k)
    (enqueues : a'.worker.enqueues k = a.worker.enqueues k) :
    (Call.enqueue k).returned msgs a' = (Call.enqueue k).returned msgs a := by
  simp only [Call.returned, accepts, enqueues]

theorem MainPhase.call_enqueue {p : MainPhase} {i k : Nat} (calls : p.call = some (i, .enqueue k)) :
    p = .dispatching i k := by
  cases p with
  | dispatching j m =>
    obtain ⟨rfl, rfl⟩ : j = i ∧ m = k := by simpa [MainPhase.call] using calls
    rfl
  | _ => simp [MainPhase.call] at calls

namespace Numbered

variable {g : Setup} {s s' : Daemon} {i : Nat} {a : Acceptor}

/-- Nothing changes but where `main` is, outside a callback before and after. -/
theorem moves (numbered : Numbered g s) (workers : s'.workers = s.workers) (chosen : s'.chosen = s.chosen)
    (ctxCount : s.ctxCount ≤ s'.ctxCount) (outside : ∀ i k, s'.phase ≠ .dispatching i k)
    (back : ∀ i k, s.phase = .dispatching i k → (Call.enqueue k).returned g.msgs (s.workers i) = true) :
    Numbered g s' := by
  have home : s'.home = s.home := by
    funext k
    rw [Daemon.home, Daemon.home, chosen]
  constructor
  · rw [home]
    exact numbered.inside
  · rw [workers, chosen, home]
    exact numbered.homed
  · intro k known
    rw [chosen] at known
    exact Nat.lt_of_lt_of_le (numbered.origin k known) ctxCount
  · exact fun i k phase => absurd phase (outside i k)
  · intro k known _
    rw [chosen] at known
    rw [workers, home]
    by_cases busy : ∃ i, s.phase = .dispatching i k
    · obtain ⟨i, phase⟩ := busy
      rw [(numbered.current i k phase).1]
      exact back i k phase
    · exact numbered.back k known fun i phase => busy ⟨i, phase⟩
  · rw [workers]
    exact numbered.ascending
  · rw [workers]
    exact numbered.unrefused

/-- A worker changes without any call or message changing. -/
theorem keeps (numbered : Numbered g s) {ready : Bool} (accepts : a.accepts = (s.workers i).accepts)
    (enqueues : a.worker.enqueues = (s.workers i).worker.enqueues)
    (appended : a.worker.appended = (s.workers i).worker.appended) :
    Numbered g { s with workers := Function.update s.workers i a, logReady := ready } := by
  have same : ∀ j, (Function.update s.workers i a j).accepts = (s.workers j).accepts ∧
      (Function.update s.workers i a j).worker.enqueues = (s.workers j).worker.enqueues ∧
      (Function.update s.workers i a j).worker.appended = (s.workers j).worker.appended := by
    intro j
    by_cases own : j = i
    · subst own
      rw [Function.update_self]
      exact ⟨accepts, enqueues, appended⟩
    · rw [Function.update_of_ne own]
      exact ⟨rfl, rfl, rfl⟩
  constructor
  · exact numbered.inside
  · intro j k touched
    dsimp only [Acceptor.Touched] at touched
    rw [(same j).1, (same j).2.1] at touched
    exact numbered.homed j k touched
  · exact numbered.origin
  · exact numbered.current
  · intro k known outside
    obtain ⟨accepts, enqueues, -⟩ := same (s.home k)
    exact (returned_congr (congrFun accepts k) (congrFun enqueues k)).trans (numbered.back k known outside)
  · intro j
    dsimp only
    rw [(same j).2.2]
    exact numbered.ascending j
  · intro j k
    dsimp only
    rw [(same j).2.1]
    exact numbered.unrefused j k

/-- The callback `main` is in moves its own call on. -/
theorem calls (numbered : Numbered g s) {k : Nat} {ready : Bool} (phase : s.phase = .dispatching i k)
    (running : (s.workers i).worker.stopping = false) (accepts : ∀ j, j ≠ k → a.accepts j = (s.workers i).accepts j)
    (step : EnqueueStep k (s.workers i).worker a.worker) (recorded : Recorded (s.workers i).worker) :
    Numbered g { s with workers := Function.update s.workers i a, logReady := ready } := by
  obtain ⟨home, last⟩ := numbered.current i k phase
  constructor
  · exact numbered.inside
  · intro j m touched
    by_cases own : j = i
    · subst own
      by_cases same : m = k
      · subst same
        exact ⟨by dsimp only; omega, home⟩
      · dsimp only [Acceptor.Touched] at touched
        rw [Function.update_self, accepts m same, step.others m same] at touched
        exact numbered.homed j m touched
    · dsimp only at touched
      rw [Function.update_of_ne own] at touched
      exact numbered.homed j m touched
  · exact numbered.origin
  · exact numbered.current
  · intro m known outside
    have other : m ≠ k := by
      rintro rfl
      exact outside i phase
    refine Eq.trans (returned_congr ?_ ?_) (numbered.back m known outside)
    · show (Function.update s.workers i a (s.home m)).accepts m = _
      by_cases own : s.home m = i
      · rw [own, Function.update_self, accepts m other]
      · rw [Function.update_of_ne own]
    · show (Function.update s.workers i a (s.home m)).worker.enqueues m = _
      by_cases own : s.home m = i
      · rw [own, Function.update_self, step.others m other]
      · rw [Function.update_of_ne own]
  · intro j
    by_cases own : j = i
    · subst own
      dsimp only
      rw [Function.update_self]
      rcases step.appended with same | ⟨new, appends⟩
      · rw [same]
        exact numbered.ascending j
      · rw [appends]
        apply List.pairwise_append.2 ⟨numbered.ascending j, List.pairwise_singleton _ _, ?_⟩
        -- what the worker has is older than the call `main` is in, and is not this call's
        intro m mem n single
        rw [List.mem_singleton] at single
        subst single
        have queued := (recorded.appended m).1 mem
        have known : m < s.chosen.length := by
          refine (numbered.homed j m (.inr ?_)).1
          intro fresh
          rw [fresh] at queued
          rcases queued with h | h <;> cases h
        have other : m ≠ n := by
          rintro rfl
          rw [new] at queued
          rcases queued with h | h <;> cases h
        omega
    · dsimp only
      rw [Function.update_of_ne own]
      exact numbered.ascending j
  · intro j m
    by_cases own : j = i
    · subst own
      dsimp only
      rw [Function.update_self]
      by_cases same : m = k
      · subst same
        obtain ⟨unrefused, uncancelled⟩ := numbered.unrefused j m
        exact step.kept running unrefused uncancelled
      · rw [step.others m same]
        exact numbered.unrefused j m
    · dsimp only
      rw [Function.update_of_ne own]
      exact numbered.unrefused j m

/-- The next client or packet is given to worker `i`, or dropped. -/
theorem numbers (numbered : Numbered g s) {o : Option Nat} {p : MainPhase} {n : Nat} (phase : s.phase = .serving)
    (inside : o.getD 0 < g.count) (origin : g.ctxOf s.chosen.length < s.ctxCount)
    (accepts : ∀ j, j ≠ s.chosen.length → a.accepts j = (s.workers (o.getD 0)).accepts j)
    (worker : a.worker = (s.workers (o.getD 0)).worker)
    (goes : ∀ i k, p = .dispatching i k → o = some i ∧ k = s.chosen.length)
    (back : (∀ i, p ≠ .dispatching i s.chosen.length) → (Call.enqueue s.chosen.length).returned g.msgs a = true) :
    Numbered g { s with
      workers := Function.update s.workers (o.getD 0) a
      next := n
      chosen := s.chosen ++ [o]
      phase := p } := by
  have old : ∀ j m, m ≠ s.chosen.length →
      (Function.update s.workers (o.getD 0) a j).accepts m = (s.workers j).accepts m := by
    intro j m other
    by_cases own : j = o.getD 0
    · subst own
      rw [Function.update_self, accepts m other]
    · rw [Function.update_of_ne own]
  have still : ∀ j, (Function.update s.workers (o.getD 0) a j).worker = (s.workers j).worker := by
    intro j
    by_cases own : j = o.getD 0
    · subst own
      rw [Function.update_self, worker]
    · rw [Function.update_of_ne own]
  have unknown : ∀ j, ¬ (s.workers j).Touched s.chosen.length := by
    intro j touched
    exact Nat.lt_irrefl _ (numbered.homed j _ touched).1
  constructor
  · intro m
    by_cases new : m = s.chosen.length
    · subst new
      rw [home_last _ rfl]
      exact inside
    · by_cases earlier : m < s.chosen.length
      · rw [home_snoc earlier _ rfl]
        exact numbered.inside m
      · rw [Daemon.home, List.getElem?_eq_none (by rw [List.length_append, List.length_singleton]; omega)]
        exact g.nonempty
  · intro j m touched
    rw [List.length_append, List.length_singleton]
    by_cases new : m = s.chosen.length
    · subst new
      refine ⟨by omega, ?_⟩
      rw [home_last _ rfl]
      by_contra other
      dsimp only at touched
      rw [Function.update_of_ne (Ne.symm other)] at touched
      exact unknown j touched
    · dsimp only [Acceptor.Touched] at touched
      rw [old j m new, still j] at touched
      obtain ⟨known, home⟩ := numbered.homed j m touched
      exact ⟨by omega, by rw [home_snoc known _ rfl, home]⟩
  · intro m known
    rw [List.length_append, List.length_singleton] at known
    by_cases new : m = s.chosen.length
    · rw [new]
      exact origin
    · exact numbered.origin m (by omega)
  · intro j m at_call
    obtain ⟨rfl, rfl⟩ := goes j m at_call
    refine ⟨?_, ?_⟩
    · rw [home_last _ rfl]
      rfl
    · rw [List.length_append, List.length_singleton]
  · intro m known outside
    rw [List.length_append, List.length_singleton] at known
    by_cases new : m = s.chosen.length
    · subst new
      rw [home_last _ rfl]
      show (Call.enqueue _).returned g.msgs (Function.update s.workers (o.getD 0) a (o.getD 0)) = true
      rw [Function.update_self]
      exact back outside
    · have earlier : m < s.chosen.length := by omega
      have returned := numbered.back m earlier (by simp [phase])
      rw [home_snoc earlier _ rfl]
      refine Eq.trans (returned_congr ?_ ?_) returned
      · exact old _ m new
      · exact congrArg (·.enqueues m) (still _)
  · intro j
    dsimp only
    rw [still j]
    exact numbered.ascending j
  · intro j m
    dsimp only
    rw [still j]
    exact numbered.unrefused j m

/-- `accept_cb` is at its client's number. -/
theorem accepts (numbered : Numbered g s) {o : Option Nat} {args : AcceptArgs} {p : MainPhase} {next : Nat}
    (phase : s.phase = .serving) (inside : o.getD 0 < g.count) (origin : g.ctxOf s.chosen.length < s.ctxCount)
    (step : (acceptorMachine g.msgs).step (s.workers (o.getD 0)) (.accept s.chosen.length args) = some a)
    (goes : (p = .serving ∧ args.worker = false) ∨ ∃ i, o = some i ∧ p = .dispatching i s.chosen.length) :
    Numbered g { s with
      workers := Function.update s.workers (o.getD 0) a
      next := next
      chosen := s.chosen ++ [o]
      phase := p } := by
  have stream : (g.msgs s.chosen.length).isStream = true := (Lib.guard_some step).1.2
  cases acceptor_move step with
  | accept worker accepts new dropped =>
    apply numbered.numbers phase inside origin ?_ worker
    · rintro i k rfl
      rcases goes with ⟨elsewhere, -⟩ | ⟨j, rfl, here⟩
      · cases elsewhere
      · cases here
        exact ⟨rfl, rfl⟩
    · intro outside
      rcases goes with ⟨-, none⟩ | ⟨j, -, here⟩
      · simp [Call.returned, stream, accepts, dropped none]
      · exact absurd here (outside j)
    · intro j other
      rw [accepts, Function.update_of_ne other]

theorem step (numbered : Numbered g s) (sound : Sound g s) {e : DaemonEvent} (moved : DaemonMove g s e s') :
    Numbered g s' := by
  have listens : s.phase = .serving → s.ctxs (g.ctxOf s.chosen.length) = .listening →
      g.ctxOf s.chosen.length < s.ctxCount := by
    intro phase listening
    rw [sound.ctxs, phase] at listening
    simp only [MainPhase.ctx] at listening
    split at listening
    · cases listening
    · omega
  cases moved with
  | @create i created w phase inside starts =>
    have new : s.workers i = { worker := initWorker false } := sound.unborn i phase i (Nat.le_refl i)
    have same : w.enqueues = (s.workers i).worker.enqueues ∧ w.appended = (s.workers i).worker.appended := by
      rw [new] at starts ⊢
      cases created with
      | false => cases starts
      | true =>
        cases starts
        exact ⟨rfl, rfl⟩
    have kept : Numbered g
        { s with workers := Function.update s.workers i { s.workers i with worker := w } } :=
      numbered.keeps rfl same.1 same.2
    exact kept.moves rfl rfl (Nat.le_refl _) (by simp) (by simp [phase])
  | giveUp phase => exact numbered.moves rfl rfl (Nat.le_refl _) (by simp) (by simp [phase])
  | started phase => exact numbered.moves rfl rfl (Nat.le_refl _) (by simp) (by simp [phase])
  | route phase => exact numbered.moves rfl rfl (Nat.le_succ _) (by simp) (by simp [phase])
  | routeFails phase => exact numbered.moves rfl rfl (Nat.le_refl _) (by simp) (by simp [phase])
  | drop phase listening step =>
    exact numbered.accepts (o := none) phase g.nonempty (listens phase listening) step (.inl ⟨rfl, rfl⟩)
  | @accept addr socklen i n a phase listening pick step =>
    exact numbered.accepts (o := some i) phase (Sound.workerPoolNext_lt pick) (listens phase listening) step
      (.inr ⟨i, rfl, rfl⟩)
  | @packet i n phase listening pick datagram =>
    have kept := numbered.numbers (o := some i) (a := s.workers i) (p := .dispatching i s.chosen.length) (n := n) phase
      (Sound.workerPoolNext_lt pick) (listens phase listening) (fun _ _ => rfl) rfl
    rw [Option.getD_some, Function.update_eq_self] at kept
    apply kept
    · rintro j k same
      cases same
      exact ⟨rfl, rfl⟩
    · exact fun outside => absurd rfl (outside i)
  | loopEnds phase => exact numbered.moves rfl rfl (Nat.le_refl _) (by simp) (by simp [phase])
  | @call i c e a phase inside makes step =>
    have moved := acceptor_move step
    cases c with
    | enqueue k =>
      have at_call : s.phase = .dispatching i k := MainPhase.call_enqueue phase
      have fits := sound.fits i inside
      rw [at_call] at fits
      obtain ⟨c, refines⟩ := (sound.workers i).accounted.refines
      obtain ⟨enqueued, others⟩ := moved.enqueue makes
      exact numbered.calls at_call ((sound.workers i).tended.running fits.2.2.1 fits.2.2.2) others enqueued
        refines.recorded
    | stop =>
      obtain ⟨stopped, accepts⟩ := moved.stop makes
      exact numbered.keeps accepts stopped.enqueues stopped.appended
    | join =>
      obtain ⟨joined, accepts⟩ := moved.join makes
      exact numbered.keeps accepts joined.enqueues joined.appended
    | free =>
      obtain ⟨freed, accepts⟩ := moved.free makes
      exact numbered.keeps accepts freed.enqueues freed.appended
  | stopCtx phase => exact numbered.moves rfl rfl (Nat.le_refl _) (by simp) (by simp [phase])
  | freeCtx phase => exact numbered.moves rfl rfl (Nat.le_refl _) (by simp) (by simp [phase])
  | exit phase => exact numbered.moves rfl rfl (Nat.le_refl _) (by simp) (by simp [phase])
  | goes goes =>
    refine numbered.moves rfl rfl (Nat.le_refl _) ?_ ?_
    · cases goes <;> simp
    · rintro i k phase
      cases goes with
      | dispatched at_call back =>
        rw [phase] at at_call
        cases at_call
        exact back
      | _ => simp_all
  | thread inside own step =>
    obtain ⟨moved, accepts⟩ := (acceptor_move step).ofThread own
    exact numbered.keeps accepts moved.enqueues moved.appended

end Numbered

theorem run_numbered {g : Setup} {s : Daemon} {es : List DaemonEvent} (ran : (daemonMachine g).run {} es = some s) :
    Sound g s ∧ Numbered g s := by
  apply Lib.Machine.run_invariant (I := fun s => Sound g s ∧ Numbered g s) ?_ ⟨sound_start g, numbered_start g⟩ ran
  rintro s e t ⟨sound, numbered⟩ step
  exact ⟨sound.step (daemon_move step), numbered.step sound (daemon_move step)⟩

/-! ## One owner for every accepted socket -/

namespace Numbered

variable {g : Setup} {s : Daemon} {i k : Nat}

/-- What has become of message `k` has become of it at the worker it was given to. -/
theorem queued_home (numbered : Numbered g s) (sound : Sound g s) (mem : k ∈ (s.workers i).worker.appended) :
    k < s.chosen.length ∧ s.home k = i := by
  obtain ⟨c, refines⟩ := (sound.workers i).accounted.refines
  have queued := (refines.recorded.appended k).1 mem
  apply numbered.homed
  right
  intro fresh
  rw [fresh] at queued
  rcases queued with h | h <;> cases h

theorem handled_home (numbered : Numbered g s) (sound : Sound g s)
    (handled : k ∈ (s.workers i).worker.processed ++ (s.workers i).worker.freed) :
    k < s.chosen.length ∧ s.home k = i := by
  obtain ⟨c, refines⟩ := (sound.workers i).accounted.refines
  apply numbered.queued_home sound
  rw [← refines.carries.accepted, ← c.conserved, refines.carries.delivered]
  exact List.mem_append_left _ handled

theorem unrefused_stream (numbered : Numbered g s) (i : Nat) : Unrefused g.msgs (s.workers i) :=
  fun k _ => numbered.unrefused i k

/-- A descriptor is closed or taken over by the worker its client was given to, or by its callback. -/
theorem settled_home (numbered : Numbered g s) (sound : Sound g s) (stream : (g.msgs k).isStream = true)
    (settled : k ∈ (s.workers i).closed ++ (s.workers i).owned) : k < s.chosen.length ∧ s.home k = i := by
  by_contra elsewhere
  have untouched : ¬ (s.workers i).Touched k := fun touched => elsewhere (numbered.homed i k touched)
  have unaccepted : (s.workers i).accepts k = .fresh := by
    by_contra accepted
    exact untouched (.inl accepted)
  have unhandled : ((s.workers i).worker.processed ++ (s.workers i).worker.freed).count k = 0 := by
    rw [List.count_eq_zero]
    exact fun mem => elsewhere (numbered.handled_home sound mem)
  have ledger := (sound.workers i).accounted.ledger stream (numbered.unrefused i k).2
  rw [← List.count_append, ← List.count_append, unhandled, unaccepted,
    acceptCloses_of_ne (by simp), List.count_eq_zero] at ledger
  exact ledger settled

/-- Once the process has exited, every client's socket has been closed once or taken over once. -/
theorem settled_once (numbered : Numbered g s) (sound : Sound g s) (exited : s.phase = .exited)
    (stream : (g.msgs k).isStream = true) (known : k < s.chosen.length) :
    (s.workers (s.home k)).closed.count k + (s.workers (s.home k)).owned.count k = 1 := by
  have accounted := (sound.workers (s.home k)).accounted
  have fits := sound.fits _ (numbered.inside k)
  rw [exited] at fits
  have returned := numbered.back k known (by simp [exited])
  have finished : (s.workers (s.home k)).Finished k := by
    refine ⟨?_, fun _ => .inr fits.2.2⟩
    simpa [Call.returned, stream] using returned
  by_cases queued : ((s.workers (s.home k)).worker.enqueues k).Queued
  · exact (accounted.queued stream queued).2 finished
  · exact (accounted.unqueued stream (numbered.unrefused _ k).2 queued).2 finished

end Numbered

/-- What is promised of the accepted sockets of the whole process. -/
structure SocketsOwnedOnce (g : Setup) (s : Daemon) : Prop where
  /-- No worker refuses a client or packet. -/
  unrefused : ∀ i k, (s.workers i).worker.enqueues k ≠ .returned (some .ecanceled)
  /-- At most one close, and none once a connection's bufferevent has the socket. -/
  single : ∀ i, SingleOwner g.msgs (s.workers i)
  /-- Two workers never deal with one socket. -/
  apart : ∀ i j k, (g.msgs k).isStream = true → k ∈ (s.workers i).closed ++ (s.workers i).owned →
    k ∈ (s.workers j).closed ++ (s.workers j).owned → i = j
  /-- No socket is left behind. -/
  settled : s.phase = .exited → ∀ k, k < s.chosen.length → (g.msgs k).isStream = true →
    ∃ i, i < g.count ∧ (s.workers i).closed.count k + (s.workers i).owned.count k = 1

/-- **Every accepted socket of the process has one owner**, and is closed or owned by a connection at its exit. -/
theorem daemon_sockets_owned_once {g : Setup} {s : Daemon} {es : List DaemonEvent}
    (ran : (daemonMachine g).run {} es = some s) : SocketsOwnedOnce g s := by
  obtain ⟨sound, numbered⟩ := run_numbered ran
  constructor
  · exact fun i k => (numbered.unrefused i k).2
  · exact fun i => (sound.workers i).accounted.singleOwner (numbered.unrefused_stream i)
  · intro i j k stream here there
    rw [← (numbered.settled_home sound stream here).2, (numbered.settled_home sound stream there).2]
  · intro exited k known stream
    exact ⟨s.home k, numbered.inside k, numbered.settled_once sound exited stream known⟩

theorem daemon_sockets_owned_once_served :
    ∃ s, (daemonMachine pairSetup).run {} servedRun = some s ∧ SocketsOwnedOnce pairSetup s ∧ s.phase = .exited ∧
      (s.workers 0).owned = [0] ∧ (s.workers 0).closed = [2, 3] ∧ (s.workers 1).closed = [] := by
  have seen : ((daemonMachine pairSetup).run {} servedRun).map
      (fun s => (s.phase, (s.workers 0).owned, (s.workers 0).closed, (s.workers 1).closed)) =
        some (.exited, [0], [2, 3], []) := by
    decide +kernel
  obtain ⟨s, ran, parts⟩ := Option.map_eq_some_iff.1 seen
  simp only [Prod.mk.injEq] at parts
  exact ⟨s, ran, daemon_sockets_owned_once ran, parts⟩

/-! ## Every message once, in the order of arrival -/

namespace Numbered

variable {g : Setup} {s : Daemon} {i k : Nat}

/-- A worker hands on its messages in the order of their callbacks. -/
theorem ordered (numbered : Numbered g s) (sound : Sound g s) (i : Nat) :
    ((s.workers i).worker.processed ++ (s.workers i).worker.freed).Pairwise (· < ·) := by
  obtain ⟨c, refines⟩ := (sound.workers i).accounted.refines
  have handed : (s.workers i).worker.processed ++ (s.workers i).worker.freed <+: (s.workers i).worker.appended := by
    rw [← refines.carries.delivered, ← refines.carries.accepted]
    exact c.delivered_isPrefix
  exact (numbered.ascending i).sublist handed.sublist

/-- The message a thread is at is one of its worker's. -/
theorem current_queued (sound : Sound g s) (current : (s.workers i).worker.loop.current = some k) :
    k ∈ (s.workers i).worker.appended := by
  obtain ⟨c, refines⟩ := (sound.workers i).accounted.refines
  obtain ⟨taken, left, queue, split, walked, -, -⟩ := refines.carries.pending
  rw [current] at walked
  obtain ⟨rest, rfl, -⟩ := walked.uncons
  rw [← refines.carries.accepted, ← c.conserved, split]
  simp

/-- A thread is at a message: the route the message came in on has not been freed. -/
theorem current_alive (numbered : Numbered g s) (sound : Sound g s) (inside : i < g.count)
    (current : (s.workers i).worker.loop.current = some k) :
    s.ctxs (g.ctxOf k) = .listening ∨ s.ctxs (g.ctxOf k) = .stopped := by
  have known := (numbered.queued_home sound (current_queued sound current)).1
  have origin := numbered.origin k known
  cases phase : s.ctxs (g.ctxOf k) with
  | listening => exact .inl rfl
  | stopped => exact .inr rfl
  | freed =>
    have ended := sound.contexts phase inside
    rw [ended.current_eq] at current
    cases current
  | unused =>
    rw [sound.ctxs] at phase
    unfold MainPhase.ctx at phase
    rw [if_neg (by omega)] at phase
    split at phase <;> first | cases phase | (split at phase <;> cases phase)

/-- Once the process has exited, a message that was queued has been handled once by its worker. -/
theorem handled_once (numbered : Numbered g s) (sound : Sound g s) (exited : s.phase = .exited)
    (queued : k ∈ (s.workers i).worker.appended) :
    (s.workers i).worker.processed.count k + (s.workers i).worker.freed.count k = 1 := by
  have home := (numbered.queued_home sound queued).2
  have fits := sound.fits i (home ▸ numbered.inside k)
  rw [exited] at fits
  obtain ⟨c, refines⟩ := (sound.workers i).accounted.refines
  have counted := refines.counted k
  rw [refines.drained fits.2.2, List.count_nil, List.count_eq_one_of_mem refines.recorded.distinct queued] at counted
  omega

end Numbered

/-- What is promised of the clients and packets that reach the listeners. -/
structure HandledInOrder (g : Setup) (s : Daemon) : Prop where
  /-- Each worker processes its messages, and `worker_free` releases the rest, in the order of arrival. -/
  ordered : ∀ i, ((s.workers i).worker.processed ++ (s.workers i).worker.freed).Pairwise (· < ·)
  /-- Two workers never handle one message. -/
  apart : ∀ i j k, k ∈ (s.workers i).worker.processed ++ (s.workers i).worker.freed →
    k ∈ (s.workers j).worker.processed ++ (s.workers j).worker.freed → i = j
  /-- A message is handled with the context of its route in place. -/
  alive : ∀ i k, i < g.count → (s.workers i).worker.loop.current = some k →
    s.ctxs (g.ctxOf k) = .listening ∨ s.ctxs (g.ctxOf k) = .stopped
  /-- At the exit each message that was queued has been processed or released, and only once. -/
  settled : s.phase = .exited → ∀ i k, k ∈ (s.workers i).worker.appended →
    (s.workers i).worker.processed.count k + (s.workers i).worker.freed.count k = 1

/-- **Every client and packet is handled once, in the order of arrival at its worker**, in every run. -/
theorem daemon_handles_in_order {g : Setup} {s : Daemon} {es : List DaemonEvent}
    (ran : (daemonMachine g).run {} es = some s) : HandledInOrder g s := by
  obtain ⟨sound, numbered⟩ := run_numbered ran
  constructor
  · exact numbered.ordered sound
  · intro i j k here there
    rw [← (numbered.handled_home sound here).2, (numbered.handled_home sound there).2]
  · exact fun i k inside current => numbered.current_alive sound inside current
  · exact fun exited i k queued => numbered.handled_once sound exited queued

theorem daemon_handles_in_order_served :
    ∃ s, (daemonMachine pairSetup).run {} servedRun = some s ∧ HandledInOrder pairSetup s ∧ s.phase = .exited ∧
      (s.workers 0).worker.processed = [0] ∧ (s.workers 0).worker.freed = [3] ∧
      (s.workers 1).worker.processed = [1] := by
  have seen : ((daemonMachine pairSetup).run {} servedRun).map
      (fun s => (s.phase, (s.workers 0).worker.processed, (s.workers 0).worker.freed, (s.workers 1).worker.processed)) =
        some (.exited, [0], [3], [1]) := by
    decide +kernel
  obtain ⟨s, ran, parts⟩ := Option.map_eq_some_iff.1 seen
  simp only [Prod.mk.injEq] at parts
  exact ⟨s, ran, daemon_handles_in_order ran, parts⟩

/-! ## The shares of the workers -/

/-- How many clients and packets worker `i` was given. -/
def Daemon.load (s : Daemon) (i : Nat) : Nat := s.chosen.count (some i)

/-- How many clients and packets a worker was chosen for. -/
def Daemon.dispatched (s : Daemon) : Nat := s.chosen.countP Option.isSome

/-- The pool's counter, and whose turn it was so far. -/
structure Rotates (g : Setup) (s : Daemon) : Prop where
  next : s.next = s.dispatched % 18446744073709551616
  load : ∀ i, s.load i = Lib.turns 18446744073709551616 g.count s.dispatched i

namespace Rotates

variable {g : Setup} {s s' : Daemon}

/-- A worker is chosen. -/
theorem picks (rotates : Rotates g s) {i n : Nat} (pick : workerPoolNext g.count s.next = (some i, n))
    (next : s'.next = n) (chosen : s'.chosen = s.chosen ++ [some i]) : Rotates g s' := by
  rw [workerPoolNext_some, rotates.next] at pick
  obtain ⟨rfl, rfl⟩ := Prod.mk.inj pick |>.imp Option.some.inj id
  have one_more : s'.dispatched = s.dispatched + 1 := by
    rw [Daemon.dispatched, chosen, List.countP_append]
    rfl
  constructor
  · rw [next, one_more]
    omega
  · intro j
    rw [one_more, Lib.turns_succ, ← rotates.load j, Daemon.load, chosen, List.count_append, List.count_singleton]
    simp [Daemon.load]

/-- Everything else leaves the counter alone. -/
theorem keeps (rotates : Rotates g s) (next : s'.next = s.next) (load : ∀ i, s'.load i = s.load i)
    (dispatched : s'.dispatched = s.dispatched) : Rotates g s' where
  next := by rw [next, dispatched, rotates.next]
  load i := by rw [load, dispatched, rotates.load]

theorem step (rotates : Rotates g s) {e : DaemonEvent} (moved : DaemonMove g s e s') : Rotates g s' := by
  cases moved with
  | accept phase listening pick step => exact rotates.picks pick rfl rfl
  | packet phase listening pick => exact rotates.picks pick rfl rfl
  | drop =>
    refine rotates.keeps rfl ?_ ?_
    · intro i
      simp [Daemon.load, List.count_append]
    · simp [Daemon.dispatched, List.countP_append]
  | _ => exact rotates.keeps rfl (fun _ => rfl) rfl

end Rotates

/-- **The workers' shares stay level**: one worker is given at most one client or packet more than another, and one
more for each time the pool's counter has wrapped. -/
theorem workers_share_evenly {g : Setup} {s : Daemon} {es : List DaemonEvent}
    (ran : (daemonMachine g).run {} es = some s) {i j : Nat} (left : i < g.count) (right : j < g.count) :
    s.load i ≤ s.load j + (s.dispatched / 18446744073709551616 + 1) := by
  have rotates : Rotates g s := by
    apply Lib.Machine.run_invariant (I := Rotates g) ?_ ⟨rfl, fun _ => rfl⟩ ran
    exact fun s e t rotates step => rotates.step (daemon_move step)
  rw [rotates.load, rotates.load]
  exact Lib.turns_le (by omega) left right

theorem workers_share_evenly_served :
    ∃ s, (daemonMachine pairSetup).run {} servedRun = some s ∧ s.dispatched = 3 ∧ s.load 0 = 2 ∧ s.load 1 = 1 ∧
      s.load 0 ≤ s.load 1 + (s.dispatched / 18446744073709551616 + 1) := by
  have seen : ((daemonMachine pairSetup).run {} servedRun).map (fun s => (s.dispatched, s.load 0, s.load 1)) =
      some (3, 2, 1) := by
    decide +kernel
  obtain ⟨s, ran, parts⟩ := Option.map_eq_some_iff.1 seen
  simp only [Prod.mk.injEq] at parts
  exact ⟨s, ran, parts.1, parts.2.1, parts.2.2, workers_share_evenly ran (by decide) (by decide)⟩

end Tinyproxy
