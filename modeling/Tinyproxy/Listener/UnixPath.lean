import Tinyproxy.Lib.Machine
import Mathlib.Logic.Function.Basic

/-!
# The path of a Unix listener

Two processes that are configured with the same `unix` or `unix-dgram` listen path,
cut at the calls by which they see each other: the `unlink` and the `bind` of
`bind_unix_stream_listener` and `bind_unix_datagram_listener`, and the `lstat` and the
`unlink` of `stop_unix_stream_route` and `stop_unix_datagram_route`. The two kinds run
the same calls; they differ in what a failed start does: `start_datagram_route` calls
`free_datagram_route`, which cleans the path up, and `start_stream_route` does not.

`stop_unix_*_route` asks whether the path is a socket, not whose it is, so what it
removes is whatever was bound there last.
-/

namespace Tinyproxy

/-- The two processes. -/
inductive Process where
  | first
  | second
  deriving DecidableEq

def Process.other : Process → Process
  | .first => .second
  | .second => .first

/-- `ENDPOINT_UNIX` and `ENDPOINT_UNIX_DGRAM`. -/
inductive UnixKind where
  | stream
  | datagram
  deriving DecidableEq

/-- What is at the path: nothing, a socket of one of the two processes or of none of them, or another file. -/
inductive PathFile where
  | absent
  | socket (owner : Option Process)
  | other
  deriving DecidableEq

/-- Where a process is with its listener. -/
inductive ListenPhase where
  /-- Before the `unlink` of `bind_unix_*_listener`. -/
  | fresh
  /-- Between that and the `bind`. -/
  | unlinked
  | bound
  | running
  /-- Before the `lstat` of `stop_unix_*_route`, with the listening socket closed. -/
  | stopping
  /-- `lstat` has found a socket. -/
  | inspected
  | done
  deriving DecidableEq

/-- The path, the two processes, and who was the last to bind a socket there. -/
structure UnixPath where
  file : PathFile
  phase : Process → ListenPhase := fun _ => .fresh
  lastBound : Option Process := none

/-- Before either process has started; a socket at the path is neither's. -/
def UnixPath.start : PathFile → UnixPath
  | .socket _ => { file := .socket none }
  | file => { file := file }

/-- The calls of the two processes; `ok` is whether the call succeeds. -/
inductive PathEvent where
  | unlink (p : Process) (ok : Bool)
  | bind (p : Process)
  /-- The listener is set up, and the process serves it. -/
  | listen (p : Process)
  /-- Any other call of the start fails. -/
  | fail (p : Process)
  /-- `stop_route_listeners` and what follows it up to `free_route`. -/
  | shutdown (p : Process)
  | inspect (p : Process)
  | remove (p : Process) (ok : Bool)
  deriving DecidableEq

def UnixPath.goto (s : UnixPath) (p : Process) (phase : ListenPhase) : UnixPath :=
  { s with phase := Function.update s.phase p phase }

/-- A failed start, by the kind of the listener. -/
def UnixKind.failed : UnixKind → ListenPhase
  | .stream => .done
  | .datagram => .stopping

variable (kind : Process → UnixKind)

/-- `bind_unix_stream_listener` and `bind_unix_datagram_listener`. -/
def stepStart (s : UnixPath) : PathEvent → Option UnixPath
  | .unlink p ok =>
    if s.phase p = .fresh then
      -- `ENOENT` counts as success
      some (if ok then { s.goto p .unlinked with file := .absent } else s.goto p (kind p).failed)
    else none
  | .bind p =>
    if s.phase p = .unlinked then
      some (if s.file = .absent then { s.goto p .bound with file := .socket (some p), lastBound := some p }
        else s.goto p (kind p).failed)
    else none
  | .listen p => if s.phase p = .bound then some (s.goto p .running) else none
  | .fail p =>
    if s.phase p = .fresh ∨ s.phase p = .unlinked ∨ s.phase p = .bound then some (s.goto p (kind p).failed) else none
  | _ => none

/-- `stop_unix_stream_route` and `stop_unix_datagram_route`. -/
def stepStop (s : UnixPath) : PathEvent → Option UnixPath
  | .shutdown p => if s.phase p = .running then some (s.goto p .stopping) else none
  | .inspect p =>
    if s.phase p = .stopping then
      match s.file with
      | .socket _ => some (s.goto p .inspected)
      | _ => some (s.goto p .done)
    else none
  | .remove p ok =>
    if s.phase p = .inspected then
      some (if ok then { s.goto p .done with file := .absent } else s.goto p .done)
    else none
  | _ => none

/-- The machine of one path and two processes. -/
def pathMachine : Lib.Machine UnixPath PathEvent where
  step s e := (stepStart kind s e).or (stepStop s e)

/-! ## What a step can do -/

/-- Everything a step can do to the path. -/
inductive PathMove (s : UnixPath) : PathEvent → UnixPath → Prop where
  | unlink {p : Process} (new : s.phase p = .fresh) :
      PathMove s (.unlink p true) { s.goto p .unlinked with file := .absent }
  | bind {p : Process} (ready : s.phase p = .unlinked) (free : s.file = .absent) :
      PathMove s (.bind p) { s.goto p .bound with file := .socket (some p), lastBound := some p }
  | listen {p : Process} (ready : s.phase p = .bound) : PathMove s (.listen p) (s.goto p .running)
  /-- The process gives its start up, or ends what it was serving; a datagram listener is cleaned up either way. -/
  | leave {e : PathEvent} {p : Process} {next : ListenPhase} (elsewhere : ∀ q ok, e ≠ .remove q ok)
      (ends : next = .stopping ∨ next = .done) : PathMove s e (s.goto p next)
  | inspect {p : Process} {owner : Option Process} (ready : s.phase p = .stopping)
      (found : s.file = .socket owner) : PathMove s (.inspect p) (s.goto p .inspected)
  | remove {p : Process} (ready : s.phase p = .inspected) :
      PathMove s (.remove p true) { s.goto p .done with file := .absent }
  | keep {p : Process} (ready : s.phase p = .inspected) : PathMove s (.remove p false) (s.goto p .done)

variable {kind}

theorem UnixKind.failed_ends (k : UnixKind) : k.failed = .stopping ∨ k.failed = .done := by
  cases k with
  | stream => exact .inr rfl
  | datagram => exact .inl rfl

theorem start_move {s s' : UnixPath} {e : PathEvent} (step : stepStart kind s e = some s') : PathMove s e s' := by
  cases e with
  | unlink p ok =>
    obtain ⟨new, rfl⟩ := Lib.guard_some step
    cases ok with
    | true => exact .unlink new
    | false => exact .leave nofun (kind p).failed_ends
  | bind p =>
    obtain ⟨ready, rfl⟩ := Lib.guard_some step
    split
    · rename_i free
      exact .bind ready free
    · exact .leave nofun (kind p).failed_ends
  | listen p =>
    obtain ⟨ready, rfl⟩ := Lib.guard_some step
    exact .listen ready
  | fail p =>
    obtain ⟨early, rfl⟩ := Lib.guard_some step
    exact .leave nofun (kind p).failed_ends
  | _ => cases step

theorem stop_move {s s' : UnixPath} {e : PathEvent} (step : stepStop s e = some s') : PathMove s e s' := by
  cases e with
  | shutdown p =>
    obtain ⟨ready, rfl⟩ := Lib.guard_some step
    exact .leave nofun (.inl rfl)
  | inspect p =>
    simp only [stepStop] at step
    split at step
    · rename_i ready
      split at step
      · rename_i owner found
        cases step
        exact .inspect ready found
      · cases step
        exact .leave nofun (.inr rfl)
    · cases step
  | remove p ok =>
    obtain ⟨ready, rfl⟩ := Lib.guard_some step
    cases ok with
    | true => exact .remove ready
    | false => exact .keep ready
  | _ => cases step

/-- **What a step does to the path.** -/
theorem path_move {s s' : UnixPath} {e : PathEvent} (step : (pathMachine kind).step s e = some s') :
    PathMove s e s' := by
  rcases Option.or_eq_some_iff.1 step with started | ⟨-, stopped⟩
  · exact start_move started
  · exact stop_move stopped

/-! ## Whose socket is at the path -/

/-- The process has its socket bound and has not begun to stop. -/
def ListenPhase.Serves (phase : ListenPhase) : Prop := phase = .bound ∨ phase = .running

/-- The process can have removed the path, and will not touch it again unless it finds a socket there. -/
def ListenPhase.Harmless (phase : ListenPhase) : Prop := phase = .unlinked ∨ phase = .stopping ∨ phase = .done

/-- The socket at the path is that of the last process to bind one, and the last one still has it, unless the other
has removed it since. -/
structure Placed (s : UnixPath) : Prop where
  shown : ∀ q, s.file = .socket (some q) → s.lastBound = some q
  bound : ∀ q, (s.phase q).Serves → s.lastBound ≠ none
  kept : ∀ q, s.lastBound = some q → (s.phase q).Serves →
    s.file = .socket (some q) ∨ (s.file = .absent ∧ ∀ p, p ≠ q → (s.phase p).Harmless)

/-- There are only two processes. -/
theorem Process.eq_other {p q : Process} (apart : p ≠ q) : q = p.other := by
  cases p <;> cases q <;> first | rfl | exact absurd rfl apart

namespace Placed

variable {s s' : UnixPath}

/-- Nobody has bound anything, whatever is at the path. -/
theorem initial (file : PathFile) : Placed (.start file) := by
  have fresh : ∀ q, ((UnixPath.start file).phase q) = .fresh ∧ (UnixPath.start file).lastBound = none := by
    intro q
    cases file <;> exact ⟨rfl, rfl⟩
  refine ⟨?_, ?_, ?_⟩
  · intro q here
    cases file <;> cases here
  · intro q serves
    rw [(fresh q).1] at serves
    rcases serves with h | h <;> cases h
  · intro q last
    rw [(fresh q).2] at last
    cases last

/-- The process `a` moves to a phase in which it serves only if it did before, and the path stays as it is. -/
theorem goes (placed : Placed s) {a : Process} {next : ListenPhase}
    (serves : next.Serves → (s.phase a).Serves)
    (harmless : (s.phase a).Harmless → s.file = .absent → next.Harmless) : Placed (s.goto a next) where
  shown := placed.shown
  bound := by
    intro q serving
    by_cases own : q = a
    · subst own
      simp only [UnixPath.goto, Function.update_self] at serving
      exact placed.bound q (serves serving)
    · simp only [UnixPath.goto, Function.update_of_ne own] at serving
      exact placed.bound q serving
  kept := by
    intro q last serving
    have before : (s.phase q).Serves := by
      by_cases own : q = a
      · subst own
        simp only [UnixPath.goto, Function.update_self] at serving
        exact serves serving
      · simpa only [UnixPath.goto, Function.update_of_ne own] using serving
    refine (placed.kept q last before).imp id ?_
    rintro ⟨gone, others⟩
    refine ⟨gone, fun p other => ?_⟩
    by_cases own : p = a
    · subst own
      simp only [UnixPath.goto, Function.update_self]
      exact harmless (others p other) gone
    · simp only [UnixPath.goto, Function.update_of_ne own]
      exact others p other

/-- The process `a` has removed whatever was at the path. -/
theorem removes (placed : Placed s) {a : Process} {next : ListenPhase} (harmless : next.Harmless)
    (idle : ¬ next.Serves) : Placed { s.goto a next with file := .absent } where
  shown q here := by cases here
  bound := by
    intro q serving
    by_cases own : q = a
    · subst own
      simp only [UnixPath.goto, Function.update_self] at serving
      exact absurd serving idle
    · simp only [UnixPath.goto, Function.update_of_ne own] at serving
      exact placed.bound q serving
  kept := by
    intro q last serving
    have apart : a ≠ q := by
      rintro rfl
      simp only [UnixPath.goto, Function.update_self] at serving
      exact idle serving
    refine .inr ⟨rfl, fun p distinct => ?_⟩
    have own : p = a := (Process.eq_other distinct.symm).trans (Process.eq_other apart.symm).symm
    subst own
    simpa only [UnixPath.goto, Function.update_self] using harmless

theorem step (placed : Placed s) {e : PathEvent} (moved : PathMove s e s') : Placed s' := by
  cases moved with
  | unlink new => exact placed.removes (.inl rfl) (by rintro (h | h) <;> cases h)
  | remove ready => exact placed.removes (.inr (.inr rfl)) (by rintro (h | h) <;> cases h)
  | @bind p ready free =>
    refine ⟨?_, fun q _ => nofun, ?_⟩
    · intro q here
      cases here
      rfl
    · intro q last _
      cases last
      exact .inl rfl
  | listen ready =>
    apply placed.goes
    · intro _
      exact .inl ready
    · intro harmless _
      rw [ready] at harmless
      rcases harmless with h | h | h <;> cases h
  | leave elsewhere ends =>
    apply placed.goes
    · rintro (h | h) <;> rcases ends with rfl | rfl <;> cases h
    · intro _ _
      exact .inr ends
  | inspect ready found =>
    apply placed.goes
    · rintro (h | h) <;> cases h
    · intro _ gone
      rw [found] at gone
      cases gone
  | keep ready =>
    apply placed.goes
    · rintro (h | h) <;> cases h
    · intro _ _
      exact .inr (.inr rfl)

end Placed

/-! ## Shutting down next to a running process -/

/-- A step of one process inside `stop_unix_*_route` leaves the socket of the other, running process at the path. -/
def ShutdownKeepsPath (kind : Process → UnixKind) (s : UnixPath) (e : PathEvent) : Prop :=
  ∀ p q t, (e = .inspect p ∨ ∃ ok, e = .remove p ok) → (pathMachine kind).step s e = some t → p ≠ q →
    s.phase q = .running → s.file = .socket (some q) → t.file = .socket (some q)

/-- Where one process unlinks the path inside `stop_unix_*_route` while the other is running, it is the one that was
the last to bind it. -/
def LastBinderStops (s : UnixPath) : PathEvent → Prop
  | .remove p true => s.phase p.other = .running → s.lastBound = some p
  | _ => True

instance (s : UnixPath) (e : PathEvent) : Decidable (LastBinderStops s e) := by
  unfold LastBinderStops
  split <;> infer_instance

/-- A step that leaves the path alone meets both. -/
theorem keepsPath_of_same {s t : UnixPath} {e : PathEvent} (step : (pathMachine kind).step s e = some t)
    (same : t.file = s.file) (fine : LastBinderStops s e) : ShutdownKeepsPath kind s e ↔ LastBinderStops s e := by
  refine iff_of_true ?_ fine
  intro p q t' _ again _ _ here
  rw [step] at again
  cases again
  rw [same, here]

/-- Neither says anything about a start. -/
theorem keepsPath_of_start {s : UnixPath} {e : PathEvent} (elsewhere : ∀ q ok, e ≠ .remove q ok)
    (unseen : ∀ q, e ≠ .inspect q) (fine : LastBinderStops s e) :
    ShutdownKeepsPath kind s e ↔ LastBinderStops s e := by
  refine iff_of_true ?_ fine
  rintro p q t' (inspects | ⟨ok, removes⟩)
  · exact absurd inspects (unseen p)
  · exact absurd removes (elsewhere p ok)

/-- The one step that matters: the `unlink` of `stop_unix_*_route`. -/
theorem keepsPath_of_remove {s t : UnixPath} {a : Process} (placed : Placed s)
    (step : (pathMachine kind).step s (.remove a true) = some t) (ready : s.phase a = .inspected)
    (gone : t.file = .absent) : ShutdownKeepsPath kind s (.remove a true) ↔ LastBinderStops s (.remove a true) := by
  have apart : a ≠ a.other := by cases a <;> nofun
  constructor
  · intro keeps running
    by_contra last
    -- the running process has bound its socket, so it is the last one, and its socket is still there
    obtain ⟨r, binder⟩ := Option.ne_none_iff_exists'.1 (placed.bound a.other (.inr running))
    have distinct : a ≠ r := by
      rintro rfl
      exact last binder
    rw [Process.eq_other distinct] at binder
    have here : s.file = .socket (some a.other) := by
      rcases placed.kept a.other binder (.inr running) with here | ⟨-, others⟩
      · exact here
      · have harmless := others a apart
        rw [ready] at harmless
        rcases harmless with h | h | h <;> cases h
    have still := keeps a a.other t (.inr ⟨true, rfl⟩) step apart running here
    rw [gone] at still
    cases still
  · intro last p q t' form again distinct running here
    have own : p = a := by
      rcases form with h | ⟨ok, h⟩
      · cases h
      · cases h
        rfl
    subst own
    cases Process.eq_other distinct
    have binder : s.lastBound = some p := last running
    rw [placed.shown p.other here] at binder
    exact absurd (Option.some.inj binder).symm apart

/-- One step, in a state with `Placed`. -/
theorem keepsPath_iff {s t : UnixPath} {e : PathEvent} (placed : Placed s)
    (step : (pathMachine kind).step s e = some t) : ShutdownKeepsPath kind s e ↔ LastBinderStops s e := by
  cases path_move step with
  | unlink new => exact keepsPath_of_start nofun nofun trivial
  | bind ready free => exact keepsPath_of_start nofun nofun trivial
  | listen ready => exact keepsPath_of_start nofun nofun trivial
  | leave elsewhere ends =>
    refine keepsPath_of_same step rfl ?_
    unfold LastBinderStops
    split
    · exact absurd rfl (elsewhere _ true)
    · trivial
  | inspect ready found => exact keepsPath_of_same step rfl trivial
  | remove ready => exact keepsPath_of_remove placed step ready rfl
  | keep ready => exact keepsPath_of_same step rfl trivial

/-- **Unix listener paths across processes.** In a run of the two processes, whatever was at the path before and
whichever kinds they are, no step of one of them inside `stop_unix_*_route` removes the path under the other, running
one iff whichever of them unlinks it there while the other is running was the last to bind it. -/
theorem unix_path_kept_iff {kind : Process → UnixKind} {file : PathFile} {es : List PathEvent} {s : UnixPath}
    (ran : (pathMachine kind).run (.start file) es = some s) :
    (pathMachine kind).Along (ShutdownKeepsPath kind) (.start file) es ↔
      (pathMachine kind).Along LastBinderStops (.start file) es := by
  have each : ∀ ds e, ds ++ [e] <+: es → ∀ u, (pathMachine kind).run (.start file) ds = some u →
      (ShutdownKeepsPath kind u e ↔ LastBinderStops u e) := by
    rintro ds e ⟨rest, rfl⟩ u before
    obtain ⟨v, reached, -⟩ := Lib.Machine.run_append.1 ran
    obtain ⟨u', again, step⟩ := Lib.Machine.run_snoc.1 reached
    rw [before] at again
    cases again
    refine keepsPath_iff ?_ step
    exact Lib.Machine.run_invariant (fun _ _ _ placed moved => placed.step (path_move moved)) (.initial file) before
  rw [Lib.Machine.along_iff, Lib.Machine.along_iff]
  constructor
  · intro keeps ds e cut u before
    exact (each ds e cut u before).1 (keeps ds e cut u before)
  · intro last ds e cut u before
    exact (each ds e cut u before).2 (last ds e cut u before)

/-- The second process takes the path over, and it is the one that stops. -/
def takeoverRun : List PathEvent :=
  [.unlink .first true, .bind .first, .listen .first, .unlink .second true, .bind .second, .listen .second,
    .shutdown .second, .inspect .second, .remove .second true]

theorem unix_path_kept_takeover :
    (pathMachine fun _ => .stream).Along (ShutdownKeepsPath fun _ => .stream) (.start .absent) takeoverRun := by
  have ran : (pathMachine fun _ => .stream).run (.start .absent) takeoverRun = some _ := rfl
  exact (unix_path_kept_iff ran).2 (by decide)

/-- A rolling restart: the second process has bound the path and is running when the first one stops. -/
def rollingRun : List PathEvent :=
  [.unlink .first true, .bind .first, .listen .first, .unlink .second true, .bind .second, .listen .second,
    .shutdown .first, .inspect .first]

theorem unix_path_removed_rolling :
    ∃ s t, (pathMachine fun _ => .stream).run (.start .absent) rollingRun = some s ∧
      s.phase .second = .running ∧ s.file = .socket (some .second) ∧
      (pathMachine fun _ => .stream).step s (.remove .first true) = some t ∧ t.file = .absent ∧
      ¬ ShutdownKeepsPath (fun _ => .stream) s (.remove .first true) := by
  refine ⟨_, _, rfl, rfl, rfl, rfl, rfl, ?_⟩
  intro keeps
  have still := keeps .first .second _ (.inr ⟨true, rfl⟩) rfl nofun rfl rfl
  cases still

end Tinyproxy
