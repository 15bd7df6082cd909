import Tinyproxy.Conf.Load

/-!
# The loop over the text

`load_routes_from_text` once more, with what `loadRoutesFromText` leaves out: the
position that `memchr` moves on, the array and its capacity, and the two out
parameters of the caller. The array is written inside its capacity (`Loader.Fits`),
and with memory enough the loop does what `loadLines` does (`loadText_eq`).
-/

namespace Tinyproxy

/-! ## The loop -/

/-- What comes of giving the array this capacity: the check against `SIZE_MAX`, then `realloc`. -/
abbrev Grow := Nat → Except Errno Unit

/-- Memory is never short. -/
def ampleMemory : Grow := fun _ => .ok ()

/-- The locals of the loop: `routes[0]` to `routes[count - 1]`, `cap`, `pos` and `line_no`. -/
structure Loader where
  routes : List Route := []
  cap : Nat := 0
  pos : Nat := 0
  lineNo : Nat := 0

/-- The line at `pos`, without its newline, and the position behind it. -/
def lineAt (data : Bytes) (pos : Nat) : Bytes × Nat :=
  let lineStart := data.drop pos
  match lineStart.idxOf? 0x0a with
  | some rawLen => (lineStart.take rawLen, pos + (rawLen + 1))
  | none => (lineStart, data.length)

/-- The capacity once there is room for one more route. -/
def Loader.reserve (grow : Grow) (s : Loader) : Except Errno Nat :=
  if s.routes.length = s.cap then
    let newCap := if s.cap = 0 then 8 else s.cap * 2
    (grow newCap).map fun _ => newCap
  else .ok s.cap

/-- The body of the loop; an error is a `return`. -/
def Loader.turn (grow : Grow) (data : Bytes) (s : Loader) : Except Errno Loader := do
  let lineNo := (s.lineNo + 1) % 4294967296
  let (raw, pos) := lineAt data s.pos
  match ← configLine raw with
  | none => return { s with pos := pos, lineNo := lineNo }
  | some line =>
    let cap ← s.reserve grow
    match parseRouteLine line with
    | .error _ => throw .einval
    | .ok r =>
      let r := { r with lineNo := lineNo }
      if (findConflictingRoute s.routes r).isSome then throw eaddrinuse
      return { routes := s.routes ++ [r], cap := cap, pos := pos, lineNo := lineNo }

theorem lineAt_advances {data : Bytes} {pos : Nat} (inside : pos < data.length) : pos < (lineAt data pos).2 := by
  simp only [lineAt]
  split
  · simp only
    omega
  · exact inside

/-- What a turn that does not return does. -/
theorem Loader.turn_ok {grow : Grow} {data : Bytes} {s s' : Loader} (turn : s.turn grow data = .ok s') :
    s' = { s with pos := (lineAt data s.pos).2, lineNo := (s.lineNo + 1) % 4294967296 } ∨
      ∃ cap r, s.reserve grow = .ok cap ∧
        s' = { routes := s.routes ++ [r], cap := cap, pos := (lineAt data s.pos).2,
               lineNo := (s.lineNo + 1) % 4294967296 } := by
  obtain ⟨read, -, turn⟩ := bind_eq_ok turn
  cases read with
  | none =>
    cases turn
    exact .inl rfl
  | some line =>
    obtain ⟨cap, reserved, turn⟩ := bind_eq_ok turn
    refine .inr ⟨cap, ?_⟩
    cases parsed : parseRouteLine line with
    | error err =>
      simp only [parsed] at turn
      cases turn
    | ok r =>
      simp only [parsed] at turn
      split at turn
      · cases turn
      · cases turn
        exact ⟨_, reserved, rfl⟩

theorem Loader.turn_pos {grow : Grow} {data : Bytes} {s s' : Loader} (turn : s.turn grow data = .ok s') :
    s'.pos = (lineAt data s.pos).2 := by
  obtain rfl | ⟨cap, r, -, rfl⟩ := Loader.turn_ok turn <;> rfl

/-- `while (pos < data_len)`. -/
def Loader.run (grow : Grow) (data : Bytes) (s : Loader) : Except Errno Loader :=
  if _inside : s.pos < data.length then
    match _turn : s.turn grow data with
    | .error err => .error err
    | .ok s' => Loader.run grow data s'
  else .ok s
termination_by data.length - s.pos
decreasing_by
  have advances := lineAt_advances _inside
  rw [← Loader.turn_pos _turn] at advances
  omega

/-- `*routes_out`, where `none` is `NULL`, and `*count_out`. -/
structure LoadOut where
  routes : Option (List Route)
  count : Nat
  deriving DecidableEq, Repr

/-- `load_routes_from_text` on the variables `out` of its caller. -/
def loadText (grow : Grow) (data : Bytes) (out : LoadOut) : Except Errno Unit × LoadOut :=
  let out := { out with routes := none, count := 0 }
  match Loader.run grow data {} with
  | .error err => (.error err, out)
  -- the array exists from the first `realloc` on
  | .ok s => (.ok (), { out with routes := if s.cap = 0 then none else some s.routes, count := s.routes.length })

/-! ## The lines that the loop meets -/

theorem textLines_nil : textLines [] = [] := by
  decide

/-- The lines of a text that has a newline in it. -/
theorem textLines_append (a b : Bytes) : textLines (a ++ 0x0a :: b) = a.splitOn 0x0a ++ textLines b := by
  have last : (a.splitOn 0x0a ++ b.splitOn 0x0a).getLast? = (b.splitOn 0x0a).getLast? :=
    List.getLast?_append_of_ne_nil _ (List.splitOn_ne_nil 0x0a b)
  simp only [textLines, List.splitOn_append_cons_self, last]
  split
  · exact List.dropLast_append_of_ne_nil (List.splitOn_ne_nil 0x0a b)
  · rfl

theorem textLines_single {a : Bytes} (nonempty : a ≠ []) (newline : 0x0a ∉ a) : textLines a = [a] := by
  simp [textLines, List.splitOn_eq_singleton newline, nonempty]

/-- What `memchr` finds. -/
theorem split_idxOf? {s : Bytes} {c : UInt8} {i : Nat} (found : s.idxOf? c = some i) :
    s = s.take i ++ c :: s.drop (i + 1) ∧ c ∉ s.take i := by
  obtain ⟨bound, here, before⟩ := List.idxOf?_eq_some_iff.1 found
  constructor
  · rw [← here, List.cons_getElem_drop_succ, List.take_append_drop]
  · intro mem
    obtain ⟨j, small, same⟩ := List.mem_take_iff_getElem.1 mem
    exact before j (by omega) same

/-- The loop meets the lines of the text one after the other. -/
theorem textLines_drop {data : Bytes} {pos : Nat} (inside : pos < data.length) :
    textLines (data.drop pos) = (lineAt data pos).1 :: textLines (data.drop (lineAt data pos).2) := by
  simp only [lineAt]
  split
  · rename_i rawLen found
    obtain ⟨parts, newline⟩ := split_idxOf? found
    calc textLines (data.drop pos)
        = textLines ((data.drop pos).take rawLen ++ 0x0a :: (data.drop pos).drop (rawLen + 1)) := by rw [← parts]
      _ = [(data.drop pos).take rawLen] ++ textLines ((data.drop pos).drop (rawLen + 1)) := by
          rw [textLines_append, List.splitOn_eq_singleton newline]
      _ = (data.drop pos).take rawLen :: textLines (data.drop (pos + (rawLen + 1))) := by
          rw [List.drop_drop]
          rfl
  · rename_i absent
    have nonempty : data.drop pos ≠ [] := by
      rw [Ne, List.drop_eq_nil_iff]
      omega
    simp only
    rw [List.drop_length, textLines_nil, textLines_single nonempty (List.idxOf?_eq_none_iff.1 absent)]

/-! ## What the loop computes -/

/-- A turn on a line does what the loop of `loadLines` does there. -/
theorem loadLines_turn (data : Bytes) (s : Loader) (rest : List Bytes) :
    loadLines s.routes s.lineNo ((lineAt data s.pos).1 :: rest) =
      s.turn ampleMemory data >>= fun s' => loadLines s'.routes s'.lineNo rest := by
  have room : ∃ cap, s.reserve ampleMemory = .ok cap := by
    simp only [Loader.reserve, ampleMemory]
    split
    · exact ⟨_, rfl⟩
    · exact ⟨_, rfl⟩
  obtain ⟨cap, room⟩ := room
  simp only [loadLines, Loader.turn]
  cases configLine (lineAt data s.pos).1 with
  | error err => rfl
  | ok read =>
    cases read with
    | none => rfl
    | some line =>
      simp only [room, bind, Except.bind]
      cases parseRouteLine line with
      | error err => rfl
      | ok r =>
        simp only
        split <;> rfl

theorem Loader.run_routes (data : Bytes) (s : Loader) :
    (s.run ampleMemory data).map Loader.routes = loadLines s.routes s.lineNo (textLines (data.drop s.pos)) := by
  fun_induction Loader.run ampleMemory data s with
  | case1 s inside err turn =>
    rw [textLines_drop inside, loadLines_turn, turn]
    rfl
  | case2 s inside s' turn ih =>
    rw [textLines_drop inside, loadLines_turn, turn, ih, Loader.turn_pos turn]
    rfl
  | case3 s outside =>
    rw [List.drop_of_length_le (by omega), textLines_nil]
    rfl

/-- The array is written inside its capacity, and it is there only when a route is in it. -/
structure Loader.Fits (s : Loader) : Prop where
  room : s.routes.length ≤ s.cap
  used : s.routes = [] → s.cap = 0

theorem Loader.reserve_room {grow : Grow} {s : Loader} {cap : Nat} (fits : s.Fits)
    (reserved : s.reserve grow = .ok cap) : s.routes.length < cap := by
  have room := fits.room
  unfold Loader.reserve at reserved
  split at reserved
  · obtain ⟨-, -, rfl⟩ := map_eq_ok reserved
    split <;> omega
  · cases reserved
    omega

theorem Loader.Fits.turn {grow : Grow} {data : Bytes} {s s' : Loader} (fits : s.Fits)
    (turn : s.turn grow data = .ok s') : s'.Fits := by
  obtain rfl | ⟨cap, r, reserved, rfl⟩ := Loader.turn_ok turn
  · exact ⟨fits.room, fits.used⟩
  · have room := Loader.reserve_room fits reserved
    refine ⟨?_, fun none => absurd none (by simp)⟩
    simp only [List.length_append, List.length_singleton]
    omega

theorem Loader.Fits.run {grow : Grow} {data : Bytes} {s s' : Loader} (fits : s.Fits)
    (run : s.run grow data = .ok s') : s'.Fits := by
  fun_induction Loader.run grow data s with
  | case1 s inside err turn => cases run
  | case2 s inside next turn ih => exact ih (fits.turn turn) run
  | case3 s outside =>
    cases run
    exact fits

/-- The variables of the caller when these routes were loaded; there is no array for none. -/
def LoadOut.of (routes : List Route) : LoadOut where
  routes := if routes = [] then none else some routes
  count := routes.length

/-- What the caller is told of what was loaded. -/
def loadReport : Except Errno (List Route) → Except Errno Unit × LoadOut
  | .ok routes => (.ok (), .of routes)
  | .error err => (.error err, .of [])

theorem LoadOut.of_inj {routes routes' : List Route} : LoadOut.of routes = LoadOut.of routes' ↔ routes = routes' := by
  simp only [LoadOut.of, LoadOut.mk.injEq]
  constructor
  · rintro ⟨same, -⟩
    split at same <;> split at same <;> simp_all
  · rintro rfl
    exact ⟨rfl, rfl⟩

theorem loadReport_ok_iff {loaded : Except Errno (List Route)} {routes : List Route} :
    loadReport loaded = (.ok (), .of routes) ↔ loaded = .ok routes := by
  cases loaded <;> simp [loadReport, LoadOut.of_inj]

theorem loadReport_error_iff {loaded : Except Errno (List Route)} {err : Errno} :
    (loadReport loaded).1 = .error err ↔ loaded = .error err := by
  cases loaded <;> simp [loadReport]

/-- **The loop refines `loadRoutesFromText`**: what its caller finds, whatever its variables held. -/
theorem loadText_eq (data : Bytes) (out : LoadOut) :
    loadText ampleMemory data out = loadReport (loadRoutesFromText data) := by
  have run := Loader.run_routes data {}
  rw [List.drop_zero, ← loadRoutesFromText] at run
  rw [← run]
  cases ended : Loader.run ampleMemory data {} with
  | error err =>
    simp only [loadText, ended]
    rfl
  | ok s =>
    have start : ({} : Loader).Fits := ⟨Nat.le_refl 0, fun _ => rfl⟩
    have fits : s.Fits := start.run ended
    have array : s.cap = 0 ↔ s.routes = [] := by
      refine ⟨fun none => ?_, fits.used⟩
      have room := fits.room
      exact List.length_eq_zero_iff.1 (by omega)
    simp only [loadText, ended, array]
    rfl

end Tinyproxy
