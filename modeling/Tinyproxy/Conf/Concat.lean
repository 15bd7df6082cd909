import Tinyproxy.Conf.Loader

/-!
# Texts one after the other

Loading two texts with a newline between them is loading the one and then the other:
`load_concat`. A text that ends without a newline and a text that ends with one give
the same routes, so the newline between them never joins two lines and the empty line
that it may leave is skipped, though counted.
-/

namespace Tinyproxy

open Lib (ascii)

/-! ## Line numbers -/

/-- A route whose line is `n` lines further down; `line_no` is an `unsigned int`. -/
def Route.shifted (n : Nat) (r : Route) : Route := { r with lineNo := (r.lineNo + n) % 4294967296 }

/-- Lines that are read further down give the same routes there. -/
theorem readLines_shifted (m n : Nat) (lines : List Bytes) :
    readLines ((m + n) % 4294967296) lines = (readLines m lines).map (List.map (Route.shifted n)) := by
  induction lines generalizing m with
  | nil => rfl
  | cons raw lines ih =>
    have next : ((m + n) % 4294967296 + 1) % 4294967296 = ((m + 1) % 4294967296 + n) % 4294967296 := by
      omega
    simp only [readLines, next, ih]
    cases readLine raw with
    | error err => rfl
    | ok added =>
      cases added with
      | none => rfl
      | some r => cases readLines ((m + 1) % 4294967296) lines <;> rfl

/-- Line numbers count from the first line. -/
theorem readLines_lineNo {n : Nat} {lines : List Bytes} {routes : List Route} (read : readLines n lines = .ok routes)
    (few : n + lines.length < 4294967296) : ∀ r ∈ routes, r.lineNo ≤ n + lines.length := by
  induction lines generalizing n routes with
  | nil =>
    cases read
    simp
  | cons raw lines ih =>
    simp only [List.length_cons] at few ⊢
    have small : (n + 1) % 4294967296 = n + 1 := by omega
    simp only [readLines, small] at read
    split at read
    · cases read
    · intro r mem
      have later := ih read (by omega) r mem
      omega
    · obtain ⟨rest, below, rfl⟩ := map_eq_ok read
      refine List.forall_mem_cons.2 ⟨by simp only; omega, ?_⟩
      intro r mem
      have later := ih below (by omega) r mem
      omega

/-! ## The lines of the first text -/

/-- The loop on lines that follow others. -/
theorem loadLines_append {routes : List Route} {n : Nat} (small : n < 4294967296) (lines rest : List Bytes) :
    loadLines routes n (lines ++ rest) =
      loadLines routes n lines >>= fun routes => loadLines routes ((n + lines.length) % 4294967296) rest := by
  induction lines generalizing routes n with
  | nil =>
    rw [List.length_nil, Nat.add_zero, Nat.mod_eq_of_lt small]
    rfl
  | cons raw lines ih =>
    have next : ((n + 1) % 4294967296 + lines.length) % 4294967296 = (n + (lines.length + 1)) % 4294967296 := by
      omega
    have bound : (n + 1) % 4294967296 < 4294967296 := Nat.mod_lt _ (by decide)
    rw [List.cons_append, List.length_cons, ← next]
    cases read : readLine raw with
    | error err =>
      rw [loadLines_error read, loadLines_error read]
      rfl
    | ok added =>
      cases added with
      | none => rw [loadLines_skip read, loadLines_skip read, ih bound]
      | some r =>
        by_cases free : ∀ old ∈ routes, Apart old r
        · rw [loadLines_add read free, loadLines_add read free, ih bound]
        · rw [loadLines_conflict read free, loadLines_conflict read free]
          rfl

theorem readLine_nil : readLine [] = .ok none := by
  decide

/-- The pieces between newlines are the lines, and an empty line after a last newline. -/
theorem loadLines_splitOn (a : Bytes) (routes : List Route) :
    loadLines routes 0 (a.splitOn 0x0a) = loadLines routes 0 (textLines a) := by
  simp only [textLines]
  split
  · rename_i last
    obtain ⟨front, pieces⟩ := List.getLast?_eq_some_iff.1 last
    rw [pieces, List.dropLast_concat, loadLines_append (by decide)]
    cases loaded : loadLines routes 0 front with
    | error err => rfl
    | ok out => exact loadLines_skip readLine_nil
  · rfl

theorem length_splitOn (a : Bytes) : (a.splitOn 0x0a).length = a.count 0x0a + 1 := by
  induction a with
  | nil => rfl
  | cons c a ih =>
    rw [List.splitOn_cons_eq_if_modifyHead]
    by_cases newline : c = 0x0a
    · simp [newline, ih]
    · simp [newline, ih]

/-- Where the second text is loaded. -/
theorem load_append (a b : Bytes) :
    loadRoutesFromText (a ++ 0x0a :: b) =
      loadRoutesFromText a >>= fun routes => loadLines routes ((a.count 0x0a + 1) % 4294967296) (textLines b) := by
  rw [loadRoutesFromText, textLines_append, loadLines_append (by decide), loadLines_splitOn, length_splitOn,
    Nat.zero_add]
  rfl

/-- The routes of two texts, one after the other. -/
theorem load_append_ok_iff (a b : Bytes) (out : List Route) :
    loadRoutesFromText (a ++ 0x0a :: b) = .ok out ↔
      ∃ ra rb, loadRoutesFromText a = .ok ra ∧ loadRoutesFromText b = .ok rb ∧ (∀ r ∈ ra, ∀ r' ∈ rb, Apart r r') ∧
        out = ra ++ rb.map (Route.shifted (a.count 0x0a + 1)) := by
  have shift : readLines ((a.count 0x0a + 1) % 4294967296) (textLines b) =
      (readLines 0 (textLines b)).map (List.map (Route.shifted (a.count 0x0a + 1))) := by
    have shifted := readLines_shifted 0 (a.count 0x0a + 1) (textLines b)
    rwa [Nat.zero_add] at shifted
  rw [load_append]
  constructor
  · intro loaded
    obtain ⟨ra, first, second⟩ := bind_eq_ok loaded
    obtain ⟨new, read, rfl, apart, fresh⟩ := loadLines_eq_ok_iff.1 second
    rw [shift] at read
    obtain ⟨rb, own, rfl⟩ := map_eq_ok read
    rw [List.pairwise_map] at apart
    have alone : loadRoutesFromText b = .ok rb :=
      loadLines_eq_ok_iff.2 ⟨rb, own, rfl, apart, fun _ none => absurd none List.not_mem_nil⟩
    refine ⟨ra, rb, first, alone, ?_, rfl⟩
    exact fun r mem r' mem' => fresh r mem (r'.shifted (a.count 0x0a + 1)) (List.mem_map_of_mem mem')
  · rintro ⟨ra, rb, first, second, fresh, rfl⟩
    obtain ⟨new, read, rfl, apart, -⟩ := loadLines_eq_ok_iff.1 second
    rw [first]
    refine loadLines_eq_ok_iff.2 ⟨_, by rw [shift, read]; rfl, rfl, List.pairwise_map.2 apart, ?_⟩
    intro r mem r' mem'
    obtain ⟨r₀, own, rfl⟩ := List.mem_map.1 mem'
    exact fresh r mem r₀ own

/-- In a text of fewer than `UINT_MAX` lines no line number wraps around. -/
theorem shifted_lineNo {a b : Bytes} {rb : List Route} (loaded : loadRoutesFromText b = .ok rb)
    (few : (a ++ 0x0a :: b).count 0x0a + 1 < 4294967296) :
    ∀ r ∈ rb, (r.shifted (a.count 0x0a + 1)).lineNo = r.lineNo + (a.count 0x0a + 1) := by
  obtain ⟨new, read, rfl, -, -⟩ := loadLines_eq_ok_iff.1 loaded
  have size : (textLines b).length ≤ b.count 0x0a + 1 := by
    rw [← length_splitOn]
    simp only [textLines]
    split
    · simp
    · exact Nat.le_refl _
  rw [List.count_append, List.count_cons_self] at few
  intro r mem
  have bound := readLines_lineNo read (by omega) r mem
  exact Nat.mod_eq_of_lt (by omega)

/-- A call that fails leaves no array and no count. -/
theorem loadText_failed {grow : Grow} {data : Bytes} {out : LoadOut} {err : Errno}
    (failed : (loadText grow data out).1 = .error err) :
    (loadText grow data out).2 = { routes := none, count := 0 } := by
  unfold loadText at failed ⊢
  cases ended : Loader.run grow data {} with
  | error err => rfl
  | ok s =>
    simp only [ended] at failed
    cases failed

/-- **Texts one after the other.** The text `a`, a newline and the text `b` are accepted exactly when each of the two
is and no route of `b` listens where a route of `a` does. The routes are then those of `a` and those of `b`, these as
many lines further down as `a` has newlines and one. An error of `a` is the error of the whole, and after any error
the caller has neither an array nor a count. -/
theorem load_concat (a b : Bytes) (out : LoadOut) :
    ((loadText ampleMemory (a ++ 0x0a :: b) out).1 = .ok () ↔
      ∃ ra rb, loadText ampleMemory a out = (.ok (), .of ra) ∧ loadText ampleMemory b out = (.ok (), .of rb) ∧
        ∀ r ∈ ra, ∀ r' ∈ rb, sameListenEndpoint r.listen r'.listen = false) ∧
    (∀ ra rb, loadText ampleMemory a out = (.ok (), .of ra) → loadText ampleMemory b out = (.ok (), .of rb) →
      (∀ r ∈ ra, ∀ r' ∈ rb, sameListenEndpoint r.listen r'.listen = false) →
      loadText ampleMemory (a ++ 0x0a :: b) out =
        (.ok (), .of (ra ++ rb.map (Route.shifted (a.count 0x0a + 1)))) ∧
      ((a ++ 0x0a :: b).count 0x0a + 1 < 4294967296 →
        ∀ r ∈ rb, (r.shifted (a.count 0x0a + 1)).lineNo = r.lineNo + (a.count 0x0a + 1))) ∧
    (∀ err, (loadText ampleMemory a out).1 = .error err →
      (loadText ampleMemory (a ++ 0x0a :: b) out).1 = .error err) ∧
    ∀ grow data err, (loadText grow data out).1 = .error err →
      (loadText grow data out).2 = { routes := none, count := 0 } := by
  simp only [loadText_eq, loadReport_ok_iff, loadReport_error_iff]
  refine ⟨?_, ?_, ?_, fun grow data err => loadText_failed⟩
  · constructor
    · intro accepted
      cases loaded : loadRoutesFromText (a ++ 0x0a :: b) with
      | error err =>
        rw [loaded] at accepted
        cases accepted
      | ok routes =>
        obtain ⟨ra, rb, first, second, fresh, -⟩ := (load_append_ok_iff a b routes).1 loaded
        exact ⟨ra, rb, first, second, fresh⟩
    · rintro ⟨ra, rb, first, second, fresh⟩
      rw [(load_append_ok_iff a b _).2 ⟨ra, rb, first, second, fresh, rfl⟩]
      rfl
  · intro ra rb first second fresh
    exact ⟨(load_append_ok_iff a b _).2 ⟨ra, rb, first, second, fresh, rfl⟩, shifted_lineNo second⟩
  · intro err failed
    rw [load_append, failed]
    rfl

/-- The arguments of a caller that has loaded nothing yet. -/
def nothingLoaded : LoadOut where
  routes := none
  count := 0

/-- Two texts with one route each. -/
theorem load_concat_two :
    loadText ampleMemory (ascii "tcp :80 tcp 10.0.0.1:80" ++ 0x0a :: ascii "tcp :81 tcp 10.0.0.2:81") nothingLoaded =
      (.ok (), .of [portRoute 80 (ascii "1") 1, portRoute 81 (ascii "2") 2]) := by
  have first : loadText ampleMemory (ascii "tcp :80 tcp 10.0.0.1:80") nothingLoaded =
      (.ok (), .of [portRoute 80 (ascii "1") 1]) := by
    rw [loadText_eq, loadReport_ok_iff]
    decide +kernel
  have second : loadText ampleMemory (ascii "tcp :81 tcp 10.0.0.2:81") nothingLoaded =
      (.ok (), .of [portRoute 81 (ascii "2") 1]) := by
    rw [loadText_eq, loadReport_ok_iff]
    decide +kernel
  exact ((load_concat _ _ nothingLoaded).2.1 _ _ first second (by decide)).1

end Tinyproxy
