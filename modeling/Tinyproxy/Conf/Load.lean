import Tinyproxy.Conf.WellFormed

/-!
# Loading routes

`load_routes_from_text`, and the loop of `main` over the routes of `-L`. Memory is
never short here: the allocations of both succeed, and the index that
`find_conflicting_route` casts to `int` is smaller than the number of routes that fit.

Both loops call `parse_route_line`, and they disagree on every list that either of
them accepts: `inline_routes_agree_iff`.
-/

namespace Tinyproxy

open Lib (ascii cstr isspace)

/-! ## The text of a configuration file -/

/-- `same_listen_endpoint`. -/
def sameListenEndpoint (a b : Endpoint) : Bool :=
  if a.proto ≠ b.proto then false else
  match a.proto with
  | .tcp | .udp => a.host = b.host && a.port = b.port
  | .unixStream | .unixDgram => a.path = b.path
  | .file | .builtin => false

/-- `find_conflicting_route`. -/
def findConflictingRoute (routes : List Route) (newRoute : Route) : Option Nat :=
  routes.findIdx? fun r => sameListenEndpoint r.listen newRoute.listen

/-- The lines that the loop of `load_routes_from_text` cuts the text into; nothing follows a last newline. -/
def textLines (data : Bytes) : List Bytes :=
  let pieces := data.splitOn 0x0a
  if pieces.getLast? = some [] then pieces.dropLast else pieces

/-- What is left to parse of one line: without its carriage return, its comment and the space around it. -/
def configLine (raw : Bytes) : Except Errno (Option Bytes) :=
  let raw := if raw.getLast? = some 0x0d then raw.dropLast else raw
  if raw.length ≥ maxLineLen then .error e2big else
  let line := trim (cstr raw)
  if line = [] ∨ line.head? = some 0x23 then .ok none else
  if 0x23 ∈ line then
    let line := trim (line.takeWhile (· != 0x23))
    .ok (if line = [] then none else some line)
  else .ok (some line)

/-- The loop of `load_routes_from_text`, with `unsigned int line_no`. -/
def loadLines (routes : List Route) (lineNo : Nat) : List Bytes → Except Errno (List Route)
  | [] => .ok routes
  | raw :: rest =>
    let lineNo := (lineNo + 1) % 4294967296
    match configLine raw with
    | .error err => .error err
    | .ok none => loadLines routes lineNo rest
    | .ok (some line) =>
      match parseRouteLine line with
      | .error _ => .error .einval
      | .ok r =>
        let r := { r with lineNo := lineNo }
        if (findConflictingRoute routes r).isSome then .error eaddrinuse
        else loadLines (routes ++ [r]) lineNo rest

/-- `load_routes_from_text`. -/
def loadRoutesFromText (data : Bytes) : Except Errno (List Route) := loadLines [] 0 (textLines data)

/-! ## The routes of the command line -/

/-- A route of the array that `main` gets from `calloc`. -/
def clearedRoute : Route where
  listen := { kind := .inet, proto := .tcp }
  upstream := { kind := .inet, proto := .tcp }
  opts := { idleTimeoutSec := 0, connectTimeoutSec := 0 }

/-- `parse_route_line(line, route)`: `memset` clears `*route` before the fields are stored, so nothing that it held
is left. -/
def parseRouteLineInto (_route : Route) (line : Bytes) : Except Errno Route := parseRouteLine line

/-- The loop of `main` over the arguments of `-L`, from index `i` on. -/
def inlineRoutes (i : Nat) : List Bytes → Except Errno (List Route)
  | [] => .ok []
  | arg :: rest => do
    let r ← parseRouteLineInto { clearedRoute with lineNo := (i + 1) % 4294967296 } arg
    let routes ← inlineRoutes (i + 1) rest
    return r :: routes

/-! ## Trimming -/

theorem trim_concat {s : Bytes} {x : UInt8} (space : isspace x = true) : trim (s ++ [x]) = trim s := by
  unfold trim
  by_cases blank : ∀ c ∈ s, isspace c = true
  · have whole : ∀ c ∈ s ++ [x], isspace c = true := by
      intro c inside
      rcases List.mem_append.1 inside with inside | inside
      · exact blank c inside
      · rw [List.mem_singleton.1 inside]
        exact space
    rw [List.dropWhile_eq_nil_iff.2 whole, List.dropWhile_eq_nil_iff.2 blank]
  · have rest : s.dropWhile isspace ≠ [] := fun none => blank (List.dropWhile_eq_nil_iff.1 none)
    rw [List.dropWhile_append, if_neg (by simpa using rest), List.rdropWhile_concat_pos _ _ _ space]

theorem trim_ne_nil {s : Bytes} {c : UInt8} (inside : c ∈ s) (solid : isspace c = false) : trim s ≠ [] := by
  intro none
  have blank : ∀ x ∈ s.dropWhile isspace, isspace x = true := by
    simpa [trim] using none
  have part : c ∈ s.takeWhile isspace ∨ c ∈ s.dropWhile isspace := by
    rwa [← List.mem_append, List.takeWhile_append_dropWhile]
  rcases part with part | part
  · rw [List.mem_takeWhile_imp part] at solid
    cases solid
  · rw [blank c part] at solid
    cases solid

/-- A string of space. -/
def Blank (s : Bytes) : Prop := ∀ c ∈ s, isspace c = true

theorem trim_append_left {w : Bytes} (blank : Blank w) (s : Bytes) : trim (w ++ s) = trim s := by
  rw [trim, List.dropWhile_append_of_pos blank]
  rfl

theorem trim_append_right {w : Bytes} (blank : Blank w) (s : Bytes) : trim (s ++ w) = trim s := by
  induction w using List.reverseRecOn with
  | nil => rw [List.append_nil]
  | append_singleton w x ih =>
    have front : Blank w := fun c mem => blank c (List.mem_append_left _ mem)
    have space : isspace x = true := blank x (List.mem_append_right w (List.mem_singleton_self x))
    rw [← List.append_assoc, trim_concat space, ih front]

/-- What `trim` cuts off is space. -/
theorem trim_parts (s : Bytes) : ∃ before after, Blank before ∧ Blank after ∧ s = before ++ trim s ++ after := by
  refine ⟨s.takeWhile isspace, (s.dropWhile isspace).rtakeWhile isspace, ?_, ?_, ?_⟩
  · exact fun c mem => List.mem_takeWhile_imp mem
  · exact fun c mem => List.mem_rtakeWhile_imp mem
  · rw [trim, List.append_assoc, List.rdropWhile_append_rtakeWhile, List.takeWhile_append_dropWhile]

theorem trim_trim (s : Bytes) : trim (trim s) = trim s := by
  obtain ⟨before, after, left, right, parts⟩ := trim_parts s
  have padded : trim (before ++ trim s ++ after) = trim (trim s) := by
    rw [trim_append_right right, trim_append_left left]
  rw [← padded, ← parts]

/-! ## Normal forms -/

/-- What is left of a line without its comment and the space around it. -/
def normalForm (line : Bytes) : Bytes := trim (line.takeWhile (· != 0x23))

/-- No space is the sign of a comment. -/
theorem Blank.comment {w : Bytes} (blank : Blank w) : ∀ c ∈ w, (c != 0x23) = true := by
  intro c mem
  rw [bne_iff_ne]
  rintro rfl
  have space := blank _ mem
  revert space
  decide

/-- The space around a line is no part of its normal form. -/
theorem normalForm_pad {before after : Bytes} (left : Blank before) (right : Blank after) (s : Bytes) :
    normalForm (before ++ s ++ after) = normalForm s := by
  unfold normalForm
  rw [List.append_assoc, List.takeWhile_append_of_pos left.comment, trim_append_left left, List.takeWhile_append]
  split
  · rename_i whole
    rw [List.takeWhile_eq_self_iff.2 right.comment, trim_append_right right]
    rw [(List.takeWhile_prefix _).eq_of_length whole]
  · rfl

theorem normalForm_trim (s : Bytes) : normalForm (trim s) = normalForm s := by
  obtain ⟨before, after, left, right, parts⟩ := trim_parts s
  rw [← normalForm_pad left right, ← parts]

/-- Neither is a comment. -/
theorem normalForm_comment (s comment : Bytes) : normalForm (s ++ 0x23 :: comment) = normalForm s := by
  unfold normalForm
  rw [List.takeWhile_append]
  split
  · rename_i whole
    rw [(List.takeWhile_prefix _).eq_of_length whole]
    simp
  · rfl

theorem normalForm_plain {s : Bytes} (comment : 0x23 ∉ s) : normalForm s = trim s := by
  have whole : ∀ c ∈ s, (c != 0x23) = true := by
    intro c mem
    rw [bne_iff_ne]
    rintro rfl
    exact comment mem
  rw [normalForm, List.takeWhile_eq_self_iff.2 whole]

/-! ## What the loop makes of a line -/

/-- A line that is a C string and fits the buffer. -/
structure PlainLine (line : Bytes) : Prop where
  nul : 0 ∉ line
  short : line.length < maxLineLen

/-- The carriage return, the length check and the terminator leave the normal form as it is. -/
theorem PlainLine.cut {raw : Bytes} (plain : PlainLine raw) :
    ∃ s, (if raw.getLast? = some 0x0d then raw.dropLast else raw) = s ∧ ¬ s.length ≥ maxLineLen ∧ cstr s = s ∧
      normalForm s = normalForm raw := by
  have short := plain.short
  by_cases carriage : raw.getLast? = some 0x0d
  · obtain ⟨front, rfl⟩ := List.getLast?_eq_some_iff.1 carriage
    have blank : Blank [0x0d] := by
      intro c mem
      rw [List.mem_singleton.1 mem]
      decide
    simp only [List.length_append] at short
    refine ⟨front, by simp, by omega, ?_, ?_⟩
    · apply Lib.cstr_of_nonzero
      rintro c mem rfl
      exact plain.nul (List.mem_append_left _ mem)
    · exact (normalForm_pad (fun _ none => absurd none List.not_mem_nil) blank front).symm
  · refine ⟨raw, if_neg carriage, by omega, ?_, rfl⟩
    apply Lib.cstr_of_nonzero
    rintro c mem rfl
    exact plain.nul mem

/-- Every way through the body of the loop ends at the normal form. -/
theorem configLine_normalForm {raw : Bytes} (plain : PlainLine raw) :
    configLine raw = .ok (if normalForm raw = [] then none else some (normalForm raw)) := by
  obtain ⟨s, cut, fits, text, same⟩ := plain.cut
  have form : normalForm raw = normalForm (trim s) := by
    rw [normalForm_trim, same]
  simp only [configLine, cut, if_neg fits, text]
  rw [form]
  split
  · rename_i skipped
    have empty : normalForm (trim s) = [] := by
      rcases skipped with empty | sign
      · rw [empty]
        rfl
      · obtain ⟨rest, line⟩ := List.head?_eq_some_iff.1 sign
        rw [line]
        exact normalForm_comment [] rest
    rw [if_pos empty]
  · rename_i kept
    rw [not_or] at kept
    split
    · rfl
    · rename_i comment
      rw [normalForm_plain comment, trim_trim, if_neg kept.1]

/-! ## Arguments as lines -/

/-- An argument of `-L` that could stand on a line of the file. -/
structure InlineArgument (arg : Bytes) : Prop where
  nul : 0 ∉ arg
  newline : 0x0a ∉ arg
  comment : 0x23 ∉ arg
  nonblank : ∃ c ∈ arg, isspace c = false
  short : arg.length < maxLineLen

theorem InlineArgument.nonempty {arg : Bytes} (own : InlineArgument arg) : arg ≠ [] := by
  obtain ⟨c, inside, -⟩ := own.nonblank
  exact List.ne_nil_of_mem inside

/-- On its own line, an argument is parsed without the space around it. -/
theorem configLine_argument {arg : Bytes} (own : InlineArgument arg) : configLine arg = .ok (some (trim arg)) := by
  obtain ⟨c, inside, solid⟩ := own.nonblank
  have present : trim arg ≠ [] := trim_ne_nil inside solid
  rw [configLine_normalForm ⟨own.nul, own.short⟩, normalForm_plain own.comment, if_neg present]

/-- The lines of arguments that are joined by newlines. -/
theorem textLines_join {args : List Bytes} (nonempty : args ≠ []) (own : ∀ a ∈ args, InlineArgument a) :
    textLines ([0x0a].intercalate args) = args := by
  have pieces := List.splitOn_intercalate 0x0a (fun a mem => (own a mem).newline) nonempty
  have last : args.getLast? ≠ some [] := by
    intro empty
    exact (own [] (List.mem_of_mem_getLast? empty)).nonempty rfl
  simp only [textLines, pieces, if_neg last]

/-! ## What a line adds -/

/-- A line with something left to parse adds a route. -/
def readRoute (line : Bytes) : Except Errno (Option Route) :=
  match parseRouteLine line with
  | .error _ => .error .einval
  | .ok r => .ok (some r)

/-- What one line of the text adds: a route, nothing, or the error that ends the loop. -/
def readLine (raw : Bytes) : Except Errno (Option Route) :=
  match configLine raw with
  | .error err => .error err
  | .ok none => .ok none
  | .ok (some line) => readRoute line

/-- The routes of the lines, each with its line number, whether they conflict or not. -/
def readLines (lineNo : Nat) : List Bytes → Except Errno (List Route)
  | [] => .ok []
  | raw :: rest =>
    let lineNo := (lineNo + 1) % 4294967296
    match readLine raw with
    | .error err => .error err
    | .ok none => readLines lineNo rest
    | .ok (some r) => (readLines lineNo rest).map fun routes => { r with lineNo := lineNo } :: routes

/-- Two routes that may stand in one text. -/
def Apart (r r' : Route) : Prop := sameListenEndpoint r.listen r'.listen = false

theorem findConflictingRoute_isSome (routes : List Route) (r : Route) :
    (findConflictingRoute routes r).isSome = true ↔ ¬ ∀ old ∈ routes, Apart old r := by
  rw [findConflictingRoute, List.findIdx?_isSome, List.any_eq_true]
  simp [Apart]

section Turns

variable {routes : List Route} {lineNo : Nat} {raw : Bytes} {rest : List Bytes} {r : Route}

/-! One turn of the loop of `load_routes_from_text`, by what its line adds. -/

theorem loadLines_error {err : Errno} (read : readLine raw = .error err) :
    loadLines routes lineNo (raw :: rest) = .error err := by
  simp only [readLine, readRoute, loadLines] at *
  grind

theorem loadLines_skip (read : readLine raw = .ok none) :
    loadLines routes lineNo (raw :: rest) = loadLines routes ((lineNo + 1) % 4294967296) rest := by
  simp only [readLine, readRoute, loadLines] at *
  grind

theorem loadLines_conflict (read : readLine raw = .ok (some r)) (clash : ¬ ∀ old ∈ routes, Apart old r) :
    loadLines routes lineNo (raw :: rest) = .error eaddrinuse := by
  have found : (findConflictingRoute routes { r with lineNo := (lineNo + 1) % 4294967296 }).isSome = true :=
    (findConflictingRoute_isSome routes _).2 clash
  simp only [readLine, readRoute, loadLines] at *
  grind

theorem loadLines_add (read : readLine raw = .ok (some r)) (free : ∀ old ∈ routes, Apart old r) :
    loadLines routes lineNo (raw :: rest) =
      loadLines (routes ++ [{ r with lineNo := (lineNo + 1) % 4294967296 }]) ((lineNo + 1) % 4294967296) rest := by
  have fresh : ¬ (findConflictingRoute routes { r with lineNo := (lineNo + 1) % 4294967296 }).isSome = true :=
    fun found => (findConflictingRoute_isSome routes _).1 found free
  simp only [readLine, readRoute, loadLines] at *
  grind

end Turns

/-- The loop accepts the lines that can be read and do not conflict, with one another or with an earlier route. -/
theorem loadLines_eq_ok_iff {routes out : List Route} {lineNo : Nat} {lines : List Bytes} :
    loadLines routes lineNo lines = .ok out ↔
      ∃ new, readLines lineNo lines = .ok new ∧ out = routes ++ new ∧ new.Pairwise Apart ∧
        ∀ old ∈ routes, ∀ r ∈ new, Apart old r := by
  induction lines generalizing routes lineNo with
  | nil => simp [loadLines, readLines, eq_comm]
  | cons raw lines ih =>
    cases read : readLine raw with
    | error err => simp [loadLines_error read, readLines, read]
    | ok added =>
      cases added with
      | none =>
        rw [loadLines_skip read, ih]
        simp only [readLines, read]
      | some r =>
        simp only [readLines, read]
        by_cases free : ∀ old ∈ routes, Apart old r
        · rw [loadLines_add read free, ih]
          constructor
          · rintro ⟨new, rest, rfl, apart, fresh⟩
            refine ⟨{ r with lineNo := (lineNo + 1) % 4294967296 } :: new, by rw [rest]; rfl, by simp, ?_, ?_⟩
            · refine List.pairwise_cons.2 ⟨?_, apart⟩
              exact fresh _ (List.mem_append_right routes (List.mem_singleton_self _))
            · intro old mem
              refine List.forall_mem_cons.2 ⟨free old mem, ?_⟩
              exact fresh old (List.mem_append_left _ mem)
          · rintro ⟨all, rest, rfl, apart, fresh⟩
            obtain ⟨new, later, rfl⟩ := map_eq_ok rest
            obtain ⟨first, apart⟩ := List.pairwise_cons.1 apart
            refine ⟨new, later, by simp, apart, ?_⟩
            intro old mem
            rcases List.mem_append.1 mem with mem | mem
            · exact fun r' own => fresh old mem r' (List.mem_cons_of_mem _ own)
            · rw [List.mem_singleton.1 mem]
              exact first
        · rw [loadLines_conflict read free]
          refine iff_of_false (by rintro ⟨⟩) ?_
          rintro ⟨all, rest, rfl, -, fresh⟩
          obtain ⟨new, -, rfl⟩ := map_eq_ok rest
          exact free fun old mem => fresh old mem { r with lineNo := (lineNo + 1) % 4294967296 } List.mem_cons_self

/-- The listen endpoint of a line that adds a route. -/
def lineListen (raw : Bytes) : Option Endpoint :=
  match readLine raw with
  | .ok (some r) => some r.listen
  | _ => none

/-- The routes listen where their lines say. -/
theorem readLines_listen {lineNo : Nat} {lines : List Bytes} {routes : List Route}
    (read : readLines lineNo lines = .ok routes) : routes.map Route.listen = lines.filterMap lineListen := by
  induction lines generalizing lineNo routes with
  | nil =>
    cases read
    rfl
  | cons raw lines ih =>
    simp only [readLines] at read
    rw [List.filterMap_cons, lineListen]
    cases added : readLine raw with
    | error err =>
      rw [added] at read
      cases read
    | ok added' =>
      rw [added] at read
      cases added' with
      | none => exact ih read
      | some r =>
        obtain ⟨rest, later, rfl⟩ := map_eq_ok read
        exact congrArg (r.listen :: ·) (ih later)

theorem readLine_wellFormed {raw : Bytes} {r : Route} (read : readLine raw = .ok (some r)) : r.WellFormed := by
  unfold readLine at read
  split at read
  · cases read
  · cases read
  · rename_i line _
    rw [readRoute] at read
    cases parsed : parseRouteLine line with
    | error err =>
      rw [parsed] at read
      cases read
    | ok r' =>
      rw [parsed] at read
      cases read
      exact (parseRouteLine_wellFormed parsed).1

theorem readLines_wellFormed {lineNo : Nat} {lines : List Bytes} {routes : List Route}
    (read : readLines lineNo lines = .ok routes) : ∀ r ∈ routes, r.WellFormed := by
  induction lines generalizing lineNo routes with
  | nil =>
    cases read
    exact fun r none => absurd none List.not_mem_nil
  | cons raw lines ih =>
    simp only [readLines] at read
    split at read
    · cases read
    · exact ih read
    · rename_i r added
      obtain ⟨rest, later, rfl⟩ := map_eq_ok read
      have good := readLine_wellFormed added
      exact List.forall_mem_cons.2 ⟨⟨good.listen, good.upstream, good.opts⟩, ih later⟩

/-- Every route that is loaded is well formed. -/
theorem loadRoutesFromText_wellFormed {data : Bytes} {routes : List Route}
    (loaded : loadRoutesFromText data = .ok routes) : ∀ r ∈ routes, r.WellFormed := by
  obtain ⟨new, read, rfl, -, -⟩ := loadLines_eq_ok_iff.1 loaded
  exact readLines_wellFormed read

/-! ## What the two loops accept -/

/-- Two lines whose routes listen on the same endpoint. -/
def Conflicting (a b : Bytes) : Prop :=
  ∃ r r', parseRouteLine a = .ok r ∧ parseRouteLine b = .ok r' ∧ sameListenEndpoint r.listen r'.listen = true

/-- Whether `parse_route_line` accepts a line. -/
def Parses (line : Bytes) : Prop := ∃ r, parseRouteLine line = .ok r

/-- An argument on its own line adds the route it parses to. -/
theorem readLine_argument {arg : Bytes} (own : InlineArgument arg) :
    (∀ r, parseRouteLine (trim arg) = .ok r → readLine arg = .ok (some r)) ∧
      ∀ err, parseRouteLine (trim arg) = .error err → readLine arg = .error .einval := by
  simp only [readLine, readRoute, configLine_argument own]
  constructor
  · intro r parsed
    rw [parsed]
  · intro err parsed
    rw [parsed]

/-- The file's loop accepts the lines that parse and do not conflict, with one another or with an earlier route. -/
theorem loadLines_ok_iff {routes : List Route} {lineNo : Nat} {args : List Bytes}
    (own : ∀ a ∈ args, InlineArgument a) :
    (∃ out, loadLines routes lineNo args = .ok out) ↔
      (∀ a ∈ args, Parses (trim a)) ∧
        (∀ r ∈ routes, ∀ a ∈ args, ∀ r', parseRouteLine (trim a) = .ok r' →
          sameListenEndpoint r.listen r'.listen = false) ∧
        args.Pairwise fun a b => ¬ Conflicting (trim a) (trim b) := by
  induction args generalizing routes lineNo with
  | nil => simp [loadLines]
  | cons a args ih =>
    obtain ⟨accept, reject⟩ := readLine_argument (own a List.mem_cons_self)
    have later : ∀ b ∈ args, InlineArgument b := fun b mem => own b (List.mem_cons_of_mem a mem)
    cases parsed : parseRouteLine (trim a) with
    | error err =>
      rw [loadLines_error (reject err parsed)]
      refine iff_of_false (by rintro ⟨out, ⟨⟩⟩) ?_
      rintro ⟨all, -⟩
      obtain ⟨r, ok⟩ := all a List.mem_cons_self
      rw [parsed] at ok
      cases ok
    | ok r =>
      by_cases free : ∀ old ∈ routes, Apart old r
      · rw [loadLines_add (accept r parsed) free, ih later]
        constructor
        · rintro ⟨all, fresh, apart⟩
          refine ⟨List.forall_mem_cons.2 ⟨⟨r, parsed⟩, all⟩, ?_, List.pairwise_cons.2 ⟨?_, apart⟩⟩
          · intro old mem
            refine List.forall_mem_cons.2 ⟨?_, fresh old (List.mem_append_left _ mem)⟩
            intro r' own'
            rw [parsed] at own'
            cases own'
            exact free old mem
          · rintro b mem ⟨r₁, r₂, first, second, same⟩
            rw [parsed] at first
            cases first
            have differ := fresh _ (List.mem_append_right routes (List.mem_singleton_self _)) b mem r₂ second
            rw [differ] at same
            cases same
        · rintro ⟨all, fresh, apart⟩
          obtain ⟨first, apart⟩ := List.pairwise_cons.1 apart
          refine ⟨fun b mem => all b (List.mem_cons_of_mem a mem), ?_, apart⟩
          intro old mem b inside r' second
          rcases List.mem_append.1 mem with mem | mem
          · exact fresh old mem b (List.mem_cons_of_mem a inside) r' second
          · rw [List.mem_singleton.1 mem]
            exact Bool.eq_false_iff.2 fun same => first b inside ⟨r, r', parsed, second, same⟩
      · rw [loadLines_conflict (accept r parsed) free]
        refine iff_of_false (by rintro ⟨out, ⟨⟩⟩) ?_
        rintro ⟨-, fresh, -⟩
        exact free fun old mem => fresh old mem a List.mem_cons_self r parsed

/-- `main`'s loop accepts the arguments that parse as they stand, and every route it returns has line number zero. -/
theorem inlineRoutes_ok_iff {i : Nat} {args : List Bytes} :
    (∃ out, inlineRoutes i args = .ok out) ↔ ∀ a ∈ args, Parses a := by
  induction args generalizing i with
  | nil => simp [inlineRoutes]
  | cons a args ih =>
    rw [List.forall_mem_cons, ← @ih (i + 1)]
    constructor
    · rintro ⟨out, ok⟩
      obtain ⟨r, parsed, ok⟩ := bind_eq_ok ok
      obtain ⟨rest, later, -⟩ := bind_eq_ok ok
      exact ⟨⟨r, parsed⟩, rest, later⟩
    · rintro ⟨⟨r, parsed⟩, rest, later⟩
      have into : parseRouteLineInto { clearedRoute with lineNo := (i + 1) % 4294967296 } a = .ok r := parsed
      exact ⟨r :: rest, by simp only [inlineRoutes, into, later]; rfl⟩

theorem inlineRoutes_lineNo {i : Nat} {args : List Bytes} {out : List Route} (ok : inlineRoutes i args = .ok out) :
    out.length = args.length ∧ ∀ r ∈ out, r.lineNo = 0 := by
  induction args generalizing i out with
  | nil =>
    cases ok
    exact ⟨rfl, fun r mem => absurd mem List.not_mem_nil⟩
  | cons a args ih =>
    obtain ⟨r, parsed, ok⟩ := bind_eq_ok ok
    obtain ⟨rest, later, ok⟩ := bind_eq_ok ok
    cases ok
    obtain ⟨length, zero⟩ := ih later
    exact ⟨congrArg (· + 1) length, List.forall_mem_cons.2 ⟨(parseRouteLine_wellFormed parsed).2, zero⟩⟩

/-! ## The two loops -/

/-- The command line and the file agree on these arguments: both accept them or neither does, with the same routes,
and the route of the argument at index `i` has line number `i + 1`. -/
def InlineAgrees (args : List Bytes) : Prop :=
  (∀ routes, inlineRoutes 0 args = .ok routes ↔ loadRoutesFromText ([0x0a].intercalate args) = .ok routes) ∧
    ∀ routes, inlineRoutes 0 args = .ok routes → ∀ (i : Nat) (r : Route), routes[i]? = some r → r.lineNo = i + 1

/-- **When the command line agrees with the file**: only where both reject, that is, where some argument does not parse
as it stands and some argument does not parse without the space around it or two of them, so stripped, listen on the
same endpoint. -/
theorem inline_routes_agree_iff (args : List Bytes) (nonempty : args ≠ []) (own : ∀ a ∈ args, InlineArgument a) :
    InlineAgrees args ↔
      (∃ a ∈ args, ¬ Parses a) ∧
        ((∃ a ∈ args, ¬ Parses (trim a)) ∨ ¬ args.Pairwise fun a b => ¬ Conflicting (trim a) (trim b)) := by
  have load : (∃ out, loadRoutesFromText ([0x0a].intercalate args) = .ok out) ↔
      (∀ a ∈ args, Parses (trim a)) ∧ args.Pairwise fun a b => ¬ Conflicting (trim a) (trim b) := by
    rw [loadRoutesFromText, textLines_join nonempty own, loadLines_ok_iff own]
    simp
  have inl := @inlineRoutes_ok_iff 0 args
  constructor
  · rintro ⟨same, numbered⟩
    have rejected : ¬ ∃ out, inlineRoutes 0 args = .ok out := by
      rintro ⟨out, ok⟩
      obtain ⟨length, zero⟩ := inlineRoutes_lineNo ok
      match out, args, length with
      | [], [], _ => exact nonempty rfl
      | r :: _, _ :: _, _ =>
        have first := numbered _ ok 0 r rfl
        rw [zero r List.mem_cons_self] at first
        omega
    have both : ¬ ∃ out, loadRoutesFromText ([0x0a].intercalate args) = .ok out := by
      rintro ⟨out, ok⟩
      exact rejected ⟨out, (same out).2 ok⟩
    rw [inl] at rejected
    rw [load, not_and_or] at both
    push Not at rejected
    refine ⟨rejected, both.imp (fun some => ?_) id⟩
    push Not at some
    exact some
  · rintro ⟨⟨a, mem, bad⟩, filed⟩
    have rejected : ∀ out, inlineRoutes 0 args ≠ .ok out := fun out ok => bad (inl.1 ⟨out, ok⟩ a mem)
    have both : ∀ out, loadRoutesFromText ([0x0a].intercalate args) ≠ .ok out := by
      intro out ok
      obtain ⟨all, apart⟩ := load.1 ⟨out, ok⟩
      rcases filed with ⟨b, mem, bad⟩ | clash
      · exact bad (all b mem)
      · exact clash apart
    exact ⟨fun routes => iff_of_false (rejected routes) (both routes), fun routes ok => absurd ok (rejected routes)⟩

/-- A TCP route from a port to the same port of 10.0.0.`host`. -/
def portRoute (port : UInt16) (host : Bytes) (lineNo : Nat) : Route where
  listen := { kind := .inet, host := ascii "0.0.0.0", port := port, proto := .tcp }
  upstream := { kind := .inet, host := ascii "10.0.0." ++ host, port := port, proto := .tcp }
  lineNo := lineNo

/-- Two routes on one port, the first with a vertical tab in front of it. -/
def tabbedArgs : List Bytes := [0x0b :: ascii "tcp :80 tcp 10.0.0.1:80", ascii "tcp :80 tcp 10.0.0.2:80"]

/-- Arguments that neither loop takes: the command line stops at the tab, and the file, which strips it, at the port. -/
theorem inline_routes_agree_tabbed : (∀ a ∈ tabbedArgs, InlineArgument a) ∧ InlineAgrees tabbedArgs := by
  have own : ∀ a ∈ tabbedArgs, InlineArgument a := by
    refine List.forall_mem_cons.2 ⟨?_, List.forall_mem_cons.2 ⟨?_, nofun⟩⟩
    all_goals exact ⟨by decide, by decide, by decide, ⟨0x74, by decide, by decide⟩, by decide⟩
  have bad : ¬ Parses (0x0b :: ascii "tcp :80 tcp 10.0.0.1:80") := by
    rintro ⟨r, parsed⟩
    have rejected : (parseRouteLine (0x0b :: ascii "tcp :80 tcp 10.0.0.1:80")).toOption = none := by decide +kernel
    rw [parsed] at rejected
    cases rejected
  have first : parseRouteLine (trim (0x0b :: ascii "tcp :80 tcp 10.0.0.1:80")) = .ok (portRoute 80 (ascii "1") 0) := by
    decide +kernel
  have second : parseRouteLine (trim (ascii "tcp :80 tcp 10.0.0.2:80")) = .ok (portRoute 80 (ascii "2") 0) := by
    decide +kernel
  have clash : ¬ tabbedArgs.Pairwise fun a b => ¬ Conflicting (trim a) (trim b) := by
    intro apart
    have none := (List.pairwise_cons.1 apart).1 _ (List.mem_singleton_self _)
    exact none ⟨_, _, first, second, by decide⟩
  exact ⟨own, (inline_routes_agree_iff _ (by simp [tabbedArgs]) own).2 ⟨⟨_, List.mem_cons_self, bad⟩, .inr clash⟩⟩

/-- Two routes on one port: the file is rejected, the command line is not. -/
theorem inline_routes_disagree_conflict :
    ¬ ∀ args : List Bytes, args ≠ [] → (∀ a ∈ args, InlineArgument a) → InlineAgrees args := by
  intro agree
  have own : ∀ a ∈ [ascii "tcp :80 tcp 10.0.0.1:80", ascii "tcp :80 tcp 10.0.0.2:80"], InlineArgument a := by
    refine List.forall_mem_cons.2 ⟨?_, List.forall_mem_cons.2 ⟨?_, nofun⟩⟩
    all_goals exact ⟨by decide, by decide, by decide, ⟨0x74, by decide, by decide⟩, by decide⟩
  have accepted : (inlineRoutes 0 [ascii "tcp :80 tcp 10.0.0.1:80", ascii "tcp :80 tcp 10.0.0.2:80"]).isOk = true := by
    decide +kernel
  have rejected : (loadRoutesFromText ([0x0a].intercalate
      [ascii "tcp :80 tcp 10.0.0.1:80", ascii "tcp :80 tcp 10.0.0.2:80"])).isOk = false := by
    decide +kernel
  obtain ⟨same, -⟩ := agree _ (by simp) own
  cases inl : inlineRoutes 0 [ascii "tcp :80 tcp 10.0.0.1:80", ascii "tcp :80 tcp 10.0.0.2:80"] with
  | error err =>
    rw [inl] at accepted
    cases accepted
  | ok routes =>
    rw [(same routes).1 inl] at rejected
    cases rejected

end Tinyproxy
