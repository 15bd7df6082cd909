import Tinyproxy.Conf.Concat

/-!
# Layout

What a line means to `load_routes_from_text` is its normal form: the line up to its
first `#`, without the space around it. The code gets there in a fixed order (the
carriage return, the length check, `trim`, the comment, `trim` again) and leaves early
on the way; for lines that are C strings and fit the buffer it always ends at the
normal form (`readLine_normalForm`). So texts with the same normal forms are loaded
alike, and lines with an empty one only count: `layout_irrelevant`.
-/

namespace Tinyproxy

open Lib (ascii cstr isspace)

/-! ## What the loop makes of a line -/

/-- What a line with this normal form adds. -/
def readForm (form : Bytes) : Except Errno (Option Route) :=
  if form = [] then .ok none else readRoute form

theorem readLine_normalForm {raw : Bytes} (plain : PlainLine raw) : readLine raw = readForm (normalForm raw) := by
  rw [readLine, configLine_normalForm plain, readForm]
  by_cases blank : normalForm raw = []
  · rw [if_pos blank, if_pos blank]
  · rw [if_neg blank, if_neg blank]

/-! ## Line by line -/

/-- The loop sees of its lines only what they add. -/
theorem loadLines_congr {routes : List Route} {n : Nat} {lines lines' : List Bytes}
    (same : lines.map readLine = lines'.map readLine) : loadLines routes n lines = loadLines routes n lines' := by
  induction lines generalizing routes n lines' with
  | nil =>
    rw [List.map_nil, eq_comm, List.map_eq_nil_iff] at same
    rw [same]
  | cons raw lines ih =>
    rw [List.map_cons, eq_comm, List.map_eq_cons_iff] at same
    obtain ⟨raw', rest, rfl, first, rest_same⟩ := same
    cases read : readLine raw with
    | error err => rw [loadLines_error read, loadLines_error (first.trans read)]
    | ok added =>
      cases added with
      | none => rw [loadLines_skip read, loadLines_skip (first.trans read), ih rest_same.symm]
      | some r =>
        by_cases free : ∀ old ∈ routes, Apart old r
        · rw [loadLines_add read free, loadLines_add (first.trans read) free, ih rest_same.symm]
        · rw [loadLines_conflict read free, loadLines_conflict (first.trans read) free]

/-- What plain lines add depends on their normal forms. -/
theorem map_readLine {lines : List Bytes} (plain : ∀ raw ∈ lines, PlainLine raw) :
    lines.map readLine = (lines.map normalForm).map readForm := by
  rw [List.map_map]
  exact List.map_congr_left fun raw mem => readLine_normalForm (plain raw mem)

theorem loadLines_normalForm {routes : List Route} {n : Nat} {lines lines' : List Bytes}
    (plain : ∀ raw ∈ lines, PlainLine raw) (plain' : ∀ raw ∈ lines', PlainLine raw)
    (same : lines.map normalForm = lines'.map normalForm) : loadLines routes n lines = loadLines routes n lines' := by
  apply loadLines_congr
  rw [map_readLine plain, map_readLine plain', same]

/-- A text without terminators in it whose lines fit the buffer. -/
structure PlainText (text : Bytes) : Prop where
  nul : 0 ∉ text
  short : ∀ line ∈ textLines text, line.length < maxLineLen

theorem mem_textLines {text line : Bytes} (own : line ∈ textLines text) : line ∈ text.splitOn 0x0a := by
  simp only [textLines] at own
  split at own
  · exact List.dropLast_subset _ own
  · exact own

theorem PlainText.line {text : Bytes} (plain : PlainText text) {line : Bytes} (own : line ∈ textLines text) :
    PlainLine line where
  nul := by
    intro mem
    have piece := mem_textLines own
    rw [List.splitOn_eq_splitOnP] at piece
    exact plain.nul (Lib.mem_splitOnP piece 0 mem).2
  short := plain.short line own

/-! ## What is configured -/

/-- A route without its place in the text. -/
def Route.unnumbered (r : Route) : Route := { r with lineNo := 0 }

/-- The normal forms of the lines that are not empty. -/
def forms (lines : List Bytes) : List Bytes := (lines.map normalForm).filter (· ≠ [])

/-- The routes of such forms, without their places. -/
def loadForms (routes : List Route) : List Bytes → Except Errno (List Route)
  | [] => .ok routes
  | form :: rest =>
    match parseRouteLine form with
    | .error _ => .error .einval
    | .ok r => if (findConflictingRoute routes r).isSome then .error eaddrinuse else loadForms (routes ++ [r]) rest

/-- What is configured does not depend on the lines that add nothing, nor on the numbers. -/
theorem loadLines_forms {routes : List Route} {n : Nat} {lines : List Bytes} (plain : ∀ raw ∈ lines, PlainLine raw) :
    (loadLines routes n lines).map (List.map Route.unnumbered) =
      loadForms (routes.map Route.unnumbered) (forms lines) := by
  induction lines generalizing routes n with
  | nil => rfl
  | cons raw lines ih =>
    have later : ∀ raw ∈ lines, PlainLine raw := fun raw mem => plain raw (List.mem_cons_of_mem _ mem)
    have read := readLine_normalForm (plain raw List.mem_cons_self)
    by_cases blank : normalForm raw = []
    · rw [readForm, if_pos blank] at read
      rw [loadLines_skip read, ih later]
      simp [forms, blank]
    · have front : forms (raw :: lines) = normalForm raw :: forms lines := by
        simp [forms, blank]
      rw [readForm, if_neg blank, readRoute] at read
      rw [front, loadForms]
      cases parsed : parseRouteLine (normalForm raw) with
      | error err =>
        rw [parsed] at read
        rw [loadLines_error read]
        rfl
      | ok r =>
        rw [parsed] at read
        have zero : r.lineNo = 0 := (parseRouteLine_wellFormed parsed).2
        have clash : (findConflictingRoute (routes.map Route.unnumbered) r).isSome = true ↔
            ¬ ∀ old ∈ routes, Apart old r := by
          rw [findConflictingRoute_isSome, List.forall_mem_map]
          rfl
        by_cases free : ∀ old ∈ routes, Apart old r
        · have number : Route.unnumbered { r with lineNo := (n + 1) % 4294967296 } = r := by
            rw [Route.unnumbered, ← zero]
          rw [loadLines_add read free, ih later, List.map_append, List.map_singleton, number]
          exact (if_neg fun found => clash.1 found free).symm
        · rw [loadLines_conflict read free]
          exact (if_pos (clash.2 free)).symm

/-- The variables of the caller, without the places of the routes. -/
def LoadOut.unnumbered (out : LoadOut) : LoadOut where
  routes := out.routes.map (List.map Route.unnumbered)
  count := out.count

theorem LoadOut.unnumbered_of (routes : List Route) :
    (LoadOut.of routes).unnumbered = LoadOut.of (routes.map Route.unnumbered) := by
  simp only [LoadOut.unnumbered, LoadOut.of, List.length_map, List.map_eq_nil_iff]
  split <;> rfl

theorem loadReport_unnumbered (loaded : Except Errno (List Route)) :
    ((loadReport loaded).1, (loadReport loaded).2.unnumbered) =
      loadReport (loaded.map (List.map Route.unnumbered)) := by
  cases loaded with
  | error err => rfl
  | ok routes =>
    simp only [loadReport, LoadOut.unnumbered_of]
    rfl

/-! ## Ways to write a line -/

/-- Another way to write the line `line`: with space around it, so also with a carriage return, and with a comment
behind it. -/
def Rewritten (line line' : Bytes) : Prop :=
  ∃ before after comment, Blank before ∧ Blank after ∧ (comment = [] ∨ comment.head? = some 0x23) ∧
    line' = before ++ line ++ after ++ comment

theorem Rewritten.normalForm {line line' : Bytes} (same : Rewritten line line') :
    normalForm line' = normalForm line := by
  obtain ⟨before, after, comment, left, right, behind, rfl⟩ := same
  rcases behind with rfl | sign
  · rw [List.append_nil, normalForm_pad left right]
  · obtain ⟨rest, rfl⟩ := List.head?_eq_some_iff.1 sign
    rw [normalForm_comment, normalForm_pad left right]

theorem map_normalForm {lines lines' : List Bytes} (same : List.Forall₂ Rewritten lines lines') :
    lines.map normalForm = lines'.map normalForm := by
  induction same with
  | nil => rfl
  | cons first rest ih => rw [List.map_cons, List.map_cons, first.normalForm, ih]

/-- Lines as a text, with a newline at its end or without one. -/
def unlines (final : Bool) (lines : List Bytes) : Bytes :=
  [0x0a].intercalate lines ++ if final then [0x0a] else []

theorem load_unlines {lines : List Bytes} (nonempty : lines ≠ []) (newline : ∀ line ∈ lines, 0x0a ∉ line)
    (final : Bool) : loadRoutesFromText (unlines final lines) = loadLines [] 0 lines := by
  have plain : loadRoutesFromText ([0x0a].intercalate lines) = loadLines [] 0 lines := by
    rw [loadRoutesFromText, ← loadLines_splitOn, List.splitOn_intercalate 0x0a newline nonempty]
  cases final with
  | false =>
    rw [unlines, if_neg (by decide), List.append_nil]
    exact plain
  | true =>
    rw [unlines, if_pos rfl, load_append, plain, textLines_nil]
    cases loadLines [] 0 lines <;> rfl

/-- **Layout does not matter.** Texts whose lines have the same normal forms are loaded alike, line numbers included.
Lines with an empty normal form change nothing but line numbers. Nor does it matter how lines are written: indented or
not, with a carriage return or without, with a comment, with or without a newline at the end of the text. -/
theorem layout_irrelevant (a b : Bytes) (plain : PlainText a) (plain' : PlainText b) (out : LoadOut) :
    ((textLines a).map normalForm = (textLines b).map normalForm →
      loadText ampleMemory a out = loadText ampleMemory b out) ∧
    (((textLines a).map normalForm).filter (· ≠ []) = ((textLines b).map normalForm).filter (· ≠ []) →
      (loadText ampleMemory a out).1 = (loadText ampleMemory b out).1 ∧
        (loadText ampleMemory a out).2.unnumbered = (loadText ampleMemory b out).2.unnumbered) ∧
    ∀ lines lines' final final', lines ≠ [] → (∀ line ∈ lines, PlainLine line ∧ 0x0a ∉ line) →
      (∀ line ∈ lines', PlainLine line ∧ 0x0a ∉ line) → List.Forall₂ Rewritten lines lines' →
      loadText ampleMemory (unlines final lines) out = loadText ampleMemory (unlines final' lines') out := by
  simp only [loadText_eq]
  refine ⟨fun same => congrArg loadReport ?_, fun same => ?_, ?_⟩
  · exact loadLines_normalForm (fun raw => plain.line) (fun raw => plain'.line) same
  · rw [← Prod.mk.injEq, loadReport_unnumbered, loadReport_unnumbered]
    rw [loadRoutesFromText, loadLines_forms fun raw => plain.line, loadRoutesFromText,
      loadLines_forms fun raw => plain'.line]
    exact congrArg (fun forms => loadReport (loadForms [] forms)) same
  · intro lines lines' final final' nonempty own own' rewritten
    have same := map_normalForm rewritten
    have nonempty' : lines' ≠ [] := by
      rintro rfl
      exact nonempty (List.map_eq_nil_iff.1 same)
    apply congrArg loadReport
    rw [load_unlines nonempty fun line mem => (own line mem).2]
    rw [load_unlines nonempty' fun line mem => (own' line mem).2]
    exact loadLines_normalForm (fun raw mem => (own raw mem).1) (fun raw mem => (own' raw mem).1) same

/-- One route, written in two ways: a comment behind it, and indented with a carriage return. -/
theorem layout_irrelevant_crlf :
    PlainText (ascii "tcp :80 tcp 10.0.0.1:80 # web") ∧ PlainText (ascii "\t tcp :80 tcp 10.0.0.1:80\r\n") ∧
      ∀ out, loadText ampleMemory (ascii "tcp :80 tcp 10.0.0.1:80 # web") out =
        loadText ampleMemory (ascii "\t tcp :80 tcp 10.0.0.1:80\r\n") out := by
  have lines : textLines (ascii "tcp :80 tcp 10.0.0.1:80 # web") = [ascii "tcp :80 tcp 10.0.0.1:80 # web"] := by
    decide +kernel
  have lines' : textLines (ascii "\t tcp :80 tcp 10.0.0.1:80\r\n") = [ascii "\t tcp :80 tcp 10.0.0.1:80\r"] := by
    decide +kernel
  have plain : PlainText (ascii "tcp :80 tcp 10.0.0.1:80 # web") := by
    refine ⟨by decide, ?_⟩
    rw [lines]
    exact List.forall_mem_singleton.2 (by decide)
  have plain' : PlainText (ascii "\t tcp :80 tcp 10.0.0.1:80\r\n") := by
    refine ⟨by decide, ?_⟩
    rw [lines']
    exact List.forall_mem_singleton.2 (by decide)
  refine ⟨plain, plain', fun out => (layout_irrelevant _ _ plain plain' out).1 ?_⟩
  rw [lines, lines']
  decide +kernel

end Tinyproxy
