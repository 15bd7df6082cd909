import Tinyproxy.Conf.Load

/-!
# The command line

The loop of `main` over `getopt` and the checks behind it. `main` goes on from there with
the options it has read, or returns; `Exit` is how it returns.

`getopt` takes the options in turn, with the argument of an option in the same element of
`argv` or in the next one. An element that is no option is an operand: GNU `getopt` moves
it behind the options and goes on, others stop there. `command_line_read` says which command
lines `main` goes on from, and with what.
-/

namespace Tinyproxy

open Lib (ascii strtoul)

/-- The options of `"c:L:w:h:v"` that have an argument; `-h` is one of them. -/
inductive CliOption where
  | workers | conf | route | help
  deriving DecidableEq, Repr

def CliOption.letter : CliOption → UInt8
  | .workers => 0x77
  | .conf => 0x63
  | .route => 0x4c
  | .help => 0x68

/-- The option with a letter. -/
def optionOf (c : UInt8) : Option CliOption :=
  if c = 0x77 then some .workers else
  if c = 0x63 then some .conf else
  if c = 0x4c then some .route else
  if c = 0x68 then some .help else none

/-- A `return` of `main` before its label `out`: the exit code, and whether `inline_routes` stays allocated. -/
structure Exit where
  code : Nat
  leaks : Bool
  deriving DecidableEq, Repr

/-- What the loop depends on: `sysconf(_SC_NPROCESSORS_ONLN)`, whether `realloc` grants a capacity, and whether `getopt`
goes on behind an operand. -/
structure CliEnv where
  cpus : Int
  realloc : Nat → Bool
  permutes : Bool

/-- `compat_cpu_count`. -/
def compatCpuCount (n : Int) : Nat := if n < 1 ∨ n > intMax then 1 else n.toNat

/-- The locals of `main` that the loop sets; `cap` is `inline_route_cap`. -/
structure Options where
  workerCount : Nat := 1
  confPath : Option Bytes := none
  inlineRoutes : List Bytes := []
  cap : Nat := 0
  deriving DecidableEq, Repr

/-- The number of workers in the argument of `-w`. -/
def parseWorkers (env : CliEnv) (value : Bytes) : Option Nat :=
  if value = [] then none else
  let r := strtoul value
  if r.erange ∨ r.rest = value ∨ r.rest ≠ [] ∨ (r.value : Int) > intMax then none else
  some (if r.value = 0 then compatCpuCount env.cpus - 1 else r.value)

/-- The next capacity of the array of `-L`, where it is full. -/
def nextCap (cap : Nat) : Nat := if cap = 0 then 4 else cap * 2

/-- One turn of the loop, for an option with its argument. -/
def Options.take (env : CliEnv) (o : Options) (option : CliOption) (value : Bytes) : Except Exit Options :=
  match option with
  | .workers =>
    match parseWorkers env value with
    | none => .error ⟨2, o.cap ≠ 0⟩
    | some n => .ok { o with workerCount := n }
  | .conf => if value = [] then .error ⟨2, false⟩ else .ok { o with confPath := some value }
  | .route =>
    if value = [] then .error ⟨2, false⟩ else
    if o.inlineRoutes.length = o.cap then
      if env.realloc (nextCap o.cap) then
        .ok { o with inlineRoutes := o.inlineRoutes ++ [value], cap := nextCap o.cap }
      else .error ⟨1, false⟩
    else .ok { o with inlineRoutes := o.inlineRoutes ++ [value] }
  | .help => .error ⟨0, false⟩

/-- The loop over `getopt`, and whether there are operands. -/
def readOptions (env : CliEnv) (o : Options) (operands : Bool) : List Bytes → Except Exit (Options × Bool)
  | [] => .ok (o, operands)
  | arg :: rest =>
    match arg with
    | 0x2d :: c :: attached =>
      if c = 0x2d ∧ attached = [] then .ok (o, operands || !rest.isEmpty) else
      if c = 0x76 then .error ⟨0, false⟩ else
      match optionOf c with
      -- `getopt` returns `?`, here and where the argument is missing
      | none => .error ⟨2, false⟩
      | some option =>
        if attached ≠ [] then
          match o.take env option attached with
          | .ok o => readOptions env o operands rest
          | .error exit => .error exit
        else
          match rest with
          | [] => .error ⟨2, false⟩
          | value :: rest =>
            match o.take env option value with
            | .ok o => readOptions env o operands rest
            | .error exit => .error exit
    | _ => if env.permutes then readOptions env o true rest else .ok (o, true)

/-- `main` up to the loading of the routes. -/
def commandLine (env : CliEnv) (argv : List Bytes) : Except Exit Options :=
  match readOptions env {} false argv with
  | .error exit => .error exit
  | .ok (o, operands) =>
    if o.confPath = none ∧ o.inlineRoutes = [] then .error ⟨0, false⟩ else
    if o.confPath.isSome ∧ o.inlineRoutes ≠ [] then .error ⟨2, false⟩ else
    if operands then .error ⟨2, o.cap ≠ 0⟩ else .ok o

/-! ## Spelling -/

/-- The values given for an option. -/
def valuesOf (option : CliOption) (given : List (CliOption × Bytes)) : List Bytes :=
  (given.filter (·.1 = option)).map (·.2)

/-- The capacity of the array of `-L` once it holds this many routes. -/
def capacity : Nat → Nat
  | 0 => 0
  | n + 1 => if n = capacity n then nextCap (capacity n) else capacity n

/-- The array has room. -/
theorem le_capacity (n : Nat) : n ≤ capacity n := by
  induction n with
  | zero => exact Nat.le_refl 0
  | succ n ih =>
    rw [capacity]
    unfold nextCap
    split
    · split
      · omega
      · omega
    · omega

/-- The locals after these options. -/
def Options.after (env : CliEnv) (o : Options) (given : List (CliOption × Bytes)) : Options where
  workerCount := ((valuesOf .workers given).filterMap (parseWorkers env)).getLastD o.workerCount
  confPath := ((valuesOf .conf given).map some).getLastD o.confPath
  inlineRoutes := o.inlineRoutes ++ valuesOf .route given
  cap := capacity (o.inlineRoutes ++ valuesOf .route given).length

/-- `main` goes on from a command line of these options, with these locals. -/
structure Launches (env : CliEnv) (given : List (CliOption × Bytes)) (o : Options) : Prop where
  help : valuesOf .help given = []
  filled : ∀ p ∈ given, p.2 ≠ []
  numbers : ∀ value ∈ valuesOf .workers given, ∃ count, parseWorkers env value = some count
  /-- The array of `-L` could be enlarged each time it was full. -/
  memory : ∀ k, k < (valuesOf .route given).length → k = capacity k → env.realloc (capacity (k + 1)) = true
  /-- The routes come from `-c` or from `-L`, and not from both. -/
  source : valuesOf .conf given = [] ↔ valuesOf .route given ≠ []
  workerCount : o.workerCount = ((valuesOf .workers given).filterMap (parseWorkers env)).getLastD 1
  confPath : o.confPath = (valuesOf .conf given).getLast?
  inlineRoutes : o.inlineRoutes = valuesOf .route given
  cap : o.cap = capacity o.inlineRoutes.length

/-- The locals `main` goes on with have room for the routes of `-L`. -/
theorem Launches.room {env : CliEnv} {given : List (CliOption × Bytes)} {o : Options} (launches : Launches env given o) :
    o.inlineRoutes.length ≤ o.cap := by
  rw [launches.cap]
  exact le_capacity _

/-- `-h` has an argument, and without one it is an error. -/
example : commandLine ⟨4, fun _ => true, true⟩ [ascii "-h"] = .error ⟨2, false⟩ := by decide

example : commandLine ⟨4, fun _ => true, true⟩ [ascii "-w0", ascii "-c", ascii "a.conf", ascii "--"] =
    .ok { workerCount := 3, confPath := some (ascii "a.conf") } := by decide

end Tinyproxy
