import Tinyproxy.Lib.Printf
import Tinyproxy.Route

/-!
# The options of a route as text

`route_options_str` of `route.c`, which writes the options that are not the default into a
buffer of the caller. Each `ADD_FMT` is one `snprintf` behind what is there, and the first
that does not fit ends the function. `snprintf` does not fail for these formats, so that
the branch for a negative result does not show here.
-/

namespace Tinyproxy

open Lib (ascii cstr decimalInt putAt snprintf Filled)

/-- `buf` and `n`. -/
structure OptionsBuf where
  buf : Bytes
  n : Nat

/-- `ADD_FMT`, with the formatted option; the function returns with the buffer of an error. -/
def addFmt (buflen : Nat) (st : OptionsBuf) (option : Bytes) : Except Bytes OptionsBuf :=
  if st.n ≥ buflen then .error (putAt st.buf (buflen - 1) [0]) else
  let text := (if st.n = 0 then [] else ascii ", ") ++ option
  let buf := snprintf st.buf st.n (buflen - st.n) text
  if text.length ≥ buflen - st.n then .error (putAt buf (buflen - 1) [0]) else
  .ok { buf := buf, n := st.n + text.length }

/-- `ADD_BOOL`. -/
def addBool (buflen : Nat) (name : String) (enabled : Bool) (st : OptionsBuf) : Except Bytes OptionsBuf :=
  addFmt buflen st (ascii name ++ 0x3d :: (if enabled then ascii "true" else ascii "false"))

/-- `ADD_INT`. -/
def addInt (buflen : Nat) (name : String) (value : Int) (st : OptionsBuf) : Except Bytes OptionsBuf :=
  addFmt buflen st (ascii name ++ 0x3d :: decimalInt value)

/-- An `if` around one of them. -/
def addWhen (enabled : Bool) (add : OptionsBuf → Except Bytes OptionsBuf) (st : OptionsBuf) : Except Bytes OptionsBuf :=
  if enabled then add st else .ok st

/-- The `switch` over `broadcast_reply`. -/
def addBroadcastReply (buflen : Nat) (mode : BroadcastReplyMode) (st : OptionsBuf) : Except Bytes OptionsBuf :=
  match mode with
  | .off => .ok st
  | .listen => addFmt buflen st (ascii "broadcast_reply" ++ 0x3d :: ascii "listen")
  | .upstream => addFmt buflen st (ascii "broadcast_reply" ++ 0x3d :: ascii "upstream")

/-- The buffer at the end. -/
def optionsResult : Except Bytes OptionsBuf → Bytes
  | .ok st => st.buf
  | .error buf => buf

/-- `route_options_str`. -/
def routeOptionsStr (opts : RouteOptions) (buf : Bytes) (buflen : Nat) : Bytes :=
  if buflen = 0 then buf else
  optionsResult do
    let st := { buf := putAt buf 0 [0], n := 0 }
    let st ← addWhen opts.proxyV2 (addBool buflen "proxy_v2" opts.proxyV2) st
    let st ← addWhen (opts.idleTimeoutSec != 60) (addInt buflen "idle_timeout" opts.idleTimeoutSec) st
    let st ← addWhen (opts.connectTimeoutSec != 5) (addInt buflen "connect_timeout" opts.connectTimeoutSec) st
    let st ← addWhen (opts.bindWaitSec != 0) (addInt buflen "bind_wait" opts.bindWaitSec) st
    let st ← addWhen opts.keepAlive (addBool buflen "keep_alive" opts.keepAlive) st
    let st ← addWhen opts.sniSniff (addBool buflen "sni_sniff" opts.sniSniff) st
    addBroadcastReply buflen opts.broadcastReply st

/-! ## The rendering -/

/-- An option with its value, when it is enabled. -/
def enabledOption (enabled : Bool) (name : String) (value : Bytes) : List Bytes :=
  if enabled then [ascii name ++ 0x3d :: value] else []

/-- The enabled options, each as it is written, in order. -/
def optionTexts (opts : RouteOptions) : List Bytes :=
  enabledOption opts.proxyV2 "proxy_v2" (ascii "true") ++
  (enabledOption (opts.idleTimeoutSec != 60) "idle_timeout" (decimalInt opts.idleTimeoutSec) ++
  (enabledOption (opts.connectTimeoutSec != 5) "connect_timeout" (decimalInt opts.connectTimeoutSec) ++
  (enabledOption (opts.bindWaitSec != 0) "bind_wait" (decimalInt opts.bindWaitSec) ++
  (enabledOption opts.keepAlive "keep_alive" (ascii "true") ++
  (enabledOption opts.sniSniff "sni_sniff" (ascii "true") ++
  (enabledOption (opts.broadcastReply == .listen) "broadcast_reply" (ascii "listen") ++
  enabledOption (opts.broadcastReply == .upstream) "broadcast_reply" (ascii "upstream")))))))

/-- The untruncated rendering: the enabled options, joined by `", "`. -/
def RouteOptions.describe (opts : RouteOptions) : Bytes := (ascii ", ").intercalate (optionTexts opts)

section Fold

variable {buflen : Nat}

/-- An option that is added when it is enabled. -/
theorem addWhen_eq {enabled : Bool} {add : OptionsBuf → Except Bytes OptionsBuf} {name : String} {value : Bytes}
    (adds : enabled = true → ∀ st, add st = addFmt buflen st (ascii name ++ 0x3d :: value)) (st : OptionsBuf) :
    addWhen enabled add st = (enabledOption enabled name value).foldlM (addFmt buflen) st := by
  cases enabled with
  | false => rfl
  | true =>
    show add st = _
    rw [adds rfl st]
    exact (bind_pure _).symm

theorem addBool_eq (name : String) (enabled : Bool) (st : OptionsBuf) :
    addWhen enabled (addBool buflen name enabled) st =
      (enabledOption enabled name (ascii "true")).foldlM (addFmt buflen) st := by
  apply addWhen_eq
  intro set st
  rw [addBool, if_pos set]

theorem addInt_eq (enabled : Bool) (name : String) (value : Int) (st : OptionsBuf) :
    addWhen enabled (addInt buflen name value) st =
      (enabledOption enabled name (decimalInt value)).foldlM (addFmt buflen) st := by
  apply addWhen_eq
  intro set st
  rfl

theorem addBroadcastReply_eq (mode : BroadcastReplyMode) (st : OptionsBuf) :
    addBroadcastReply buflen mode st =
      (enabledOption (mode == .listen) "broadcast_reply" (ascii "listen") ++
        enabledOption (mode == .upstream) "broadcast_reply" (ascii "upstream")).foldlM (addFmt buflen) st := by
  cases mode with
  | off => rfl
  | listen | upstream => exact (bind_pure _).symm

/-- The function adds the enabled options one after another. -/
theorem routeOptionsStr_eq {opts : RouteOptions} {buf : Bytes} (some : buflen ≠ 0) :
    routeOptionsStr opts buf buflen =
      optionsResult ((optionTexts opts).foldlM (addFmt buflen) { buf := putAt buf 0 [0], n := 0 }) := by
  rw [routeOptionsStr, if_neg some, optionTexts]
  simp only [addBool_eq, addInt_eq, addBroadcastReply_eq, List.foldlM_append]

/-- The rendering with one option more. -/
def joinOption (text option : Bytes) : Bytes := text ++ ((if text = [] then [] else ascii ", ") ++ option)

theorem addFmt_filled {before text : Bytes} {st : OptionsBuf} (option : Bytes) (inside : buflen ≤ before.length)
    (filled : Filled before buflen text st.buf) (offset : st.n = text.length) :
    match addFmt buflen st option with
    | .ok next => Filled before buflen (joinOption text option) next.buf ∧ next.n = (joinOption text option).length
    | .error buf =>
      Filled before buflen ((joinOption text option).take (buflen - 1)) buf ∧
        buflen ≤ (joinOption text option).length := by
  have short := filled.short
  have separator : (if st.n = 0 then [] else ascii ", ") = if text = [] then [] else ascii ", " := by
    by_cases empty : text = []
    · rw [if_pos empty, if_pos (by rw [offset, empty]; rfl)]
    · rw [if_neg empty, if_neg (by rwa [offset, List.length_eq_zero_iff])]
  have size : (joinOption text option).length = text.length + ((if text = [] then [] else ascii ", ") ++ option).length := by
    rw [joinOption, List.length_append]
  have written := filled.snprintf inside ((if text = [] then [] else ascii ", ") ++ option)
  rw [← joinOption] at written
  unfold addFmt
  rw [if_neg (by omega)]
  simp only [separator]
  simp only [offset]
  generalize (if text = [] then [] else ascii ", ") ++ option = added at size written ⊢
  split_ifs with full
  · exact ⟨written.terminate inside (by rw [List.length_take]; omega), by omega⟩
  · rw [List.take_of_length_le (by omega)] at written
    exact ⟨written, size.symm⟩

theorem foldl_joinOption_prefix (options : List Bytes) (text : Bytes) : text <+: options.foldl joinOption text := by
  induction options generalizing text with
  | nil => exact List.prefix_refl _
  | cons option options ih => exact (List.prefix_append _ _).trans (ih _)

theorem foldlM_addFmt {before text : Bytes} {st : OptionsBuf} (options : List Bytes) (inside : buflen ≤ before.length)
    (filled : Filled before buflen text st.buf) (offset : st.n = text.length) :
    Filled before buflen ((options.foldl joinOption text).take (buflen - 1))
      (optionsResult (options.foldlM (addFmt buflen) st)) := by
  induction options generalizing text st with
  | nil =>
    have short := filled.short
    rw [List.foldl_nil, List.take_of_length_le (by omega)]
    exact filled
  | cons option options ih =>
    have step := addFmt_filled option inside filled offset
    rw [List.foldl_cons, List.foldlM_cons]
    cases added : addFmt buflen st option with
    | ok next =>
      rw [added] at step
      exact ih step.1 step.2
    | error buf =>
      rw [added] at step
      obtain ⟨rest, whole⟩ := foldl_joinOption_prefix options (joinOption text option)
      rw [← whole, List.take_append_of_le_length (by omega)]
      exact step.1

/-- The options behind the first come each with a separator. -/
theorem foldl_joinOption {text : Bytes} {options : List Bytes} (some : text ≠ []) :
    options.foldl joinOption text = (ascii ", ").intercalate (text :: options) := by
  induction options generalizing text with
  | nil => simp [List.intercalate]
  | cons option options ih =>
    rw [List.foldl_cons, ih (by simp [joinOption, some]), joinOption, if_neg some]
    cases options with
    | nil => simp [List.intercalate]
    | cons next options => simp [List.intercalate]

end Fold

/-- An option is not empty and has no terminator in it. -/
theorem enabledOption_text {enabled : Bool} {name : String} {value text : Bytes}
    (own : text ∈ enabledOption enabled name value) (nameText : 0 ∉ ascii name) (valueText : 0 ∉ value) :
    text ≠ [] ∧ 0 ∉ text := by
  unfold enabledOption at own
  split at own
  · rw [List.mem_singleton.1 own]
    constructor
    · simp
    · intro inside
      rcases List.mem_append.1 inside with inside | inside
      · exact nameText inside
      · exact valueText ((List.mem_cons.1 inside).resolve_left (by decide))
  · simp at own

theorem decimalInt_text (v : Int) : 0 ∉ decimalInt v := fun inside => Lib.decimalInt_ne_zero v 0 inside rfl

theorem optionTexts_text {opts : RouteOptions} {text : Bytes} (own : text ∈ optionTexts opts) : text ≠ [] ∧ 0 ∉ text := by
  simp only [optionTexts, List.mem_append] at own
  rcases own with own | own | own | own | own | own | own | own
  · exact enabledOption_text own (by decide) (by decide)
  · exact enabledOption_text own (by decide) (decimalInt_text _)
  · exact enabledOption_text own (by decide) (decimalInt_text _)
  · exact enabledOption_text own (by decide) (decimalInt_text _)
  all_goals exact enabledOption_text own (by decide) (by decide)

theorem describe_eq (opts : RouteOptions) : (optionTexts opts).foldl joinOption [] = opts.describe := by
  have some : ∀ text ∈ optionTexts opts, text ≠ [] := fun text own => (optionTexts_text own).1
  rw [RouteOptions.describe]
  cases texts : optionTexts opts with
  | nil => rfl
  | cons text texts' =>
    rw [texts] at some
    rw [List.foldl_cons, joinOption, if_pos rfl, List.nil_append, List.nil_append,
      foldl_joinOption (some text List.mem_cons_self)]

theorem foldl_joinOption_text {options : List Bytes} {text : Bytes} (first : 0 ∉ text)
    (others : ∀ option ∈ options, 0 ∉ option) : 0 ∉ options.foldl joinOption text := by
  induction options generalizing text with
  | nil => exact first
  | cons option options ih =>
    apply ih ?_ fun other own => others other (List.mem_cons_of_mem option own)
    have separator : 0 ∉ if text = [] then [] else ascii ", " := by
      split
      · exact List.not_mem_nil
      · decide
    intro inside
    rcases List.mem_append.1 inside with inside | inside
    · exact first inside
    rcases List.mem_append.1 inside with inside | inside
    · exact separator inside
    · exact others option List.mem_cons_self inside

/-- No byte of the rendering ends a string. -/
theorem describe_text (opts : RouteOptions) : 0 ∉ opts.describe := by
  rw [← describe_eq]
  exact foldl_joinOption_text List.not_mem_nil fun option own => (optionTexts_text own).2

/-- **Rendering the options of a route.** Only the first `buflen` bytes of the memory at `buf` are written, and they
hold a terminated string: as much of the rendering as fits. -/
theorem route_options_str_truncates (opts : RouteOptions) {buf : Bytes} {buflen : Nat} (some : 1 ≤ buflen)
    (room : buflen ≤ buf.length) :
    (routeOptionsStr opts buf buflen).length = buf.length ∧
    (routeOptionsStr opts buf buflen).drop buflen = buf.drop buflen ∧
    0 ∈ (routeOptionsStr opts buf buflen).take buflen ∧
    cstr (routeOptionsStr opts buf buflen) = opts.describe.take (min opts.describe.length (buflen - 1)) := by
  have written := @foldlM_addFmt buflen buf [] { buf := putAt buf 0 [0], n := 0 } (optionTexts opts) room
    (Lib.filled_nil some room) rfl
  rw [← routeOptionsStr_eq (show buflen ≠ 0 by omega), describe_eq] at written
  have short := written.short
  refine ⟨written.length, written.outside, ?_, ?_⟩
  · obtain ⟨rest, whole⟩ := written.string
    rw [← whole, List.take_append, List.take_of_length_le]
    · simp
    · rw [List.length_append, List.length_singleton]
      exact short
  · rw [written.cstr fun c own zero => describe_text opts (zero ▸ List.mem_of_mem_take own), Nat.min_comm]
    exact List.take_eq_take_min

/-- A caller's buffer of 16 bytes, with two options set. -/
theorem route_options_str_truncates_short :
    cstr (routeOptionsStr { proxyV2 := true, idleTimeoutSec := -3 } (List.replicate 20 0xff) 16) =
      ascii "proxy_v2=true, " := by
  have truncates := (route_options_str_truncates { proxyV2 := true, idleTimeoutSec := -3 }
    (show 1 ≤ 16 by decide) (show 16 ≤ (List.replicate 20 (0xff : UInt8)).length by decide)).2.2.2
  rw [truncates]
  decide +kernel

end Tinyproxy
