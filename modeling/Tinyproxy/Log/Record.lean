import Tinyproxy.Conf.WellFormed
import Tinyproxy.Lib.Printf

/-!
# Log records

`log_at` of `klog.c` and what it prints with: one line for each record, a head with the
time and the place, the message, and fields of a key and a value. Messages and string values
are quoted and escaped; endpoints are printed as `endpoint_to_string` of `endpoint.c` writes
them into a buffer of 256 bytes, without quotes.
-/

namespace Tinyproxy

open Lib (ascii cstr decimal decimalInt padded snprintf)

/-! ## Values -/

/-- One turn of the loop of `print_quoted_value`. -/
def escapeByte (c : UInt8) : Bytes :=
  if c = 0x5c then [0x5c, 0x5c] else
  if c = 0x22 then [0x5c, 0x22] else
  if c = 0x0a then [0x5c, 0x6e] else
  if c = 0x0d then [0x5c, 0x72] else
  if c = 0x09 then [0x5c, 0x74] else [c]

/-- What `print_quoted_value` prints between the quotes. -/
def escape (s : Bytes) : Bytes := s.flatMap escapeByte

/-- `print_quoted_value`; the string may be `NULL`. -/
def printQuotedValue : Option Bytes → Bytes
  | none => [0x22, 0x22]
  | some s => 0x22 :: (escape s ++ [0x22])

/-- The text `endpoint_to_string` formats. -/
def endpointText : Option Endpoint → Bytes
  | none => ascii "<nil>"
  | some ep =>
    match ep.kind with
    | .inet => ep.host ++ 0x3a :: decimal ep.port.toNat
    | .inet6 => 0x5b :: (ep.host ++ 0x5d :: 0x3a :: decimal ep.port.toNat)
    | .unix => ascii "unix:" ++ ep.path
    | .unixDgram => ascii "unix-dgram:" ++ ep.path
    | .builtin => ascii "builtin://" ++ xBuiltinName ep.builtin
    | .file => ascii "file://" ++ ep.path

/-- `endpoint_to_string`, for a buffer. -/
def endpointToString (ep : Option Endpoint) (buf : Bytes) (bufLen : Nat) : Except Errno Bytes :=
  if bufLen = 0 then .error .einval else .ok (snprintf buf 0 bufLen (endpointText ep))

/-- `log_print_endpoint`, with the bytes that its buffer starts with. -/
def logPrintEndpoint (buf : Bytes) (ep : Option Endpoint) : Bytes :=
  match endpointToString ep buf 256 with
  | .ok buf => cstr buf
  | .error _ => cstr buf

/-- `struct log_value`; `invalid` is a type outside the enumeration. -/
inductive LogValue where
  | str (s : Option Bytes)
  | int (v : Int)
  | uint (v : Nat)
  | long (v : Int)
  | ulong (v : Nat)
  | llong (v : Int)
  | ullong (v : Nat)
  | endpoint (ep : Option Endpoint)
  | invalid

/-- `print_log_value`. -/
def printLogValue (buf : Bytes) : LogValue → Bytes
  | .str s => printQuotedValue s
  | .int v | .long v | .llong v => decimalInt v
  | .uint v | .ulong v | .ullong v => decimal v
  | .endpoint ep => logPrintEndpoint buf ep
  | .invalid => ascii "<invalid>"

/-! ## Records -/

/-- The characters `LOG_INFO`, `LOG_WARN` and `LOG_ERROR` pass. -/
inductive Severity where
  | info | warn | error
  deriving DecidableEq

def Severity.char : Severity → UInt8
  | .info => 0x49
  | .warn => 0x57
  | .error => 0x45

/-- `struct tm`, as far as it is printed. -/
structure Tm where
  mon : Nat
  mday : Nat
  hour : Nat
  min : Nat
  sec : Nat

/-- `strftime` with `"%m%d %H:%M:%S"`. -/
def strftime (tm : Tm) : Bytes :=
  let two n := padded 0x30 2 (decimal n)
  two (tm.mon + 1) ++ two tm.mday ++ 0x20 :: (two tm.hour ++ 0x3a :: (two tm.min ++ 0x3a :: two tm.sec))

/-- The time, the process, the worker and the memory a record is written with. -/
structure LogEnv where
  tm : Tm
  usec : Nat
  pid : Nat
  workerId : Int
  buf : Bytes
  bufSize : buf.length = 256

/-- The head of a record, up to `msg=`. A worker id is printed as an unsigned number. -/
def logHead (env : LogEnv) (sev : Severity) (file : Bytes) (line : Int) : Bytes :=
  sev.char :: (strftime env.tm ++ 0x2e :: (padded 0x30 6 (decimal env.usec) ++ 0x20 ::
    (padded 0x20 7 (decimal env.pid) ++ 0x20 :: (file ++ 0x3a :: (decimalInt line ++
      (ascii "] worker=" ++ (decimal (env.workerId % 4294967296).toNat ++ ascii " msg=")))))))

/-- One field of a record. -/
def logField (buf : Bytes) (field : Bytes × LogValue) : Bytes :=
  0x20 :: (field.1 ++ 0x3d :: printLogValue buf field.2)

/-- `log_at`: what it writes to `stderr`. -/
def logAt (env : LogEnv) (sev : Severity) (file : Bytes) (line : Int) (msg : Option Bytes)
    (fields : List (Bytes × LogValue)) : Bytes :=
  logHead env sev file line ++ (printQuotedValue msg ++ (fields.flatMap (logField env.buf) ++ [0x0a]))

/-! ## Reading a quoted value back -/

/-- The byte an escape stands for. -/
def unescapeByte (e : UInt8) : Option UInt8 :=
  if e = 0x5c then some 0x5c else
  if e = 0x22 then some 0x22 else
  if e = 0x6e then some 0x0a else
  if e = 0x72 then some 0x0d else
  if e = 0x74 then some 0x09 else none

/-- The text with its escapes undone. -/
def unescape : Bytes → Option Bytes
  | [] => some []
  | [c] => if c = 0x5c then none else some [c]
  | c :: e :: rest =>
    if c = 0x5c then (unescapeByte e).bind fun d => (unescape rest).map (d :: ·)
    else (unescape (e :: rest)).map (c :: ·)

/-- The position of the first quote without a backslash in front of it. -/
def firstUnescapedQuote : Bytes → Option Nat
  | [] => none
  | [c] => if c = 0x22 then some 0 else none
  | c :: e :: rest =>
    if c = 0x22 then some 0 else
    if c = 0x5c then (firstUnescapedQuote rest).map (· + 2) else (firstUnescapedQuote (e :: rest)).map (· + 1)

/-- A byte is printed as it is or as an escape that stands for it. -/
theorem escapeByte_cases (c : UInt8) :
    (∃ e, escapeByte c = [0x5c, e] ∧ unescapeByte e = some c ∧ e ≠ 0x0a) ∨
      (escapeByte c = [c] ∧ c ≠ 0x5c ∧ c ≠ 0x22 ∧ c ≠ 0x0a) := by
  unfold escapeByte
  split_ifs with backslash quote newline carriage tab
  · exact .inl ⟨0x5c, rfl, by rw [backslash]; rfl, by decide⟩
  · exact .inl ⟨0x22, rfl, by rw [quote]; rfl, by decide⟩
  · exact .inl ⟨0x6e, rfl, by rw [newline]; rfl, by decide⟩
  · exact .inl ⟨0x72, rfl, by rw [carriage]; rfl, by decide⟩
  · exact .inl ⟨0x74, rfl, by rw [tab]; rfl, by decide⟩
  · exact .inr ⟨rfl, backslash, quote, newline⟩

theorem unescape_plain {c : UInt8} (plain : c ≠ 0x5c) (rest : Bytes) :
    unescape (c :: rest) = (unescape rest).map (c :: ·) := by
  cases rest with
  | nil => simp [unescape, plain]
  | cons e rest => rw [unescape, if_neg plain]

theorem firstUnescapedQuote_plain {c : UInt8} (backslash : c ≠ 0x5c) (quote : c ≠ 0x22) (rest : Bytes) :
    firstUnescapedQuote (c :: rest) = (firstUnescapedQuote rest).map (· + 1) := by
  cases rest with
  | nil => simp [firstUnescapedQuote, quote]
  | cons e rest => rw [firstUnescapedQuote, if_neg quote, if_neg backslash]

/-- Undoing the escapes gives the string back. -/
theorem unescape_escape (s : Bytes) : unescape (escape s) = some s := by
  induction s with
  | nil => rfl
  | cons c s ih =>
    have step : escape (c :: s) = escapeByte c ++ escape s := rfl
    rw [step]
    rcases escapeByte_cases c with ⟨e, printed, stands, -⟩ | ⟨printed, plain, -⟩
    · rw [printed, List.cons_append, List.singleton_append, unescape, if_pos rfl, stands, ih]
      rfl
    · rw [printed, List.singleton_append, unescape_plain plain, ih]
      rfl

/-- The first quote that is not escaped is the closing one. -/
theorem firstUnescapedQuote_escape (s rest : Bytes) :
    firstUnescapedQuote (escape s ++ 0x22 :: rest) = some (escape s).length := by
  induction s with
  | nil =>
    cases rest with
    | nil => rfl
    | cons c rest => rfl
  | cons c s ih =>
    have step : escape (c :: s) = escapeByte c ++ escape s := rfl
    rw [step, List.append_assoc, List.length_append]
    rcases escapeByte_cases c with ⟨e, printed, -, -⟩ | ⟨printed, plain, quote, -⟩
    · rw [printed, List.cons_append, List.singleton_append, firstUnescapedQuote, if_neg (by decide), if_pos rfl, ih]
      simp only [Option.map_some, List.length_cons, List.length_nil]
      congr 1
      omega
    · rw [printed, List.singleton_append, firstUnescapedQuote_plain plain quote, ih]
      simp only [Option.map_some, List.length_cons, List.length_nil]
      congr 1
      omega

/-! ## Newlines -/

/-- A string without a newline. -/
def OneLine (s : Bytes) : Prop := 0x0a ∉ s

theorem OneLine.append {s t : Bytes} (left : OneLine s) (right : OneLine t) : OneLine (s ++ t) := by
  intro inside
  rcases List.mem_append.1 inside with inside | inside
  · exact left inside
  · exact right inside

theorem OneLine.cons {c : UInt8} {s : Bytes} (first : c ≠ 0x0a) (rest : OneLine s) : OneLine (c :: s) := by
  intro inside
  rcases List.mem_cons.1 inside with same | inside
  · exact first same.symm
  · exact rest inside

theorem oneLine_decimal (n : Nat) : OneLine (decimal n) :=
  fun inside => Lib.digit_ne (Lib.decimal_digits n _ inside) (by decide) rfl

theorem oneLine_decimalInt (v : Int) : OneLine (decimalInt v) := by
  unfold decimalInt
  split
  · exact (oneLine_decimal _).cons (by decide)
  · exact oneLine_decimal _

theorem oneLine_padded {fill : UInt8} {text : Bytes} (width : Nat) (blank : fill ≠ 0x0a) (one : OneLine text) :
    OneLine (padded fill width text) := by
  apply OneLine.append ?_ one
  intro inside
  exact blank (List.eq_of_mem_replicate inside).symm

theorem oneLine_escape (s : Bytes) : OneLine (escape s) := by
  intro inside
  obtain ⟨c, -, printed⟩ := List.mem_flatMap.1 inside
  rcases escapeByte_cases c with ⟨e, escaped, -, other⟩ | ⟨same, -, -, other⟩
  · rw [escaped] at printed
    simp only [List.mem_cons, List.not_mem_nil, or_false] at printed
    exact printed.elim (by decide) fun same => other same.symm
  · rw [same, List.mem_singleton] at printed
    exact other printed.symm

theorem oneLine_printQuotedValue (s : Option Bytes) : OneLine (printQuotedValue s) := by
  cases s with
  | none => exact (by decide : (0x0a : UInt8) ∉ [0x22, 0x22])
  | some s => exact ((oneLine_escape s).append (by decide : (0x0a : UInt8) ∉ [0x22])).cons (by decide)

theorem FieldText.oneLine {s : Bytes} (text : FieldText s) : OneLine s := by
  intro inside
  exact absurd (text _ inside).2 (by decide)

/-- The text of an endpoint of the configuration language. -/
theorem oneLine_endpointText {ep : Endpoint} (good : ep.WellFormed) : OneLine (endpointText (some ep)) := by
  have number (n : Nat) : OneLine (0x3a :: decimal n) := (oneLine_decimal n).cons (by decide)
  cases good with
  | inet transport nonempty colon bracket short text bound => exact text.oneLine.append (number _)
  | inet6 transport nonempty bracket short text bound =>
    exact (text.oneLine.append ((number _).cons (by decide))).cons (by decide)
  | path kinds nonempty short text =>
    rcases kinds with kind | kind | kind
    all_goals
      cases kind
      exact OneLine.append (by unfold OneLine; decide) text.oneLine
  | @builtin builtin named =>
    apply OneLine.append (by unfold OneLine; decide)
    cases builtin with
    | none | clientAddr | discard | hang | httpOk | logConn | close =>
      unfold OneLine
      decide

theorem oneLine_logPrintEndpoint {ep : Option Endpoint} (buf : Bytes) (one : OneLine (endpointText ep)) :
    OneLine (logPrintEndpoint buf ep) := by
  have printed : logPrintEndpoint buf ep = cstr ((endpointText ep).take 255) := Lib.cstr_snprintf (by decide) buf _
  rw [printed]
  exact fun inside => one (List.mem_of_mem_take (Lib.mem_cstr inside))

/-- The endpoints in a value come from `parse_route_line`. -/
def LogValue.FromParser (value : LogValue) : Prop :=
  ∀ ep, value = .endpoint (some ep) → ∃ line r, parseRouteLine line = .ok r ∧ (ep = r.listen ∨ ep = r.upstream)

theorem oneLine_printLogValue {value : LogValue} (buf : Bytes) (parsed : value.FromParser) :
    OneLine (printLogValue buf value) := by
  cases value with
  | str s => exact oneLine_printQuotedValue s
  | int v | long v | llong v => exact oneLine_decimalInt v
  | uint v | ulong v | ullong v => exact oneLine_decimal v
  | invalid => exact (by decide : (0x0a : UInt8) ∉ ascii "<invalid>")
  | endpoint ep =>
    apply oneLine_logPrintEndpoint
    cases ep with
    | none => exact (by decide : (0x0a : UInt8) ∉ ascii "<nil>")
    | some ep =>
      obtain ⟨line, r, read, own⟩ := parsed ep rfl
      have good := (parseRouteLine_wellFormed read).1
      rcases own with rfl | rfl
      · exact oneLine_endpointText good.listen
      · exact oneLine_endpointText good.upstream

theorem oneLine_strftime (tm : Tm) : OneLine (strftime tm) := by
  have two (n : Nat) : OneLine (padded 0x30 2 (decimal n)) := oneLine_padded 2 (by decide) (oneLine_decimal n)
  have minutes := (two tm.min).append ((two tm.sec).cons (show (0x3a : UInt8) ≠ 0x0a by decide))
  have hours := (two tm.hour).append (minutes.cons (show (0x3a : UInt8) ≠ 0x0a by decide))
  exact ((two _).append (two _)).append (hours.cons (by decide))

theorem oneLine_logHead {file : Bytes} (env : LogEnv) (sev : Severity) (line : Int) (one : OneLine file) :
    OneLine (logHead env sev file line) := by
  have worker : OneLine (ascii "] worker=" ++ (decimal (env.workerId % 4294967296).toNat ++ ascii " msg=")) :=
    OneLine.append (by unfold OneLine; decide) ((oneLine_decimal _).append (by unfold OneLine; decide))
  have place := one.append (((oneLine_decimalInt line).append worker).cons (show (0x3a : UInt8) ≠ 0x0a by decide))
  have pid := (oneLine_padded 7 (show (0x20 : UInt8) ≠ 0x0a by decide) (oneLine_decimal env.pid)).append
    (place.cons (show (0x20 : UInt8) ≠ 0x0a by decide))
  have usec := (oneLine_padded 6 (show (0x30 : UInt8) ≠ 0x0a by decide) (oneLine_decimal env.usec)).append
    (pid.cons (show (0x20 : UInt8) ≠ 0x0a by decide))
  have time := (oneLine_strftime env.tm).append (usec.cons (show (0x2e : UInt8) ≠ 0x0a by decide))
  apply time.cons
  cases sev with
  | info | warn | error => decide

theorem oneLine_fields {fields : List (Bytes × LogValue)} (buf : Bytes)
    (admitted : ∀ field ∈ fields, OneLine field.1 ∧ field.2.FromParser) : OneLine (fields.flatMap (logField buf)) := by
  intro inside
  obtain ⟨field, own, printed⟩ := List.mem_flatMap.1 inside
  obtain ⟨key, parsed⟩ := admitted field own
  have value := (oneLine_printLogValue buf parsed).cons (show (0x3d : UInt8) ≠ 0x0a by decide)
  exact ((key.append value).cons (by decide)) printed

/-- A string, `NULL` or not, is printed as its escapes between two quotes. -/
theorem printQuotedValue_eq (s : Option Bytes) (rest : Bytes) :
    printQuotedValue s ++ rest = 0x22 :: (escape (s.getD []) ++ 0x22 :: rest) := by
  cases s with
  | none => rfl
  | some s => simp [printQuotedValue]

/-- Where the strings of a record stand: the message behind the head, and the string of a field behind its key, each
as its escapes between two quotes, the record going on behind them up to the newline. -/
structure RecordQuotes (env : LogEnv) (sev : Severity) (file : Bytes) (line : Int) (msg : Option Bytes)
    (fields : List (Bytes × LogValue)) (record : Bytes) : Prop where
  message : record = logHead env sev file line ++
    0x22 :: (escape (msg.getD []) ++ 0x22 :: (fields.flatMap (logField env.buf) ++ [0x0a]))
  field : ∀ before key s after, fields = before ++ (key, .str s) :: after →
    record = logHead env sev file line ++ printQuotedValue msg ++ before.flatMap (logField env.buf) ++
      0x20 :: (key ++ 0x3d :: 0x22 :: (escape (s.getD []) ++ 0x22 :: (after.flatMap (logField env.buf) ++ [0x0a])))

theorem logAt_quotes (env : LogEnv) (sev : Severity) (file : Bytes) (line : Int) (msg : Option Bytes)
    (fields : List (Bytes × LogValue)) :
    RecordQuotes env sev file line msg fields (logAt env sev file line msg fields) where
  message := by rw [logAt, printQuotedValue_eq]
  field := by
    rintro before key s after rfl
    simp only [logAt, logField, printLogValue, List.flatMap_append, List.flatMap_cons, List.append_assoc,
      List.cons_append, printQuotedValue_eq s]

/-- **Log records.** Whatever the message and the string values are, a record ends with its only newline, as long as
the keys and the name of the source file have none and endpoints come from `parse_route_line`. Every string stands in
it between two quotes, the first quote behind the opening one that is not escaped is the closing one, and undoing the
escapes between them gives the string back. -/
theorem log_record_one_line (env : LogEnv) (sev : Severity) {file : Bytes} (line : Int) (msg : Option Bytes)
    {fields : List (Bytes × LogValue)} (source : 0x0a ∉ file)
    (admitted : ∀ field ∈ fields, 0x0a ∉ field.1 ∧ field.2.FromParser) :
    (∃ front, logAt env sev file line msg fields = front ++ [0x0a] ∧ 0x0a ∉ front) ∧
    RecordQuotes env sev file line msg fields (logAt env sev file line msg fields) ∧
    ∀ s rest, printQuotedValue (some s) ++ rest = 0x22 :: (escape s ++ 0x22 :: rest) ∧
      firstUnescapedQuote (escape s ++ 0x22 :: rest) = some (escape s).length ∧ unescape (escape s) = some s := by
  refine ⟨?_, logAt_quotes env sev file line msg fields, ?_⟩
  · refine ⟨logHead env sev file line ++ (printQuotedValue msg ++ fields.flatMap (logField env.buf)), ?_, ?_⟩
    · rw [logAt, List.append_assoc, List.append_assoc]
    · exact (oneLine_logHead env sev line source).append
        ((oneLine_printQuotedValue msg).append (oneLine_fields env.buf admitted))
  · intro s rest
    exact ⟨printQuotedValue_eq (some s) rest, firstUnescapedQuote_escape s rest, unescape_escape s⟩

/-- The route of the line `tcp :80 tcp 10.0.1.1:80`. -/
def loggedRoute : Route where
  listen := { kind := .inet, host := ascii "0.0.0.0", port := 80, proto := .tcp }
  upstream := { kind := .inet, host := ascii "10.0.1.1", port := 80, proto := .tcp }

def loggedEnv : LogEnv where
  tm := { mon := 0, mday := 1, hour := 12, min := 30, sec := 0 }
  usec := 15
  pid := 4711
  workerId := -1
  buf := List.replicate 256 0
  bufSize := List.length_replicate

/-- A server name with a newline and a quote in it. -/
theorem log_record_one_line_forged :
    ∃ front, logAt loggedEnv .info (ascii "stream_conn.c") 117 (some (ascii "upstream timed out"))
      [(ascii "upstream", .endpoint (some loggedRoute.upstream)), (ascii "client_sni", .str (some [0x0a, 0x22, 0x49]))] =
      front ++ [0x0a] ∧ 0x0a ∉ front := by
  have parsed : parseRouteLine (ascii "tcp :80 tcp 10.0.1.1:80") = .ok loggedRoute := by decide +kernel
  apply (log_record_one_line loggedEnv .info 117 (some (ascii "upstream timed out")) (by decide) ?_).1
  intro field own
  simp only [List.mem_cons, List.not_mem_nil, or_false] at own
  rcases own with rfl | rfl
  · exact ⟨by decide, fun ep same => ⟨_, loggedRoute, parsed, by cases same; exact .inr rfl⟩⟩
  · exact ⟨by decide, fun ep same => by cases same⟩

end Tinyproxy
