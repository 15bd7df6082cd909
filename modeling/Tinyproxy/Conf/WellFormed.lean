import Tinyproxy.Conf.RouteLine

/-!
# Well-formed routes

What a configured route looks like, and how it is written. `parse_route_line`
returns well-formed routes only, and reads every one of them back from its canonical
text: `route_line_round_trip`.

The parser is followed field by field: a lemma for each kind of endpoint text, then
one for each option, then the line.
-/

namespace Tinyproxy

open Lib (ascii asciiByte cstr decimal isdigit isspace strtok strtol strtoul Token)

/-! ## Well-formed routes -/

/-- Text that can stand in a field: no terminator and no separator. -/
def FieldText (s : Bytes) : Prop := ∀ c ∈ s, c ≠ 0 ∧ fieldSep c = false

instance (s : Bytes) : Decidable (FieldText s) :=
  decidable_of_iff (s.all fun c => c != 0 && !fieldSep c) (by simp [FieldText])

/-- The endpoints of the configuration language; the fields that a constructor leaves out are zero. -/
inductive Endpoint.WellFormed : Endpoint → Prop where
  | inet {proto : EndpointProto} {host : Bytes} {port : UInt16} (transport : proto = .tcp ∨ proto = .udp)
      (nonempty : host ≠ []) (colon : 0x3a ∉ host) (bracket : host.head? ≠ some 0x5b) (short : host.length ≤ 255)
      (text : FieldText host) (bound : 1 ≤ port.toNat) :
      WellFormed { kind := .inet, host := host, port := port, proto := proto }
  | inet6 {proto : EndpointProto} {host : Bytes} {port : UInt16} (transport : proto = .tcp ∨ proto = .udp)
      (nonempty : host ≠ []) (bracket : 0x5d ∉ host) (short : host.length ≤ 255) (text : FieldText host)
      (bound : 1 ≤ port.toNat) : WellFormed { kind := .inet6, host := host, port := port, proto := proto }
  | path {kind : EndpointKind} {proto : EndpointProto} {path : Bytes}
      (kinds : (proto, kind) = (.unixStream, .unix) ∨ (proto, kind) = (.unixDgram, .unixDgram) ∨
        (proto, kind) = (.file, .file))
      (nonempty : path ≠ []) (short : path.length ≤ 107) (text : FieldText path) :
      WellFormed { kind := kind, proto := proto, path := path }
  | builtin {builtin : XBuiltinUpstream} (named : builtin ≠ .none) :
      WellFormed { kind := .builtin, proto := .builtin, builtin := builtin }

/-- The options of the configuration language. -/
structure RouteOptions.WellFormed (o : RouteOptions) : Prop where
  idleTimeout : 1 ≤ o.idleTimeoutSec ∧ o.idleTimeoutSec ≤ intMax
  connectTimeout : 1 ≤ o.connectTimeoutSec ∧ o.connectTimeoutSec ≤ intMax
  bindWait : 0 ≤ o.bindWaitSec ∧ o.bindWaitSec ≤ intMax

/-- The routes of the configuration language. -/
structure Route.WellFormed (r : Route) : Prop where
  listen : r.listen.WellFormed
  upstream : r.upstream.WellFormed
  opts : r.opts.WellFormed

/-! ## Canonical text -/

/-- The word for a protocol. -/
def EndpointProto.word : EndpointProto → Bytes
  | .tcp => ascii "tcp"
  | .udp => ascii "udp"
  | .unixStream => ascii "unix"
  | .unixDgram => ascii "unix-dgram"
  | .file => ascii "file"
  | .builtin => ascii "builtin"

/-- The text of an endpoint. -/
def Endpoint.render (ep : Endpoint) : Bytes :=
  match ep.kind with
  | .inet => ep.host ++ 0x3a :: decimal ep.port.toNat
  | .inet6 => 0x5b :: (ep.host ++ 0x5d :: 0x3a :: decimal ep.port.toNat)
  | .unix | .unixDgram | .file => ep.path
  | .builtin => xBuiltinName ep.builtin

/-- A flag, when it is set. -/
def renderFlag (name : String) (set : Bool) : List Bytes := if set then [ascii name] else []

/-- A number of seconds, when it is not the default. -/
def renderInt (name : String) (standard value : Int) : List Bytes :=
  if value = standard then [] else [ascii name ++ 0x3d :: decimal value.toNat]

/-- The reply mode, when it is not off. -/
def BroadcastReplyMode.render : BroadcastReplyMode → List Bytes
  | .off => []
  | .listen => [ascii "broadcast_reply=listen"]
  | .upstream => [ascii "broadcast_reply=upstream"]

/-- One token for each option that is not the default, in the order of `route_options_str`. -/
def RouteOptions.render (o : RouteOptions) : List Bytes :=
  renderFlag "proxy_v2" o.proxyV2 ++ renderInt "idle_timeout" 60 o.idleTimeoutSec ++
    renderInt "connect_timeout" 5 o.connectTimeoutSec ++ renderInt "bind_wait" 0 o.bindWaitSec ++
    renderFlag "keep_alive" o.keepAlive ++ renderFlag "sni_sniff" o.sniSniff ++ o.broadcastReply.render

/-- The fields of a route's line, with or without the leading `listen`. -/
def Route.fields (r : Route) (keyword : Bool) : List Bytes :=
  renderFlag "listen" keyword ++
    r.listen.proto.word :: r.listen.render :: r.upstream.proto.word :: r.upstream.render :: r.opts.render

/-- A route's line: its fields with a space between them. -/
def Route.render (r : Route) (keyword : Bool) : Bytes := [0x20].intercalate (r.fields keyword)

/-! ## What the parser returns -/

theorem map_eq_ok {α β : Type} {e : Except Errno α} {f : α → β} {b : β} (ok : e.map f = .ok b) :
    ∃ a, e = .ok a ∧ b = f a := by
  cases e with
  | error err => cases ok
  | ok a =>
    cases ok
    exact ⟨a, rfl, rfl⟩

theorem bind_eq_ok {α β : Type} {e : Except Errno α} {f : α → Except Errno β} {b : β} (ok : e >>= f = .ok b) :
    ∃ a, e = .ok a ∧ f a = .ok b := by
  cases e with
  | error err => cases ok
  | ok a => exact ⟨a, rfl, ok⟩

theorem orInval_eq_ok {α : Type} {o : Option α} {a : α} (ok : orInval o = .ok a) : o = some a := by
  cases o with
  | none => cases ok
  | some b =>
    cases ok
    rfl

theorem orInval_bind {α β : Type} {o : Option α} {a : α} {f : α → Except Errno β} (found : o = some a) :
    orInval o >>= f = f a := by
  rw [found]
  rfl

theorem parsePort_some {s : Bytes} {port : UInt16} (parsed : parsePort s = some port) : 1 ≤ port.toNat := by
  simp only [parsePort] at parsed
  by_cases bad : (strtoul s).erange = true ∨ s = [] ∨ (strtoul s).rest ≠ [] ∨ (strtoul s).value = 0 ∨
      (strtoul s).value > 65535
  · rw [if_pos bad] at parsed
    cases parsed
  · rw [if_neg bad] at parsed
    cases parsed
    push Not at bad
    rw [UInt16.toNat_ofNat_of_lt' (by show _ < 65536; omega)]
    omega

theorem parsePositiveInt_ok {s : Bytes} {v : Int} (parsed : parsePositiveInt s = .ok v) : 1 ≤ v ∧ v ≤ intMax := by
  simp only [parsePositiveInt] at parsed
  split at parsed
  · cases parsed
  split at parsed
  · cases parsed
  split at parsed
  · cases parsed
  · cases parsed
    omega

/-- The part of a text before the first `x` has no `x`. -/
theorem not_mem_takeWhile {x : UInt8} {s : Bytes} : x ∉ s.takeWhile (· != x) := by
  intro inside
  have := List.mem_takeWhile_imp inside
  simp at this

theorem FieldText.sublist {s t : Bytes} (text : FieldText s) (part : ∀ c ∈ t, c ∈ s) : FieldText t :=
  fun c inside => text c (part c inside)

/-- The host before a colon, or the wildcard in its place. -/
theorem plainHost_wellFormed {proto : EndpointProto} {s : Bytes} {port : UInt16}
    (transport : proto = .tcp ∨ proto = .udp) (text : FieldText s) (bracket : s.head? ≠ some 0x5b)
    (short : (s.takeWhile (· != 0x3a)).length ≤ 255) (bound : 1 ≤ port.toNat) :
    Endpoint.WellFormed
      { kind := .inet, host := if s.takeWhile (· != 0x3a) = [] then (ascii "0.0.0.0").take (endpointHostSize - 1)
                               else s.takeWhile (· != 0x3a), port := port, proto := proto } := by
  by_cases empty : s.takeWhile (· != 0x3a) = []
  · rw [if_pos empty]
    exact .inet transport (by decide) (by decide) (by decide) (by decide) (by decide) bound
  · rw [if_neg empty]
    refine .inet transport empty not_mem_takeWhile ?_ short ?_ bound
    · rw [List.head?_takeWhile]
      intro first
      exact bracket (Option.filter_eq_some_iff.1 first).1
    · exact text.sublist fun c inside => (List.takeWhile_prefix _).subset inside

theorem splitHostPort_wellFormed {proto : EndpointProto} {s host : Bytes} {port : UInt16} {isIpv6 : Bool}
    (transport : proto = .tcp ∨ proto = .udp) (text : FieldText s)
    (found : splitHostPort s endpointHostSize = some (host, port, isIpv6)) :
    Endpoint.WellFormed { kind := if isIpv6 then .inet6 else .inet, host := host, port := port, proto := proto } := by
  simp only [splitHostPort] at found
  split at found
  case isTrue bracket =>
    split at found
    case h_2 => cases found
    case h_1 close colon portS rest =>
      split at found
      · cases found
      split at found
      · cases found
      case isFalse fits =>
        obtain ⟨number, parsed, own⟩ := Option.map_eq_some_iff.1 found
        cases own
        simp only [endpointHostSize] at fits
        push Not at fits
        exact .inet6 transport (List.length_pos_iff.1 (by omega)) not_mem_takeWhile (by omega)
          (text.sublist fun c inside => List.mem_of_mem_drop ((List.takeWhile_prefix _).subset inside))
          (parsePort_some parsed)
  case isFalse bracket =>
    split at found
    case h_1 => cases found
    case h_2 colon portS rest =>
      split at found
      · cases found
      split at found
      · cases found
      case isFalse fits =>
        obtain ⟨number, parsed, own⟩ := Option.map_eq_some_iff.1 found
        cases own
        push Not at fits
        have short := fits.1
        simp only [endpointHostSize] at short
        exact plainHost_wellFormed transport text bracket (by omega) (parsePort_some parsed)

theorem parsePath_wellFormed {kind : EndpointKind} {proto : EndpointProto} {s : Bytes} {ep : Endpoint}
    (kinds : (proto, kind) = (.unixStream, .unix) ∨ (proto, kind) = (.unixDgram, .unixDgram) ∨
      (proto, kind) = (.file, .file)) (text : FieldText s) (parsed : parsePath kind proto s = some ep) :
    ep.WellFormed := by
  simp only [parsePath] at parsed
  split at parsed
  case isTrue => cases parsed
  case isFalse fits =>
    cases parsed
    push Not at fits
    have short := fits.2
    simp only [endpointPathSize] at short
    exact .path kinds fits.1 (by omega) text

theorem xBuiltinParse_some {s : Bytes} {builtin : XBuiltinUpstream} (parsed : xBuiltinParse s = some builtin) :
    builtin ≠ .none := by
  rintro rfl
  unfold xBuiltinParse at parsed
  iterate 6
    rw [ite_eq_iff] at parsed
    obtain ⟨-, ⟨⟩⟩ | ⟨-, parsed⟩ := parsed
  cases parsed

theorem parseEndpoint_wellFormed {proto : EndpointProto} {s : Bytes} {ep : Endpoint} (text : FieldText s)
    (parsed : parseEndpoint proto s = some ep) : ep.WellFormed := by
  cases proto with
  | tcp =>
    obtain ⟨_, found, rfl⟩ := Option.map_eq_some_iff.1 parsed
    exact splitHostPort_wellFormed (.inl rfl) text found
  | udp =>
    obtain ⟨_, found, rfl⟩ := Option.map_eq_some_iff.1 parsed
    exact splitHostPort_wellFormed (.inr rfl) text found
  | unixStream => exact parsePath_wellFormed (.inl rfl) text parsed
  | unixDgram => exact parsePath_wellFormed (.inr (.inl rfl)) text parsed
  | file => exact parsePath_wellFormed (.inr (.inr rfl)) text parsed
  | builtin =>
    simp only [parseEndpoint] at parsed
    split at parsed
    · cases parsed
    · obtain ⟨_, found, rfl⟩ := Option.map_eq_some_iff.1 parsed
      exact .builtin (xBuiltinParse_some found)

theorem defaults_wellFormed : routeOptionsSetDefaults.WellFormed := ⟨by decide, by decide, by decide⟩

theorem parseValueOption_wellFormed {o o' : RouteOptions} {key value : Bytes} (good : o.WellFormed)
    (parsed : parseValueOption o key value = .ok o') : o'.WellFormed := by
  unfold parseValueOption at parsed
  split at parsed
  · obtain ⟨v, number, rfl⟩ := map_eq_ok parsed
    exact { good with idleTimeout := parsePositiveInt_ok number }
  split at parsed
  · obtain ⟨v, number, rfl⟩ := map_eq_ok parsed
    exact { good with connectTimeout := parsePositiveInt_ok number }
  split at parsed
  · obtain ⟨v, number, rfl⟩ := map_eq_ok parsed
    have bounds := parsePositiveInt_ok number
    exact { good with bindWait := ⟨by show 0 ≤ v; omega, bounds.2⟩ }
  split at parsed
  · obtain ⟨v, mode, rfl⟩ := map_eq_ok parsed
    exact { good with }
  · cases parsed

theorem parseFlagOption_wellFormed {o o' : RouteOptions} {tok : Bytes} (good : o.WellFormed)
    (parsed : parseFlagOption o tok = .ok o') : o'.WellFormed := by
  unfold parseFlagOption at parsed
  split_ifs at parsed
  all_goals
    cases parsed
    exact { good with }

theorem parseOption_wellFormed {o o' : RouteOptions} {tok : Bytes} (good : o.WellFormed)
    (parsed : parseOption o tok = .ok o') : o'.WellFormed := by
  simp only [parseOption] at parsed
  split at parsed
  · cases parsed
  split at parsed
  · split at parsed
    · cases parsed
    · exact parseValueOption_wellFormed good parsed
  · exact parseFlagOption_wellFormed good parsed

/-- A property that every step keeps is kept by the loop. -/
theorem foldlM_keeps {α β : Type} {good : β → Prop} {step : β → α → Except Errno β}
    (keeps : ∀ {b b' a}, good b → step b a = .ok b' → good b') {l : List α} {b b' : β} (start : good b)
    (ok : l.foldlM step b = .ok b') : good b' := by
  induction l generalizing b with
  | nil =>
    cases ok
    exact start
  | cons a l ih =>
    rw [List.foldlM_cons] at ok
    obtain ⟨next, first, rest⟩ := bind_eq_ok ok
    exact ih (keeps start first) rest

theorem parseRouteOptions_wellFormed {o o' : RouteOptions} {s : Bytes} (good : o.WellFormed)
    (parsed : parseRouteOptions o s = .ok o') : o'.WellFormed := by
  unfold parseRouteOptions at parsed
  split at parsed
  · cases parsed
    exact good
  · exact foldlM_keeps parseOption_wellFormed good parsed

/-- The fields of a line are field texts. -/
theorem fieldText_of_mem {line w : Bytes} (field : w ∈ strtok fieldSep (cstr line)) : FieldText w := by
  obtain ⟨token, part⟩ := Lib.mem_strtok field
  intro c inside
  have nonzero := List.mem_takeWhile_imp (part c inside)
  exact ⟨by simpa using nonzero, token.plain c inside⟩

/-- **Soundness of the route grammar**: what `parse_route_line` returns is well formed, and its `line_no` is zero. -/
theorem parseRouteLine_wellFormed {line : Bytes} {r : Route} (parsed : parseRouteLine line = .ok r) :
    r.WellFormed ∧ r.lineNo = 0 := by
  simp only [parseRouteLine] at parsed
  split at parsed
  · cases parsed
  split at parsed
  · cases parsed
  split at parsed
  case h_2 => cases parsed
  case h_1 listenProtoS listenS backendProtoS upstreamS optionFields fields =>
    have text : ∀ w ∈ [listenProtoS, listenS, backendProtoS, upstreamS], FieldText w := by
      intro w own
      have member : w ∈ listenProtoS :: listenS :: backendProtoS :: upstreamS :: optionFields :=
        List.mem_append_left optionFields own
      rw [← fields] at member
      exact fieldText_of_mem (List.mem_of_mem_drop member)
    obtain ⟨listenProto, -, parsed⟩ := bind_eq_ok parsed
    obtain ⟨listen, listenParsed, parsed⟩ := bind_eq_ok parsed
    obtain ⟨backendProto, -, parsed⟩ := bind_eq_ok parsed
    obtain ⟨upstream, upstreamParsed, parsed⟩ := bind_eq_ok parsed
    split at parsed
    · rename_i opts options
      cases parsed
      exact ⟨{ listen := parseEndpoint_wellFormed (text listenS (by simp)) (orInval_eq_ok listenParsed)
               upstream := parseEndpoint_wellFormed (text upstreamS (by simp)) (orInval_eq_ok upstreamParsed)
               opts := foldlM_keeps parseRouteOptions_wellFormed defaults_wellFormed options }, rfl⟩
    · cases parsed

/-! ## Reading the canonical text -/

/-- A text that stands as a field of its own. -/
structure FieldWord (w : Bytes) : Prop where
  nonempty : w ≠ []
  text : FieldText w

theorem FieldWord.token {w : Bytes} (word : FieldWord w) : Token fieldSep w :=
  ⟨word.nonempty, fun c inside => (word.text c inside).2⟩

theorem fieldText_append {s t : Bytes} (left : FieldText s) (right : FieldText t) : FieldText (s ++ t) := by
  intro c inside
  rcases List.mem_append.1 inside with inside | inside
  · exact left c inside
  · exact right c inside

theorem fieldText_cons {x : UInt8} {s : Bytes} (first : x ≠ 0 ∧ fieldSep x = false) (text : FieldText s) :
    FieldText (x :: s) := by
  rintro c (- | ⟨_, inside⟩)
  · exact first
  · exact text c inside

theorem fieldText_decimal (n : Nat) : FieldText (decimal n) := by
  intro c inside
  have differs {x : UInt8} : isdigit x = false → c ≠ x := Lib.digit_ne (Lib.decimal_digits n c inside)
  simp only [fieldSep, Bool.or_eq_false_iff, beq_eq_false_iff_ne]
  exact ⟨differs (by decide), ⟨⟨differs (by decide), differs (by decide)⟩, differs (by decide)⟩, differs (by decide)⟩

theorem takeWhile_before {x : UInt8} {s t : Bytes} (absent : x ∉ s) : (s ++ x :: t).takeWhile (· != x) = s := by
  rw [List.takeWhile_append_of_pos (by rintro c inside; simpa using fun same : c = x => absent (same ▸ inside))]
  simp

theorem dropWhile_before {x : UInt8} {s t : Bytes} (absent : x ∉ s) :
    (s ++ x :: t).dropWhile (· != x) = x :: t := by
  rw [List.dropWhile_append_of_pos (by rintro c inside; simpa using fun same : c = x => absent (same ▸ inside))]
  simp

theorem parsePort_decimal {port : UInt16} (bound : 1 ≤ port.toNat) : parsePort (decimal port.toNat) = some port := by
  have small := port.toNat_lt
  simp only [parsePort, Lib.strtoul_decimal (show port.toNat ≤ 18446744073709551615 by omega), Lib.decimal_ne_nil,
    Bool.false_eq_true, ne_eq, not_true_eq_false, false_or]
  rw [if_neg (by omega), UInt16.ofNat_toNat]

theorem splitHostPort_inet {host : Bytes} {port : UInt16} (nonempty : host ≠ []) (colon : 0x3a ∉ host)
    (bracket : host.head? ≠ some 0x5b) (short : host.length ≤ 255) (bound : 1 ≤ port.toNat) :
    splitHostPort (host ++ 0x3a :: decimal port.toNat) endpointHostSize = some (host, port, false) := by
  have first : (host ++ 0x3a :: decimal port.toNat).head? ≠ some 0x5b := by
    rwa [List.head?_append_of_ne_nil host nonempty]
  have single : (0x3a : UInt8) ∉ decimal port.toNat := fun inside =>
    Lib.digit_ne (Lib.decimal_digits _ _ inside) (by decide) rfl
  have fits : ¬ (host.length ≥ endpointHostSize ∨ decimal port.toNat = []) := by
    simp only [endpointHostSize, Lib.decimal_ne_nil, or_false]
    omega
  simp only [splitHostPort, if_neg first, takeWhile_before colon, dropWhile_before colon, if_neg single, if_neg fits,
    if_neg nonempty, parsePort_decimal bound, Option.map_some]

theorem splitHostPort_inet6 {host : Bytes} {port : UInt16} (nonempty : host ≠ []) (bracket : 0x5d ∉ host)
    (short : host.length ≤ 255) (bound : 1 ≤ port.toNat) :
    splitHostPort (0x5b :: (host ++ 0x5d :: 0x3a :: decimal port.toNat)) endpointHostSize =
      some (host, port, true) := by
  have fits : ¬ (host.length = 0 ∨ host.length ≥ endpointHostSize ∨ decimal port.toNat = []) := by
    simp only [List.length_eq_zero_iff, nonempty, endpointHostSize, Lib.decimal_ne_nil, or_false, false_or]
    omega
  simp only [splitHostPort, List.head?_cons, if_true, List.drop_one, List.tail_cons, takeWhile_before bracket,
    dropWhile_before bracket, ne_eq, not_true_eq_false, if_false, if_neg fits, parsePort_decimal bound, Option.map_some]

theorem xBuiltinParse_name {builtin : XBuiltinUpstream} (named : builtin ≠ .none) :
    xBuiltinName builtin ≠ [] ∧ xBuiltinParse (xBuiltinName builtin) = some builtin := by
  cases builtin with
  | none => exact absurd rfl named
  | clientAddr | discard | hang | httpOk | logConn | close => decide

theorem parsePath_some {kind : EndpointKind} {proto : EndpointProto} {path : Bytes} (nonempty : path ≠ [])
    (short : path.length ≤ 107) :
    parsePath kind proto path = some { kind := kind, proto := proto, path := path } := by
  have fits : ¬ (path = [] ∨ path.length ≥ endpointPathSize) := by
    simp only [nonempty, endpointPathSize, false_or]
    omega
  rw [parsePath, if_neg fits]

theorem parseEndpoint_render {ep : Endpoint} (good : ep.WellFormed) : parseEndpoint ep.proto ep.render = some ep := by
  cases good with
  | inet transport nonempty colon bracket short text bound =>
    rcases transport with rfl | rfl <;>
      simp [parseEndpoint, Endpoint.render, splitHostPort_inet nonempty colon bracket short bound]
  | inet6 transport nonempty bracket short text bound =>
    rcases transport with rfl | rfl <;>
      simp [parseEndpoint, Endpoint.render, splitHostPort_inet6 nonempty bracket short bound]
  | @path kind proto path kinds nonempty short text =>
    simp only [Prod.mk.injEq] at kinds
    rcases kinds with ⟨rfl, rfl⟩ | ⟨rfl, rfl⟩ | ⟨rfl, rfl⟩ <;> exact parsePath_some nonempty short
  | builtin named =>
    obtain ⟨nonempty, parsed⟩ := xBuiltinParse_name named
    simp [parseEndpoint, Endpoint.render, nonempty, parsed]

theorem parseProto_word (proto : EndpointProto) : parseProto proto.word = some proto := by
  cases proto <;> decide

/-! ## Reading the options -/

/-- An option text without spaces and commas is its own only token, and `trim` leaves it as it is. -/
structure OptionText (s : Bytes) : Prop where
  solid : ∀ c ∈ s, isspace c = false
  comma : 0x2c ∉ s

instance (s : Bytes) : Decidable (OptionText s) :=
  decidable_of_iff ((s.all fun c => !isspace c) ∧ 0x2c ∉ s)
    ⟨fun ⟨solid, comma⟩ => ⟨by simpa using solid, comma⟩, fun text => ⟨by simpa using text.solid, text.comma⟩⟩

theorem trim_solid {s : Bytes} (solid : ∀ c ∈ s, isspace c = false) : trim s = s := by
  have front : s.dropWhile isspace = s := by
    match s with
    | [] => rfl
    | c :: s => rw [List.dropWhile_cons_of_neg (by simp [solid c List.mem_cons_self])]
  rw [trim, front, List.rdropWhile_eq_self_iff]
  intro nonempty
  simp [solid _ (List.getLast_mem nonempty)]

theorem parseRouteOptions_single {o : RouteOptions} {s : Bytes} (nonempty : s ≠ []) (text : OptionText s) :
    parseRouteOptions o s = parseOption o s := by
  have token : Token (· == 0x2c) s :=
    ⟨nonempty, fun c inside => by simpa using fun same : c = 0x2c => text.comma (same ▸ inside)⟩
  rw [parseRouteOptions, if_neg nonempty, Lib.strtok_token token]
  simp

theorem parseOption_value {o : RouteOptions} {key value : Bytes} (solidKey : ∀ c ∈ key, isspace c = false)
    (solidValue : ∀ c ∈ value, isspace c = false) (equals : 0x3d ∉ key) (someKey : key ≠ []) (someValue : value ≠ []) :
    parseOption o (key ++ 0x3d :: value) = parseValueOption o key value := by
  have solid : ∀ c ∈ key ++ 0x3d :: value, isspace c = false := by
    intro c inside
    simp only [List.mem_append, List.mem_cons] at inside
    rcases inside with inside | rfl | inside
    · exact solidKey c inside
    · decide
    · exact solidValue c inside
  simp [parseOption, trim_solid solid, takeWhile_before equals, dropWhile_before equals, trim_solid solidKey,
    trim_solid solidValue, someKey, someValue]

theorem parsePositiveInt_decimal {v : Int} (positive : 1 ≤ v) (small : v ≤ intMax) :
    parsePositiveInt (decimal v.toNat) = .ok v := by
  have bound : v ≤ 2147483647 := small
  have value : (v.toNat : Int) = v := Int.toNat_of_nonneg (by omega)
  have nonempty := Lib.decimal_ne_nil v.toNat
  have inside : ¬ (v ≤ 0 ∨ v > intMax) := by omega
  simp [parsePositiveInt, Lib.strtol_decimal (show v.toNat ≤ 9223372036854775807 by omega), nonempty, nonempty.symm,
    value, inside]

/-- The name of an option. -/
structure OptionName (name : Bytes) : Prop extends OptionText name where
  nonempty : name ≠ []
  equals : 0x3d ∉ name

instance (name : Bytes) : Decidable (OptionName name) :=
  decidable_of_iff (OptionText name ∧ name ≠ [] ∧ 0x3d ∉ name)
    ⟨fun ⟨text, nonempty, equals⟩ => ⟨text, nonempty, equals⟩, fun key => ⟨key.toOptionText, key.nonempty, key.equals⟩⟩

theorem OptionText.value {name value : Bytes} (key : OptionText name) (text : OptionText value) :
    OptionText (name ++ 0x3d :: value) where
  solid := by
    intro c inside
    simp only [List.mem_append, List.mem_cons] at inside
    rcases inside with inside | rfl | inside
    · exact key.solid c inside
    · decide
    · exact text.solid c inside
  comma := by
    intro inside
    simp only [List.mem_append, List.mem_cons] at inside
    rcases inside with inside | same | inside
    · exact key.comma inside
    · exact absurd same (by decide)
    · exact text.comma inside

theorem optionText_decimal (n : Nat) : OptionText (decimal n) where
  solid c inside := (Lib.not_isspace_of_isdigit (Lib.decimal_digits n c inside)).1
  comma inside := Lib.digit_ne (Lib.decimal_digits n _ inside) (by decide) rfl

theorem parseRouteOptions_value {o : RouteOptions} {name value : Bytes} (key : OptionName name) (text : OptionText value)
    (present : value ≠ []) : parseRouteOptions o (name ++ 0x3d :: value) = parseValueOption o name value := by
  rw [parseRouteOptions_single (by simp) (key.toOptionText.value text),
    parseOption_value key.solid text.solid key.equals key.nonempty present]

theorem parseRouteOptions_flag {o : RouteOptions} {name : Bytes} (key : OptionName name) :
    parseRouteOptions o name = parseFlagOption o name := by
  have noValue : name.dropWhile (· != 0x3d) = [] := by
    rw [List.dropWhile_eq_nil_iff]
    intro c inside
    simpa using fun same : c = 0x3d => key.equals (same ▸ inside)
  rw [parseRouteOptions_single key.nonempty key.toOptionText]
  simp only [parseOption, trim_solid key.solid, if_neg key.nonempty, noValue]

/-- A flag is read into its field, from the default on. -/
theorem read_renderFlag {o : RouteOptions} {name : String} {set : Bool → RouteOptions} (key : OptionName (ascii name))
    (field : parseFlagOption o (ascii name) = .ok (set true)) (start : o = set false) (b : Bool) :
    (renderFlag name b).foldlM parseRouteOptions o = .ok (set b) := by
  cases b with
  | false =>
    rw [start]
    rfl
  | true => simp [renderFlag, parseRouteOptions_flag key, field]

/-- A number is read into its field, from the default on. -/
theorem read_renderInt {o : RouteOptions} {name : String} {standard v : Int} {set : Int → RouteOptions}
    (key : OptionName (ascii name))
    (field : ∀ value, parseValueOption o (ascii name) value = (parsePositiveInt value).map set)
    (start : o = set standard) (bounds : v = standard ∨ 1 ≤ v ∧ v ≤ intMax) :
    (renderInt name standard v).foldlM parseRouteOptions o = .ok (set v) := by
  unfold renderInt
  by_cases same : v = standard
  · rw [if_pos same, same, ← start]
    rfl
  · obtain ⟨positive, small⟩ := bounds.resolve_left same
    rw [if_neg same, List.foldlM_cons,
      parseRouteOptions_value key (optionText_decimal v.toNat) (Lib.decimal_ne_nil v.toNat), field,
      parsePositiveInt_decimal positive small]
    rfl

theorem read_renderMode {o : RouteOptions} (start : o.broadcastReply = .off) (mode : BroadcastReplyMode) :
    mode.render.foldlM parseRouteOptions o = .ok { o with broadcastReply := mode } := by
  have key : OptionName (ascii "broadcast_reply") := by decide
  have field : ∀ value, parseValueOption o (ascii "broadcast_reply") value =
      (parseBroadcastReplyMode value).map fun v => { o with broadcastReply := v } := by
    intro value
    rw [parseValueOption, if_neg (by decide), if_neg (by decide), if_neg (by decide), if_pos rfl]
  cases mode with
  | off =>
    have same : { o with broadcastReply := .off } = o := by rw [← start]
    rw [same]
    rfl
  | listen =>
    have spelled : ascii "broadcast_reply=listen" = ascii "broadcast_reply" ++ 0x3d :: ascii "listen" := by decide
    rw [BroadcastReplyMode.render, List.foldlM_cons, spelled, parseRouteOptions_value key (by decide) (by decide), field,
      parseBroadcastReplyMode, if_pos rfl]
    rfl
  | upstream =>
    have spelled : ascii "broadcast_reply=upstream" = ascii "broadcast_reply" ++ 0x3d :: ascii "upstream" := by decide
    rw [BroadcastReplyMode.render, List.foldlM_cons, spelled, parseRouteOptions_value key (by decide) (by decide), field,
      parseBroadcastReplyMode, if_neg (by decide), if_pos rfl]
    rfl

theorem foldlM_append_ok {α β : Type} {step : β → α → Except Errno β} {l l' : List α} {b b' b'' : β}
    (first : l.foldlM step b = .ok b') (rest : l'.foldlM step b' = .ok b'') : (l ++ l').foldlM step b = .ok b'' := by
  rw [List.foldlM_append, first]
  exact rest

/-- The options are read back: each one meets a record in which the options before it are set and its own field is
still the default. -/
theorem parseOptions_render {o : RouteOptions} (good : o.WellFormed) :
    o.render.foldlM parseRouteOptions routeOptionsSetDefaults = .ok o := by
  have wait : o.bindWaitSec = 0 ∨ 1 ≤ o.bindWaitSec ∧ o.bindWaitSec ≤ intMax := by
    have bounds := good.bindWait
    omega
  have proxyV2 := @read_renderFlag {} "proxy_v2" (fun b => { proxyV2 := b }) (by decide) rfl rfl o.proxyV2
  have idle := @read_renderInt { proxyV2 := o.proxyV2 } "idle_timeout" 60 _
    (fun v => { proxyV2 := o.proxyV2, idleTimeoutSec := v }) (by decide) (fun _ => rfl) rfl (.inr good.idleTimeout)
  have connect := @read_renderInt { proxyV2 := o.proxyV2, idleTimeoutSec := o.idleTimeoutSec } "connect_timeout" 5 _
    (fun v => { proxyV2 := o.proxyV2, idleTimeoutSec := o.idleTimeoutSec, connectTimeoutSec := v }) (by decide)
    (fun _ => rfl) rfl (.inr good.connectTimeout)
  have wait := @read_renderInt
    { proxyV2 := o.proxyV2, idleTimeoutSec := o.idleTimeoutSec, connectTimeoutSec := o.connectTimeoutSec }
    "bind_wait" 0 _ (fun v => { proxyV2 := o.proxyV2, idleTimeoutSec := o.idleTimeoutSec,
                                connectTimeoutSec := o.connectTimeoutSec, bindWaitSec := v })
    (by decide) (fun _ => rfl) rfl wait
  have keepAlive := @read_renderFlag { o with keepAlive := false, sniSniff := false, broadcastReply := .off } "keep_alive"
    (fun b => { o with keepAlive := b, sniSniff := false, broadcastReply := .off }) (by decide) rfl rfl o.keepAlive
  have sniSniff := @read_renderFlag { o with sniSniff := false, broadcastReply := .off } "sni_sniff"
    (fun b => { o with sniSniff := b, broadcastReply := .off }) (by decide) rfl rfl o.sniSniff
  have reply := @read_renderMode { o with broadcastReply := .off } rfl o.broadcastReply
  exact foldlM_append_ok (foldlM_append_ok (foldlM_append_ok (foldlM_append_ok (foldlM_append_ok
    (foldlM_append_ok proxyV2 idle) connect) wait) keepAlive) sniSniff) reply

/-! ## Reading the line -/

instance (w : Bytes) : Decidable (FieldWord w) :=
  decidable_of_iff (w ≠ [] ∧ FieldText w)
    ⟨fun ⟨nonempty, text⟩ => ⟨nonempty, text⟩, fun word => ⟨word.nonempty, word.text⟩⟩

theorem fieldWord_word (proto : EndpointProto) : FieldWord proto.word := by
  cases proto <;> decide

theorem fieldWord_endpoint {ep : Endpoint} (good : ep.WellFormed) : FieldWord ep.render := by
  cases good with
  | inet transport nonempty colon bracket short text bound =>
    exact ⟨by simp [Endpoint.render], fieldText_append text (fieldText_cons (by decide) (fieldText_decimal _))⟩
  | inet6 transport nonempty bracket short text bound =>
    refine ⟨by simp [Endpoint.render], fieldText_cons (by decide) (fieldText_append text ?_)⟩
    exact fieldText_cons (by decide) (fieldText_cons (by decide) (fieldText_decimal _))
  | path kinds nonempty short text =>
    simp only [Prod.mk.injEq] at kinds
    rcases kinds with ⟨rfl, rfl⟩ | ⟨rfl, rfl⟩ | ⟨rfl, rfl⟩ <;> exact ⟨nonempty, text⟩
  | @builtin builtin named => cases builtin <;> decide

/-- A few fields, all of them words. -/
structure FieldWords (n : Nat) (ws : List Bytes) : Prop where
  few : ws.length ≤ n
  words : ∀ w ∈ ws, FieldWord w

theorem FieldWords.append {m n : Nat} {vs ws : List Bytes} (left : FieldWords m vs) (right : FieldWords n ws) :
    FieldWords (m + n) (vs ++ ws) where
  few := by
    have := left.few
    have := right.few
    rw [List.length_append]
    omega
  words w own := (List.mem_append.1 own).elim (left.words w) (right.words w)

theorem FieldWord.one {w : Bytes} (word : FieldWord w) : FieldWords 1 [w] :=
  ⟨Nat.le_refl 1, by rintro _ (- | ⟨_, ⟨⟩⟩); exact word⟩

theorem fieldWords_nil (n : Nat) : FieldWords n [] := ⟨Nat.zero_le n, nofun⟩

theorem fieldWords_flag {name : String} (word : FieldWord (ascii name)) (set : Bool) :
    FieldWords 1 (renderFlag name set) := by
  cases set with
  | false => exact fieldWords_nil 1
  | true => exact word.one

theorem fieldWords_int {name : String} {standard value : Int} (word : FieldWord (ascii name)) :
    FieldWords 1 (renderInt name standard value) := by
  unfold renderInt
  by_cases same : value = standard
  · rw [if_pos same]
    exact fieldWords_nil 1
  · rw [if_neg same]
    exact FieldWord.one ⟨by simp, fieldText_append word.text (fieldText_cons (by decide) (fieldText_decimal _))⟩

theorem fieldWords_mode (mode : BroadcastReplyMode) : FieldWords 1 mode.render := by
  cases mode with
  | off => exact fieldWords_nil 1
  | listen => exact FieldWord.one (by decide)
  | upstream => exact FieldWord.one (by decide)

theorem fieldWords_options (o : RouteOptions) : FieldWords 7 o.render :=
  (((((fieldWords_flag (by decide) _).append (fieldWords_int (by decide))).append (fieldWords_int (by decide))).append
    (fieldWords_int (by decide))).append (fieldWords_flag (by decide) _)).append (fieldWords_flag (by decide) _)
    |>.append (fieldWords_mode _)

theorem fieldWords_route {r : Route} (good : r.WellFormed) (keyword : Bool) : FieldWords 12 (r.fields keyword) := by
  have listen := (fieldWord_word r.listen.proto).one.append (fieldWord_endpoint good.listen).one
  have upstream := (fieldWord_word r.upstream.proto).one.append (fieldWord_endpoint good.upstream).one
  exact (fieldWords_flag (by decide) keyword).append ((listen.append upstream).append (fieldWords_options r.opts))

/-- The fields of a canonical line. -/
theorem strtok_render {r : Route} (good : r.WellFormed) (keyword : Bool) :
    strtok fieldSep (cstr (r.render keyword)) = r.fields keyword := by
  have words := (fieldWords_route good keyword).words
  have nonzero : ∀ c ∈ r.render keyword, c ≠ 0 := by
    intro c inside
    rcases Lib.mem_intercalate inside with rfl | ⟨w, own, inside⟩
    · decide
    · exact ((words w own).text c inside).1
  rw [Lib.cstr_of_nonzero nonzero]
  exact Lib.strtok_intercalate (by decide) fun w own => (words w own).token

/-- What a line is parsed to when the fields in front of its options are valid. -/
theorem parseRouteLine_fields {line listenProtoS listenS backendProtoS upstreamS : Bytes} {keyword : Bool}
    {optionFields : List Bytes} {listenProto backendProto : EndpointProto} {listen upstream : Endpoint}
    (fields : strtok fieldSep (cstr line) =
      renderFlag "listen" keyword ++ listenProtoS :: listenS :: backendProtoS :: upstreamS :: optionFields)
    (few : (strtok fieldSep (cstr line)).length ≤ maxRouteFields)
    (proto : parseProto listenProtoS = some listenProto) (endpoint : parseEndpoint listenProto listenS = some listen)
    (proto' : parseProto backendProtoS = some backendProto)
    (endpoint' : parseEndpoint backendProto upstreamS = some upstream) :
    (∀ opts, optionFields.foldlM parseRouteOptions routeOptionsSetDefaults = .ok opts →
      parseRouteLine line = .ok { listen := listen, upstream := upstream, opts := opts }) ∧
    ∀ err, optionFields.foldlM parseRouteOptions routeOptionsSetDefaults = .error err →
      parseRouteLine line = .error .einval := by
  rw [fields] at few
  have short := Nat.not_lt.2 few
  have other : listenProtoS ≠ ascii "listen" := by
    rintro rfl
    cases proto
  -- behind the keyword, if it is there, stand the two endpoints
  have behind : (renderFlag "listen" keyword ++ listenProtoS :: listenS :: backendProtoS :: upstreamS ::
      optionFields).drop (if (renderFlag "listen" keyword ++ listenProtoS :: listenS :: backendProtoS :: upstreamS ::
        optionFields).head? = some (ascii "listen") then 1 else 0) =
      listenProtoS :: listenS :: backendProtoS :: upstreamS :: optionFields := by
    cases keyword with
    | true => rfl
    | false => simp [renderFlag, other]
  have nonempty : renderFlag "listen" keyword ++ listenProtoS :: listenS :: backendProtoS :: upstreamS ::
      optionFields ≠ [] := by
    simp
  simp only [parseRouteLine, fields, gt_iff_lt, if_neg short, if_neg nonempty, behind, orInval_bind proto,
    orInval_bind endpoint, orInval_bind proto', orInval_bind endpoint']
  constructor
  · intro opts parsed
    rw [parsed]
    rfl
  · intro err failed
    rw [failed]
    rfl

/-- **Completeness of the route grammar**: a well-formed route is read back from its line. -/
theorem parseRouteLine_render {r : Route} (good : r.WellFormed) (keyword : Bool) :
    parseRouteLine (r.render keyword) = .ok { r with lineNo := 0 } := by
  have few := (fieldWords_route good keyword).few
  have short : (strtok fieldSep (cstr (r.render keyword))).length ≤ maxRouteFields := by
    rw [strtok_render good]
    simp only [maxRouteFields]
    omega
  exact (parseRouteLine_fields (strtok_render good keyword) short (parseProto_word _) (parseEndpoint_render good.listen)
    (parseProto_word _) (parseEndpoint_render good.upstream)).1 r.opts (parseOptions_render good.opts)

/-- **The route grammar round trip**: every line that `parse_route_line` accepts gives a well-formed route, and every
well-formed route is what its canonical line gives, with and without the leading `listen`. -/
theorem route_line_round_trip :
    (∀ line r, parseRouteLine line = .ok r → r.WellFormed) ∧
      (∀ r : Route, r.WellFormed → ∀ keyword, parseRouteLine (r.render keyword) = .ok { r with lineNo := 0 }) :=
  ⟨fun _ _ parsed => (parseRouteLine_wellFormed parsed).1, fun _ good keyword => parseRouteLine_render good keyword⟩

/-- A route with every kind of option, between an IPv6 listener and a path. -/
def sampleRoute : Route where
  listen := { kind := .inet6, host := ascii "::1", port := 8080, proto := .tcp }
  upstream := { kind := .unix, proto := .unixStream, path := ascii "/run/app.sock" }
  opts := { proxyV2 := true, idleTimeoutSec := 30, bindWaitSec := 5, broadcastReply := .upstream }
  lineNo := 7

theorem route_line_round_trip_sample :
    parseRouteLine (ascii "udp :53 builtin discard keep_alive") =
        .ok { listen := { kind := .inet, host := ascii "0.0.0.0", port := 53, proto := .udp },
              upstream := { kind := .builtin, proto := .builtin, builtin := .discard },
              opts := { keepAlive := true } } ∧
      sampleRoute.WellFormed ∧
      sampleRoute.render true =
        ascii "listen tcp [::1]:8080 unix /run/app.sock proxy_v2 idle_timeout=30 bind_wait=5 broadcast_reply=upstream" ∧
      parseRouteLine (sampleRoute.render true) = .ok { sampleRoute with lineNo := 0 } := by
  have listen : sampleRoute.listen.WellFormed :=
    .inet6 (.inl rfl) (by decide) (by decide) (by decide) (by decide) (by decide)
  have upstream : sampleRoute.upstream.WellFormed := .path (.inl rfl) (by decide) (by decide) (by decide)
  have good : sampleRoute.WellFormed := ⟨listen, upstream, ⟨by decide, by decide, by decide⟩⟩
  refine ⟨by decide +kernel, good, by decide +kernel, ?_⟩
  exact route_line_round_trip.2 sampleRoute good true

end Tinyproxy
