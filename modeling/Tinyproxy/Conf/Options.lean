import Mathlib.Data.List.Forall2
import Tinyproxy.Conf.WellFormed

/-!
# Option tokens

The options of a route line as assignments to a record. A token either says nothing
that the parser knows, or it sets one option (`Denotes`); the fields that the tokens
are grouped into, and the order of tokens that set different options, do not matter:
`options_independent`.
-/

namespace Tinyproxy

open Lib (ascii cstr isspace strtok Spaced Token)

/-! ## Settings -/

/-- The options of a route. -/
inductive OptionKey where
  | proxyV2 | keepAlive | sniSniff | idleTimeout | connectTimeout | bindWait | broadcastReply
  deriving DecidableEq, Repr

/-- What an option can hold. -/
inductive OptionValue where
  | flag (set : Bool)
  | seconds (v : Int)
  | mode (m : BroadcastReplyMode)
  deriving DecidableEq, Repr

/-- What an option holds. -/
def RouteOptions.get (o : RouteOptions) : OptionKey → OptionValue
  | .proxyV2 => .flag o.proxyV2
  | .keepAlive => .flag o.keepAlive
  | .sniSniff => .flag o.sniSniff
  | .idleTimeout => .seconds o.idleTimeoutSec
  | .connectTimeout => .seconds o.connectTimeoutSec
  | .bindWait => .seconds o.bindWaitSec
  | .broadcastReply => .mode o.broadcastReply

/-- What a token can say. -/
inductive Setting where
  | proxyV2
  | keepAlive
  | sniSniff
  | idleTimeout (v : Int)
  | connectTimeout (v : Int)
  | bindWait (v : Int)
  | broadcastReply (m : BroadcastReplyMode)
  deriving DecidableEq, Repr

/-- The option that is set. -/
def Setting.key : Setting → OptionKey
  | .proxyV2 => .proxyV2
  | .keepAlive => .keepAlive
  | .sniSniff => .sniSniff
  | .idleTimeout _ => .idleTimeout
  | .connectTimeout _ => .connectTimeout
  | .bindWait _ => .bindWait
  | .broadcastReply _ => .broadcastReply

/-- The value that it is set to. -/
def Setting.value : Setting → OptionValue
  | .proxyV2 | .keepAlive | .sniSniff => .flag true
  | .idleTimeout v | .connectTimeout v | .bindWait v => .seconds v
  | .broadcastReply m => .mode m

/-- The record afterwards. -/
def RouteOptions.set (o : RouteOptions) : Setting → RouteOptions
  | .proxyV2 => { o with proxyV2 := true }
  | .keepAlive => { o with keepAlive := true }
  | .sniSniff => { o with sniSniff := true }
  | .idleTimeout v => { o with idleTimeoutSec := v }
  | .connectTimeout v => { o with connectTimeoutSec := v }
  | .bindWait v => { o with bindWaitSec := v }
  | .broadcastReply m => { o with broadcastReply := m }

/-- Setting an option changes that option only. -/
theorem get_set (o : RouteOptions) (s : Setting) (key : OptionKey) :
    (o.set s).get key = if s.key = key then s.value else o.get key := by
  cases s <;> cases key <;> rfl

theorem set_comm (o : RouteOptions) {s t : Setting} (different : s.key ≠ t.key) :
    (o.set s).set t = (o.set t).set s := by
  cases s <;> cases t <;> first | rfl | exact absurd rfl different

/-- What the last of some settings of an option leaves in it. -/
def lastValue (o : RouteOptions) (settings : List Setting) (key : OptionKey) : OptionValue :=
  ((settings.filter (·.key = key)).getLast?.map Setting.value).getD (o.get key)

/-- **The last setting of an option wins.** -/
theorem get_foldl_set (o : RouteOptions) (settings : List Setting) (key : OptionKey) :
    (settings.foldl RouteOptions.set o).get key = lastValue o settings key := by
  induction settings using List.reverseRecOn with
  | nil => rfl
  | append_singleton settings s ih =>
    rw [List.foldl_append, List.foldl_cons, List.foldl_nil, get_set, ih]
    by_cases same : s.key = key
    · simp [lastValue, same]
    · simp [lastValue, same]

/-- Settings of different options can be made in any order. -/
theorem foldl_set_perm (o : RouteOptions) {settings settings' : List Setting} (perm : settings.Perm settings')
    (different : settings.Pairwise fun s t => s.key ≠ t.key) :
    settings.foldl RouteOptions.set o = settings'.foldl RouteOptions.set o := by
  have commute : ∀ s ∈ settings, ∀ t ∈ settings, ∀ o : RouteOptions, (o.set s).set t = (o.set t).set s := by
    intro s mem t mem'
    have pair := different.imp fun {s t} different (o : RouteOptions) => set_comm o different
    have flipped := different.imp fun {s t} different (o : RouteOptions) => set_comm o different.symm
    exact pair.forall_of_forall_of_flip (fun s mem o => rfl) flipped mem mem'
  exact perm.foldl_eq' commute o

/-! ## Tokens -/

/-- A token that is a known option with a valid value, and what it sets. -/
inductive Denotes : Bytes → Setting → Prop where
  | proxyV2 : Denotes (ascii "proxy_v2") .proxyV2
  | keepAlive : Denotes (ascii "keep_alive") .keepAlive
  | sniSniff : Denotes (ascii "sni_sniff") .sniSniff
  | idleTimeout {value : Bytes} {v : Int} (valid : parsePositiveInt value = .ok v) :
      Denotes (ascii "idle_timeout" ++ 0x3d :: value) (.idleTimeout v)
  | connectTimeout {value : Bytes} {v : Int} (valid : parsePositiveInt value = .ok v) :
      Denotes (ascii "connect_timeout" ++ 0x3d :: value) (.connectTimeout v)
  | bindWait {value : Bytes} {v : Int} (valid : parsePositiveInt value = .ok v) :
      Denotes (ascii "bind_wait" ++ 0x3d :: value) (.bindWait v)
  | broadcastReply {value : Bytes} {m : BroadcastReplyMode} (valid : parseBroadcastReplyMode value = .ok m) :
      Denotes (ascii "broadcast_reply" ++ 0x3d :: value) (.broadcastReply m)
  | broadcastFlag : Denotes (ascii "broadcast_reply") (.broadcastReply .listen)

/-- A C string without commas and space. -/
structure OptionToken (tok : Bytes) : Prop extends OptionText tok where
  nonempty : tok ≠ []
  nul : 0 ∉ tok

section Tokens

variable {o o' : RouteOptions} {tok : Bytes}

theorem parseOption_flag {name : Bytes} (key : OptionName name) : parseOption o name = parseFlagOption o name := by
  rw [← parseRouteOptions_single key.nonempty key.toOptionText, parseRouteOptions_flag key]

/-- A value option of the source, by its name. -/
theorem parseOption_named {name value : Bytes} (key : OptionName name)
    (solid : ∀ c ∈ name ++ 0x3d :: value, isspace c = false) (present : value ≠ []) :
    parseOption o (name ++ 0x3d :: value) = parseValueOption o name value := by
  apply parseOption_value key.solid ?_ key.equals key.nonempty present
  intro c mem
  exact solid c (List.mem_append_right _ (List.mem_cons_of_mem _ mem))

theorem parsePositiveInt_present {value : Bytes} {v : Int} (valid : parsePositiveInt value = .ok v) : value ≠ [] := by
  rintro rfl
  cases valid

theorem parseBroadcastReplyMode_present {value : Bytes} {m : BroadcastReplyMode}
    (valid : parseBroadcastReplyMode value = .ok m) : value ≠ [] := by
  rintro rfl
  cases valid

/-- A token does what it denotes. -/
theorem Denotes.parse {s : Setting} (denotes : Denotes tok s) (solid : ∀ c ∈ tok, isspace c = false) :
    parseOption o tok = .ok (o.set s) := by
  cases denotes with
  | proxyV2 => rw [parseOption_flag (by decide), parseFlagOption, if_pos rfl, RouteOptions.set]
  | keepAlive =>
    rw [parseOption_flag (by decide), parseFlagOption, if_neg (by decide), if_pos rfl, RouteOptions.set]
  | sniSniff =>
    rw [parseOption_flag (by decide), parseFlagOption, if_neg (by decide), if_neg (by decide), if_pos rfl,
      RouteOptions.set]
  | broadcastFlag =>
    rw [parseOption_flag (by decide), parseFlagOption, if_neg (by decide), if_neg (by decide), if_neg (by decide),
      if_pos rfl, RouteOptions.set]
  | idleTimeout valid =>
    rw [parseOption_named (by decide) solid (parsePositiveInt_present valid), parseValueOption, if_pos rfl, valid]
    rfl
  | connectTimeout valid =>
    rw [parseOption_named (by decide) solid (parsePositiveInt_present valid), parseValueOption, if_neg (by decide),
      if_pos rfl, valid]
    rfl
  | bindWait valid =>
    rw [parseOption_named (by decide) solid (parsePositiveInt_present valid), parseValueOption, if_neg (by decide),
      if_neg (by decide), if_pos rfl, valid]
    rfl
  | broadcastReply valid =>
    rw [parseOption_named (by decide) solid (parseBroadcastReplyMode_present valid), parseValueOption,
      if_neg (by decide), if_neg (by decide), if_neg (by decide), if_pos rfl, valid]
    rfl

theorem parseFlagOption_ok (parsed : parseFlagOption o tok = .ok o') : ∃ s, Denotes tok s ∧ o' = o.set s := by
  unfold parseFlagOption at parsed
  split at parsed
  · rename_i name
    cases parsed
    exact ⟨.proxyV2, name ▸ .proxyV2, rfl⟩
  split at parsed
  · rename_i name
    cases parsed
    exact ⟨.keepAlive, name ▸ .keepAlive, rfl⟩
  split at parsed
  · rename_i name
    cases parsed
    exact ⟨.sniSniff, name ▸ .sniSniff, rfl⟩
  split at parsed
  · rename_i name
    cases parsed
    exact ⟨.broadcastReply .listen, name ▸ .broadcastFlag, rfl⟩
  · cases parsed

theorem parseValueOption_ok {key value : Bytes} (parsed : parseValueOption o key value = .ok o') :
    ∃ s, Denotes (key ++ 0x3d :: value) s ∧ o' = o.set s := by
  unfold parseValueOption at parsed
  split at parsed
  · rename_i name
    obtain ⟨v, valid, rfl⟩ := map_eq_ok parsed
    exact ⟨.idleTimeout v, name ▸ .idleTimeout valid, rfl⟩
  split at parsed
  · rename_i name
    obtain ⟨v, valid, rfl⟩ := map_eq_ok parsed
    exact ⟨.connectTimeout v, name ▸ .connectTimeout valid, rfl⟩
  split at parsed
  · rename_i name
    obtain ⟨v, valid, rfl⟩ := map_eq_ok parsed
    exact ⟨.bindWait v, name ▸ .bindWait valid, rfl⟩
  split at parsed
  · rename_i name
    obtain ⟨m, valid, rfl⟩ := map_eq_ok parsed
    exact ⟨.broadcastReply m, name ▸ .broadcastReply valid, rfl⟩
  · cases parsed

/-- A token that is accepted denotes what it does. -/
theorem parseOption_ok (solid : ∀ c ∈ tok, isspace c = false) (parsed : parseOption o tok = .ok o') :
    ∃ s, Denotes tok s ∧ o' = o.set s := by
  simp only [parseOption, trim_solid solid] at parsed
  split at parsed
  · cases parsed
  split at parsed
  · rename_i equals after found
    have parts : tok = tok.takeWhile (· != 0x3d) ++ equals :: after := by
      rw [← found, List.takeWhile_append_dropWhile]
    have sign : equals = 0x3d := by
      have head := List.head?_dropWhile_not (· != 0x3d) tok
      rw [found] at head
      simpa using head
    have front : ∀ c ∈ tok.takeWhile (· != 0x3d), isspace c = false :=
      fun c mem => solid c ((List.takeWhile_prefix _).subset mem)
    have back : ∀ c ∈ after, isspace c = false := by
      intro c mem
      apply solid
      rw [parts]
      exact List.mem_append_right _ (List.mem_cons_of_mem _ mem)
    rw [trim_solid front, trim_solid back] at parsed
    split at parsed
    · cases parsed
    · rw [parts, sign]
      exact parseValueOption_ok parsed
  · exact parseFlagOption_ok parsed

end Tokens

/-! ## Lists of tokens -/

/-- A list of tokens is accepted when each of them denotes a setting, and makes these settings in order. -/
theorem foldlM_parseOption {o o' : RouteOptions} {toks : List Bytes} (tokens : ∀ t ∈ toks, OptionToken t) :
    toks.foldlM parseOption o = .ok o' ↔
      ∃ settings, List.Forall₂ Denotes toks settings ∧ o' = settings.foldl RouteOptions.set o := by
  induction toks generalizing o with
  | nil =>
    constructor
    · intro parsed
      cases parsed
      exact ⟨[], .nil, rfl⟩
    · rintro ⟨settings, ⟨⟩, rfl⟩
      rfl
  | cons t toks ih =>
    have solid := (tokens t List.mem_cons_self).solid
    have later := fun o => @ih o fun t mem => tokens t (List.mem_cons_of_mem _ mem)
    rw [List.foldlM_cons]
    constructor
    · intro parsed
      obtain ⟨next, first, rest⟩ := bind_eq_ok parsed
      obtain ⟨s, denotes, rfl⟩ := parseOption_ok solid first
      obtain ⟨settings, all, rfl⟩ := (later _).1 rest
      exact ⟨s :: settings, .cons denotes all, rfl⟩
    · rintro ⟨_, all, rfl⟩
      obtain ⟨s, settings, denotes, rest, rfl⟩ := List.forall₂_cons_left_iff.1 all
      rw [denotes.parse solid]
      exact (later _).2 ⟨settings, rest, rfl⟩

/-- Tokens in another order denote the same settings in that order. -/
theorem denotes_perm {toks toks' : List Bytes} {settings : List Setting} (perm : toks.Perm toks')
    (all : List.Forall₂ Denotes toks settings) :
    ∃ settings', List.Forall₂ Denotes toks' settings' ∧ settings.Perm settings' := by
  induction perm generalizing settings with
  | nil => exact ⟨settings, all, .refl _⟩
  | cons t perm ih =>
    obtain ⟨s, settings, denotes, rest, rfl⟩ := List.forall₂_cons_left_iff.1 all
    obtain ⟨settings', rest', perm⟩ := ih rest
    exact ⟨s :: settings', .cons denotes rest', perm.cons s⟩
  | swap t u toks =>
    obtain ⟨s, behind, denotes, rest, rfl⟩ := List.forall₂_cons_left_iff.1 all
    obtain ⟨s', settings, denotes', rest', rfl⟩ := List.forall₂_cons_left_iff.1 rest
    exact ⟨s' :: s :: settings, .cons denotes' (.cons denotes rest'), .swap s' s settings⟩
  | trans first second ih ih' =>
    obtain ⟨middle, all, perm⟩ := ih all
    obtain ⟨settings', all, perm'⟩ := ih' all
    exact ⟨settings', all, perm.trans perm'⟩

/-- Tokens that set different options, as far as they set any. -/
def SetDifferent (t u : Bytes) : Prop := ∀ s s', Denotes t s → Denotes u s' → s.key ≠ s'.key

theorem denotes_mem {toks : List Bytes} {settings : List Setting} (all : List.Forall₂ Denotes toks settings)
    {s : Setting} (mem : s ∈ settings) : ∃ t ∈ toks, Denotes t s := by
  induction all with
  | nil => exact absurd mem List.not_mem_nil
  | @cons t s' toks settings denotes all ih =>
    rcases List.mem_cons.1 mem with rfl | mem
    · exact ⟨t, List.mem_cons_self, denotes⟩
    · obtain ⟨u, own, denotes⟩ := ih mem
      exact ⟨u, List.mem_cons_of_mem t own, denotes⟩

theorem exists_settings_iff {toks : List Bytes} :
    (∃ settings, List.Forall₂ Denotes toks settings) ↔ ∀ t ∈ toks, ∃ s, Denotes t s := by
  induction toks with
  | nil => exact ⟨fun _ t none => absurd none List.not_mem_nil, fun _ => ⟨[], .nil⟩⟩
  | cons t toks ih =>
    rw [List.forall_mem_cons, ← ih]
    constructor
    · rintro ⟨_, all⟩
      obtain ⟨s, settings, denotes, rest, -⟩ := List.forall₂_cons_left_iff.1 all
      exact ⟨⟨s, denotes⟩, settings, rest⟩
    · rintro ⟨⟨s, denotes⟩, settings, rest⟩
      exact ⟨s :: settings, .cons denotes rest⟩

theorem denotes_different {toks : List Bytes} {settings : List Setting} (all : List.Forall₂ Denotes toks settings)
    (different : toks.Pairwise SetDifferent) : settings.Pairwise fun s s' => s.key ≠ s'.key := by
  induction all with
  | nil => exact .nil
  | @cons t s toks settings denotes all ih =>
    obtain ⟨first, later⟩ := List.pairwise_cons.1 different
    refine List.pairwise_cons.2 ⟨?_, ih later⟩
    intro s' mem
    obtain ⟨u, own, denotes'⟩ := denotes_mem all mem
    exact first u own s s' denotes denotes'

/-- Tokens that set different options can be given in any order. -/
theorem foldlM_parseOption_perm {o o' : RouteOptions} {toks toks' : List Bytes} (tokens : ∀ t ∈ toks, OptionToken t)
    (perm : toks.Perm toks') (different : toks.Pairwise SetDifferent) (parsed : toks.foldlM parseOption o = .ok o') :
    toks'.foldlM parseOption o = .ok o' := by
  have tokens' : ∀ t ∈ toks', OptionToken t := fun t mem => tokens t (perm.symm.subset mem)
  obtain ⟨settings, all, rfl⟩ := (foldlM_parseOption tokens).1 parsed
  obtain ⟨settings', all', perm'⟩ := denotes_perm perm all
  have same := foldl_set_perm o perm' (denotes_different all different)
  exact (foldlM_parseOption tokens').2 ⟨settings', all', same⟩

/-! ## Lines -/

/-- The four fields that a valid line begins with, or five with the word `listen`, and the endpoints they name. -/
structure RoutePrefix (head : List Bytes) (listen upstream : Endpoint) : Prop where
  words : ∀ w ∈ head, FieldWord w
  fields : ∃ (keyword : Bool) (listenProtoS listenS backendProtoS upstreamS : Bytes)
    (listenProto backendProto : EndpointProto),
    head = renderFlag "listen" keyword ++ [listenProtoS, listenS, backendProtoS, upstreamS] ∧
      parseProto listenProtoS = some listenProto ∧ parseEndpoint listenProto listenS = some listen ∧
      parseProto backendProtoS = some backendProto ∧ parseEndpoint backendProto upstreamS = some upstream

/-- A line with these fields in front and the option tokens behind them, each group of tokens joined by commas. -/
structure OptionLine (head : List Bytes) (groups : List (List Bytes)) (line : Bytes) : Prop where
  nonempty : ∀ g ∈ groups, g ≠ []
  few : head.length + groups.length ≤ maxRouteFields
  spaced : Spaced fieldSep (head ++ groups.map [0x2c].intercalate) line

section Lines

variable {o : RouteOptions} {head : List Bytes} {listen upstream : Endpoint} {groups : List (List Bytes)}
  {line : Bytes}

theorem OptionToken.token {t : Bytes} (token : OptionToken t) : Token (· == 0x2c) t :=
  ⟨token.nonempty, fun c inside => by simpa using fun same : c = 0x2c => token.comma (same ▸ inside)⟩

/-- What separates fields is space. -/
theorem isspace_of_fieldSep {c : UInt8} (separates : fieldSep c = true) : isspace c = true := by
  simp only [fieldSep, Bool.or_eq_true, beq_iff_eq] at separates
  rcases separates with ((rfl | rfl) | rfl) | rfl <;> decide

theorem OptionToken.fieldText {t : Bytes} (token : OptionToken t) : FieldText t := by
  intro c inside
  constructor
  · rintro rfl
    exact token.nul inside
  · rw [Bool.eq_false_iff]
    intro separates
    have space := isspace_of_fieldSep separates
    rw [token.solid c inside] at space
    cases space

/-- Tokens that are joined by commas stand in one field. -/
theorem fieldWord_group {group : List Bytes} (nonempty : group ≠ []) (tokens : ∀ t ∈ group, OptionToken t) :
    FieldWord ([0x2c].intercalate group) where
  nonempty := by
    intro empty
    have read := @Lib.strtok_intercalate _ (· == 0x2c) 0x2c (by decide) group fun t mem => (tokens t mem).token
    rw [empty] at read
    exact nonempty read.symm
  text := by
    intro c mem
    rcases Lib.mem_intercalate mem with rfl | ⟨t, own, mem⟩
    · decide
    · exact (tokens t own).fieldText c mem

/-- The tokens of one field. -/
theorem parseRouteOptions_group {group : List Bytes} (tokens : ∀ t ∈ group, OptionToken t) :
    parseRouteOptions o ([0x2c].intercalate group) = group.foldlM parseOption o := by
  have read : strtok (· == 0x2c) ([0x2c].intercalate group) = group :=
    Lib.strtok_intercalate (by decide) fun t mem => (tokens t mem).token
  unfold parseRouteOptions
  split
  · rename_i empty
    rw [empty] at read
    rw [← read]
    rfl
  · rw [read]

/-- The fields that tokens are grouped into do not matter. -/
theorem foldlM_groups (tokens : ∀ t ∈ groups.flatten, OptionToken t) :
    (groups.map [0x2c].intercalate).foldlM parseRouteOptions o = groups.flatten.foldlM parseOption o := by
  induction groups generalizing o with
  | nil => rfl
  | cons group groups ih =>
    rw [List.flatten_cons] at tokens
    rw [List.map_cons, List.foldlM_cons, List.flatten_cons, List.foldlM_append,
      parseRouteOptions_group fun t mem => tokens t (List.mem_append_left _ mem)]
    congr 1
    funext o
    exact ih fun t mem => tokens t (List.mem_append_right _ mem)

/-- The fields of such a line. -/
theorem OptionLine.fields (written : OptionLine head groups line) (words : ∀ w ∈ head, FieldWord w)
    (tokens : ∀ t ∈ groups.flatten, OptionToken t) :
    strtok fieldSep (cstr line) = head ++ groups.map [0x2c].intercalate := by
  have all : ∀ w ∈ head ++ groups.map [0x2c].intercalate, FieldWord w := by
    intro w mem
    rcases List.mem_append.1 mem with mem | mem
    · exact words w mem
    · obtain ⟨group, own, rfl⟩ := List.mem_map.1 mem
      exact fieldWord_group (written.nonempty group own) fun t mem => tokens t (List.mem_flatten_of_mem own mem)
  have nonzero : ∀ c ∈ line, c ≠ 0 := by
    intro c mem
    rcases Lib.mem_spaced written.spaced mem with separates | ⟨w, own, mem⟩
    · rintro rfl
      cases separates
    · exact ((all w own).text c mem).1
  rw [Lib.cstr_of_nonzero nonzero]
  exact Lib.strtok_spaced written.spaced fun w own => (all w own).token

/-- What such a line is parsed to depends on its tokens. -/
theorem OptionLine.parse (written : OptionLine head groups line) (valid : RoutePrefix head listen upstream)
    (tokens : ∀ t ∈ groups.flatten, OptionToken t) :
    (∀ opts, groups.flatten.foldlM parseOption routeOptionsSetDefaults = .ok opts →
      parseRouteLine line = .ok { listen := listen, upstream := upstream, opts := opts }) ∧
    ∀ err, groups.flatten.foldlM parseOption routeOptionsSetDefaults = .error err →
      parseRouteLine line = .error .einval := by
  have fields := written.fields valid.words tokens
  have few := written.few
  obtain ⟨keyword, lp, l, bp, u, p, q, rfl, proto, endpoint, proto', endpoint'⟩ := valid.fields
  have short : (strtok fieldSep (cstr line)).length ≤ maxRouteFields := by
    rw [fields, List.length_append, List.length_map]
    exact few
  rw [List.append_assoc] at fields
  rw [← foldlM_groups tokens]
  exact parseRouteLine_fields fields short proto endpoint proto' endpoint'

/-- Lines with tokens that are accepted alike are parsed alike. -/
theorem OptionLine.parse_congr {groups' : List (List Bytes)} {line' : Bytes} (written : OptionLine head groups line)
    (written' : OptionLine head groups' line') (valid : RoutePrefix head listen upstream)
    (tokens : ∀ t ∈ groups.flatten, OptionToken t) (tokens' : ∀ t ∈ groups'.flatten, OptionToken t)
    (same : ∀ opts, groups'.flatten.foldlM parseOption routeOptionsSetDefaults = .ok opts ↔
      groups.flatten.foldlM parseOption routeOptionsSetDefaults = .ok opts) :
    parseRouteLine line' = parseRouteLine line := by
  obtain ⟨accept, reject⟩ := written.parse valid tokens
  obtain ⟨accept', reject'⟩ := written'.parse valid tokens'
  cases parsed : groups.flatten.foldlM parseOption routeOptionsSetDefaults with
  | ok opts => rw [accept opts parsed, accept' opts ((same opts).2 parsed)]
  | error err =>
    cases parsed' : groups'.flatten.foldlM parseOption routeOptionsSetDefaults with
    | error err' => rw [reject err parsed, reject' err' parsed']
    | ok opts =>
      rw [(same opts).1 parsed'] at parsed
      cases parsed

end Lines

/-- **Options are independent of grouping and order.** Whatever fields the tokens of a line are grouped into, and
whatever the order of tokens that set different options, the line is parsed alike. It is rejected exactly when some
token is no known option with a valid value; otherwise each option holds its last value, or its default. -/
theorem options_independent (head : List Bytes) (listen upstream : Endpoint) (groups : List (List Bytes))
    (line : Bytes) (valid : RoutePrefix head listen upstream) (tokens : ∀ t ∈ groups.flatten, OptionToken t)
    (written : OptionLine head groups line) :
    (∀ groups' line', OptionLine head groups' line' → groups'.flatten = groups.flatten →
      parseRouteLine line' = parseRouteLine line) ∧
    (∀ groups' line', OptionLine head groups' line' → groups'.flatten.Perm groups.flatten →
      groups.flatten.Pairwise SetDifferent → parseRouteLine line' = parseRouteLine line) ∧
    ((∃ r, parseRouteLine line = .ok r) ↔ ∀ t ∈ groups.flatten, ∃ s, Denotes t s) ∧
    ∀ settings, List.Forall₂ Denotes groups.flatten settings →
      ∃ opts, parseRouteLine line = .ok { listen := listen, upstream := upstream, opts := opts } ∧
        ∀ key, opts.get key = lastValue routeOptionsSetDefaults settings key := by
  obtain ⟨accept, reject⟩ := written.parse valid tokens
  refine ⟨?_, ?_, ?_, ?_⟩
  · intro groups' line' written' same
    apply written.parse_congr written' valid tokens (by rwa [same])
    intro opts
    rw [same]
  · intro groups' line' written' perm different
    have tokens' : ∀ t ∈ groups'.flatten, OptionToken t := fun t mem => tokens t (perm.subset mem)
    have different' : groups'.flatten.Pairwise SetDifferent :=
      (perm.pairwise_iff fun apart s s' denotes denotes' => (apart s' s denotes' denotes).symm).2 different
    apply written.parse_congr written' valid tokens tokens'
    intro opts
    exact ⟨foldlM_parseOption_perm tokens' perm different', foldlM_parseOption_perm tokens perm.symm different⟩
  · rw [← exists_settings_iff]
    constructor
    · rintro ⟨r, ok⟩
      cases parsed : groups.flatten.foldlM parseOption routeOptionsSetDefaults with
      | ok opts =>
        obtain ⟨settings, all, -⟩ := (foldlM_parseOption tokens).1 parsed
        exact ⟨settings, all⟩
      | error err =>
        rw [reject err parsed] at ok
        cases ok
    · rintro ⟨settings, all⟩
      exact ⟨_, accept _ ((foldlM_parseOption tokens).2 ⟨settings, all, rfl⟩)⟩
  · intro settings all
    refine ⟨settings.foldl RouteOptions.set routeOptionsSetDefaults, ?_, ?_⟩
    · exact accept _ ((foldlM_parseOption tokens).2 ⟨settings, all, rfl⟩)
    · exact get_foldl_set routeOptionsSetDefaults settings

/-- Fields with one space between them. -/
theorem spaced_fields {fields : List Bytes} {line : Bytes} (spaces : line = [0x20].intercalate fields) :
    Spaced fieldSep fields line := by
  rw [spaces]
  exact Lib.spaced_intercalate (by decide) fields

/-- Two tokens in one field, or in a field each. -/
theorem options_independent_regrouped :
    parseRouteLine (ascii "tcp :80 tcp 10.0.0.1:80 keep_alive idle_timeout=5") =
        parseRouteLine (ascii "tcp :80 tcp 10.0.0.1:80 keep_alive,idle_timeout=5") ∧
      ∃ r, parseRouteLine (ascii "tcp :80 tcp 10.0.0.1:80 keep_alive,idle_timeout=5") = .ok r := by
  have valid : RoutePrefix [ascii "tcp", ascii ":80", ascii "tcp", ascii "10.0.0.1:80"]
      { kind := .inet, host := ascii "0.0.0.0", port := 80, proto := .tcp }
      { kind := .inet, host := ascii "10.0.0.1", port := 80, proto := .tcp } := by
    refine ⟨?_, false, _, _, _, _, .tcp, .tcp, rfl, by decide, by decide +kernel, by decide, by decide +kernel⟩
    simp only [List.forall_mem_cons]
    exact ⟨by decide, by decide, by decide, by decide, fun w none => absurd none List.not_mem_nil⟩
  have tokens : ∀ t ∈ [[ascii "keep_alive", ascii "idle_timeout=5"]].flatten, OptionToken t := by
    simp only [List.flatten_cons, List.flatten_nil, List.append_nil, List.forall_mem_cons]
    refine ⟨?_, ?_, fun t none => absurd none List.not_mem_nil⟩
    all_goals exact ⟨by decide, by decide, by decide⟩
  have joined : OptionLine [ascii "tcp", ascii ":80", ascii "tcp", ascii "10.0.0.1:80"]
      [[ascii "keep_alive", ascii "idle_timeout=5"]]
      (ascii "tcp :80 tcp 10.0.0.1:80 keep_alive,idle_timeout=5") :=
    ⟨by simp, by decide, spaced_fields (by decide +kernel)⟩
  have apart : OptionLine [ascii "tcp", ascii ":80", ascii "tcp", ascii "10.0.0.1:80"]
      [[ascii "keep_alive"], [ascii "idle_timeout=5"]]
      (ascii "tcp :80 tcp 10.0.0.1:80 keep_alive idle_timeout=5") :=
    ⟨by simp, by decide, spaced_fields (by decide +kernel)⟩
  obtain ⟨regroup, -, accepted, -⟩ := options_independent _ _ _ _ _ valid tokens joined
  refine ⟨regroup _ _ apart rfl, accepted.2 ?_⟩
  simp only [List.flatten_cons, List.flatten_nil, List.append_nil, List.forall_mem_cons]
  have timeout : Denotes (ascii "idle_timeout" ++ 0x3d :: ascii "5") (.idleTimeout 5) :=
    .idleTimeout (by decide +kernel)
  have spelled : ascii "idle_timeout" ++ 0x3d :: ascii "5" = ascii "idle_timeout=5" := by decide +kernel
  rw [spelled] at timeout
  exact ⟨⟨.keepAlive, .keepAlive⟩, ⟨.idleTimeout 5, timeout⟩, fun t none => absurd none List.not_mem_nil⟩

end Tinyproxy
