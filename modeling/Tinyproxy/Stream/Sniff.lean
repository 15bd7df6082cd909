import Tinyproxy.Net.Sockaddr

/-!
# The SNI sniffer

`parse_sni_from_client_hello` reads a TLS record in place. Its buffer is a
`Reader`, which answers `none` outside the bytes it covers, and its `size_t` sums
are `addSz`, which answers `none` where they would wrap; the two loops carry fuel
and answer `none` when it runs out. So a result `some r` says the run stayed
inside the buffer, wrapped nowhere and finished, and `r` is what it returned.

`stream_sniff_peek_client_input` hands the parser the first
`STREAM_SNIFF_MAX` bytes of the client's input buffer and keeps the outcome.
-/

namespace Tinyproxy

/-- `STREAM_SNIFF_MAX` and `STREAM_SNI_MAX`. -/
def streamSniffMax : Nat := 8192
def streamSniMax : Nat := 253

/-- `enum stream_sniff_status`. -/
inductive StreamSniffStatus where
  | notObserved | needMore | parsed | missing | notTls | truncated | nameTooLong | parseError
  deriving DecidableEq, Repr

/-- `struct stream_sniff`; `sni` is the whole array, zeroed with its connection. -/
structure StreamSniff where
  sni : Bytes := List.replicate (streamSniMax + 1) 0
  status : StreamSniffStatus := .notObserved
  observed : Nat := 0
  done : Bool := false
  deriving DecidableEq

/-- What the parser returned: its status, the name it copied to `out` (the
terminator follows it there) and the `need_more` flag. -/
structure SniResult where
  status : StreamSniffStatus
  copied : Option Bytes := none
  needMore : Bool := false
  deriving DecidableEq

/-- The bytes a parser may look at. -/
abbrev Reader := Nat → Option UInt8

/-- A `size_t` sum; `none` where it would wrap. -/
def addSz (x y : Nat) : Option Nat := if x + y < 2 ^ 64 then some (x + y) else none

/-- `read_u16_be`. -/
def readU16Be (rd : Reader) (p : Nat) : Option Nat := do
  let hi ← rd p
  let lo ← rd (p + 1)
  return Lib.be16 hi lo

/-- `read_u24_be`. -/
def readU24Be (rd : Reader) (p : Nat) : Option Nat := do
  let hi ← rd p
  let mid ← rd (p + 1)
  let lo ← rd (p + 2)
  return Lib.be24 hi mid lo

/-- `isalnum` in the C locale. -/
def isalnum (c : UInt8) : Bool :=
  (48 ≤ c && c ≤ 57) || (65 ≤ c && c ≤ 90) || (97 ≤ c && c ≤ 122)

/-- The loop of `valid_sni_name` over the `n` bytes from `p` on. -/
def validSniBytes (rd : Reader) (p : Nat) : Nat → Option Bool
  | 0 => some true
  | n + 1 => do
    let c ← rd p
    if isalnum c || c == 0x2d || c == 0x2e then validSniBytes rd (p + 1) n else return false

/-- `valid_sni_name`. -/
def validSniName (rd : Reader) (p len : Nat) : Option Bool :=
  if len = 0 ∨ len > streamSniMax then some false else validSniBytes rd p len

/-- `memcpy` of the `n` bytes from `p` on. -/
def copyBytes (rd : Reader) (p : Nat) : Nat → Option Bytes
  | 0 => some []
  | n + 1 => do
    let c ← rd p
    let rest ← copyBytes rd (p + 1) n
    return c :: rest

/-- The loop over the entries of a server name list. -/
def parseNames (rd : Reader) (outLen listEnd : Nat) : Nat → Nat → Option SniResult
  | 0, _ => none
  | fuel + 1, listPos => do
    let next ← addSz listPos 3
    if next > listEnd then return { status := .missing }
    let nameType ← rd listPos
    let nameLen ← readU16Be rd (listPos + 1)
    let nameEnd ← addSz next nameLen
    if nameEnd > listEnd then return { status := .parseError }
    if nameType = 0 then
      if nameLen > streamSniMax then return { status := .nameTooLong }
      let valid ← validSniName rd next nameLen
      if !valid then return { status := .parseError }
      let need ← addSz nameLen 1
      if outLen < need then return { status := .nameTooLong }
      let name ← copyBytes rd next nameLen
      return { status := .parsed, copied := some name }
    parseNames rd outLen listEnd fuel nameEnd

/-- The body of extension type 0: one server name list filling `extData .. extEnd`. -/
def parseServerName (rd : Reader) (outLen extData extLen extEnd : Nat) : Option SniResult := do
  if extLen < 2 then return { status := .parseError }
  let listLen ← readU16Be rd extData
  let listPos ← addSz extData 2
  let listEnd ← addSz listPos listLen
  if listEnd ≠ extEnd then return { status := .parseError }
  parseNames rd outLen listEnd (listEnd + 1) listPos

/-- The loop over the extensions. -/
def parseExtensions (rd : Reader) (outLen extensionsEnd : Nat) : Nat → Nat → Option SniResult
  | 0, _ => none
  | fuel + 1, pos => do
    let extData ← addSz pos 4
    if extData > extensionsEnd then
      if pos ≠ extensionsEnd then return { status := .parseError }
      return { status := .missing }
    let extType ← readU16Be rd pos
    let extLen ← readU16Be rd (pos + 2)
    let extEnd ← addSz extData extLen
    if extEnd > extensionsEnd then return { status := .parseError }
    if extType = 0 then parseServerName rd outLen extData extLen extEnd
    else parseExtensions rd outLen extensionsEnd fuel extEnd

/-- From the compression methods on: their bytes, then the extensions block. -/
def parseCompression (rd : Reader) (outLen hsEnd pos : Nat) : Option SniResult := do
  let next ← addSz pos 1
  if next > hsEnd then return { status := .parseError }
  let compressionMethodsLen ← rd pos
  if compressionMethodsLen = 0 then return { status := .parseError }
  let pos ← addSz next compressionMethodsLen.toNat
  if pos > hsEnd then return { status := .parseError }
  if pos = hsEnd then return { status := .missing }
  let next ← addSz pos 2
  if next > hsEnd then return { status := .parseError }
  let extensionsLen ← readU16Be rd pos
  let extensionsEnd ← addSz next extensionsLen
  if extensionsEnd ≠ hsEnd then return { status := .parseError }
  parseExtensions rd outLen extensionsEnd (extensionsEnd + 1) next

/-- From the ClientHello body on: version, random, session id and cipher suites. -/
def parseHello (rd : Reader) (outLen hsEnd pos : Nat) : Option SniResult := do
  let fixedEnd ← addSz pos (2 + 32 + 1)
  if fixedEnd > hsEnd then return { status := .parseError }
  let sessionIdLen ← rd (pos + 2 + 32)
  let pos ← addSz fixedEnd sessionIdLen.toNat
  if pos > hsEnd then return { status := .parseError }
  let next ← addSz pos 2
  if next > hsEnd then return { status := .parseError }
  let cipherSuitesLen ← readU16Be rd pos
  if cipherSuitesLen = 0 ∨ cipherSuitesLen % 2 ≠ 0 then return { status := .parseError }
  let pos ← addSz next cipherSuitesLen
  if pos > hsEnd then return { status := .parseError }
  parseCompression rd outLen hsEnd pos

/-- The handshake message of a record that ends at `recordEnd`. -/
def parseHandshake (rd : Reader) (outLen recordEnd : Nat) : Option SniResult := do
  let pos ← addSz 5 4
  if pos > recordEnd then return { status := .parseError }
  let handshakeType ← rd 5
  if handshakeType ≠ 0x01 then return { status := .notTls }
  let hsLen ← readU24Be rd 6
  let hsEnd ← addSz pos hsLen
  if hsLen = 0 ∨ hsEnd > recordEnd then return { status := .parseError }
  parseHello rd outLen hsEnd pos

/-- `parse_sni_from_client_hello` on a buffer of `len` bytes. -/
def parseSniFromClientHello (rd : Reader) (len outLen : Nat) : Option SniResult := do
  if len = 0 then return { status := .needMore, needMore := true }
  let contentType ← rd 0
  if contentType ≠ 0x16 then return { status := .notTls }
  if len < 5 then return { status := .needMore, needMore := true }
  let major ← rd 1
  if major ≠ 0x03 then return { status := .parseError }
  let recordLen ← readU16Be rd 3
  let recordEnd ← addSz 5 recordLen
  if recordLen = 0 then return { status := .parseError }
  if recordEnd > len then return { status := .needMore, needMore := true }
  parseHandshake rd outLen recordEnd

/-- The parser on `buf`, with `sizeof(s->sni)` bytes of output. -/
def parseSni (buf : Bytes) : Option SniResult :=
  parseSniFromClientHello (fun i => buf[i]?) buf.length (streamSniMax + 1)

/-- Whether `stream_sniff_peek_client_input` sets `done` after this status. -/
def StreamSniffStatus.terminal : StreamSniffStatus → Bool
  | .parsed | .missing | .notTls | .truncated | .nameTooLong | .parseError => true
  | .notObserved | .needMore => false

/-- `stream_sniff_peek_client_input`. -/
def streamSniffPeekClientInput (s : StreamSniff) (input : Bytes) : StreamSniff :=
  if s.done then s else
  if input.length = 0 then s else
  let buf := input.take streamSniffMax
  match parseSni buf with
  -- excluded by `parseSni_total`
  | none => s
  | some r =>
    let s := { s with
      observed := buf.length
      sni := match r.copied with
        | some name => Lib.putAt s.sni 0 (name ++ [0])
        | none => s.sni }
    if r.status = .needMore ∧ r.needMore then
      if input.length ≥ streamSniffMax then { s with status := .truncated, done := true }
      else { s with status := .needMore }
    else { s with status := r.status, done := r.status.terminal }

end Tinyproxy
