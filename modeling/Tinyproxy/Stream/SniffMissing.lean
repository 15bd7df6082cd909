import Tinyproxy.Stream.SniffVerdict

/-!
# Hellos without a name

What `MISSING` stands for. The grammar here is that of a ClientHello whose parts are
followed down to a chosen end: `NamesThen` to the end of a server name list and
`ExtensionsThen` to the first server name extension or the end of the extensions. The
loop over the extensions checks that it came out at their end; the loop over the names
does not, so that one or two bytes behind the last entry pass for nothing.
-/

namespace Tinyproxy

open Lib (be16 be24)

namespace ClientHello

/-- Entries of a server name list, none of them a host name, and then `End`. -/
inductive NamesThen (End : Bytes → Prop) : Bytes → Prop where
  | ends {rest : Bytes} (holds : End rest) : NamesThen End rest
  | entry {type hi lo : UInt8} {value list : Bytes} (kind : type ≠ 0) (length : be16 hi lo = value.length)
      (more : NamesThen End list) : NamesThen End (type :: hi :: lo :: (value ++ list))

/-- The value of a server name extension: one list that fills it, and of which `Names` holds. -/
inductive ServerList (Names : Bytes → Prop) : Bytes → Prop where
  | mk {hi lo : UInt8} {list : Bytes} (length : be16 hi lo = list.length) (names : Names list) :
      ServerList Names (hi :: lo :: list)

/-- Extensions that are not server name extensions, and then a server name extension whose value is a `Server`,
with anything behind it, or else `End`. -/
inductive ExtensionsThen (Server End : Bytes → Prop) : Bytes → Prop where
  | ends {rest : Bytes} (holds : End rest) : ExtensionsThen Server End rest
  | server {hi lo : UInt8} {value rest : Bytes} (length : be16 hi lo = value.length) (holds : Server value) :
      ExtensionsThen Server End (0 :: 0 :: hi :: lo :: (value ++ rest))
  | other {typeHi typeLo hi lo : UInt8} {value block : Bytes} (kind : be16 typeHi typeLo ≠ 0)
      (length : be16 hi lo = value.length) (more : ExtensionsThen Server End block) :
      ExtensionsThen Server End (typeHi :: typeLo :: hi :: lo :: (value ++ block))

/-- The extensions block that ends a ClientHello, and of which `Extensions` holds. -/
inductive Block (Extensions : Bytes → Prop) : Bytes → Prop where
  | mk {hi lo : UInt8} {block : Bytes} (length : be16 hi lo = block.length) (holds : Extensions block) :
      Block Extensions (hi :: lo :: block)

/-- The fixed fields of a ClientHello, and then `Tail` up to its end. -/
inductive FixedFields (Tail : Bytes → Prop) : Bytes → Prop where
  | mk {fixed session suites methods tail : Bytes} {sessionLen suitesHi suitesLo methodsLen : UInt8}
      (fixedLength : fixed.length = 2 + 32) (sessionLength : sessionLen.toNat = session.length)
      (suitesLength : be16 suitesHi suitesLo = suites.length) (suitesSome : suites ≠ [])
      (suitesEven : suites.length % 2 = 0) (methodsLength : methodsLen.toNat = methods.length) (methodsSome : methods ≠ [])
      (holds : Tail tail) :
      FixedFields Tail
        (fixed ++ sessionLen :: (session ++ suitesHi :: suitesLo :: (suites ++ methodsLen :: (methods ++ tail))))

/-- A handshake message that is a ClientHello, of whose end `Tail` holds, and what follows it. -/
inductive Message (Tail : Bytes → Prop) : Bytes → Prop where
  | mk {hi mid lo : UInt8} {body rest : Bytes} (length : be24 hi mid lo = body.length) (fields : FixedFields Tail body) :
      Message Tail (0x01 :: hi :: mid :: lo :: (body ++ rest))

/-- A TLS record that begins with such a message, and what follows it. -/
inductive Hello (Tail : Bytes → Prop) : Bytes → Prop where
  | mk {minor hi lo : UInt8} {record rest : Bytes} (length : be16 hi lo = record.length) (message : Message Tail record) :
      Hello Tail (0x16 :: 0x03 :: minor :: hi :: lo :: (record ++ rest))

/-- One or two bytes: less than the head of an entry. -/
def Stub (rest : Bytes) : Prop := rest.length = 1 ∨ rest.length = 2

/-- An entry that is longer than what is left of its list. -/
def CutEntry (rest : Bytes) : Prop :=
  ∃ type hi lo value, rest = type :: hi :: lo :: value ∧ value.length < be16 hi lo

/-- Less than the head of an extension, or an extension that is longer than what is left of the block. -/
def CutExtension (rest : Bytes) : Prop :=
  (rest ≠ [] ∧ rest.length < 4) ∨
    ∃ typeHi typeLo hi lo value, rest = typeHi :: typeLo :: hi :: lo :: value ∧ value.length < be16 hi lo

/-- A value that does not hold one list exactly, or one whose list ends in a stub or in a cut entry. -/
def DefectiveServer (value : Bytes) : Prop :=
  (¬ServerList (fun _ => True) value) ∨ ServerList (NamesThen fun rest => Stub rest ∨ CutEntry rest) value

/-- No extensions, or a block of well-formed ones to its end or to a list of nothing but whole entries of other types. -/
def NamelessTail (tail : Bytes) : Prop :=
  tail = [] ∨ Block (ExtensionsThen (ServerList (NamesThen (· = []))) (· = [])) tail

/-- Something is left over or cut off: of the tail, of the block, of an extension or of the name list. -/
def DefectiveTail (tail : Bytes) : Prop :=
  (tail ≠ [] ∧ ¬Block (fun _ => True) tail) ∨ Block (ExtensionsThen DefectiveServer CutExtension) tail

/-- The name list is one of whole entries of other types with a stub behind them. -/
def StubTail (tail : Bytes) : Prop := Block (ExtensionsThen (ServerList (NamesThen Stub)) fun _ => False) tail

end ClientHello

open ClientHello

/-! ## The name list -/

section Names

variable {outLen : Nat} {P Q : Bytes → Prop} {l : Bytes}

theorem hostOn_not_missing (name : Bytes) : (hostOn outLen name).status ≠ .missing := by
  unfold hostOn
  split
  · simp
  · split
    · simp
    · split <;> simp

theorem namesOn_entry {type hi lo : UInt8} {value list : Bytes} (kind : type ≠ 0) (length : be16 hi lo = value.length) :
    namesOn outLen (type :: hi :: lo :: (value ++ list)) = namesOn outLen list := by
  rw [namesOn, length, if_neg (by rw [List.length_append]; omega), if_neg kind, List.drop_left]

/-- The entries in front decide nothing. -/
theorem ClientHello.NamesThen.split {r : SniResult} (each : ∀ rest, P rest → namesOn outLen rest = r ∨ Q rest)
    (names : NamesThen P l) : namesOn outLen l = r ∨ NamesThen Q l := by
  induction names with
  | ends holds =>
    rcases each _ holds with same | other
    · exact .inl same
    · exact .inr (.ends other)
  | entry kind length more ih =>
    rcases ih with same | other
    · left
      rw [namesOn_entry kind length, same]
    · exact .inr (.entry kind length other)

/-- `MISSING` comes out of a list of whole entries of other types, with or without a stub behind them. -/
theorem namesOn_missing (missing : (namesOn outLen l).status = .missing) : NamesThen (· = []) l ∨ NamesThen Stub l := by
  fun_induction namesOn outLen l with
  | case1 type hi lo rest long => cases missing
  | case2 hi lo rest fits => exact absurd missing (hostOn_not_missing _)
  | case3 type hi lo rest fits kind ih =>
    obtain ⟨value, list, rfl, length⟩ := Lib.split_at (Nat.not_lt.1 fits)
    rw [length, List.drop_left] at ih missing
    rcases ih missing with whole | stub
    · exact .inl (.entry kind length whole)
    · exact .inr (.entry kind length stub)
  | case4 l short =>
    have size : l.length < 3 := by
      by_contra long
      obtain ⟨x, y, z, rest, same⟩ := three_front (Nat.not_lt.1 long)
      exact short x y z rest same
    by_cases empty : l = []
    · exact .inl (.ends empty)
    · have filled := List.length_pos_iff.2 empty
      exact .inr (.ends (show l.length = 1 ∨ l.length = 2 by omega))

theorem namesOn_stub (names : NamesThen Stub l) : namesOn outLen l = { status := .missing } := by
  induction names with
  | ends stub =>
    apply namesOn_short
    rcases stub with one | two
    · omega
    · omega
  | entry kind length more ih => rw [namesOn_entry kind length, ih]

theorem namesOn_cut {rest : Bytes} (cut : CutEntry rest) : namesOn outLen rest = { status := .parseError } := by
  obtain ⟨type, hi, lo, value, rfl, long⟩ := cut
  rw [namesOn, if_pos long]

theorem ClientHello.NamesThen.imp (each : ∀ rest, P rest → Q rest) (names : NamesThen P l) : NamesThen Q l := by
  induction names with
  | ends holds => exact .ends (each _ holds)
  | entry kind length more ih => exact .entry kind length ih

/-- Two readings of one list meet at its end. -/
theorem ClientHello.NamesThen.meet (shortP : ∀ rest, P rest → rest.length < 3) (shortQ : ∀ rest, Q rest → rest.length < 3)
    (left : NamesThen P l) (right : NamesThen Q l) : ∃ rest, P rest ∧ Q rest := by
  induction left with
  | @ends rest holds =>
    have short := shortP _ holds
    cases right with
    | ends other => exact ⟨_, holds, other⟩
    | entry kind length more =>
      simp only [List.length_cons] at short
      omega
  | @entry type hi lo value list kind length more ih =>
    generalize whole : type :: hi :: lo :: (value ++ list) = l at right
    cases right with
    | ends other =>
      have short := shortQ _ other
      rw [← whole] at short
      simp only [List.length_cons] at short
      omega
    | entry kind' length' more' =>
      simp only [List.cons.injEq] at whole
      obtain ⟨rfl, rfl, rfl, same⟩ := whole
      obtain ⟨-, rfl⟩ := List.append_inj same (by omega)
      exact ih more'

end Names

/-! ## The extensions -/

section Extensions

variable {outLen : Nat} {S S' E E' : Bytes → Prop} {e : Bytes}

theorem extensionsOn_server {hi lo : UInt8} {value rest : Bytes} (length : be16 hi lo = value.length) :
    extensionsOn outLen (0 :: 0 :: hi :: lo :: (value ++ rest)) = serverNameOn outLen value := by
  rw [extensionsOn, length, if_neg (by rw [List.length_append]; omega), if_pos (by decide), List.take_left]

theorem extensionsOn_other {typeHi typeLo hi lo : UInt8} {value block : Bytes} (kind : be16 typeHi typeLo ≠ 0)
    (length : be16 hi lo = value.length) :
    extensionsOn outLen (typeHi :: typeLo :: hi :: lo :: (value ++ block)) = extensionsOn outLen block := by
  rw [extensionsOn, length, if_neg (by rw [List.length_append]; omega), if_neg kind, List.drop_left]

/-- The extensions in front decide nothing. -/
theorem ClientHello.ExtensionsThen.split {r : SniResult} (server : ∀ value, S value → serverNameOn outLen value = r ∨ S' value)
    (ends : ∀ rest, E rest → extensionsOn outLen rest = r ∨ E' rest) (extensions : ExtensionsThen S E e) :
    extensionsOn outLen e = r ∨ ExtensionsThen S' E' e := by
  induction extensions with
  | ends holds =>
    rcases ends _ holds with same | other
    · exact .inl same
    · exact .inr (.ends other)
  | server length holds =>
    rcases server _ holds with same | other
    · left
      rw [extensionsOn_server length, same]
    · exact .inr (.server length other)
  | other kind length more ih =>
    rcases ih with same | other
    · left
      rw [extensionsOn_other kind length, same]
    · exact .inr (.other kind length other)

theorem serverNameOn_missing {value : Bytes} (missing : (serverNameOn outLen value).status = .missing) :
    ServerList (NamesThen (· = [])) value ∨ ServerList (NamesThen Stub) value := by
  unfold serverNameOn at missing
  split at missing
  · split at missing
    · rename_i length
      rcases namesOn_missing missing with whole | stub
      · exact .inl (.mk length whole)
      · exact .inr (.mk length stub)
    · cases missing
  · cases missing

theorem extensionsOn_missing (missing : (extensionsOn outLen e).status = .missing) :
    ExtensionsThen (ServerList (NamesThen (· = []))) (· = []) e ∨
      ExtensionsThen (ServerList (NamesThen Stub)) (fun _ => False) e := by
  fun_induction extensionsOn outLen e with
  | case1 typeHi typeLo hi lo rest long => cases missing
  | case2 typeHi typeLo hi lo rest fits kind =>
    obtain ⟨value, block, rfl, length⟩ := Lib.split_at (Nat.not_lt.1 fits)
    obtain ⟨rfl, rfl⟩ := be16_eq_zero.1 kind
    rw [length, List.take_left] at missing
    rcases serverNameOn_missing missing with whole | stub
    · exact .inl (.server length whole)
    · exact .inr (.server length stub)
  | case3 typeHi typeLo hi lo rest fits kind ih =>
    obtain ⟨value, block, rfl, length⟩ := Lib.split_at (Nat.not_lt.1 fits)
    rw [length, List.drop_left] at ih missing
    rcases ih missing with whole | stub
    · exact .inl (.other kind length whole)
    · exact .inr (.other kind length stub)
  | case4 => exact .inl (.ends rfl)
  | case5 e short filled => cases missing

theorem extensionsOn_stub (stub : ExtensionsThen (ServerList (NamesThen Stub)) (fun _ => False) e) :
    extensionsOn outLen e = { status := .missing } := by
  induction stub with
  | ends never => exact never.elim
  | server length holds =>
    rw [extensionsOn_server length]
    cases holds with
    | mk listLength names => rw [serverNameOn, if_pos listLength, namesOn_stub names]
  | other kind length more ih => rw [extensionsOn_other kind length, ih]

theorem serverNameOn_defective {value : Bytes} (defective : DefectiveServer value) :
    serverNameOn outLen value = { status := .parseError } ∨ ServerList (NamesThen Stub) value := by
  rcases defective with unfilled | list
  · left
    unfold serverNameOn
    split
    · rw [if_neg fun length => unfilled (.mk length trivial)]
    · rfl
  · cases list with
    | @mk hi lo list length names =>
      have split : namesOn outLen list = { status := .parseError } ∨ NamesThen Stub list :=
        names.split fun rest defect => defect.symm.imp_left namesOn_cut
      rcases split with failed | stub
      · left
        rw [serverNameOn, if_pos length, failed]
      · exact .inr (.mk length stub)

theorem extensionsOn_cut {rest : Bytes} (cut : CutExtension rest) :
    extensionsOn outLen rest = { status := .parseError } := by
  rcases cut with ⟨filled, short⟩ | ⟨typeHi, typeLo, hi, lo, value, rfl, long⟩
  · rw [extensionsOn_short short, if_neg filled]
  · rw [extensionsOn, if_pos long]

theorem ClientHello.ExtensionsThen.imp (server : ∀ value, S value → S' value) (ends : ∀ rest, E rest → E' rest)
    (extensions : ExtensionsThen S E e) : ExtensionsThen S' E' e := by
  induction extensions with
  | ends holds => exact .ends (ends _ holds)
  | server length holds => exact .server length (server _ holds)
  | other kind length more ih => exact .other kind length ih

/-- Two readings of one block meet at its server name extension or at its end. -/
theorem ClientHello.ExtensionsThen.meet (shortE : ∀ rest, E rest → rest.length < 4)
    (shortE' : ∀ rest, E' rest → rest.length < 4) (left : ExtensionsThen S E e) (right : ExtensionsThen S' E' e) :
    (∃ value, S value ∧ S' value) ∨ ∃ rest, E rest ∧ E' rest := by
  induction left with
  | @ends rest holds =>
    have short := shortE _ holds
    cases right with
    | ends other => exact .inr ⟨_, holds, other⟩
    | server length other =>
      simp only [List.length_cons] at short
      omega
    | other kind length more =>
      simp only [List.length_cons] at short
      omega
  | @server hi lo value rest length holds =>
    generalize whole : 0 :: 0 :: hi :: lo :: (value ++ rest) = e at right
    cases right with
    | ends other =>
      have short := shortE' _ other
      rw [← whole] at short
      simp only [List.length_cons] at short
      omega
    | server length' other =>
      simp only [List.cons.injEq, true_and] at whole
      obtain ⟨rfl, rfl, same⟩ := whole
      obtain ⟨rfl, -⟩ := List.append_inj same (by omega)
      exact .inl ⟨value, holds, other⟩
    | other kind length' more =>
      simp only [List.cons.injEq] at whole
      obtain ⟨rfl, rfl, -⟩ := whole
      exact absurd rfl kind
  | @other typeHi typeLo hi lo value block kind length more ih =>
    generalize whole : typeHi :: typeLo :: hi :: lo :: (value ++ block) = e at right
    cases right with
    | ends other =>
      have short := shortE' _ other
      rw [← whole] at short
      simp only [List.length_cons] at short
      omega
    | server length' other =>
      simp only [List.cons.injEq] at whole
      obtain ⟨rfl, rfl, -⟩ := whole
      exact absurd rfl kind
    | other kind' length' more' =>
      simp only [List.cons.injEq] at whole
      obtain ⟨rfl, rfl, rfl, rfl, same⟩ := whole
      obtain ⟨-, rfl⟩ := List.append_inj same (by omega)
      exact ih more'

end Extensions

/-! ## The tail -/

section Tail

variable {outLen : Nat} {tail : Bytes}

theorem tailOn_missing (missing : (tailOn outLen tail).status = .missing) : NamelessTail tail ∨ StubTail tail := by
  unfold tailOn at missing
  split at missing
  · exact .inl (.inl rfl)
  · split at missing
    · rename_i length
      rcases extensionsOn_missing missing with whole | stub
      · exact .inl (.inr (.mk length whole))
      · exact .inr (.mk length stub)
    · cases missing
  · cases missing

theorem tailOn_stub (stub : StubTail tail) : tailOn outLen tail = { status := .missing } := by
  cases stub with
  | mk length extensions => rw [tailOn, if_pos length, extensionsOn_stub extensions]

theorem tailOn_defective (defective : DefectiveTail tail) :
    tailOn outLen tail = { status := .parseError } ∨ StubTail tail := by
  rcases defective with ⟨filled, unblocked⟩ | block
  · left
    unfold tailOn
    split
    · exact absurd rfl filled
    · rw [if_neg fun length => unblocked (.mk length trivial)]
    · rfl
  · cases block with
    | @mk hi lo block length extensions =>
      have split : extensionsOn outLen block = { status := .parseError } ∨
          ExtensionsThen (ServerList (NamesThen Stub)) (fun _ => False) block :=
        extensions.split (fun value => serverNameOn_defective) fun rest cut => .inl (extensionsOn_cut cut)
      rcases split with failed | stub
      · left
        rw [tailOn, if_pos length, failed]
      · exact .inr (.mk length stub)

/-- A list with a stub is not one of whole entries. -/
theorem stubTail_not_nameless (stub : StubTail tail) : ¬NamelessTail tail := by
  rintro (rfl | whole)
  · cases stub
  cases stub with
  | @mk hi lo block length extensions =>
    cases whole with
    | mk length' extensions' =>
      have empty : ∀ rest : Bytes, rest = [] → rest.length < 4 := by
        rintro rest rfl
        exact Nat.succ_pos 3
      have met := extensions'.meet empty (fun rest never => never.elim) extensions
      obtain ⟨value, left, right⟩ | ⟨rest, -, never⟩ := met
      · cases left with
        | mk _ wholeNames =>
          cases right with
          | mk _ stubNames =>
            obtain ⟨rest, rfl, stub⟩ := wholeNames.meet (by rintro rest rfl; exact Nat.succ_pos 2)
              (by rintro rest (one | two) <;> omega) stubNames
            rcases stub with one | two
            · cases one
            · cases two
      · exact never

end Tail

/-! ## The ClientHello -/

section Hello

variable {outLen : Nat} {P : Bytes → Prop} {b body tail : Bytes}

theorem bodyOn_fields (fields : FixedFields (· = tail) body) : bodyOn outLen body = tailOn outLen tail := by
  cases fields with
  | @mk fixed session suites methods tail' sessionLen suitesHi suitesLo methodsLen fixedLength sessionLength
      suitesLength suitesSome suitesEven methodsLength methodsSome same =>
    subst same
    have filled := List.length_pos_iff.2 suitesSome
    have zero : methodsLen ≠ 0 := by
      rintro rfl
      exact methodsSome (List.length_eq_zero_iff.1 methodsLength.symm)
    have methods' : ¬ (methodsLen = 0 ∨ (methods ++ tail').length < methodsLen.toNat) := by
      rw [List.length_append]
      exact not_or.2 ⟨zero, by omega⟩
    rw [bodyOn, ← fixedLength, List.drop_left, sessionOn, sessionLength, if_neg (by rw [List.length_append]; omega),
      List.drop_left, suitesOn, suitesLength, if_neg (by rw [List.length_append]; omega), List.drop_left, compressionOn,
      if_neg methods', methodsLength, List.drop_left]

theorem compressionOn_missing {seg : Bytes} (missing : (compressionOn outLen seg).status = .missing) :
    ∃ len methods tail, seg = len :: (methods ++ tail) ∧ len.toNat = methods.length ∧ methods ≠ [] := by
  unfold compressionOn at missing
  split at missing
  · rename_i len rest
    split at missing
    · cases missing
    · rename_i sizes
      rw [not_or] at sizes
      obtain ⟨methods, tail, rfl, length⟩ := Lib.split_at (Nat.not_lt.1 sizes.2)
      refine ⟨len, methods, tail, rfl, length, ?_⟩
      rintro rfl
      exact sizes.1 (UInt8.toNat_inj.1 length)
  · cases missing

theorem suitesOn_missing {seg : Bytes} (missing : (suitesOn outLen seg).status = .missing) :
    ∃ hi lo suites rest, seg = hi :: lo :: (suites ++ rest) ∧ be16 hi lo = suites.length ∧ suites ≠ [] ∧
      suites.length % 2 = 0 ∧ (compressionOn outLen rest).status = .missing := by
  unfold suitesOn at missing
  split at missing
  · rename_i hi lo rest
    split at missing
    · cases missing
    · rename_i sizes
      obtain ⟨suites, rest, rfl, length⟩ := Lib.split_at (show be16 hi lo ≤ rest.length by omega)
      rw [length, List.drop_left] at missing
      exact ⟨hi, lo, suites, rest, rfl, length, List.length_pos_iff.1 (by omega), by omega, missing⟩
  · cases missing

theorem sessionOn_missing {seg : Bytes} (missing : (sessionOn outLen seg).status = .missing) :
    ∃ len session rest, seg = len :: (session ++ rest) ∧ len.toNat = session.length ∧
      (suitesOn outLen rest).status = .missing := by
  unfold sessionOn at missing
  split at missing
  · rename_i len rest
    split at missing
    · cases missing
    · rename_i fits
      obtain ⟨session, rest, rfl, length⟩ := Lib.split_at (Nat.not_lt.1 fits)
      rw [length, List.drop_left] at missing
      exact ⟨len, session, rest, rfl, length, missing⟩
  · cases missing

theorem bodyOn_missing (missing : (bodyOn outLen body).status = .missing) : ∃ tail, FixedFields (· = tail) body := by
  obtain ⟨sessionLen, session, rest, front, sessionLength, missing⟩ := sessionOn_missing missing
  obtain ⟨hi, lo, suites, rest, rfl, suitesLength, suitesSome, even, missing⟩ := suitesOn_missing missing
  obtain ⟨methodsLen, methods, tail, rfl, methodsLength, methodsSome⟩ := compressionOn_missing missing
  have long : 2 + 32 ≤ body.length := by
    by_contra short
    rw [List.drop_of_length_le (by omega)] at front
    cases front
  obtain ⟨fixed, rest, rfl, fixedLength⟩ := Lib.split_at long
  rw [fixedLength, List.drop_left] at front
  subst front
  exact ⟨tail, .mk fixedLength.symm sessionLength suitesLength suitesSome even methodsLength methodsSome rfl⟩

theorem fixedFields_pos (fields : FixedFields P body) : 0 < body.length := by
  cases fields with
  | mk fixedLength =>
    rw [List.length_append, fixedLength]
    omega

theorem handshakeOn_message {record : Bytes} (message : Message (· = tail) record) :
    handshakeOn outLen record = tailOn outLen tail := by
  cases message with
  | mk length fields =>
    have filled := fixedFields_pos fields
    rw [handshakeOn, if_neg (by simp), length, if_neg (by rw [List.length_append]; omega), List.take_left,
      bodyOn_fields fields]

theorem sniOn_hello (hello : Hello (· = tail) b) : sniOn outLen b = tailOn outLen tail := by
  cases hello with
  | @mk minor hi lo record rest length message =>
    have filled : 0 < record.length := by
      cases message
      exact Nat.succ_pos _
    rw [sniOn, if_neg (by simp), recordOn, if_neg (by simp), if_neg (by omega), length,
      if_neg (by rw [List.length_append]; omega), List.take_left, handshakeOn_message message]

theorem handshakeOn_missing {record : Bytes} (missing : (handshakeOn outLen record).status = .missing) :
    ∃ tail, Message (· = tail) record := by
  unfold handshakeOn at missing
  split at missing
  · rename_i type hi mid lo rest
    split at missing
    · cases missing
    rename_i hello
    split at missing
    · cases missing
    rename_i sizes
    obtain ⟨body, rest, rfl, length⟩ := Lib.split_at (show be24 hi mid lo ≤ rest.length by omega)
    rw [length, List.take_left] at missing
    obtain ⟨tail, fields⟩ := bodyOn_missing missing
    rw [not_not.1 hello]
    exact ⟨tail, .mk length fields⟩
  · cases missing

theorem recordOn_missing {rest : Bytes} (missing : (recordOn outLen rest).status = .missing) :
    ∃ tail, Hello (· = tail) (0x16 :: rest) := by
  unfold recordOn at missing
  split at missing
  · rename_i major minor hi lo rest
    split at missing
    · cases missing
    rename_i version
    split at missing
    · cases missing
    split at missing
    · cases missing
    rename_i present
    obtain ⟨record, rest, rfl, length⟩ := Lib.split_at (Nat.not_lt.1 present)
    rw [length, List.take_left] at missing
    obtain ⟨tail, message⟩ := handshakeOn_missing missing
    rw [not_not.1 version]
    exact ⟨tail, .mk length message⟩
  · cases missing

theorem sniOn_missing (missing : (sniOn outLen b).status = .missing) : ∃ tail, Hello (· = tail) b := by
  unfold sniOn at missing
  split at missing
  · cases missing
  split at missing
  · cases missing
  rename_i handshake
  rw [not_not.1 handshake]
  exact recordOn_missing missing

theorem fixedFields_iff : FixedFields P body ↔ ∃ tail, FixedFields (· = tail) body ∧ P tail := by
  constructor
  · intro fields
    cases fields with
    | mk fixed session suites filled even methods filled' holds =>
      exact ⟨_, .mk fixed session suites filled even methods filled' rfl, holds⟩
  · rintro ⟨tail, fields, holds⟩
    cases fields with
    | mk fixed session suites filled even methods filled' same =>
      subst same
      exact .mk fixed session suites filled even methods filled' holds

theorem message_iff {record : Bytes} : Message P record ↔ ∃ tail, Message (· = tail) record ∧ P tail := by
  constructor
  · intro message
    cases message with
    | mk length fields =>
      obtain ⟨tail, fields, holds⟩ := fixedFields_iff.1 fields
      exact ⟨tail, .mk length fields, holds⟩
  · rintro ⟨tail, message, holds⟩
    cases message with
    | mk length fields => exact .mk length (fixedFields_iff.2 ⟨tail, fields, holds⟩)

/-- A ClientHello has its tail, and whatever holds of that. -/
theorem hello_iff : Hello P b ↔ ∃ tail, Hello (· = tail) b ∧ P tail := by
  constructor
  · intro hello
    cases hello with
    | mk length message =>
      obtain ⟨tail, message, holds⟩ := message_iff.1 message
      exact ⟨tail, .mk length message, holds⟩
  · rintro ⟨tail, hello, holds⟩
    cases hello with
    | mk length message => exact .mk length (message_iff.2 ⟨tail, message, holds⟩)

variable {other : Bytes}

theorem fixedFields_unique (left : FixedFields (· = tail) body) (right : FixedFields (· = other) body) :
    tail = other := by
  cases left with
  | mk fixed session suites filled even methods filled' same =>
    subst same
    generalize whole : _ ++ _ :: (_ ++ _ :: _ :: (_ ++ _ :: (_ ++ _))) = body at right
    cases right with
    | mk fixed' session' suites' _ _ methods' _ same =>
      subst same
      have fromSession := (List.append_inj whole (by omega)).2
      rw [List.cons.injEq] at fromSession
      obtain ⟨rfl, behindSession⟩ := fromSession
      have fromSuites := (List.append_inj behindSession (by omega)).2
      rw [List.cons.injEq, List.cons.injEq] at fromSuites
      obtain ⟨rfl, rfl, behindSuites⟩ := fromSuites
      have fromMethods := (List.append_inj behindSuites (by omega)).2
      rw [List.cons.injEq] at fromMethods
      obtain ⟨rfl, behindMethods⟩ := fromMethods
      exact (List.append_inj behindMethods (by omega)).2

/-- It has no other. -/
theorem hello_unique (left : Hello (· = tail) b) (right : Hello (· = other) b) : tail = other := by
  cases left with
  | @mk minor hi lo record rest length message =>
    generalize whole : 0x16 :: 0x03 :: minor :: hi :: lo :: (record ++ rest) = b at right
    cases right with
    | mk length' message' =>
      simp only [List.cons.injEq, true_and] at whole
      obtain ⟨rfl, rfl, rfl, same⟩ := whole
      obtain ⟨rfl, -⟩ := List.append_inj same (by omega)
      cases message with
      | @mk hi mid lo body after bodyLength fields =>
        generalize whole : 0x01 :: hi :: mid :: lo :: (body ++ after) = record at message'
        cases message' with
        | mk bodyLength' fields' =>
          simp only [List.cons.injEq, true_and] at whole
          obtain ⟨rfl, rfl, rfl, same⟩ := whole
          obtain ⟨rfl, -⟩ := List.append_inj same (by omega)
          exact fixedFields_unique fields fields'

end Hello

/-- A stub passes for a name list that ended. -/
theorem stub_missing (outLen : Nat) {b : Bytes} (hello : Hello StubTail b) :
    sniOf b outLen = some { status := .missing } ∧ ¬Hello NamelessTail b := by
  obtain ⟨tail, framed, stub⟩ := hello_iff.1 hello
  refine ⟨?_, ?_⟩
  · rw [sniOf_eq, sniOn_hello framed, tailOn_stub stub]
  · intro whole
    obtain ⟨tail', framed', nameless⟩ := hello_iff.1 whole
    rw [← hello_unique framed framed'] at nameless
    exact stubTail_not_nameless stub nameless

/-- `MISSING` is reported only for ClientHellos without a name, and one with something left over or cut off is
reported as `PARSE_ERROR`. -/
structure MissingWellFormed (b : Bytes) (outLen : Nat) : Prop where
  wellFormed : sniOf b outLen = some { status := .missing } → Hello NamelessTail b
  defective : Hello DefectiveTail b → sniOf b outLen = some { status := .parseError }

/-- **`MISSING` stands for a well-formed hello unless the name list ends in a stub**: exactly when no one or two bytes
are left over behind the last whole entry of a list without a host name. -/
theorem missing_wellFormed_iff (b : Bytes) (outLen : Nat) : MissingWellFormed b outLen ↔ ¬Hello StubTail b := by
  constructor
  · intro sound hello
    obtain ⟨missing, unnamed⟩ := stub_missing outLen hello
    exact unnamed (sound.wellFormed missing)
  · intro clean
    have stubless : ∀ tail, Hello (· = tail) b → ¬StubTail tail := by
      intro tail framed stub
      exact clean (hello_iff.2 ⟨tail, framed, stub⟩)
    refine ⟨?_, ?_⟩
    · intro missing
      rw [sniOf_eq, Option.some.injEq] at missing
      obtain ⟨tail, framed⟩ := @sniOn_missing outLen b (by rw [missing])
      rw [sniOn_hello framed] at missing
      have nameless := (@tailOn_missing outLen tail (by rw [missing])).resolve_right (stubless tail framed)
      exact hello_iff.2 ⟨tail, framed, nameless⟩
    · intro hello
      obtain ⟨tail, framed, defective⟩ := hello_iff.1 hello
      rw [sniOf_eq, sniOn_hello framed, (tailOn_defective defective).resolve_right (stubless tail framed)]

/-- The extensions of a ClientHello whose name list is a single byte. -/
def stubTail : Bytes := [0x00, 0x07, 0x00, 0x00, 0x00, 0x03, 0x00, 0x01, 0x05]

def stubBody : Bytes := List.replicate 34 0x5a ++ [0x00, 0x00, 0x02, 0x13, 0x01, 0x01, 0x00] ++ stubTail

def stubHello : Bytes := [0x16, 0x03, 0x01, 0x00, 0x36, 0x01, 0x00, 0x00, 0x32] ++ stubBody

theorem stubHello_hello : Hello StubTail stubHello := by
  have tail : StubTail stubTail :=
    .mk rfl (@ExtensionsThen.server _ _ 0x00 0x03 [0x00, 0x01, 0x05] [] rfl (.mk rfl (.ends (.inl rfl))))
  have body : FixedFields StubTail stubBody :=
    @FixedFields.mk _ (List.replicate 34 0x5a) [] [0x13, 0x01] [0x00] stubTail 0x00 0x00 0x02 0x01 rfl rfl rfl (by simp) rfl
      rfl (by simp) tail
  exact @Hello.mk _ 0x01 0x00 0x36 (0x01 :: 0x00 :: 0x00 :: 0x32 :: (stubBody ++ [])) [] rfl (.mk rfl body)

/-- **A list with a byte left over is reported as `MISSING`**, not as `PARSE_ERROR`. -/
theorem missing_stub_unnoticed : ¬ ∀ (b : Bytes) (outLen : Nat), MissingWellFormed b outLen := by
  intro sound
  obtain ⟨missing, unnamed⟩ := stub_missing (streamSniMax + 1) stubHello_hello
  exact unnamed ((sound stubHello (streamSniMax + 1)).wellFormed missing)

end Tinyproxy
