import Hyperdriver.Client.Tls
import Hyperdriver.Service.Host

/-!
# The server name of a connection with TLS

The name expected of the server is to be a host and nothing else: a registered
name, an IPv4 address, which is written like one, or an IPv6 address without
brackets.  It is read either from the Host header, which may write a port, or
from the URI, which writes IPv6 addresses in brackets, and `setHostHeader` turns
a request of the second kind into one of the first.
-/

namespace Hyperdriver

open Foundation Service

universe u v w

/-! ## Hosts -/

/-- The letters of a registered name: unreserved ones, delimiters within a name,
and the sign of an escape. -/
def NameLetter (letter : Char) : Prop :=
  letter.isAlphanum ∨ letter ∈ "-._~!$&'()*+,;=%".toList

instance (letter : Char) : Decidable (NameLetter letter) :=
  inferInstanceAs (Decidable (_ ∨ _))

def AllNameLetters (text : List Char) : Prop :=
  ∀ letter, letter ∈ text → NameLetter letter

instance (text : List Char) : Decidable (AllNameLetters text) :=
  List.decidableBAll NameLetter text

def RegisteredName (text : List Char) : Prop :=
  text ≠ [] ∧ AllNameLetters text

instance (text : List Char) : Decidable (RegisteredName text) :=
  inferInstanceAs (Decidable (_ ∧ _))

def HexDigit (letter : Char) : Prop :=
  letter.isDigit ∨ letter ∈ "abcdefABCDEF".toList

instance (letter : Char) : Decidable (HexDigit letter) :=
  inferInstanceAs (Decidable (_ ∨ _))

def HexGroup (group : List Char) : Prop :=
  (1 ≤ group.length ∧ group.length ≤ 4) ∧
    ∀ digit, digit ∈ group → HexDigit digit

def Octet (text : List Char) : Prop :=
  ∃ value, value < 256 ∧ text = Nat.toDigits 10 value

/-- The groups of an IPv6 address, the last two of which may be written as an
IPv4 address. -/
inductive AddressGroups : Nat → List (List Char) → Prop
  | nil : AddressGroups 0 []
  | hex {count : Nat} {group : List Char} {groups : List (List Char)} :
      HexGroup group → AddressGroups count groups →
        AddressGroups (count + 1) (group :: groups)
  | dotted {octets : List (List Char)} :
      octets.length = 4 → (∀ octet, octet ∈ octets → Octet octet) →
        AddressGroups 2 [['.'].intercalate octets]

/-- An IPv6 address: eight groups, or fewer with one run of zeros left out. -/
inductive Ipv6Address : List Char → Prop
  | full {groups : List (List Char)} :
      AddressGroups 8 groups → Ipv6Address ([':'].intercalate groups)
  | compressed {front back : List (List Char)} {count : Nat} :
      (∀ group, group ∈ front → HexGroup group) →
        AddressGroups count back → front.length + count < 8 →
          Ipv6Address
            ([':'].intercalate front ++ [':', ':'] ++
              [':'].intercalate back)

/-- A host without port, user information or brackets. -/
def BareHost (text : String) : Prop :=
  RegisteredName text.toList ∨ Ipv6Address text.toList

private theorem mem_intercalate_singleton {separator letter : Char}
    {parts : List (List Char)}
    (member : letter ∈ [separator].intercalate parts) :
    letter = separator ∨ ∃ part, part ∈ parts ∧ letter ∈ part := by
  induction parts with
  | nil =>
      simp at member
  | cons first rest inductionHypothesis =>
      rcases rest with _ | ⟨second, others⟩
      · rw [List.intercalate_singleton] at member
        exact Or.inr ⟨first, List.mem_cons_self, member⟩
      · rw [List.intercalate_cons_cons, List.append_assoc,
          List.mem_append, List.mem_append] at member
        rcases member with inFirst | isSeparator | later
        · exact Or.inr ⟨first, List.mem_cons_self, inFirst⟩
        · exact Or.inl (List.mem_singleton.mp isSeparator)
        · rcases inductionHypothesis later with same | ⟨part, among, inside⟩
          · exact Or.inl same
          · exact Or.inr ⟨part, List.mem_cons_of_mem _ among, inside⟩

/-- The letters of an IPv6 address. -/
def AddressLetter (letter : Char) : Prop :=
  HexDigit letter ∨ letter = ':' ∨ letter = '.'

instance (letter : Char) : Decidable (AddressLetter letter) :=
  inferInstanceAs (Decidable (_ ∨ _ ∨ _))

private theorem HexGroup.addressLetter {group : List Char}
    (hex : HexGroup group)
    {letter : Char} (member : letter ∈ group) : AddressLetter letter :=
  Or.inl (hex.2 letter member)

private theorem Octet.addressLetter {text : List Char} (octet : Octet text)
    {letter : Char} (member : letter ∈ text) : AddressLetter letter := by
  obtain ⟨value, _, rfl⟩ := octet
  have isDigit := Nat.isDigit_of_mem_toDigits (by decide) (by decide) member
  exact Or.inl (Or.inl isDigit)

private theorem AddressGroups.addressLetter {count : Nat}
    {groups : List (List Char)}
    (valid : AddressGroups count groups) {letter : Char} {group : List Char}
    (among : group ∈ groups) (member : letter ∈ group) :
    AddressLetter letter := by
  induction valid with
  | nil =>
      cases among
  | hex first _ inductionHypothesis =>
      rcases List.mem_cons.mp among with rfl | later
      · exact first.addressLetter member
      · exact inductionHypothesis later
  | dotted _ octets =>
      rw [List.mem_singleton.mp among] at member
      rcases mem_intercalate_singleton member with
        rfl | ⟨octet, isOctet, inside⟩
      · decide
      · exact (octets octet isOctet).addressLetter inside

private theorem AddressGroups.length_le {count : Nat}
    {groups : List (List Char)}
    (valid : AddressGroups count groups) : count ≤ groups.length + 1 := by
  induction valid with
  | nil =>
      exact Nat.zero_le _
  | hex _ _ inductionHypothesis =>
      rw [List.length_cons]
      omega
  | dotted _ _ =>
      exact Nat.le_refl _

private theorem Ipv6Address.addressLetter {text : List Char}
    (address : Ipv6Address text) {letter : Char} (member : letter ∈ text) :
    AddressLetter letter := by
  cases address with
  | full valid =>
      rcases mem_intercalate_singleton member with rfl | ⟨group, among, inside⟩
      · decide
      · exact valid.addressLetter among inside
  | compressed front back _ =>
      rw [List.mem_append, List.mem_append] at member
      rcases member with (before | colons) | after
      · rcases mem_intercalate_singleton before with
          rfl | ⟨group, among, inside⟩
        · decide
        · exact (front group among).addressLetter inside
      · have colon : letter = ':' := by simpa using colons
        rw [colon]
        decide
      · rcases mem_intercalate_singleton after with
          rfl | ⟨group, among, inside⟩
        · decide
        · exact back.addressLetter among inside

private theorem Ipv6Address.colon_mem {text : List Char}
    (address : Ipv6Address text) : ':' ∈ text := by
  cases address with
  | @full groups valid =>
      have many := valid.length_le
      rcases groups with _ | ⟨first, _ | ⟨second, others⟩⟩
      · simp at many
      · simp at many
      · rw [List.intercalate_cons_cons]
        simp
  | compressed _ _ _ =>
      simp

private theorem bareHost_iff_of_shape {text : String}
    (shape : HostShape text.toList) :
    BareHost text ↔ RegisteredName text.toList := by
  refine ⟨?_, Or.inl⟩
  rintro (name | address)
  · exact name
  · rcases shape with ⟨inner, brackets, _⟩ | ⟨_, noColon⟩
    · have opening : '[' ∈ text.toList := by
        rw [brackets]
        exact List.mem_cons_self
      exact absurd (address.addressLetter opening) (by decide)
    · exact (noColon address.colon_mem).elim

example : BareHost "::1" := by
  have hex : HexGroup ['1'] := by
    refine ⟨by decide, ?_⟩
    intro digit member
    rw [List.mem_singleton.mp member]
    decide
  have one : AddressGroups 1 [['1']] := .hex hex .nil
  have text :
      "::1".toList =
        [':'].intercalate [] ++ [':', ':'] ++ [':'].intercalate [['1']] := by
    decide
  rw [BareHost, text]
  exact Or.inr (.compressed nofun one (by decide))

private theorem not_bareHost_of_mem {text : String} (letter other : Char)
    (member : letter ∈ text.toList) (noName : ¬ NameLetter letter)
    (otherMember : other ∈ text.toList)
    (noAddress : ¬ AddressLetter other) : ¬ BareHost text := by
  rintro (name | address)
  · exact noName (name.2 letter member)
  · exact noAddress (address.addressLetter otherMember)

namespace Client

variable {Authority : Type u} {Extensions : Type v} {Body : Type w}
  [HttpAuthority Authority]

/-! ## What is expected of the name -/

/-- The server name is a bare host, and a Host header that is set from the URI
does not change it. -/
structure ServerNameBare (request : Request Authority Extensions Body) :
    Prop where
  bare : ∀ name, getTlsDomain request = some name → BareHost name
  stable :
    request.headers.getAll .host = [] →
      ∃ withHost,
        setHostHeader request = .ok withHost ∧
          getTlsDomain withHost = getTlsDomain request

/-- A Host header that is read consists of a bare host.  If none is read, the
host of the URI is not in brackets, and if there is none, the port of the URI is
the default one or absent. -/
structure WritesBareHost (request : Request Authority Extensions Body) :
    Prop where
  header : ∀ text, writtenHost request = some text → BareHost text
  uri :
    writtenHost request = none →
      ∀ host, request.uri.host = some host → RegisteredName host.toList
  port :
    request.headers.getAll .host = [] →
      ∀ port, request.uri.port = some port → port = defaultPort request.uri

private theorem hostText_eq_host_iff {uri : Uri Authority}
    {authority : Authority} :
    hostText uri authority = HttpAuthority.host authority ↔
      ∀ port, HttpAuthority.port authority = some port →
        port = defaultPort uri := by
  unfold hostText
  rcases HttpAuthority.port authority with _ | port
  · simp
  · by_cases same : port = defaultPort uri
    · simp [same]
    · have longer :
          HttpAuthority.host authority ++ ":" ++ displayU16 port ≠
            HttpAuthority.host authority := by
        intro equal
        have lengths := congrArg String.length equal
        rw [String.length_append, String.length_append] at lengths
        have colon : ":".length = 1 := rfl
        omega
      simp [same, longer]

section Request

variable [LawfulAuthority Authority]
  {request : Request Authority Extensions Body} {authority : Authority}

omit [HttpAuthority Authority] [LawfulAuthority Authority] in
private theorem writtenHost_of_absent
    (absent : request.headers.getAll .host = []) :
    writtenHost request = none := by
  rw [writtenHost, HeaderMap.get, absent]
  rfl

/-- The server name after the Host header was set. -/
theorem getTlsDomain_setHostHeader
    (absent : request.headers.getAll .host = [])
    (hasAuthority : request.uri.authority = some authority) :
    ∃ withHost,
      setHostHeader request = .ok withHost ∧
        getTlsDomain withHost =
          if WritesTlsScheme request.uri then
            some (hostText request.uri authority)
          else none := by
  obtain ⟨value, text, hostSet⟩ := setHostHeader_of_absent absent hasAuthority
  refine ⟨_, hostSet, ?_⟩
  have written :
      (request.headers.append .host value).get .host = some value := by
    rw [HeaderMap.get, HeaderMap.getAll_append_self, absent]
    rfl
  rw [getTlsDomain_eq, getHost]
  simp only [written, Option.bind_some, text, Option.some_or]

omit [LawfulAuthority Authority] in
theorem getTlsDomain_of_absent
    (absent : request.headers.getAll .host = [])
    (writes : WritesTlsScheme request.uri)
    (hasAuthority : request.uri.authority = some authority) :
    getTlsDomain request = some (HttpAuthority.host authority) := by
  have noHeader := writtenHost_of_absent absent
  rw [writtenHost] at noHeader
  rw [getTlsDomain_eq, if_pos writes, getHost, noHeader, Option.none_or,
    Uri.host, hasAuthority, Option.map_some]

private theorem stable_iff (writes : WritesTlsScheme request.uri)
    (absent : request.headers.getAll .host = [])
    (hasAuthority : request.uri.authority = some authority) :
    (∃ withHost,
        setHostHeader request = .ok withHost ∧
          getTlsDomain withHost = getTlsDomain request) ↔
      ∀ port, request.uri.port = some port →
        port = defaultPort request.uri := by
  obtain ⟨withHost, hostSet, name⟩ :=
    getTlsDomain_setHostHeader absent hasAuthority
  rw [if_pos writes] at name
  have before := getTlsDomain_of_absent absent writes hasAuthority
  have port : request.uri.port = HttpAuthority.port authority := by
    rw [Uri.port, hasAuthority, Option.bind_some]
  rw [port, ← hostText_eq_host_iff]
  constructor
  · rintro ⟨other, otherSet, unchanged⟩
    cases hostSet.symm.trans otherSet
    rw [name, before] at unchanged
    exact Option.some.inj unchanged
  · intro same
    refine ⟨withHost, hostSet, ?_⟩
    rw [name, before, same]

private theorem bare_iff (writes : WritesTlsScheme request.uri)
    (hasAuthority : request.uri.authority = some authority) :
    (∀ name, getTlsDomain request = some name → BareHost name) ↔
      (∀ text, writtenHost request = some text → BareHost text) ∧
        (writtenHost request = none →
          ∀ host, request.uri.host = some host →
            RegisteredName host.toList) := by
  have host : request.uri.host = some (HttpAuthority.host authority) := by
    rw [Uri.host, hasAuthority, Option.map_some]
  have shape := LawfulAuthority.host_shape authority
  have name :
      getTlsDomain request =
        (writtenHost request).or (some (HttpAuthority.host authority)) := by
    rw [getTlsDomain_eq, if_pos writes, getHost, host]
    rfl
  rw [name, host]
  rcases writtenHost request with _ | text
  · simp [bareHost_iff_of_shape shape]
  · simp

end Request

/-! ## Main result -/

/-- The server name is a bare host and stays the same under `setHostHeader`
exactly if the request either does not use TLS or writes a bare host. -/
theorem serverNameBare_iff [LawfulAuthority Authority]
    (request : Request Authority Extensions Body) :
    ServerNameBare request ↔
      (WritesTlsScheme request.uri → WritesBareHost request) := by
  by_cases writes : WritesTlsScheme request.uri
  · obtain ⟨scheme, hasScheme⟩ := writes.exists_scheme
    obtain ⟨authority, _, hasAuthority, _⟩ := Uri.absolute_parts hasScheme
    have bare := bare_iff writes hasAuthority
    constructor
    · intro named _
      exact
        { header := (bare.mp named.bare).1
          uri := (bare.mp named.bare).2
          port := fun absent =>
            (stable_iff writes absent hasAuthority).mp (named.stable absent) }
    · intro written
      obtain ⟨header, uri, port⟩ := written writes
      exact
        { bare := bare.mpr ⟨header, uri⟩
          stable := fun absent =>
            (stable_iff writes absent hasAuthority).mpr (port absent) }
  · have noName : getTlsDomain request = none := by
      rw [getTlsDomain_eq, if_neg writes]
    refine ⟨fun _ isTls => (writes isTls).elim, fun _ => ⟨?_, ?_⟩⟩
    · rw [noName]
      exact fun name isSome => nomatch isSome
    · intro absent
      rcases hasAuthority : request.uri.authority with _ | authority
      · refine ⟨request, ?_, rfl⟩
        have noHost : request.uri.host = none := by
          rw [Uri.host, hasAuthority, Option.map_none]
        rw [setHostHeader, noHost]
      · obtain ⟨withHost, hostSet, name⟩ :=
          getTlsDomain_setHostHeader absent hasAuthority
        rw [if_neg writes] at name
        exact ⟨withHost, hostSet, name.trans noName.symm⟩

def secureRequest (authority : TextAuthority) (headers : HeaderMap) :
    Request TextAuthority Unit Unit :=
  { Request.get (.absolute .https authority ⟨"/"⟩) () () with headers }

theorem serverNameBare_example :
    ServerNameBare (secureRequest ⟨"example.com:443", by decide⟩ ⟨[]⟩) := by
  refine (serverNameBare_iff _).mpr fun _ => ?_
  exact
    { header := fun text written => nomatch written
      uri := by
        intro _ host isHost
        cases isHost
        decide
      port := by
        intro _ port isPort
        cases isPort
        decide }

/-- A port in the Host header and the brackets of an IPv6 address both become
part of the server name, and so does a port of the URI once the Host header is
set. -/
theorem serverName_not_bare :
    (¬ ServerNameBare
        (secureRequest ⟨"example.com", by decide⟩
          ⟨[(.host, .fromStatic "example.com:8443")]⟩)) ∧
    (¬ ServerNameBare (secureRequest ⟨"[::1]", by decide⟩ ⟨[]⟩)) ∧
    ¬ ServerNameBare
        (secureRequest ⟨"example.com:8443", by decide⟩ ⟨[]⟩) := by
  refine ⟨?_, ?_, ?_⟩
  · intro named
    have bare := named.bare "example.com:8443" (by decide)
    exact
      not_bareHost_of_mem ':' 'x' (by decide) (by decide) (by decide)
        (by decide) bare
  · intro named
    have bare := named.bare "[::1]" (by decide)
    exact
      not_bareHost_of_mem ':' '[' (by decide) (by decide) (by decide)
        (by decide) bare
  · intro named
    obtain ⟨withHost, hostSet, unchanged⟩ := named.stable rfl
    have changed :
        (setHostHeader
            (secureRequest ⟨"example.com:8443", by decide⟩ ⟨[]⟩)).map
          getTlsDomain = .ok (some "example.com:8443") := by
      decide
    rw [hostSet] at changed
    have name : getTlsDomain withHost = some "example.com:8443" :=
      Except.ok.inj changed
    rw [name] at unchanged
    exact absurd unchanged (by decide)

end Client

end Hyperdriver
