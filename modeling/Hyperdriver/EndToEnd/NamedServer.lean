import Hyperdriver.Client.Dispatch
import Hyperdriver.Client.ServerName
import Hyperdriver.Server.ValidatedRequests

/-!
# Requests of the client at a server that validates names

The client names the server when it opens a connection with TLS, by the host of
the URI of the request it opens it for.  The pool hands the connection to other
requests, the stack brings them into the form of the protocol, and the server
compares what it reads of each with the name it was told.

Requests without a Host header of their own pass exactly if their URI spells the
host as the handshake does.
-/

namespace Hyperdriver

open Foundation Service Client Server

universe u v w

namespace EndToEnd

/-! ## Names in the handshake -/

def withoutLastDot (text : List Char) : List Char :=
  if text.getLast? = some '.' then text.dropLast else text

/-- How the handshake spells a name: in lower case, and without the dot at the
end of a fully qualified one. -/
def sniSpelling (name : String) : String :=
  String.ofList (withoutLastDot (asciiLower name))

private theorem sniSpelling_congr {left right : String}
    (same : EqIgnoreAsciiCase left right) :
    sniSpelling left = sniSpelling right := by
  have lower : asciiLower left = asciiLower right := same
  rw [sniSpelling, sniSpelling, lower]

/-- What the TLS libraries tell the server of the name that the client expects.
Nothing is told of an address. -/
def TellsNames (indicate : String → Option String) : Prop :=
  ∀ name told, indicate name = some told →
    told = sniSpelling name ∧ told ≠ ""

/-- What the server knows of a connection to the name. -/
def handshakeInfo (indicate : String → Option String) (name : String) :
    TlsConnectionInfo where
  serverName := indicate name
  validatedServerName := false
  alpn := none

/-- What the documentation of the `http` crate promises about hosts that are
read as authorities. -/
class ReadableAuthority (Authority : Type u) [HttpAuthority Authority] :
    Prop where
  reads_host :
    ∀ authority : Authority, HttpAuthority.host authority ≠ "" →
      ∃ read : Authority,
        HttpAuthority.parse (HttpAuthority.host authority) = some read ∧
          HttpAuthority.host read = HttpAuthority.host authority
  reads_port :
    ∀ (authority : Authority) (port : UInt16),
      HttpAuthority.host authority ≠ "" →
        ∃ read : Authority,
          HttpAuthority.parse
              (HttpAuthority.host authority ++ ":" ++ displayU16 port) =
            some read ∧
            HttpAuthority.host read = HttpAuthority.host authority
  reads_sniSpelling :
    ∀ authority : Authority,
      sniSpelling (HttpAuthority.host authority) ≠ "" →
        ∃ read : Authority,
          HttpAuthority.parse
              (sniSpelling (HttpAuthority.host authority)) = some read ∧
            HttpAuthority.host read =
              sniSpelling (HttpAuthority.host authority)

section Exchange

variable {Authority : Type u} {Extensions : Type v} {Body : Type w}
  [HttpAuthority Authority] {ServerExtensions ServerBody : Type*}

/-- The request that the server reads from the wire. -/
def receive (wire : Request Authority Extensions Body)
    (extensions : ServerExtensions) (body : ServerBody) :
    Request Authority ServerExtensions ServerBody where
  method := wire.method
  uri := wire.uri
  version := wire.version
  headers := wire.headers
  extensions := extensions
  body := body

section Requests

variable {opener served wire : Request Authority Extensions Body}
  {protocol : HttpProtocol} {authority : Authority}

/-- The connection was opened for the host of the opener's URI. -/
theorem exists_authority_of_openedFor {domain : String}
    (opened : openedFor opener = some domain)
    (noHost : opener.headers.getAll .host = []) :
    ∃ authority, opener.uri.authority = some authority ∧
      domain = HttpAuthority.host authority := by
  rw [openedFor_eq] at opened
  have writes : WritesTlsScheme opener.uri := by
    by_contra notWrites
    rw [getTlsDomain_eq, if_neg notWrites] at opened
    cases opened
  obtain ⟨scheme, hasScheme⟩ := writes.exists_scheme
  obtain ⟨authority, _, hasAuthority, _⟩ := Uri.absolute_parts hasScheme
  refine ⟨authority, hasAuthority, ?_⟩
  rw [getTlsDomain_of_absent noHost writes hasAuthority] at opened
  exact (Option.some.inj opened).symm

variable [ReadableAuthority Authority]

private theorem reads_hostText (uri : Uri Authority)
    (notEmpty : HttpAuthority.host authority ≠ "") :
    ∃ read : Authority,
      HttpAuthority.parse (hostText uri authority) = some read ∧
        HttpAuthority.host read = HttpAuthority.host authority := by
  unfold hostText
  rcases HttpAuthority.port authority with _ | port
  · exact ReadableAuthority.reads_host authority notEmpty
  · by_cases isDefault : port = defaultPort uri
    · simp only [isDefault, if_true]
      exact ReadableAuthority.reads_host authority notEmpty
    · simp only [isDefault, if_false]
      exact ReadableAuthority.reads_port authority port notEmpty

/-- On either protocol, the server reads the host of the URI. -/
theorem requestHost_receive (onWire : OnWire served protocol wire)
    (noHost : served.headers.getAll .host = [])
    (hasAuthority : served.uri.authority = some authority)
    (notEmpty : HttpAuthority.host authority ≠ "")
    (extensions : ServerExtensions) (body : ServerBody) :
    ∃ read : Authority,
      requestHost (receive wire extensions body) = some read ∧
        HttpAuthority.host read = HttpAuthority.host authority := by
  cases onWire with
  | @http1 named formed alsoNamed sent =>
      cases hasAuthority.symm.trans alsoNamed
      obtain ⟨value, isText, isSet⟩ := sent.hostComputed noHost
      obtain ⟨read, isRead, sameHost⟩ :=
        reads_hostText served.uri notEmpty
      refine ⟨read, ?_, sameHost⟩
      have first : formed.headers.get .host = some value := by
        rw [HeaderMap.get, isSet]
        rfl
      have notHttp2 : ¬ Version.http11 = .http2 := by decide
      unfold requestHost receive
      simp only [if_neg notHttp2, first, Option.bind_some, isText, isRead]
  | http2 notConnect sent =>
      refine ⟨authority, ?_, rfl⟩
      unfold requestHost receive
      simp only [sent.version, if_true, sent.uri, hasAuthority]

/-- A connection with this name was told to the server, and the request on the
wire names this host. -/
theorem admitted_receive_iff
    [ExtensionSlot ServerExtensions TlsConnectionInfo]
    {indicate : String → Option String} (tells : TellsNames indicate)
    {opened : Authority} (onWire : OnWire served protocol wire)
    (noHost : served.headers.getAll .host = [])
    (hasAuthority : served.uri.authority = some authority)
    (sameHost :
      EqIgnoreAsciiCase (HttpAuthority.host opened)
        (HttpAuthority.host authority))
    (extensions : ServerExtensions) (body : ServerBody) :
    (admitted
        (withTlsInfo
          (some (handshakeInfo indicate (HttpAuthority.host opened)))
          (receive wire extensions body))).isSome ↔
      (indicate (HttpAuthority.host opened)).isSome ∧
        HttpAuthority.host authority =
          sniSpelling (HttpAuthority.host authority) := by
  rw [admitted_isSome_iff, ForNamedServer, handshakeInfo]
  rcases isTold : indicate (HttpAuthority.host opened) with _ | told
  · refine iff_of_false ?_ ?_
    · rintro ⟨sni, named, _⟩
      cases named
    · rintro ⟨absurd, _⟩
      cases absurd
  · obtain ⟨spelled, notEmpty⟩ := tells _ _ isTold
    subst spelled
    obtain ⟨sni, isSni, sniHost⟩ :=
      ReadableAuthority.reads_sniSpelling opened notEmpty
    have spelling := sniSpelling_congr sameHost
    have hostNotEmpty : HttpAuthority.host authority ≠ "" := by
      intro isEmpty
      rw [spelling, isEmpty] at notEmpty
      exact notEmpty (by decide)
    obtain ⟨read, isRead, readHost⟩ :=
      requestHost_receive onWire noHost hasAuthority hostNotEmpty extensions
        body
    constructor
    · rintro ⟨named, isNamed, agrees⟩
      cases isSni.symm.trans isNamed
      refine ⟨rfl, ?_⟩
      calc
        HttpAuthority.host authority = HttpAuthority.host read :=
          readHost.symm
        _ = HttpAuthority.host sni := agrees read isRead
        _ = sniSpelling (HttpAuthority.host opened) := sniHost
        _ = sniSpelling (HttpAuthority.host authority) := spelling
    · rintro ⟨_, spelledSo⟩
      refine ⟨sni, isSni, ?_⟩
      intro host isHost
      cases isRead.symm.trans isHost
      rw [readHost, sniHost, spelling]
      exact spelledSo

end Requests

/-! ## Main result -/

end Exchange

/-! ## Authorities in text -/

/-- A letter of a host in text. -/
def HostLetter (letter : Char) : Prop :=
  Graphic letter ∧ letter ≠ '@'

private theorem hostLetter_of_mem (authority : TextAuthority) {letter : Char}
    (member : letter ∈ (HttpAuthority.host authority).toList) :
    HostLetter letter := by
  change letter ∈ (String.ofList _).toList at member
  rw [String.toList_ofList] at member
  rcases TextAuthority.mem_splitHostPort member with inText | rfl | rfl
  · have visible :=
      authority.visible letter ((List.rtakeWhile_suffix _ _).subset inText)
    have notAt := List.mem_rtakeWhile_imp inText
    exact ⟨visible, by simpa using notAt⟩
  · exact ⟨by decide, by decide⟩
  · exact ⟨by decide, by decide⟩

/-- A host, and what follows it, is read as an authority with that host. -/
theorem parse_host_append {host rest : List Char} (shape : HostShape host)
    (notEmpty : host ≠ [])
    (hostLetters : ∀ letter, letter ∈ host → HostLetter letter)
    (ends : rest = [] ∨ rest.head? = some ':')
    (restLetters : ∀ letter, letter ∈ rest → HostLetter letter) :
    ∃ read : TextAuthority,
      HttpAuthority.parse (String.ofList (host ++ rest)) = some read ∧
        HttpAuthority.host read = String.ofList host := by
  have letters : ∀ letter, letter ∈ host ++ rest → HostLetter letter := by
    intro letter member
    rcases List.mem_append.mp member with inHost | inRest
    · exact hostLetters letter inHost
    · exact restLetters letter inRest
  have visible : AllGraphic (String.ofList (host ++ rest)).toList := by
    rw [String.toList_ofList]
    exact fun letter member => (letters letter member).1
  have someText : String.ofList (host ++ rest) ≠ "" := by
    intro isEmpty
    have lists := congrArg String.toList isEmpty
    rw [String.toList_ofList] at lists
    exact notEmpty (List.append_eq_nil_iff.mp lists).1
  refine ⟨⟨_, visible⟩, dif_pos ⟨someText, visible⟩, ?_⟩
  have whole :
      (host ++ rest).rtakeWhile (· ≠ '@') = host ++ rest := by
    rw [List.rtakeWhile_eq_self_iff]
    exact fun letter member => by simpa using (letters letter member).2
  change String.ofList
    (splitHostPort
      ((String.ofList (host ++ rest)).toList.rtakeWhile (· ≠ '@'))).1 = _
  rw [String.toList_ofList, whole, splitHostPort_append shape ends]

private theorem hostLetter_of_isDigit {letter : Char}
    (isDigit : letter.isDigit) :
    HostLetter letter := by
  simp only [Char.isDigit, Bool.and_eq_true, decide_eq_true_eq] at isDigit
  have lower : 48 ≤ letter.toNat := isDigit.1
  have upper : letter.toNat ≤ 57 := isDigit.2
  refine ⟨⟨by omega, by omega⟩, ?_⟩
  rintro rfl
  exact absurd upper (by decide)

private theorem hostLetter_toLower {letter : Char}
    (isLetter : HostLetter letter) :
    HostLetter letter.toLower := by
  obtain ⟨⟨graphic, bound⟩, notAt⟩ := isLetter
  refine ⟨?_, fun same => notAt ((toLower_eq_iff (by decide) letter).mp same)⟩
  rw [Graphic, toNat_toLower]
  split
  · omega
  · exact ⟨graphic, bound⟩

private theorem hostShape_lower {host : List Char} (shape : HostShape host) :
    HostShape (host.map Char.toLower) := by
  have mapped : ∀ {letter : Char}, Caseless letter →
      ∀ {text : List Char}, letter ∉ text →
        letter ∉ text.map Char.toLower := by
    intro letter caseless text notIn member
    obtain ⟨other, inText, lowered⟩ := List.mem_map.mp member
    exact notIn ((toLower_eq_iff caseless other).mp lowered ▸ inText)
  rcases shape with ⟨inner, rfl, noClosing⟩ | ⟨noBracket, noColon⟩
  · refine Or.inl ⟨inner.map Char.toLower, ?_, mapped (by decide) noClosing⟩
    rw [List.map_cons, List.map_append]
    rfl
  · refine Or.inr ⟨?_, mapped (by decide) noColon⟩
    rcases host with _ | ⟨first, rest⟩
    · exact noBracket
    · intro bracket
      have lowered : first.toLower = '[' := Option.some.inj bracket
      exact noBracket
        (congrArg some ((toLower_eq_iff (by decide) first).mp lowered))

private theorem hostShape_withoutLastDot {host : List Char}
    (shape : HostShape host) : HostShape (withoutLastDot host) := by
  unfold withoutLastDot
  split
  · rename_i dotted
    rcases shape with ⟨inner, rfl, noClosing⟩ | ⟨noBracket, noColon⟩
    · rw [← List.cons_append, List.getLast?_concat] at dotted
      cases dotted
    · have kept := (List.dropLast_sublist host).subset
      refine Or.inr ⟨?_, fun member => noColon (kept member)⟩
      rcases host with _ | ⟨first, _ | ⟨second, rest⟩⟩
      · exact noBracket
      · exact nofun
      · exact noBracket
  · exact shape

private theorem mem_of_mem_withoutLastDot {text : List Char} {letter : Char}
    (member : letter ∈ withoutLastDot text) : letter ∈ text := by
  unfold withoutLastDot at member
  split at member
  · exact (List.dropLast_sublist text).subset member
  · exact member

private theorem toList_ne_nil {text : String} (notEmpty : text ≠ "") :
    text.toList ≠ [] := by
  intro isNil
  exact notEmpty (String.toList_inj.mp isNil)

instance : ReadableAuthority TextAuthority where
  reads_host authority notEmpty := by
    have reads :=
      parse_host_append (LawfulAuthority.host_shape authority)
        (toList_ne_nil notEmpty) (fun _ => hostLetter_of_mem authority)
        (Or.inl rfl) nofun
    simpa only [List.append_nil, String.ofList_toList] using reads
  reads_port authority port notEmpty := by
    have portLetters :
        ∀ letter, letter ∈ ':' :: (displayU16 port).toList →
          HostLetter letter := by
      intro letter member
      rcases List.mem_cons.mp member with rfl | digit
      · exact ⟨by decide, by decide⟩
      · exact hostLetter_of_isDigit (isDigit_of_mem_displayU16 digit)
    have reads :=
      parse_host_append (LawfulAuthority.host_shape authority)
        (toList_ne_nil notEmpty) (fun _ => hostLetter_of_mem authority)
        (Or.inr rfl) portLetters
    have text :
        HttpAuthority.host authority ++ ":" ++ displayU16 port =
          String.ofList
            ((HttpAuthority.host authority).toList ++
              ':' :: (displayU16 port).toList) := by
      apply String.toList_inj.mp
      rw [String.toList_ofList, String.append_assoc, String.toList_append,
        String.toList_append]
      rfl
    rw [text]
    simpa only [String.ofList_toList] using reads
  reads_sniSpelling authority notEmpty := by
    have letters :
        ∀ letter,
          letter ∈
              withoutLastDot (asciiLower (HttpAuthority.host authority)) →
            HostLetter letter := by
      intro letter member
      obtain ⟨other, inHost, rfl⟩ :=
        List.mem_map.mp (mem_of_mem_withoutLastDot member)
      exact hostLetter_toLower (hostLetter_of_mem authority inHost)
    have shape :=
      hostShape_withoutLastDot
        (hostShape_lower (LawfulAuthority.host_shape authority))
    have someText := toList_ne_nil notEmpty
    rw [sniSpelling, String.toList_ofList] at someText
    have reads :=
      parse_host_append shape someText letters (Or.inl rfl) nofun
    rwa [List.append_nil] at reads

/-! ## A request on a port of its own -/

def getFromApi : Request TextAuthority Unit Unit :=
  Request.get (.absolute .https ⟨"api.example.com:8443", by decide⟩ ⟨"/"⟩)
    () ()

/-- The connection is opened for another path, with the host in capitals. -/
def headOfLogin : Request TextAuthority Unit Unit :=
  { Request.get
      (.absolute .https ⟨"API.example.com:8443", by decide⟩ ⟨"/login"⟩)
      () () with
    method := .head }

def tellApi (name : String) : Option String :=
  if sniSpelling name = "api.example.com" then some "api.example.com"
  else none

private theorem tellApi_tells : TellsNames tellApi := by
  intro name told isTold
  unfold tellApi at isTold
  split at isTold
  · rename_i isApi
    cases isTold
    exact ⟨isApi.symm, by decide⟩
  · cases isTold

end EndToEnd

end Hyperdriver
