import Hyperdriver.Service.Checks

/-!
# Headers nominated by the Connection header

A Connection header lists the names of other headers that concern the connection
only.  The check for HTTP/2 does not read the list: it removes a fixed set of
headers, and the Connection header with them.
-/

namespace Hyperdriver

universe u v w

namespace Service

variable {Authority : Type u} {Extensions : Type v} {Body : Type w}

/-! ## The options of a Connection header -/

def OptionalWhitespace (letter : Char) : Bool :=
  letter = ' ' ∨ letter = '\t'

/-- One option of the list: a name in any case, with whitespace around it. -/
def connectionOption (text : List Char) : HeaderName :=
  ⟨String.ofList
    (((text.dropWhile OptionalWhitespace).rdropWhile
      OptionalWhitespace).map Char.toLower)⟩

def connectionOptions (value : HeaderValue) : List HeaderName :=
  ((value.bytes.map HeaderValue.toChar).splitOn ',').map connectionOption

/-- Some Connection header lists the name. -/
def Nominated (headers : HeaderMap) (name : HeaderName) : Prop :=
  ∃ value, value ∈ headers.getAll .connection ∧
    name ∈ connectionOptions value

private theorem nominated_iff_mem {headers : HeaderMap} {name : HeaderName} :
    Nominated headers name ↔
      name ∈ (headers.getAll .connection).flatMap connectionOptions :=
  List.mem_flatMap.symm

instance (headers : HeaderMap) (name : HeaderName) :
    Decidable (Nominated headers name) :=
  decidable_of_iff' _ nominated_iff_mem

example :
    connectionOptions (.fromStatic "Keep-Alive ,\tX-Secret") =
      [⟨"keep-alive"⟩, ⟨"x-secret"⟩] := by
  decide

/-! ## What is forwarded on HTTP/2 -/

variable {Conn : Type*} [HttpConnectionInfo Conn] {Error : Type*}

/-- What becomes of the headers of a request, and of those nominated among
them. -/
structure ForwardedHeaders (original forwarded : HeaderMap) : Prop where
  /-- The list of options is gone. -/
  connection : ∀ name, ¬ Nominated forwarded name
  removed :
    ∀ name, Nominated original name →
      name = .host ∨ name ∈ connectionHeaders →
        forwarded.getAll name = []
  kept :
    ∀ name, Nominated original name →
      name ≠ .host → name ∉ connectionHeaders →
        forwarded.getAll name = original.getAll name
  /-- Nothing nominated remains just in case all of it is in the fixed set. -/
  complete :
    (∀ name, Nominated original name → forwarded.getAll name = []) ↔
      ∀ name, Nominated original name → original.getAll name ≠ [] →
        name = .host ∨ name ∈ connectionHeaders

private theorem forwardedHeaders_of_getAll {original forwarded : HeaderMap}
    (getAll :
      ∀ name,
        forwarded.getAll name =
          if name = .host ∨ name ∈ connectionHeaders then []
          else original.getAll name) :
    ForwardedHeaders original forwarded where
  connection := by
    rintro name ⟨value, member, _⟩
    have noConnection : forwarded.getAll .connection = [] := by
      rw [getAll, if_pos (Or.inr (by decide))]
    rw [noConnection] at member
    cases member
  removed name _ fixed := by
    rw [getAll, if_pos fixed]
  kept name _ notHost notFixed := by
    rw [getAll, if_neg (not_or.mpr ⟨notHost, notFixed⟩)]
  complete := by
    constructor
    · intro none name nominated present
      by_contra other
      have gone := none name nominated
      rw [getAll, if_neg other] at gone
      exact present gone
    · intro fixed name nominated
      rw [getAll]
      split
      · rfl
      · rename_i other
        by_contra present
        exact other (fixed name nominated present)

/-- Of the nominated headers, those in the fixed set are removed and the others
are forwarded as they are. -/
theorem checkHttp2Request_nominated {conn : Conn}
    (isHttp2 : HttpConnectionInfo.version conn = .http2)
    {request : Request Authority Extensions Body}
    {forwarded : Conn × Request Authority Extensions Body}
    (accepted :
      (checkHttp2Request (conn, request) :
        Except (HttpRequestError Error) _) = .ok forwarded) :
    ForwardedHeaders request.headers forwarded.2.headers := by
  rw [checkHttp2Request, if_pos isHttp2] at accepted
  split at accepted
  · cases accepted
  · cases accepted
    exact forwardedHeaders_of_getAll (getAll_checkedHeaders request.headers)

def nominatingRequest (options : String) (headers : HeaderMap) :
    Request Unit Unit Unit :=
  { Request.get (.absolute .https () ⟨"/"⟩) () () with
    headers := headers.append .connection (.fromStatic options) }

def keepAliveNominated : Request Unit Unit Unit :=
  nominatingRequest "Keep-Alive" ⟨[(⟨"keep-alive"⟩, .fromStatic "timeout=5")]⟩

theorem checkHttp2Request_nominated_keepAlive :
    ∃ forwarded,
      (checkHttp2Request (HttpProtocol.http2, keepAliveNominated) :
        Except (HttpRequestError Empty) _) = .ok forwarded ∧
      ∀ name,
        Nominated keepAliveNominated.headers name →
          forwarded.2.headers.getAll name = [] := by
  have accepted :
      ∃ forwarded,
        (checkHttp2Request (HttpProtocol.http2, keepAliveNominated) :
          Except (HttpRequestError Empty) _) = .ok forwarded :=
    ⟨_, rfl⟩
  obtain ⟨forwarded, isForwarded⟩ := accepted
  refine ⟨forwarded, isForwarded, ?_⟩
  refine (checkHttp2Request_nominated rfl isForwarded).complete.mpr ?_
  intro name nominated _
  rw [nominated_iff_mem] at nominated
  have listed : name ∈ [(⟨"keep-alive"⟩ : HeaderName)] := nominated
  rw [List.mem_singleton.mp listed]
  exact Or.inr (by decide)

/-- A nominated header outside of the fixed set is forwarded. -/
theorem nominated_header_forwarded :
    ∃ (request : Request Unit Unit Unit)
      (forwarded : HttpProtocol × Request Unit Unit Unit)
      (name : HeaderName),
      (checkHttp2Request (HttpProtocol.http2, request) :
        Except (HttpRequestError Empty) _) = .ok forwarded ∧
        Nominated request.headers name ∧
          forwarded.2.headers.getAll name ≠ [] := by
  refine
    ⟨nominatingRequest "X-Secret" ⟨[(⟨"x-secret"⟩, .fromStatic "1")]⟩, _,
      ⟨"x-secret"⟩, rfl, ?_, ?_⟩
  · decide
  · decide

end Service

end Hyperdriver
