import Hyperdriver.Http.Uri

/-!
# Requests as the `http` crate presents them

Methods, versions, header maps, typed extensions, and the request that carries
them.  A header map is a multimap: its entries are kept as a list, and what the
program observes of it are the values under a name, in order.
-/

namespace Hyperdriver

open Foundation

universe u v w x

/-! ## Methods and versions -/

inductive Method where
  | options
  | get
  | post
  | put
  | delete
  | head
  | trace
  | connect
  | patch
  | extension (token : String)
  deriving DecidableEq, Repr

inductive Version where
  | http09
  | http10
  | http11
  | http2
  | http3
  deriving DecidableEq, Repr

def Version.rank : Version → Nat
  | .http09 => 0
  | .http10 => 1
  | .http11 => 2
  | .http2 => 3
  | .http3 => 4

instance : LT Version where
  lt left right := left.rank < right.rank

instance (left right : Version) : Decidable (left < right) :=
  inferInstanceAs (Decidable (left.rank < right.rank))

/-! ## Headers -/

/-- A header name in its normal form, which is lower case. -/
structure HeaderName where
  name : String
  deriving DecidableEq, Repr

namespace HeaderName

def host : HeaderName := ⟨"host"⟩

def connection : HeaderName := ⟨"connection"⟩

def transferEncoding : HeaderName := ⟨"transfer-encoding"⟩

def upgrade : HeaderName := ⟨"upgrade"⟩

end HeaderName

/-- A header value: bytes, which need not be text. -/
structure HeaderValue where
  bytes : List UInt8
  deriving DecidableEq, Repr

namespace HeaderValue

def toChar (byte : UInt8) : Char :=
  Char.ofNat byte.toNat

/-- `HeaderValue::from_static`, for a text of visible ASCII characters. -/
def fromStatic (text : String) : HeaderValue :=
  ⟨text.toList.map fun letter => letter.toNat.toUInt8⟩

/-- The bytes of a text, in UTF-8. -/
def utf8 (text : String) : List UInt8 :=
  text.toList.flatMap String.utf8EncodeChar

/-- A byte that a header value may have: no control character but the tab, and
any byte that is no ASCII character. -/
def IsValid (byte : UInt8) : Prop :=
  32 ≤ byte.toNat ∧ byte.toNat ≠ 127 ∨ byte.toNat = 9

instance (byte : UInt8) : Decidable (IsValid byte) :=
  inferInstanceAs (Decidable (_ ∨ _))

def AllValid (bytes : List UInt8) : Prop :=
  ∀ byte, byte ∈ bytes → IsValid byte

instance (bytes : List UInt8) : Decidable (AllValid bytes) :=
  List.decidableBAll IsValid bytes

/-- `HeaderValue::from_str`: fails on a control character. -/
def fromStr (text : String) : Option HeaderValue :=
  if AllValid (utf8 text) then
    some ⟨utf8 text⟩
  else
    none

/-- `HeaderValue::to_str`: fails on a byte that is no visible ASCII
character. -/
def toStr (value : HeaderValue) : Option String :=
  if AllVisible (value.bytes.map toChar) then
    some (String.ofList (value.bytes.map toChar))
  else
    none

private theorem toNat_lt_of_visible {letter : Char}
    (visible : VisibleAscii letter) : letter.toNat < 127 := by
  rcases visible with range | rfl
  · exact range.2
  · decide

private theorem toNat_toUInt8 {letter : Char} (visible : VisibleAscii letter) :
    letter.toNat.toUInt8.toNat = letter.toNat := by
  have small := toNat_lt_of_visible visible
  rw [Nat.toUInt8, UInt8.toNat_ofNat', Nat.mod_eq_of_lt (by omega)]

private theorem toChar_toUInt8 {letter : Char} (visible : VisibleAscii letter) :
    toChar letter.toNat.toUInt8 = letter := by
  rw [toChar, toNat_toUInt8 visible, Char.ofNat_toNat]

private theorem isValid_of_visible {letter : Char}
    (visible : VisibleAscii letter) :
    IsValid letter.toNat.toUInt8 := by
  rw [IsValid, toNat_toUInt8 visible]
  rcases visible with range | rfl
  · omega
  · exact Or.inr rfl

/-- Of visible ASCII characters, the bytes are those of a static text. -/
theorem utf8_of_visible {text : String} (visible : AllVisible text.toList) :
    utf8 text = (fromStatic text).bytes := by
  have bytes :
      ∀ letter, letter ∈ text.toList →
        String.utf8EncodeChar letter = [letter.toNat.toUInt8] := by
    intro letter member
    have small := toNat_lt_of_visible (visible letter member)
    have single : letter.utf8Size = 1 := by
      rw [Char.utf8Size_eq_one_iff]
      exact UInt32.le_iff_toNat_le.mpr (Nat.le_of_lt small)
    exact String.utf8EncodeChar_eq_singleton single
  rw [utf8, fromStatic, List.flatMap_congr bytes, List.map_eq_flatMap]

theorem toStr_fromStatic {text : String}
    (visible : AllVisible text.toList) :
    (fromStatic text).toStr = some text := by
  have restored :
      (text.toList.map fun letter => letter.toNat.toUInt8).map toChar =
        text.toList := by
    rw [List.map_map]
    conv_rhs => rw [← List.map_id text.toList]
    exact List.map_congr_left fun letter member =>
      toChar_toUInt8 (visible letter member)
  rw [toStr, fromStatic, restored, if_pos visible, String.ofList_toList]

/-- A text of visible ASCII characters makes a header value, which is read as
that text again. -/
theorem fromStr_of_visible {text : String}
    (visible : AllVisible text.toList) :
    fromStr text = some (fromStatic text) := by
  have isBytes := utf8_of_visible visible
  have valid : AllValid (utf8 text) := by
    intro byte member
    rw [isBytes] at member
    obtain ⟨letter, inText, rfl⟩ := List.mem_map.mp member
    exact isValid_of_visible (visible letter inText)
  rw [fromStr, if_pos valid, isBytes]

/-- A text that is no ASCII text is accepted, but not read as text. -/
example :
    fromStr "café" = some ⟨[99, 97, 102, 195, 169]⟩ ∧
      toStr ⟨[99, 97, 102, 195, 169]⟩ = none := by
  decide

end HeaderValue

structure HeaderMap where
  entries : List (HeaderName × HeaderValue)
  deriving DecidableEq, Repr

namespace HeaderMap

/-- All values under a name, in order. -/
def getAll (headers : HeaderMap) (name : HeaderName) : List HeaderValue :=
  (headers.entries.filter fun entry => entry.1 = name).map Prod.snd

def get (headers : HeaderMap) (name : HeaderName) : Option HeaderValue :=
  (headers.getAll name).head?

def remove (headers : HeaderMap) (name : HeaderName) : HeaderMap :=
  ⟨headers.entries.filter fun entry => entry.1 ≠ name⟩

def append (headers : HeaderMap) (name : HeaderName) (value : HeaderValue) :
    HeaderMap :=
  ⟨headers.entries ++ [(name, value)]⟩

@[simp]
theorem getAll_remove_self (headers : HeaderMap) (name : HeaderName) :
    (headers.remove name).getAll name = [] := by
  simp [getAll, remove, List.filter_filter]

theorem getAll_remove_of_ne (headers : HeaderMap) {name other : HeaderName}
    (different : other ≠ name) :
    (headers.remove name).getAll other = headers.getAll other := by
  rw [getAll, remove, List.filter_filter, getAll]
  congr 1
  apply List.filter_congr
  intro entry _
  by_cases same : entry.1 = other
  · simp [same, different]
  · simp [same]

@[simp]
theorem getAll_append_self (headers : HeaderMap) (name : HeaderName)
    (value : HeaderValue) :
    (headers.append name value).getAll name =
      headers.getAll name ++ [value] := by
  simp [getAll, append]

theorem getAll_append_of_ne (headers : HeaderMap) {name other : HeaderName}
    (value : HeaderValue) (different : other ≠ name) :
    (headers.append name value).getAll other = headers.getAll other := by
  simp [getAll, append, different.symm]

def removeAll (headers : HeaderMap) (names : List HeaderName) : HeaderMap :=
  names.foldl remove headers

theorem getAll_removeAll (headers : HeaderMap) (names : List HeaderName)
    (name : HeaderName) :
    (headers.removeAll names).getAll name =
      if name ∈ names then [] else headers.getAll name := by
  induction names generalizing headers with
  | nil =>
      simp [removeAll]
  | cons first rest inductionHypothesis =>
      change ((headers.remove first).removeAll rest).getAll name = _
      rw [inductionHypothesis]
      by_cases same : name = first
      · subst same
        simp
      · simp [same, getAll_remove_of_ne headers same]

end HeaderMap

/-! ## Extensions and requests -/

/-- The slot of one type in a typed map of extensions. -/
class ExtensionSlot (Extensions : Type u) (Value : Type v) where
  get : Extensions → Option Value
  insert : Extensions → Value → Extensions
  get_insert :
    ∀ (extensions : Extensions) (value : Value),
      get (insert extensions value) = some value

/-- A map of extensions with the one slot. -/
instance {Value : Type u} : ExtensionSlot (Option Value) Value where
  get := id
  insert _ value := some value
  get_insert _ _ := rfl

/-- What is known of a TLS connection: the name the client gave, whether a host
has been compared with it, and the protocol that was negotiated. -/
structure TlsConnectionInfo where
  serverName : Option String
  validatedServerName : Bool
  alpn : Option String
  deriving DecidableEq, Repr

/-- `TlsConnectionInfo::validated`. -/
def TlsConnectionInfo.validated (tls : TlsConnectionInfo) :
    TlsConnectionInfo :=
  { tls with validatedServerName := true }

structure Request (Authority : Type u) (Extensions : Type v)
    (Body : Type w) where
  method : Method
  uri : Uri Authority
  version : Version
  headers : HeaderMap
  extensions : Extensions
  body : Body

/-- `http::Request::get`: a request of the default version without headers. -/
def Request.get {Authority : Type u} {Extensions : Type v} {Body : Type w}
    (uri : Uri Authority) (extensions : Extensions) (body : Body) :
    Request Authority Extensions Body where
  method := .get
  uri := uri
  version := .http11
  headers := ⟨[]⟩
  extensions := extensions
  body := body

/-- `http::Request::map`. -/
def Request.map {Authority : Type u} {Extensions : Type v} {Body : Type w}
    {Converted : Type x} (convert : Body → Converted)
    (request : Request Authority Extensions Body) :
    Request Authority Extensions Converted where
  method := request.method
  uri := request.uri
  version := request.version
  headers := request.headers
  extensions := request.extensions
  body := convert request.body

end Hyperdriver
