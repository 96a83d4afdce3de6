import Hyperdriver.Foundation.AsciiCase
import Mathlib.Data.List.DropRight

/-!
# URIs as the `http` crate presents them

A URI is a scheme, an authority and a path with a query, each of which may be
absent in the combinations that `Uri::from_parts` accepts.

The authority is a parameter: `HttpAuthority` lists what the program reads of
it, and `LawfulAuthority` what the documentation of the `http` crate promises
about that.  `TextAuthority` reads the text of an authority directly.
-/

namespace Hyperdriver

open Foundation

universe u

/-! ## Schemes -/

/-- A scheme with its spelling, unless it is one of the two standard ones. -/
inductive Scheme where
  | http
  | https
  | other (name : { name : String // name ≠ "http" ∧ name ≠ "https" })
  deriving DecidableEq, Repr

namespace Scheme

def asStr : Scheme → String
  | .http => "http"
  | .https => "https"
  | .other name => name.val

/-- `Scheme::eq`: the other schemes are compared without regard to ASCII
case. -/
def Same : Scheme → Scheme → Prop
  | .http, .http => True
  | .https, .https => True
  | .other left, .other right => EqIgnoreAsciiCase left.val right.val
  | _, _ => False

instance : (left right : Scheme) → Decidable (left.Same right)
  | .http, .http => .isTrue trivial
  | .https, .https => .isTrue trivial
  | .other left, .other right =>
      inferInstanceAs (Decidable (EqIgnoreAsciiCase left.val right.val))
  | .http, .https => .isFalse id
  | .http, .other _ => .isFalse id
  | .https, .http => .isFalse id
  | .https, .other _ => .isFalse id
  | .other _, .http => .isFalse id
  | .other _, .https => .isFalse id

theorem Same.symm {left right : Scheme} (same : left.Same right) :
    right.Same left := by
  cases left with
  | other leftName =>
      cases right with
      | other rightName => exact EqIgnoreAsciiCase.symm same
      | _ => exact same
  | _ => cases right <;> exact same

theorem asStr_eq_http_iff (scheme : Scheme) :
    scheme.asStr = "http" ↔ scheme = .http := by
  cases scheme with
  | http => simp [asStr]
  | https => simp [asStr]
  | other name => simp [asStr, name.property.1]

theorem asStr_eq_https_iff (scheme : Scheme) :
    scheme.asStr = "https" ↔ scheme = .https := by
  cases scheme with
  | http => simp [asStr]
  | https => simp [asStr]
  | other name => simp [asStr, name.property.2]

end Scheme

/-! ## Authorities -/

/-- A character a header value may contain in text form. -/
def VisibleAscii (letter : Char) : Prop :=
  (32 ≤ letter.toNat ∧ letter.toNat < 127) ∨ letter = '\t'

instance (letter : Char) : Decidable (VisibleAscii letter) :=
  inferInstanceAs (Decidable (_ ∨ _))

def AllVisible (text : List Char) : Prop :=
  ∀ letter, letter ∈ text → VisibleAscii letter

instance (text : List Char) : Decidable (AllVisible text) :=
  List.decidableBAll VisibleAscii text

def Bracketed (host : List Char) : Prop :=
  ∃ inner : List Char, host = '[' :: (inner ++ [']']) ∧ ']' ∉ inner

/-- A host is an IP literal in brackets, or contains neither a bracket at its
start nor a colon. -/
def HostShape (host : List Char) : Prop :=
  Bracketed host ∨ host.head? ≠ some '[' ∧ ':' ∉ host

/-- What the program reads of `http::uri::Authority`.  `portText` is the text
that the authority writes after the colon of its port, if it has one. -/
class HttpAuthority (Authority : Type u) where
  asStr : Authority → String
  host : Authority → String
  portText : Authority → Option String
  port : Authority → Option UInt16
  parse : String → Option Authority

/-- What the documentation of the `http` crate promises about authorities. -/
class LawfulAuthority (Authority : Type u) [HttpAuthority Authority] :
    Prop where
  /-- The host does not depend on the case of the authority. -/
  host_congr :
    ∀ left right : Authority,
      EqIgnoreAsciiCase (HttpAuthority.asStr left)
          (HttpAuthority.asStr right) →
        EqIgnoreAsciiCase (HttpAuthority.host left)
          (HttpAuthority.host right)
  /-- A host may be written into a header. -/
  host_visible :
    ∀ authority : Authority,
      AllVisible (HttpAuthority.host authority).toList
  /-- A host does not contain the colon of its port. -/
  host_shape :
    ∀ authority : Authority,
      HostShape (HttpAuthority.host authority).toList
  /-- The port is the text after its colon when that is a `u16`. -/
  port_eq :
    ∀ authority : Authority,
      HttpAuthority.port authority =
        (HttpAuthority.portText authority).bind
          fun text => parseU16 text.toList

/-- `Authority::eq` compares the texts without regard to ASCII case. -/
def SameAuthority {Authority : Type u} [HttpAuthority Authority]
    (left right : Authority) : Prop :=
  EqIgnoreAsciiCase (HttpAuthority.asStr left) (HttpAuthority.asStr right)

instance {Authority : Type u} [HttpAuthority Authority]
    (left right : Authority) : Decidable (SameAuthority left right) :=
  inferInstanceAs (Decidable (EqIgnoreAsciiCase _ _))

/-! ## URIs -/

structure PathAndQuery where
  data : String
  deriving DecidableEq, Repr

/-- An empty path reads as a slash. -/
def PathAndQuery.asStr (path : PathAndQuery) : String :=
  if path.data = "" then "/" else path.data

structure Parts (Authority : Type u) where
  scheme : Option Scheme := none
  authority : Option Authority := none
  pathAndQuery : Option PathAndQuery := none
  deriving DecidableEq, Repr

/-- The combinations of parts that make a URI: with a scheme all of them, and
without one not both an authority and a path. -/
def Parts.WellFormed {Authority : Type u} (parts : Parts Authority) : Prop :=
  if parts.scheme.isSome then
    parts.authority.isSome ∧ parts.pathAndQuery.isSome
  else
    ¬ (parts.authority.isSome ∧ parts.pathAndQuery.isSome)

instance {Authority : Type u} (parts : Parts Authority) :
    Decidable parts.WellFormed :=
  inferInstanceAs (Decidable (ite _ _ _))

structure Uri (Authority : Type u) extends Parts Authority where
  wellFormed : toParts.WellFormed

namespace Uri

variable {Authority : Type u}

def fromParts (parts : Parts Authority) : Option (Uri Authority) :=
  if wellFormed : parts.WellFormed then some { parts with wellFormed }
  else none

def default : Uri Authority where
  pathAndQuery := some ⟨"/"⟩
  wellFormed := by simp [Parts.WellFormed]

def absolute (scheme : Scheme) (authority : Authority)
    (path : PathAndQuery) : Uri Authority where
  scheme := some scheme
  authority := some authority
  pathAndQuery := some path
  wellFormed := by simp [Parts.WellFormed]

def ofAuthority (authority : Authority) : Uri Authority where
  authority := some authority
  wellFormed := by simp [Parts.WellFormed]

def schemeStr (uri : Uri Authority) : Option String :=
  uri.scheme.map Scheme.asStr

def host [HttpAuthority Authority] (uri : Uri Authority) : Option String :=
  uri.authority.map HttpAuthority.host

/-- The port, when the text after its colon is a `u16`. -/
def port [HttpAuthority Authority] (uri : Uri Authority) : Option UInt16 :=
  uri.authority.bind HttpAuthority.port

def isSlash (uri : Uri Authority) : Bool :=
  uri.scheme.isNone && uri.authority.isNone &&
    uri.pathAndQuery = some ⟨"/"⟩

theorem absolute_parts {uri : Uri Authority} {scheme : Scheme}
    (absolute : uri.scheme = some scheme) :
    ∃ authority path,
      uri.authority = some authority ∧ uri.pathAndQuery = some path := by
  have wellFormed := uri.wellFormed
  rw [Parts.WellFormed, absolute, Option.isSome_some, if_pos rfl]
    at wellFormed
  obtain ⟨authority, hasAuthority⟩ :=
    Option.isSome_iff_exists.mp wellFormed.1
  obtain ⟨path, hasPath⟩ := Option.isSome_iff_exists.mp wellFormed.2
  exact ⟨authority, path, hasAuthority, hasPath⟩

end Uri

/-! ## Authorities read from their text -/

def afterColon : List Char → Option (List Char)
  | ':' :: port => some port
  | _ => none

/-- Split `host` or `host:port`, with the host either in brackets or free of
colons. -/
def splitHostPort : List Char → List Char × Option (List Char)
  | '[' :: rest =>
      ('[' :: (rest.takeWhile (· ≠ ']') ++ [']']),
        afterColon (rest.dropWhile (· ≠ ']')).tail)
  | text => (text.takeWhile (· ≠ ':'), afterColon (text.dropWhile (· ≠ ':')))

private theorem splitHostPort_of_head {text : List Char}
    (noBracket : text.head? ≠ some '[') :
    splitHostPort text =
      (text.takeWhile (· ≠ ':'), afterColon (text.dropWhile (· ≠ ':'))) := by
  unfold splitHostPort
  split
  · simp at noBracket
  · rfl

/-- A host followed by nothing, or by a colon and a port, splits into these. -/
theorem splitHostPort_append {host rest : List Char} (shape : HostShape host)
    (ends : rest = [] ∨ rest.head? = some ':') :
    splitHostPort (host ++ rest) = (host, afterColon rest) := by
  rcases shape with ⟨inner, rfl, noClosing⟩ | ⟨noBracket, noColon⟩
  · have allInner :
        ∀ letter, letter ∈ inner → decide (letter ≠ ']') = true :=
      fun letter member =>
        decide_eq_true fun same => noClosing (same ▸ member)
    have before :
        (inner ++ ([']'] ++ rest)).takeWhile (· ≠ ']') = inner := by
      rw [List.takeWhile_append_of_pos allInner]
      simp
    have after :
        (inner ++ ([']'] ++ rest)).dropWhile (· ≠ ']') = ']' :: rest := by
      rw [List.dropWhile_append_of_pos allInner]
      simp
    rw [List.cons_append, List.append_assoc, splitHostPort, before, after,
      List.tail_cons]
  · have allHost :
        ∀ letter, letter ∈ host → decide (letter ≠ ':') = true :=
      fun letter member =>
        decide_eq_true fun same => noColon (same ▸ member)
    have headRest : (host ++ rest).head? ≠ some '[' := by
      rcases host with _ | ⟨first, others⟩
      · rcases ends with rfl | colon
        · simp
        · simp [colon]
      · simpa using noBracket
    have before : rest.takeWhile (· ≠ ':') = [] := by
      rcases ends with rfl | colon
      · rfl
      · obtain ⟨port, rfl⟩ := List.head?_eq_some_iff.mp colon
        simp
    have after : rest.dropWhile (· ≠ ':') = rest := by
      rcases ends with rfl | colon
      · rfl
      · obtain ⟨port, rfl⟩ := List.head?_eq_some_iff.mp colon
        simp
    rw [splitHostPort_of_head headRest, List.takeWhile_append_of_pos allHost,
      List.dropWhile_append_of_pos allHost, before, after, List.append_nil]

def Graphic (letter : Char) : Prop :=
  33 ≤ letter.toNat ∧ letter.toNat < 127

instance (letter : Char) : Decidable (Graphic letter) :=
  inferInstanceAs (Decidable (_ ∧ _))

def AllGraphic (text : List Char) : Prop :=
  ∀ letter, letter ∈ text → Graphic letter

instance (text : List Char) : Decidable (AllGraphic text) :=
  List.decidableBAll Graphic text

/-- An authority as its text: `[userinfo@]host[:port]` in visible characters
without spaces. -/
structure TextAuthority where
  text : String
  visible : AllGraphic text.toList
  deriving DecidableEq

namespace TextAuthority

def hostPort (authority : TextAuthority) : List Char :=
  authority.text.toList.rtakeWhile (· ≠ '@')

instance : HttpAuthority TextAuthority where
  asStr authority := authority.text
  host authority := String.ofList (splitHostPort authority.hostPort).1
  portText authority :=
    (splitHostPort authority.hostPort).2.map String.ofList
  port authority := (splitHostPort authority.hostPort).2.bind parseU16
  parse text :=
    if visible : text ≠ "" ∧ AllGraphic text.toList then
      some ⟨text, visible.2⟩
    else
      none

private theorem hostPort_lower (authority : TextAuthority) :
    (asciiLower authority.text).rtakeWhile (· ≠ '@') =
      authority.hostPort.map Char.toLower := by
  rw [hostPort, asciiLower, List.rtakeWhile, List.rtakeWhile,
    ← List.map_reverse, takeWhile_map_toLower (by decide), List.map_reverse]

private theorem splitHostPort_lower (text : List Char) :
    (splitHostPort (text.map Char.toLower)).1 =
      (splitHostPort text).1.map Char.toLower := by
  rcases text with _ | ⟨head, tail⟩
  · rfl
  · by_cases bracket : head = '['
    · subst bracket
      change '[' :: ((tail.map Char.toLower).takeWhile (· ≠ ']') ++ [']']) = _
      rw [takeWhile_map_toLower (by decide)]
      simp [splitHostPort, show Char.toLower '[' = '[' by decide,
        show Char.toLower ']' = ']' by decide]
    · have lowered : head.toLower ≠ '[' :=
        fun same => bracket ((toLower_eq_iff (by decide) head).mp same)
      have noBracket : (head :: tail).head? ≠ some '[' := by
        simpa using bracket
      have loweredHead :
          ((head :: tail).map Char.toLower).head? ≠ some '[' := by
        simpa using lowered
      rw [splitHostPort_of_head loweredHead, splitHostPort_of_head noBracket,
        takeWhile_map_toLower (by decide)]

theorem mem_splitHostPort {text : List Char} {letter : Char}
    (member : letter ∈ (splitHostPort text).1) :
    letter ∈ text ∨ letter = '[' ∨ letter = ']' := by
  unfold splitHostPort at member
  split at member
  · rename_i rest
    rcases List.mem_cons.mp member with same | later
    · exact Or.inr (Or.inl same)
    · rcases List.mem_append.mp later with inside | closing
      · exact Or.inl
          (List.mem_cons_of_mem _ ((List.takeWhile_sublist _).subset inside))
      · exact Or.inr (Or.inr (List.mem_singleton.mp closing))
  · exact Or.inl ((List.takeWhile_sublist _).subset member)

private theorem splitHostPort_shape (text : List Char) :
    HostShape (splitHostPort text).1 := by
  unfold splitHostPort
  split
  · rename_i rest
    refine Or.inl ⟨rest.takeWhile (· ≠ ']'), rfl, fun member => ?_⟩
    simpa using List.mem_takeWhile_imp member
  · rename_i notBracket
    refine Or.inr ⟨?_, fun member => ?_⟩
    · rcases text with _ | ⟨head, tail⟩
      · simp
      · have different : head ≠ '[' :=
          fun same => notBracket tail (by rw [same])
        by_cases colon : head = ':'
        · simp [colon]
        · simp [colon, different]
    · simpa using List.mem_takeWhile_imp member

instance : LawfulAuthority TextAuthority where
  host_congr := by
    intro left right same
    change asciiLower (String.ofList _) = asciiLower (String.ofList _)
    have sameText : asciiLower left.text = asciiLower right.text := same
    have sameHostPort :
        left.hostPort.map Char.toLower = right.hostPort.map Char.toLower := by
      rw [← hostPort_lower, ← hostPort_lower, sameText]
    rw [asciiLower, asciiLower, String.toList_ofList, String.toList_ofList,
      ← splitHostPort_lower, ← splitHostPort_lower, sameHostPort]
  host_visible := by
    intro authority letter member
    change letter ∈ (String.ofList _).toList at member
    rw [String.toList_ofList] at member
    rcases mem_splitHostPort member with inText | rfl | rfl
    · have bound : 33 ≤ letter.toNat ∧ letter.toNat < 127 :=
        authority.visible letter
          ((List.rtakeWhile_suffix _ _).subset inText)
      exact Or.inl ⟨by omega, bound.2⟩
    · decide
    · decide
  host_shape := by
    intro authority
    change HostShape (String.ofList _).toList
    rw [String.toList_ofList]
    exact splitHostPort_shape authority.hostPort
  port_eq := by
    intro authority
    change _ = Option.bind (Option.map _ _) _
    rw [Option.bind_map]
    simp only [Function.comp_def, String.toList_ofList]
    rfl

end TextAuthority

end Hyperdriver
