import Hyperdriver.Bridge.TokioIo
import Hyperdriver.Client.Connection

/-!
# Protocols of the client

A protocol makes a connection of a stream: it performs the handshake of hyper
and spawns the driver of the connection.  The pool asks the protocol beforehand
whether the connection of a stream can be multiplexed, and in a build with TLS
the answer agrees with the connection that the handshake leads to.
-/

namespace Hyperdriver

open Foundation Bridge

universe u v w x y z

namespace Client

/-! ## Handshakes -/

/-- The builder of hyper for one protocol.  A handshake that succeeds gives the
sender and the driver of the connection. -/
class Handshake (Config : Type u) (Stream : Type)
    (Handshaking : outParam (Type v)) (Sender : outParam (Type w))
    (Driver : outParam (Type x)) (Error : outParam (Type y)) where
  handshake : Config → TokioIo Stream → Handshaking
  poll :
    Handshaking → Poll (Except Error (Sender × Driver)) × Handshaking

/-- The block that performs the handshake and spawns the driver. -/
inductive HandshakeFuture (Config : Type u) (Stream : Type)
    (Handshaking : Type v) where
  | start (config : Config) (stream : Stream)
  | handshaking (future : Handshaking)
  | done

namespace HandshakeFuture

variable {Config : Type u} {Stream : Type} {Handshaking : Type v}
  {Sender : Type w} {Driver : Type x} {Error : Type y}
  [Handshake Config Stream Handshaking Sender Driver Error]

/-- Await the handshake, and spawn the driver of a connection. -/
def await (future : Handshaking) (spawned : List Driver) :
    Poll (Except Error Sender) ×
      HandshakeFuture Config Stream Handshaking × List Driver :=
  match Handshake.poll Config Stream future with
  | (.pending, future) => (.pending, .handshaking future, spawned)
  | (.ready (.error error), _) => (.ready (.error error), .done, spawned)
  | (.ready (.ok (sender, driver)), _) =>
      (.ready (.ok sender), .done, driver :: spawned)

def poll :
    HandshakeFuture Config Stream Handshaking → List Driver →
      Checked
        (Poll (Except Error Sender) ×
          HandshakeFuture Config Stream Handshaking × List Driver)
  | .start config stream, spawned =>
      .ok (await (Handshake.handshake config ⟨stream⟩) spawned)
  | .handshaking future, spawned => .ok (await future spawned)
  | .done, _ => .error .resumed

/-- What an answer says of the drivers: a sender comes with one more. -/
def Drives (before : List Driver) :
    Poll (Except Error Sender) → List Driver → Prop
  | .ready (.ok _), after => ∃ driver, after = driver :: before
  | .ready (.error _), after => after = before
  | .pending, after => after = before

private theorem drives_of_await {future : Handshaking} {spawned : List Driver}
    {answer : Poll (Except Error Sender)}
    {after : HandshakeFuture Config Stream Handshaking × List Driver}
    (awaited : await future spawned = (answer, after)) :
    Drives spawned answer after.2 := by
  unfold await at awaited
  split at awaited
  · cases awaited
    rfl
  · cases awaited
    rfl
  · cases awaited
    exact ⟨_, rfl⟩

private theorem drives_of_poll
    {before : HandshakeFuture Config Stream Handshaking}
    {spawned : List Driver} {answer : Poll (Except Error Sender)}
    {after : HandshakeFuture Config Stream Handshaking × List Driver}
    (polled : before.poll spawned = .ok (answer, after)) :
    Drives spawned answer after.2 := by
  cases before with
  | start config stream =>
      exact drives_of_await (Except.ok.inj polled)
  | handshaking future =>
      exact drives_of_await (Except.ok.inj polled)
  | done =>
      cases polled

end HandshakeFuture

/-! ## Multiplexing -/

/-- Whether a protocol may multiplex, and whether it will on a stream. -/
class Multiplexed (Protocol : Type u) (Stream : Type) where
  multiplex : Protocol → Bool
  multiplexReady : Protocol → Stream → Bool

class HasTlsConnectionInfo (Stream : Type) where
  tlsInfo : Stream → Option TlsConnectionInfo

/-! ## The protocols of one version -/

structure Http1Builder (Config : Type u) where
  config : Config

structure Http2Builder (Config : Type u) where
  builder : Config

instance {Config : Type u} {Stream : Type} :
    Multiplexed (Http1Builder Config) Stream where
  multiplex _ := false
  multiplexReady _ _ := false

instance {Config : Type u} {Stream : Type} :
    Multiplexed (Http2Builder Config) Stream where
  multiplex _ := true
  multiplexReady _ _ := true

/-- `HttpProtocolFuture`: a handshake whose sender is wrapped. -/
structure HttpProtocolFuture (Config : Type u) (Stream : Type)
    (Handshaking : Type v) where
  inner : HandshakeFuture Config Stream Handshaking

section OneVersion

variable {Config : Type u} {Stream : Type} {Handshaking : Type v}
  {Sender : Type w} {Driver : Type x} {Error : Type y}
  [Handshake Config Stream Handshaking Sender Driver Error]

def Http1Builder.call (self : Http1Builder Config) (stream : Stream) :
    HttpProtocolFuture Config Stream Handshaking × Http1Builder Config :=
  (⟨.start self.config stream⟩, ⟨self.config⟩)

def Http2Builder.call (self : Http2Builder Config) (stream : Stream) :
    HttpProtocolFuture Config Stream Handshaking × Http2Builder Config :=
  (⟨.start self.builder stream⟩, ⟨self.builder⟩)

/-- Poll the handshake, and wrap the sender of a connection. -/
def HttpProtocolFuture.poll {Conn : Type w} (wrap : Sender → Conn)
    (future : HttpProtocolFuture Config Stream Handshaking)
    (spawned : List Driver) :
    Checked
      (Poll (Except Error Conn) ×
        HttpProtocolFuture Config Stream Handshaking × List Driver) :=
  (future.inner.poll spawned).map fun (answer, inner, spawned) =>
    (answer.map (Except.map wrap), ⟨inner⟩, spawned)

end OneVersion

/-! ## The protocol of either version -/

inductive AutoHttpProtocolError (Error : Type u) where
  | http1 (error : Error)
  | http2 (error : Error)
  | unsupportedProtocol (protocol : HttpProtocol)
  deriving DecidableEq, Repr

structure AlpnHttpConnectionBuilder (Http1Config : Type u)
    (Http2Config : Type v) where
  http1 : Http1Config
  http2 : Http2Config
  initialProtocol : HttpProtocol
  deriving DecidableEq, Repr

/-- The TLS connection of the stream negotiated HTTP/2. -/
def NegotiatedH2 {Stream : Type} [HasTlsConnectionInfo Stream]
    (stream : Stream) : Prop :=
  (HasTlsConnectionInfo.tlsInfo stream).bind TlsConnectionInfo.alpn =
    some "h2"

instance {Stream : Type} [HasTlsConnectionInfo Stream] (stream : Stream) :
    Decidable (NegotiatedH2 stream) :=
  inferInstanceAs (Decidable (_ = _))

/-- The features of the crate that a build has. -/
structure Features where
  tls : Bool
  deriving DecidableEq, Repr

/-- A handshake on the stream changes over to HTTP/2.  Only a build with TLS
looks at what was negotiated. -/
def SwitchesToH2 {Stream : Type} [HasTlsConnectionInfo Stream]
    (features : Features) (stream : Stream) : Prop :=
  features.tls = true ∧ NegotiatedH2 stream

instance {Stream : Type} [HasTlsConnectionInfo Stream] (features : Features)
    (stream : Stream) : Decidable (SwitchesToH2 features stream) :=
  inferInstanceAs (Decidable (_ ∧ _))

/-- The boxed block of `handshake`. -/
inductive HttpConnectFuture (Http1Config : Type u) (Http2Config : Type v)
    (Stream : Type) (Http1Handshaking : Type w)
    (Http2Handshaking : Type x) where
  | start (builder : AlpnHttpConnectionBuilder Http1Config Http2Config)
      (stream : Stream) (protocol : HttpProtocol)
  | handshakeH2 (future : HandshakeFuture Http2Config Stream Http2Handshaking)
  | handshakeH1 (future : HandshakeFuture Http1Config Stream Http1Handshaking)
  | done

section Alpn

variable {Http1Config : Type u} {Http2Config : Type v} {Stream : Type}
  {Http1Handshaking : Type w} {Http2Handshaking : Type x}
  {Http1Sender : Type y} {Http2Sender : Type z} {Driver Error : Type*}
  [HasTlsConnectionInfo Stream]
  [Handshake Http1Config Stream Http1Handshaking Http1Sender Driver Error]
  [Handshake Http2Config Stream Http2Handshaking Http2Sender Driver Error]

namespace AlpnHttpConnectionBuilder

variable (builder : AlpnHttpConnectionBuilder Http1Config Http2Config)

def clone : AlpnHttpConnectionBuilder Http1Config Http2Config where
  http1 := builder.http1
  http2 := builder.http2
  initialProtocol := builder.initialProtocol

/-- The default, with the default builders of hyper. -/
def default (http1 : Http1Config) (http2 : Http2Config) :
    AlpnHttpConnectionBuilder Http1Config Http2Config where
  http1 := http1
  http2 := http2
  initialProtocol := .http1

/-- Change the configuration through the reference that `http1` returns. -/
def setHttp1 (config : Http1Config) :
    AlpnHttpConnectionBuilder Http1Config Http2Config :=
  { builder with http1 := config }

/-- Change the configuration through the reference that `http2` returns. -/
def setHttp2 (config : Http2Config) :
    AlpnHttpConnectionBuilder Http1Config Http2Config :=
  { builder with http2 := config }

instance :
    Multiplexed (AlpnHttpConnectionBuilder Http1Config Http2Config) Stream where
  multiplex _ := true
  multiplexReady _ stream := decide (NegotiatedH2 stream)

/-- Swap a clone of the builder in, and move the one that was there into the
future. -/
def call (stream : Stream) :
    HttpConnectFuture Http1Config Http2Config Stream Http1Handshaking
        Http2Handshaking ×
      AlpnHttpConnectionBuilder Http1Config Http2Config :=
  (.start builder stream builder.initialProtocol, builder.clone)

/-- The builders there can be: the initial protocol cannot be set. -/
inductive Configured :
    AlpnHttpConnectionBuilder Http1Config Http2Config → Prop
  | default {http1 : Http1Config} {http2 : Http2Config} :
      Configured (.default http1 http2)
  | setHttp1 {builder : AlpnHttpConnectionBuilder Http1Config Http2Config}
      {config : Http1Config} :
      Configured builder → Configured (builder.setHttp1 config)
  | setHttp2 {builder : AlpnHttpConnectionBuilder Http1Config Http2Config}
      {config : Http2Config} :
      Configured builder → Configured (builder.setHttp2 config)
  | clone {builder : AlpnHttpConnectionBuilder Http1Config Http2Config} :
      Configured builder → Configured builder.clone

private theorem Configured.initialProtocol_eq
    {builder : AlpnHttpConnectionBuilder Http1Config Http2Config}
    (configured : Configured builder) : builder.initialProtocol = .http1 := by
  induction configured with
  | default => rfl
  | setHttp1 _ inductionHypothesis => exact inductionHypothesis
  | setHttp2 _ inductionHypothesis => exact inductionHypothesis
  | clone _ inductionHypothesis => exact inductionHypothesis

end AlpnHttpConnectionBuilder

namespace HttpConnectFuture

/-- The drivers and the future with them. -/
abbrev State (Http1Config : Type u) (Http2Config : Type v) (Stream : Type)
    (Http1Handshaking : Type w) (Http2Handshaking : Type x)
    (Driver : Type*) :=
  HttpConnectFuture Http1Config Http2Config Stream Http1Handshaking
      Http2Handshaking ×
    List Driver

/-- Await `handshake_h2`. -/
def awaitH2 (future : HandshakeFuture Http2Config Stream Http2Handshaking)
    (spawned : List Driver) :
    Checked
      (Poll (Except (AutoHttpProtocolError Error)
          (HttpConnection Http2Sender Http1Sender)) ×
        State Http1Config Http2Config Stream Http1Handshaking
          Http2Handshaking Driver) :=
  match future.poll spawned with
  | .error panic => .error panic
  | .ok (.pending, future, spawned) =>
      .ok (.pending, .handshakeH2 future, spawned)
  | .ok (.ready (.error error), _, spawned) =>
      .ok (.ready (.error (.http2 error)), .done, spawned)
  | .ok (.ready (.ok sender), _, spawned) =>
      .ok (.ready (.ok (.h2 sender)), .done, spawned)

/-- Await `handshake_h1`. -/
def awaitH1 (future : HandshakeFuture Http1Config Stream Http1Handshaking)
    (spawned : List Driver) :
    Checked
      (Poll (Except (AutoHttpProtocolError Error)
          (HttpConnection Http2Sender Http1Sender)) ×
        State Http1Config Http2Config Stream Http1Handshaking
          Http2Handshaking Driver) :=
  match future.poll spawned with
  | .error panic => .error panic
  | .ok (.pending, future, spawned) =>
      .ok (.pending, .handshakeH1 future, spawned)
  | .ok (.ready (.error error), _, spawned) =>
      .ok (.ready (.error (.http1 error)), .done, spawned)
  | .ok (.ready (.ok sender), _, spawned) =>
      .ok (.ready (.ok (.h1 sender)), .done, spawned)

def poll (features : Features) :
    HttpConnectFuture Http1Config Http2Config Stream Http1Handshaking
        Http2Handshaking →
      List Driver →
        Checked
          (Poll (Except (AutoHttpProtocolError Error)
              (HttpConnection Http2Sender Http1Sender)) ×
            State Http1Config Http2Config Stream Http1Handshaking
              Http2Handshaking Driver)
  | .start builder stream .http2, spawned =>
      awaitH2 (.start builder.http2 stream) spawned
  | .start builder stream .http1, spawned =>
      if SwitchesToH2 features stream then
        awaitH2 (.start builder.http2 stream) spawned
      else
        awaitH1 (.start builder.http1 stream) spawned
  | .start _ _ .http3, spawned =>
      .ok (.ready (.error (.unsupportedProtocol .http3)), .done, spawned)
  | .handshakeH2 future, spawned => awaitH2 future spawned
  | .handshakeH1 future, spawned => awaitH1 future spawned
  | .done, _ => .error .resumed

def answers (features : Features)
    (before :
      State Http1Config Http2Config Stream Http1Handshaking Http2Handshaking
        Driver)
    (answer :
      Poll (Except (AutoHttpProtocolError Error)
        (HttpConnection Http2Sender Http1Sender)))
    (after :
      State Http1Config Http2Config Stream Http1Handshaking Http2Handshaking
        Driver) : Prop :=
  before.1.poll features before.2 = .ok (answer, after)

/-- The protocol that a connection of the stream will speak. -/
def negotiated (features : Features) (stream : Stream) :
    HttpProtocol → HttpProtocol
  | .http1 => if SwitchesToH2 features stream then .http2 else .http1
  | protocol => protocol

omit [Handshake Http1Config Stream Http1Handshaking Http1Sender Driver Error]
  [Handshake Http2Config Stream Http2Handshaking Http2Sender Driver Error] in
private theorem negotiated_http1_iff {features : Features} {stream : Stream} :
    negotiated features stream .http1 = .http2 ↔
      SwitchesToH2 features stream := by
  by_cases isH2 : SwitchesToH2 features stream
  · have speaks : negotiated features stream .http1 = .http2 := if_pos isH2
    exact ⟨fun _ => isH2, fun _ => speaks⟩
  · have speaks : negotiated features stream .http1 = .http1 := if_neg isH2
    rw [speaks]
    exact ⟨nofun, fun negotiatedH2 => (isH2 negotiatedH2).elim⟩

omit [Handshake Http1Config Stream Http1Handshaking Http1Sender Driver Error]
  [Handshake Http2Config Stream Http2Handshaking Http2Sender Driver Error] in
private theorem negotiated_http1_ne {features : Features} {stream : Stream} :
    negotiated features stream .http1 ≠ .http3 := by
  change
    (if SwitchesToH2 features stream then HttpProtocol.http2 else .http1) ≠ _
  split
  · exact nofun
  · exact nofun

/-- The future has not completed, and its handshake is of the protocol that was
negotiated. -/
inductive Waits (features : Features) (stream : Stream)
    (protocol : HttpProtocol) :
    HttpConnectFuture Http1Config Http2Config Stream Http1Handshaking
        Http2Handshaking →
      Prop
  | start {builder : AlpnHttpConnectionBuilder Http1Config Http2Config} :
      Waits features stream protocol (.start builder stream protocol)
  | handshakeH2
      {future : HandshakeFuture Http2Config Stream Http2Handshaking} :
      negotiated features stream protocol = .http2 →
      Waits features stream protocol (.handshakeH2 future)
  | handshakeH1
      {future : HandshakeFuture Http1Config Stream Http1Handshaking} :
      negotiated features stream protocol = .http1 →
      Waits features stream protocol (.handshakeH1 future)

/-- What an answer says of the connection and of the drivers. -/
inductive Connects (version : HttpProtocol) (before : List Driver) :
    Poll (Except (AutoHttpProtocolError Error)
        (HttpConnection Http2Sender Http1Sender)) →
      List Driver → Prop
  | pending : Connects version before .pending before
  | connected {conn : HttpConnection Http2Sender Http1Sender}
      {driver : Driver} :
      HttpConnectionInfo.version conn = version →
      Connects version before (.ready (.ok conn)) (driver :: before)
  | failed {error : AutoHttpProtocolError Error} :
      (∀ protocol, error = .unsupportedProtocol protocol →
        version = .http3) →
      Connects version before (.ready (.error error)) before

omit [HasTlsConnectionInfo Stream]
  [Handshake Http1Config Stream Http1Handshaking Http1Sender Driver Error]
  [Handshake Http2Config Stream Http2Handshaking Http2Sender Driver Error] in
private theorem Connects.of_pending {version : HttpProtocol}
    {before after : List Driver}
    (connects :
      Connects version before
        (.pending :
          Poll (Except (AutoHttpProtocolError Error)
            (HttpConnection Http2Sender Http1Sender))) after) :
    after = before := by
  cases connects
  rfl

omit [HasTlsConnectionInfo Stream]
  [Handshake Http1Config Stream Http1Handshaking Http1Sender Driver Error]
  [Handshake Http2Config Stream Http2Handshaking Http2Sender Driver Error] in
theorem Connects.of_connected {version : HttpProtocol}
    {before after : List Driver}
    {conn : HttpConnection Http2Sender Http1Sender}
    (connects :
      Connects version before
        (.ready (.ok conn) : Poll (Except (AutoHttpProtocolError Error) _))
        after) :
    HttpConnectionInfo.version conn = version ∧
      ∃ driver, after = driver :: before := by
  cases connects with
  | connected speaks => exact ⟨speaks, _, rfl⟩

omit [HasTlsConnectionInfo Stream]
  [Handshake Http1Config Stream Http1Handshaking Http1Sender Driver Error]
  [Handshake Http2Config Stream Http2Handshaking Http2Sender Driver Error] in
private theorem Connects.of_failed {version : HttpProtocol}
    {before after : List Driver} {error : AutoHttpProtocolError Error}
    (connects :
      Connects version before
        (.ready (.error error) :
          Poll (Except _ (HttpConnection Http2Sender Http1Sender)))
        after) :
    (∀ protocol, error = .unsupportedProtocol protocol → version = .http3) ∧
      after = before := by
  cases connects with
  | failed unsupported => exact ⟨unsupported, rfl⟩

section Polled

variable {features : Features} {stream : Stream} {protocol : HttpProtocol}
  {spawned : List Driver}
  {answer :
    Poll (Except (AutoHttpProtocolError Error)
      (HttpConnection Http2Sender Http1Sender))}
  {next :
    HttpConnectFuture Http1Config Http2Config Stream Http1Handshaking
      Http2Handshaking}
  {after : List Driver}

omit [Handshake Http1Config Stream Http1Handshaking Http1Sender Driver Error]
in
private theorem awaitH2_spec
    {future : HandshakeFuture Http2Config Stream Http2Handshaking}
    (speaks : negotiated features stream protocol = .http2)
    (awaited : awaitH2 future spawned = .ok (answer, next, after)) :
    (answer = .pending → Waits features stream protocol next) ∧
      Connects (negotiated features stream protocol) spawned answer after := by
  unfold awaitH2 at awaited
  split at awaited
  · cases awaited
  · rename_i polled
    have drives := HandshakeFuture.drives_of_poll polled
    cases awaited
    cases drives
    exact ⟨fun _ => .handshakeH2 speaks, .pending⟩
  · rename_i polled
    have drives := HandshakeFuture.drives_of_poll polled
    cases awaited
    cases drives
    exact ⟨nofun, .failed nofun⟩
  · rename_i polled
    have drives := HandshakeFuture.drives_of_poll polled
    cases awaited
    obtain ⟨driver, rfl⟩ := drives
    exact ⟨nofun, .connected speaks.symm⟩

omit [Handshake Http2Config Stream Http2Handshaking Http2Sender Driver Error]
in
private theorem awaitH1_spec
    {future : HandshakeFuture Http1Config Stream Http1Handshaking}
    (speaks : negotiated features stream protocol = .http1)
    (awaited : awaitH1 future spawned = .ok (answer, next, after)) :
    (answer = .pending → Waits features stream protocol next) ∧
      Connects (negotiated features stream protocol) spawned answer after := by
  unfold awaitH1 at awaited
  split at awaited
  · cases awaited
  · rename_i polled
    have drives := HandshakeFuture.drives_of_poll polled
    cases awaited
    cases drives
    exact ⟨fun _ => .handshakeH1 speaks, .pending⟩
  · rename_i polled
    have drives := HandshakeFuture.drives_of_poll polled
    cases awaited
    cases drives
    exact ⟨nofun, .failed nofun⟩
  · rename_i polled
    have drives := HandshakeFuture.drives_of_poll polled
    cases awaited
    obtain ⟨driver, rfl⟩ := drives
    exact ⟨nofun, .connected speaks.symm⟩

/-- One poll of a future that has not completed. -/
theorem poll_spec
    {before :
      HttpConnectFuture Http1Config Http2Config Stream Http1Handshaking
        Http2Handshaking}
    (waits : Waits features stream protocol before)
    (polled : before.poll features spawned = .ok (answer, next, after)) :
    (answer = .pending → Waits features stream protocol next) ∧
      Connects (negotiated features stream protocol) spawned answer after := by
  cases waits with
  | @start builder =>
      cases protocol with
      | http1 =>
          by_cases isH2 : SwitchesToH2 features stream
          · have speaks : negotiated features stream .http1 = .http2 :=
              if_pos isH2
            rw [poll, if_pos isH2] at polled
            exact awaitH2_spec speaks polled
          · have speaks : negotiated features stream .http1 = .http1 :=
              if_neg isH2
            rw [poll, if_neg isH2] at polled
            exact awaitH1_spec speaks polled
      | http2 =>
          exact awaitH2_spec rfl polled
      | http3 =>
          cases polled
          exact ⟨nofun, .failed fun _ _ => rfl⟩
  | handshakeH2 speaks =>
      exact awaitH2_spec speaks polled
  | handshakeH1 speaks =>
      exact awaitH1_spec speaks polled

end Polled

/-- A completed future says what its last answer says. -/
theorem connects_of_completes {features : Features} {stream : Stream}
    {protocol : HttpProtocol}
    {start final :
      State Http1Config Http2Config Stream Http1Handshaking Http2Handshaking
        Driver}
    {value :
      Except (AutoHttpProtocolError Error)
        (HttpConnection Http2Sender Http1Sender)}
    (waits : Waits features stream protocol start.1)
    (completes : Completes (answers features) start value final) :
    Connects (negotiated features stream protocol) start.2 (.ready value)
      final.2 := by
  obtain ⟨last, suspends, answered⟩ := completes
  let Suspended
      (state :
        State Http1Config Http2Config Stream Http1Handshaking
          Http2Handshaking Driver) : Prop :=
    Waits features stream protocol state.1 ∧ state.2 = start.2
  have kept : Suspended last := by
    apply suspends.invariant Suspended
    · rintro before after ⟨isWaiting, same⟩ pending
      obtain ⟨stillWaits, connects⟩ := poll_spec isWaiting pending
      exact ⟨stillWaits rfl, connects.of_pending.trans same⟩
    · exact ⟨waits, rfl⟩
  obtain ⟨lastWaits, sameDrivers⟩ := kept
  have connects := (poll_spec lastWaits answered).2
  rw [sameDrivers] at connects
  exact connects

end HttpConnectFuture

omit [Handshake Http1Config Stream Http1Handshaking Http1Sender Driver Error]
  [Handshake Http2Config Stream Http2Handshaking Http2Sender Driver Error] in
theorem AlpnHttpConnectionBuilder.Configured.waits_call
    {builder : AlpnHttpConnectionBuilder Http1Config Http2Config}
    (configured : builder.Configured) (features : Features)
    (stream : Stream) :
    HttpConnectFuture.Waits features stream .http1
      ((builder.call stream).1 :
        HttpConnectFuture Http1Config Http2Config Stream Http1Handshaking
          Http2Handshaking) := by
  rw [AlpnHttpConnectionBuilder.call, configured.initialProtocol_eq]
  exact .start

/-! ## Multiplexing agrees with the connection -/

section Agreement

variable {Authority Extensions Body Future SendError : Type*}
  [SendRequest Http2Sender (Request Authority Extensions Body) Future
    SendError]
  [SendRequest Http1Sender (Request Authority Extensions Body) Future
    SendError]
  [SharedSender Http2Sender]

/-- A builder that says whether the connection of a stream can be multiplexed
is right in a build with TLS: when its handshake leads to a connection, that
speaks HTTP/2 and can be shared exactly if it said so.  In a build without TLS
the connection speaks HTTP/1, whatever it said.  One driver is spawned for each
connection, and none for a handshake that fails. -/
theorem multiplexReady_eq_canShare (features : Features)
    {builder : AlpnHttpConnectionBuilder Http1Config Http2Config}
    (configured : builder.Configured) (stream : Stream)
    (spawned after : List Driver)
    (final :
      HttpConnectFuture Http1Config Http2Config Stream Http1Handshaking
        Http2Handshaking)
    (value :
      Except (AutoHttpProtocolError Error)
        (HttpConnection Http2Sender Http1Sender))
    (completes :
      Completes (HttpConnectFuture.answers features)
        ((builder.call stream).1, spawned) value (final, after)) :
    (∀ conn, value = .ok conn →
      PoolableConnection.canShare conn =
          (features.tls && Multiplexed.multiplexReady builder stream) ∧
        (HttpConnectionInfo.version conn = .http2 ↔
          features.tls = true ∧ NegotiatedH2 stream) ∧
        (HttpConnectionInfo.version conn = .http1 ↔
          ¬ (features.tls = true ∧ NegotiatedH2 stream)) ∧
          ∃ driver, after = driver :: spawned) ∧
    (∀ error, value = .error error →
      after = spawned ∧
        ∀ protocol, error ≠ .unsupportedProtocol protocol) := by
  have waits :
      HttpConnectFuture.Waits features stream .http1
        ((builder.call stream).1 :
          HttpConnectFuture Http1Config Http2Config Stream Http1Handshaking
            Http2Handshaking) :=
    configured.waits_call features stream
  have connects := HttpConnectFuture.connects_of_completes waits completes
  constructor
  · rintro conn rfl
    obtain ⟨speaks, drivers⟩ := connects.of_connected
    have isHttp2 :
        HttpConnectionInfo.version conn = .http2 ↔
          SwitchesToH2 features stream := by
      rw [speaks]
      exact HttpConnectFuture.negotiated_http1_iff
    have isHttp1 :
        HttpConnectionInfo.version conn = .http1 ↔
          ¬ SwitchesToH2 features stream := by
      rw [← isHttp2]
      rcases conn with _ | _
      · exact iff_of_false nofun (not_not_intro rfl)
      · exact iff_of_true rfl nofun
    refine ⟨?_, isHttp2, isHttp1, drivers⟩
    rw [Bool.eq_iff_iff, HttpConnection.canShare_iff, isHttp2, Bool.and_eq_true]
    exact and_congr_right fun _ => decide_eq_true_iff.symm
  · rintro error rfl
    obtain ⟨unsupported, drivers⟩ := connects.of_failed
    refine ⟨drivers, ?_⟩
    intro protocol isUnsupported
    have isHttp3 := unsupported protocol isUnsupported
    exact HttpConnectFuture.negotiated_http1_ne isHttp3

end Agreement

end Alpn

/-! ## A handshake that records -/

structure RecordingConfig (Sent : Type) where

/-- A stream with a number. -/
structure RecordingStream where
  number : Nat
  tls : Option TlsConnectionInfo

instance : HasTlsConnectionInfo RecordingStream where
  tlsInfo := RecordingStream.tls

/-- The handshake succeeds at once, and the driver is the number. -/
instance {Sent : Type} :
    Handshake (RecordingConfig Sent) RecordingStream RecordingStream
      (RecordingSender Sent) Nat Empty where
  handshake _ stream := stream.inner
  poll stream := (.ready (.ok (⟨stream.number⟩, stream.number)), stream)

abbrev RecordingBuilder (Sent : Type) :=
  AlpnHttpConnectionBuilder (RecordingConfig Sent) (RecordingConfig Sent)

/-- The info of a TLS connection that negotiated HTTP/2. -/
def infoOfH2 : TlsConnectionInfo where
  serverName := some "example.net"
  validatedServerName := false
  alpn := some "h2"

theorem RecordingBuilder.completes_h2 (Sent : Type) (number : Nat) :
    Completes (HttpConnectFuture.answers ⟨true⟩)
      (((AlpnHttpConnectionBuilder.default ⟨⟩ ⟨⟩ :
          RecordingBuilder Sent).call
        (⟨number, some infoOfH2⟩ : RecordingStream)).1, ([] : List Nat))
      (.ok (.h2 ⟨number⟩ : RecordingConnection Sent)) (.done, [number]) :=
  .of_ready rfl

theorem multiplexReady_eq_canShare_h2 :
    PoolableConnection.canShare
        (.h2 ⟨7⟩ : RecordingConnection (Request TextAuthority Unit Unit)) =
      Multiplexed.multiplexReady
        (AlpnHttpConnectionBuilder.default ⟨⟩ ⟨⟩ :
          RecordingBuilder (Request TextAuthority Unit Unit))
        (⟨7, some infoOfH2⟩ : RecordingStream) :=
  ((multiplexReady_eq_canShare ⟨true⟩ .default _ _ _ _ _
    (RecordingBuilder.completes_h2 _ 7)).1 _ rfl).1

/-- In a build without TLS, the connection of a stream that is ready to be
multiplexed speaks HTTP/1. -/
example (Sent : Type) :
    Completes (HttpConnectFuture.answers ⟨false⟩)
      (((AlpnHttpConnectionBuilder.default ⟨⟩ ⟨⟩ :
          RecordingBuilder Sent).call
        (⟨7, some infoOfH2⟩ : RecordingStream)).1, ([] : List Nat))
      (.ok (.h1 ⟨7⟩ : RecordingConnection Sent)) (.done, [7]) :=
  .of_ready rfl

end Client

end Hyperdriver
