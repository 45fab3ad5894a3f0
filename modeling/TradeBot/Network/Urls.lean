import Mathlib.Data.UInt
import TradeBot.Library.DecimalTexts

/-!
# The URLs of the network client

How `AsyncNetworkClient` takes a URL apart, and what it does with the parts before it opens a
socket. The client is running; the connection itself is outside the model.
-/

namespace TradeBot

open Library

/-- The exceptions of `std::stoi`. -/
inductive StoiError where
  | invalidArgument
  | outOfRange
  deriving DecidableEq

/-- `std::stoi` -/
def stoi (text : Bytes) : Except StoiError ℤ :=
  match readInteger text with
  | none => .error .invalidArgument
  | some value => if -2 ^ 31 ≤ value ∧ value < 2 ^ 31 then .ok value else .error .outOfRange

namespace AsyncNetworkClient

/-- `ParsedUrl` -/
structure ParsedUrl where
  scheme : Bytes := []
  host : Bytes := []
  path : Bytes := ascii "/"
  port : UInt16 := 0
  tls : Bool := false
  valid : Bool := false
  deriving DecidableEq

/-- The port of a URL that has none. -/
def schemePort (scheme : Bytes) : UInt16 :=
  if scheme = ascii "ws" then 80
  else if scheme = ascii "wss" then 443
  else if scheme = ascii "http" then 80
  else if scheme = ascii "https" then 443
  else 0

/-- The host and the port of an authority. -/
def hostAndPort (scheme authority : Bytes) : Except StoiError (Bytes × UInt16) :=
  match authority.span (· != byteOf ':') with
  | (host, _ :: text) => (stoi text).map fun value => (host, UInt16.ofInt value)
  | (host, []) => .ok (host, schemePort scheme)

/-- The schemes of connections under TLS. -/
def isTlsScheme (scheme : Bytes) : Bool :=
  decide (scheme = ascii "wss") || decide (scheme = ascii "https")

/-- `parseUrl` -/
def parseUrl (url : Bytes) : Except StoiError ParsedUrl :=
  match cutAtFirst (ascii "://") url with
  | none => .ok {}
  | some (scheme, rem) =>
    let (authority, tail) := rem.span (· != byteOf '/')
    (hostAndPort scheme authority).map fun (host, port) =>
      { scheme := scheme
        host := host
        path := if tail.isEmpty then ascii "/" else tail
        port := port
        tls := isTlsScheme scheme
        valid := !host.isEmpty || decide (scheme = ascii "mock") }

/-- `isLoopbackHost` -/
def isLoopbackHost (host : Bytes) : Bool :=
  if host = ascii "localhost" ∨ host = ascii "127.0.0.1" ∨ host = ascii "::1" then true
  else decide (4 ≤ host.length ∧ host.take 4 = ascii "127.")

/-- The settings of `setStrictTlsValidation` that decide which hosts are dialled. -/
structure TlsPolicy where
  strictValidation : Bool
  intranetLoopbackOnly : Bool

/-- How far an attempt gets before a socket is opened. -/
inductive Attempt where
  | mocked
  | refused (error : Bytes)
  | dials (host : Bytes) (port : UInt16) (tls : Bool)
  deriving DecidableEq

/-- `connectWebSocketInternal`, up to the connection. -/
def connectWebSocketInternal (policy : TlsPolicy) (parsed : ParsedUrl) : Attempt :=
  if parsed.scheme = ascii "mock" then .mocked
  else if parsed.tls && policy.strictValidation && policy.intranetLoopbackOnly &&
      !isLoopbackHost parsed.host then
    .refused (ascii "Strict INTRANET TLS mode rejects non-loopback host: " ++ parsed.host)
  else .dials parsed.host parsed.port parsed.tls

/-- `connectWebSocket`, up to the connection. -/
def connectWebSocket (policy : TlsPolicy) (url : Bytes) : Except StoiError Attempt :=
  (parseUrl url).map fun parsed =>
    if !parsed.valid then .refused (ascii "Invalid websocket URL: " ++ url)
    else connectWebSocketInternal policy parsed

/-- `issueRestQuery`, up to the connection. -/
def issueRestQuery (policy : TlsPolicy) (baseUrl : Bytes) : Except StoiError Attempt :=
  (parseUrl baseUrl).map fun parsed =>
    if !parsed.valid then .refused (ascii "Invalid REST base URL")
    else if parsed.tls && policy.strictValidation && policy.intranetLoopbackOnly &&
        !isLoopbackHost parsed.host then
      .refused (ascii "Strict INTRANET TLS mode rejects non-loopback host")
    else .dials parsed.host parsed.port parsed.tls

/-- The parts of a URL: a scheme before the first `://`, and an authority up to a slash or the
end. -/
structure UrlParts (url scheme authority remainder : Bytes) : Prop where
  cut : FirstCut (ascii "://") url scheme (authority ++ remainder)
  plain : byteOf '/' ∉ authority
  stops : remainder = [] ∨ remainder.head? = some (byteOf '/')

/-- The authority ends at the first slash. -/
theorem UrlParts.span_eq {url scheme authority remainder : Bytes}
    (h : UrlParts url scheme authority remainder) :
    (authority ++ remainder).span (· != byteOf '/') = (authority, remainder) := by
  cases remainder with
  | nil => rw [List.append_nil, span_of_notMem h.plain]
  | cons c remainder =>
    rcases h.stops with hnil | hhead
    · cases hnil
    · obtain rfl : c = byteOf '/' := Option.some.inj hhead
      exact span_of_first h.plain

/-- A URL has one decomposition. -/
theorem UrlParts.unique {url scheme authority remainder scheme' authority' remainder' : Bytes}
    (h : UrlParts url scheme authority remainder)
    (h' : UrlParts url scheme' authority' remainder') :
    scheme = scheme' ∧ authority = authority' ∧ remainder = remainder' := by
  obtain ⟨hscheme, hrest⟩ := h.cut.unique h'.cut
  have hspan := h.span_eq.symm.trans (hrest ▸ h'.span_eq)
  rw [Prod.mk.injEq] at hspan
  exact ⟨hscheme, hspan⟩

/-- A URL that is cut has its parts. -/
theorem urlParts_of_cut {url scheme rem : Bytes} (h : FirstCut (ascii "://") url scheme rem) :
    ∃ authority remainder, UrlParts url scheme authority remainder := by
  rcases exists_span (byteOf '/') rem with ⟨hplain, -⟩ | ⟨authority, remainder, hplain, rfl, -⟩
  · exact ⟨rem, [], by rwa [List.append_nil], hplain, Or.inl rfl⟩
  · exact ⟨authority, byteOf '/' :: remainder, h, hplain, Or.inr rfl⟩

/-- What `parseUrl` makes of the parts of a URL. -/
def ofParts (scheme host : Bytes) (port : UInt16) (remainder : Bytes) : ParsedUrl where
  scheme := scheme
  host := host
  path := if remainder = [] then ascii "/" else remainder
  port := port
  tls := isTlsScheme scheme
  valid := !host.isEmpty || decide (scheme = ascii "mock")

/-- Parsing is deciding the host and the port of the authority. -/
theorem parseUrl_of_parts {url scheme authority remainder : Bytes}
    (h : UrlParts url scheme authority remainder) :
    parseUrl url = (hostAndPort scheme authority).map fun (host, port) =>
      ofParts scheme host port remainder := by
  unfold parseUrl ofParts
  rw [cutAtFirst_eq_some_iff.mpr h.cut]
  dsimp only
  rw [h.span_eq]
  simp only [List.isEmpty_iff]

/-- A URL has parts, or `parseUrl` finds it invalid. -/
theorem urlParts_or_invalid (url : Bytes) :
    (∃ scheme authority remainder, UrlParts url scheme authority remainder) ∨
      (∀ scheme authority remainder, ¬UrlParts url scheme authority remainder) ∧
        parseUrl url = .ok {} := by
  cases hcut : cutAtFirst (ascii "://") url with
  | none =>
    refine Or.inr ⟨fun scheme authority remainder h => ?_, ?_⟩
    · exact cutAtFirst_eq_none hcut _ _ h.cut.text_eq
    · unfold parseUrl
      rw [hcut]
  | some cut =>
    obtain ⟨scheme, rem⟩ := cut
    obtain ⟨authority, remainder, h⟩ := urlParts_of_cut (cutAtFirst_eq_some hcut)
    exact Or.inl ⟨scheme, authority, remainder, h⟩

/-- Reading an integer succeeds on texts that begin with one of 32 bits. -/
theorem stoi_eq_ok_iff {text : Bytes} {value : ℤ} :
    stoi text = .ok value ↔ BeginsWithInteger text value ∧ -2 ^ 31 ≤ value ∧ value < 2 ^ 31 := by
  rw [← readInteger_eq_some_iff]
  unfold stoi
  cases hread : readInteger text with
  | none => simp
  | some read =>
    dsimp only
    split
    · next hfits =>
      constructor
      · intro h
        cases h
        exact ⟨rfl, hfits⟩
      · rintro ⟨h, -⟩
        cases h
        rfl
    · next hfits =>
      constructor
      · intro h
        cases h
      · rintro ⟨h, hvalue⟩
        cases h
        exact (hfits hvalue).elim

/-- The host and the port of an authority with a colon, and of one without. -/
theorem hostAndPort_colon {scheme host port : Bytes} (hhost : byteOf ':' ∉ host) :
    hostAndPort scheme (host ++ byteOf ':' :: port) =
      (stoi port).map fun value => (host, UInt16.ofInt value) := by
  unfold hostAndPort
  rw [span_of_first hhost]

/-- An authority without a colon is a host, on the port of its scheme. -/
theorem hostAndPort_plain {scheme authority : Bytes} (h : byteOf ':' ∉ authority) :
    hostAndPort scheme authority = .ok (authority, schemePort scheme) := by
  unfold hostAndPort
  rw [span_of_notMem h]

/-- An explicit port is cut off in one way. -/
theorem port_injective {host host' port port' : Bytes} (hhost : byteOf ':' ∉ host)
    (hhost' : byteOf ':' ∉ host') (h : host ++ byteOf ':' :: port = host' ++ byteOf ':' :: port') :
    host = host' ∧ port = port' := by
  have hfirst : (host ++ byteOf ':' :: port).span (· != byteOf ':') = (host, byteOf ':' :: port) :=
    span_of_first hhost
  have hspan := hfirst.symm.trans ((congrArg (List.span (· != byteOf ':')) h).trans
    (span_of_first hhost'))
  rw [Prod.mk.injEq, List.cons.injEq] at hspan
  exact ⟨hspan.1, hspan.2.2⟩

end AsyncNetworkClient

end TradeBot
