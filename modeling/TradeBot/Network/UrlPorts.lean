import TradeBot.Network.Urls

/-!
# Ports of URLs

`parseUrl` leaves the port to `std::stoi` and to a cast. Exactly for which URLs it returns, and
returns the port that stands in the URL.
-/

namespace TradeBot

open Library

/-- A numeral is an integer at its beginning. -/
theorem Library.Numeral.begins {text : Bytes} {n : ℕ} (h : Numeral text n) :
    BeginsWithInteger text n := by
  refine ⟨[], [], text, [], ?_, by simp, Or.inl rfl, h.ne_nil, h.digits, by simp, ?_⟩
  · rw [List.append_nil, List.nil_append, List.nil_append]
  · rw [if_neg (by decide), h.value]

namespace AsyncNetworkClient

/-- What `parseUrl` returns is what stands in the URL: the host up to a colon, the number behind
it, and the path. -/
structure ReadAsWritten (parsed : ParsedUrl) (authority remainder : Bytes) : Prop where
  host : byteOf ':' ∉ parsed.host
  port : authority = parsed.host ∨ ∃ port, authority = parsed.host ++ byteOf ':' :: port ∧
    Numeral port parsed.port.toNat ∧ 1 ≤ parsed.port.toNat ∧ parsed.port.toNat ≤ 65535
  path : parsed.path = if remainder = [] then ascii "/" else remainder

/-- `parseUrl` returns, and a valid URL that is no mock is read as it is written. -/
def ParsesFaithfully (url : Bytes) : Prop :=
  (∃ parsed, parseUrl url = .ok parsed) ∧
    ∀ parsed, parseUrl url = .ok parsed → parsed.valid = true → parsed.scheme ≠ ascii "mock" →
      ∃ authority remainder, UrlParts url parsed.scheme authority remainder ∧
        ReadAsWritten parsed authority remainder

/-- A port text that is read: the numeral of a port, or, where no port is needed, any text that
begins with an integer of 32 bits. -/
def PortReads (scheme host port : Bytes) : Prop :=
  if scheme = ascii "mock" ∨ host = [] then
    ∃ value, BeginsWithInteger port value ∧ -2 ^ 31 ≤ value ∧ value < 2 ^ 31
  else ∃ n, Numeral port n ∧ 1 ≤ n ∧ n ≤ 65535

/-- A port of 16 bits is kept by the conversion. -/
theorem toNat_ofInt_natCast {n : ℕ} (h : n ≤ 65535) : (UInt16.ofInt n).toNat = n := by
  unfold UInt16.ofInt
  rw [UInt16.toNat_ofNat']
  omega

/-- A URL is valid with a host, or as a mock. -/
theorem valid_ofParts {scheme host remainder : Bytes} {port : UInt16} :
    (ofParts scheme host port remainder).valid = true ↔ host ≠ [] ∨ scheme = ascii "mock" := by
  unfold ofParts
  rw [Bool.or_eq_true, Bool.not_eq_true', List.isEmpty_eq_false_iff, decide_eq_true_iff]

/-- After a colon the port decides. -/
theorem parsesFaithfully_colon {url scheme host port remainder : Bytes}
    (h : UrlParts url scheme (host ++ byteOf ':' :: port) remainder) (hhost : byteOf ':' ∉ host) :
    ParsesFaithfully url ↔ PortReads scheme host port := by
  have hparse : parseUrl url = (stoi port).map fun value =>
      ofParts scheme host (UInt16.ofInt value) remainder := by
    rw [parseUrl_of_parts h, hostAndPort_colon hhost]
    cases stoi port <;> rfl
  have hread {value : ℤ} (hvalue : stoi port = .ok value) :
      parseUrl url = .ok (ofParts scheme host (UInt16.ofInt value) remainder) := by
    rw [hparse, hvalue]
    rfl
  unfold PortReads
  constructor
  · rintro ⟨⟨parsed, hok⟩, hwritten⟩
    obtain ⟨value, hvalue⟩ : ∃ value, stoi port = .ok value := by
      rw [hparse] at hok
      cases hvalue : stoi port with
      | error error =>
        rw [hvalue] at hok
        cases hok
      | ok value => exact ⟨value, rfl⟩
    split
    · exact ⟨value, stoi_eq_ok_iff.mp hvalue⟩
    · next hreal =>
      rw [not_or] at hreal
      obtain ⟨authority, remainder', hparts, hwritten⟩ :=
        hwritten _ (hread hvalue) (valid_ofParts.mpr (Or.inl hreal.2)) hreal.1
      obtain ⟨-, rfl, -⟩ := h.unique hparts
      rcases hwritten.port with hwhole | ⟨port', hcut, hnumeral, hpos, hmax⟩
      · refine (hhost ?_).elim
        change host ++ byteOf ':' :: port = host at hwhole
        rw [← hwhole]
        exact List.mem_append_right _ List.mem_cons_self
      · obtain ⟨-, rfl⟩ := port_injective hhost hwritten.host hcut
        exact ⟨_, hnumeral, hpos, hmax⟩
  · intro hport
    split at hport
    · next hfree =>
      obtain ⟨value, hvalue⟩ := hport
      have hok := hread (stoi_eq_ok_iff.mpr hvalue)
      refine ⟨⟨_, hok⟩, fun parsed hparsed hvalid hreal => ?_⟩
      rw [hok] at hparsed
      cases hparsed
      rcases hfree with hmock | hempty
      · exact (hreal hmock).elim
      · exact ((valid_ofParts.mp hvalid).elim (fun hsome => hsome hempty) hreal).elim
    · obtain ⟨n, hnumeral, hpos, hmax⟩ := hport
      have hvalue : stoi port = .ok (n : ℤ) :=
        stoi_eq_ok_iff.mpr ⟨hnumeral.begins, by omega, by omega⟩
      refine ⟨⟨_, hread hvalue⟩, fun parsed hparsed _ _ => ?_⟩
      rw [hread hvalue] at hparsed
      cases hparsed
      have hport : (ofParts scheme host (UInt16.ofInt n) remainder).port.toNat = n :=
        toNat_ofInt_natCast hmax
      refine ⟨_, remainder, h, hhost, Or.inr ⟨port, rfl, ?_⟩, rfl⟩
      rw [hport]
      exact ⟨hnumeral, hpos, hmax⟩

/-- Without a colon every URL is parsed faithfully. -/
theorem parsesFaithfully_plain {url scheme authority remainder : Bytes}
    (h : UrlParts url scheme authority remainder) (hplain : byteOf ':' ∉ authority) :
    ParsesFaithfully url := by
  have hparse : parseUrl url = .ok (ofParts scheme authority (schemePort scheme) remainder) := by
    rw [parseUrl_of_parts h, hostAndPort_plain hplain]
    rfl
  refine ⟨⟨_, hparse⟩, fun parsed hparsed _ _ => ?_⟩
  rw [hparse] at hparsed
  cases hparsed
  exact ⟨authority, remainder, h, hplain, Or.inl rfl, rfl⟩

/-- **Exactly which URLs are parsed faithfully.** Those without `://`, those without a colon in
the authority, and those where what follows the first colon is the numeral of a port, or for a
mock or an empty host begins with an integer of 32 bits. -/
theorem parsesFaithfully_iff (url : Bytes) :
    ParsesFaithfully url ↔ ∀ scheme host port remainder,
      UrlParts url scheme (host ++ byteOf ':' :: port) remainder → byteOf ':' ∉ host →
        PortReads scheme host port := by
  rcases urlParts_or_invalid url with ⟨scheme, authority, remainder, h⟩ | ⟨hnone, hparse⟩
  · rcases exists_span (byteOf ':') authority with ⟨hplain, -⟩ | ⟨host, port, hhost, rfl, -⟩
    · refine iff_of_true (parsesFaithfully_plain h hplain) ?_
      intro scheme' host port remainder' h' hhost
      obtain ⟨-, rfl, -⟩ := h.unique h'
      exact (hplain (List.mem_append_right _ List.mem_cons_self)).elim
    · rw [parsesFaithfully_colon h hhost]
      constructor
      · intro hport scheme' host' port' remainder' h' hhost'
        obtain ⟨rfl, hauthority, -⟩ := h.unique h'
        obtain ⟨rfl, rfl⟩ := port_injective hhost hhost' hauthority
        exact hport
      · intro hall
        exact hall scheme host port remainder h hhost
  · constructor
    · intro _ scheme host port remainder h
      exact (hnone _ _ _ h).elim
    · intro _
      refine ⟨⟨_, hparse⟩, fun parsed hok hvalid => ?_⟩
      rw [hparse] at hok
      cases hok
      cases hvalid

/-- A port that is no number ends in an exception, and one above the range comes back as another
port. -/
theorem parsesFaithfully_fails :
    ¬ParsesFaithfully (ascii "wss://feed.example:live/ws") ∧
      ¬ParsesFaithfully (ascii "wss://feed.example:65979/ws") ∧
      parseUrl (ascii "wss://feed.example:live/ws") = .error .invalidArgument ∧
      parseUrl (ascii "wss://feed.example:65979/ws") = .ok {
        scheme := ascii "wss", host := ascii "feed.example", path := ascii "/ws", port := 443
        tls := true, valid := true } := by
  have hthrows : parseUrl (ascii "wss://feed.example:live/ws") = .error .invalidArgument := by
    decide +kernel
  refine ⟨?_, ?_, hthrows, by decide +kernel⟩
  · rintro ⟨⟨parsed, hok⟩, -⟩
    rw [hthrows] at hok
    cases hok
  · have hparts : UrlParts (ascii "wss://feed.example:65979/ws") (ascii "wss")
        (ascii "feed.example" ++ byteOf ':' :: ascii "65979") (ascii "/ws") :=
      ⟨cutAtFirst_eq_some (by decide +kernel), by decide +kernel, Or.inr (by decide +kernel)⟩
    rw [parsesFaithfully_colon hparts (by decide +kernel), PortReads, if_neg (by decide +kernel)]
    rintro ⟨n, hnumeral, -, hmax⟩
    have hvalue : decimalValue (ascii "65979") = 65979 := by decide +kernel
    rw [hnumeral.value] at hvalue
    omega

end AsyncNetworkClient

end TradeBot
