import TradeBot.Network.Urls

/-!
# Hosts in strict loopback-only mode

Which hosts are dialled under TLS when only the loopback is allowed, and exactly for which URLs
they are hosts of the loopback.
-/

namespace TradeBot

open Library

namespace AsyncNetworkClient

/-- The decimal text of a number. -/
def decimalText (n : ℕ) : Bytes := ascii (toString n)

/-- A dotted quad of `127.0.0.0/8`. -/
def IsLoopbackQuad (host : Bytes) : Prop :=
  ∃ b ≤ 255, ∃ c ≤ 255, ∃ d ≤ 255, host =
    ascii "127." ++ decimalText b ++ ascii "." ++ decimalText c ++ ascii "." ++ decimalText d

/-- A host of the loopback. -/
def IsLoopback (host : Bytes) : Prop :=
  host = ascii "localhost" ∨ host = ascii "::1" ∨ IsLoopbackQuad host

/-- The settings of strict loopback-only mode. -/
def strictLoopback : TlsPolicy where
  strictValidation := true
  intranetLoopbackOnly := true

/-- Connections and queries under TLS are dialled to hosts of the loopback only. -/
def LoopbackEnforced (url : Bytes) : Prop :=
  ∀ host port,
    (connectWebSocket strictLoopback url = .ok (.dials host port true) → IsLoopback host) ∧
      (issueRestQuery strictLoopback url = .ok (.dials host port true) → IsLoopback host)

/-- The host of an authority, the port of which is read if there is one. -/
def HostOf (authority host : Bytes) : Prop :=
  byteOf ':' ∉ host ∧ (authority = host ∨ ∃ port value, authority = host ++ byteOf ':' :: port ∧
    BeginsWithInteger port value ∧ -2 ^ 31 ≤ value ∧ value < 2 ^ 31)

/-- What the code takes for a loopback host. -/
theorem isLoopbackHost_iff {host : Bytes} :
    isLoopbackHost host = true ↔
      host = ascii "localhost" ∨ host = ascii "::1" ∨ ascii "127." <+: host := by
  have hbegins : ascii "127." <+: host ↔ 4 ≤ host.length ∧ host.take 4 = ascii "127." := by
    rw [List.prefix_iff_eq_take]
    constructor
    · intro h
      have hlength := congrArg List.length h
      rw [List.length_take] at hlength
      change 4 = min 4 _ at hlength
      exact ⟨by omega, h.symm⟩
    · exact fun h => h.2.symm
  have hfirst : ascii "127." <+: ascii "127.0.0.1" := by decide
  unfold isLoopbackHost
  split
  · next h =>
    refine iff_of_true rfl ?_
    rcases h with h | h | h
    · exact Or.inl h
    · exact Or.inr (Or.inr (h ▸ hfirst))
    · exact Or.inr (Or.inl h)
  · next h =>
    rw [decide_eq_true_iff, ← hbegins]
    simp only [not_or] at h
    exact ⟨fun hquad => Or.inr (Or.inr hquad),
      fun hany => (hany.resolve_left h.1).resolve_left h.2.2⟩

/-- A loopback address begins with `127.`. -/
theorem isLoopback_of_quad {host : Bytes} (h : IsLoopbackQuad host) : ascii "127." <+: host := by
  obtain ⟨b, -, c, -, d, -, rfl⟩ := h
  simp only [List.append_assoc]
  exact List.prefix_append _ _

/-- The hosts that `parseUrl` finds. -/
theorem parseUrl_host {url scheme authority remainder : Bytes}
    (h : UrlParts url scheme authority remainder) {host : Bytes} :
    (∃ parsed, parseUrl url = .ok parsed ∧ parsed.host = host) ↔ HostOf authority host := by
  rcases exists_span (byteOf ':') authority with ⟨hplain, -⟩ | ⟨front, text, hfront, rfl, -⟩
  · have hparse : parseUrl url = .ok (ofParts scheme authority (schemePort scheme) remainder) := by
      rw [parseUrl_of_parts h, hostAndPort_plain hplain]
      rfl
    constructor
    · rintro ⟨parsed, hok, rfl⟩
      rw [hparse] at hok
      cases hok
      exact ⟨hplain, Or.inl rfl⟩
    · rintro ⟨-, rfl | ⟨port, value, rfl, -⟩⟩
      · exact ⟨_, hparse, rfl⟩
      · exact (hplain (List.mem_append_right _ List.mem_cons_self)).elim
  · have hparse : parseUrl url = (stoi text).map fun value =>
        ofParts scheme front (UInt16.ofInt value) remainder := by
      rw [parseUrl_of_parts h, hostAndPort_colon hfront]
      cases stoi text <;> rfl
    constructor
    · rintro ⟨parsed, hok, rfl⟩
      rw [hparse] at hok
      cases hvalue : stoi text with
      | error error =>
        rw [hvalue] at hok
        cases hok
      | ok value =>
        rw [hvalue] at hok
        cases hok
        exact ⟨hfront, Or.inr ⟨text, value, rfl, stoi_eq_ok_iff.mp hvalue⟩⟩
    · rintro ⟨hhost, rfl | ⟨port, value, heq, hvalue⟩⟩
      · exact (hhost (List.mem_append_right _ List.mem_cons_self)).elim
      · obtain ⟨rfl, rfl⟩ := port_injective hfront hhost heq
        rw [hparse, stoi_eq_ok_iff.mpr hvalue]
        exact ⟨_, rfl, rfl⟩

/-- The scheme and the flags of a URL that is parsed. -/
theorem parseUrl_fields {url scheme authority remainder : Bytes}
    (h : UrlParts url scheme authority remainder) {parsed : ParsedUrl}
    (hok : parseUrl url = .ok parsed) :
    ∃ host port, parsed = ofParts scheme host port remainder := by
  rw [parseUrl_of_parts h] at hok
  cases hread : hostAndPort scheme authority with
  | error error =>
    rw [hread] at hok
    cases hok
  | ok pair =>
    rw [hread] at hok
    cases hok
    exact ⟨_, _, rfl⟩

/-- A mock is not under TLS. -/
theorem not_mock_of_tls {scheme : Bytes} (h : isTlsScheme scheme = true) :
    scheme ≠ ascii "mock" := by
  rintro rfl
  revert h
  decide

/-- The check that both ways of dialling make. -/
theorem passes_check {parsed : ParsedUrl} {refused : Attempt} {host : Bytes} {port : UInt16}
    (hrefused : ∀ h p, refused ≠ .dials h p true)
    (h : (if parsed.tls && strictLoopback.strictValidation && strictLoopback.intranetLoopbackOnly &&
      !isLoopbackHost parsed.host then refused
      else .dials parsed.host parsed.port parsed.tls) = .dials host port true) :
    parsed.tls = true ∧ parsed.host = host ∧ isLoopbackHost host = true := by
  split at h
  · exact (hrefused _ _ h).elim
  · next hpass =>
    injection h with hhost hport htls
    subst hhost
    refine ⟨htls, rfl, ?_⟩
    rw [htls] at hpass
    simpa [strictLoopback] using hpass

/-- What is dialled under TLS has passed the check. -/
theorem passed_of_dials {url host : Bytes} {port : UInt16}
    (h : connectWebSocket strictLoopback url = .ok (.dials host port true) ∨
      issueRestQuery strictLoopback url = .ok (.dials host port true)) :
    ∃ parsed, parseUrl url = .ok parsed ∧ parsed.valid = true ∧ parsed.tls = true ∧
      parsed.host = host ∧ isLoopbackHost host = true := by
  unfold connectWebSocket issueRestQuery at h
  cases hparse : parseUrl url with
  | error error =>
    rw [hparse] at h
    rcases h with h | h <;> cases h
  | ok parsed =>
    rw [hparse] at h
    refine ⟨parsed, rfl, ?_⟩
    cases hvalid : parsed.valid with
    | false =>
      rcases h with h | h
      · simp [Except.map, hvalid] at h
      · simp [Except.map, hvalid] at h
    | true =>
      refine ⟨rfl, ?_⟩
      rcases h with h | h
      · simp only [Except.map, hvalid, Bool.not_true, Bool.false_eq_true, if_false,
          Except.ok.injEq, connectWebSocketInternal] at h
        split at h
        · cases h
        · exact passes_check (fun _ _ => by simp) h
      · simp only [Except.map, hvalid, Bool.not_true, Bool.false_eq_true, if_false,
          Except.ok.injEq] at h
        exact passes_check (fun _ _ => by simp) h

/-- What is dialled under TLS in strict loopback-only mode. -/
theorem loopbackEnforced_of_parts {url scheme authority remainder : Bytes}
    (h : UrlParts url scheme authority remainder) :
    LoopbackEnforced url ↔ (isTlsScheme scheme = true → ∀ host, HostOf authority host →
      host ≠ [] → isLoopbackHost host = true → IsLoopback host) := by
  constructor
  · intro henforced htls host hhost hsome hloopback
    obtain ⟨parsed, hok, hparsed⟩ := (parseUrl_host h).mpr hhost
    obtain ⟨host', port, rfl⟩ := parseUrl_fields h hok
    obtain rfl : host' = host := hparsed
    have hdials : issueRestQuery strictLoopback url = .ok (.dials host' port true) := by
      unfold issueRestQuery
      rw [hok]
      simp [Except.map, ofParts, htls, hloopback, hsome]
    exact (henforced host' port).2 hdials
  · intro hall
    have hdialled {host : Bytes} {port : UInt16}
        (hdials : connectWebSocket strictLoopback url = .ok (.dials host port true) ∨
          issueRestQuery strictLoopback url = .ok (.dials host port true)) : IsLoopback host := by
      obtain ⟨parsed, hok, -, htls, rfl, hloopback⟩ := passed_of_dials hdials
      have hhost := (parseUrl_host h).mp ⟨parsed, hok, rfl⟩
      obtain ⟨host, port, rfl⟩ := parseUrl_fields h hok
      refine hall htls _ hhost ?_ hloopback
      intro hempty
      rw [hempty] at hloopback
      revert hloopback
      decide
    exact fun host port =>
      ⟨fun hdials => hdialled (Or.inl hdials), fun hdials => hdialled (Or.inr hdials)⟩

/-- **Exactly where only the loopback is dialled.** For every URL in strict loopback-only mode,
connections and queries under TLS go to the loopback only, unless the host, in a URL that is read,
begins with `127.` without being a dotted quad. -/
theorem loopbackEnforced_iff (url : Bytes) :
    LoopbackEnforced url ↔ ∀ scheme authority remainder host,
      UrlParts url scheme authority remainder → scheme = ascii "wss" ∨ scheme = ascii "https" →
        HostOf authority host → ascii "127." <+: host → IsLoopbackQuad host := by
  have htls {scheme : Bytes} :
      isTlsScheme scheme = true ↔ scheme = ascii "wss" ∨ scheme = ascii "https" := by
    rw [isTlsScheme, Bool.or_eq_true, decide_eq_true_iff, decide_eq_true_iff]
  have hquad {host : Bytes} (hbegins : ascii "127." <+: host) :
      host ≠ [] ∧ (IsLoopback host ↔ IsLoopbackQuad host) := by
    have hlocal : ¬ascii "127." <+: ascii "localhost" := by decide
    have hsix : ¬ascii "127." <+: ascii "::1" := by decide
    refine ⟨?_, ?_, fun h => Or.inr (Or.inr h)⟩
    · rintro rfl
      revert hbegins
      decide
    · rintro (rfl | rfl | h)
      · exact (hlocal hbegins).elim
      · exact (hsix hbegins).elim
      · exact h
  rcases urlParts_or_invalid url with ⟨scheme, authority, remainder, h⟩ | ⟨hnone, hparse⟩
  · rw [loopbackEnforced_of_parts h]
    constructor
    · intro hall scheme' authority' remainder' host h' hscheme hhost hbegins
      obtain ⟨rfl, rfl, -⟩ := h.unique h'
      obtain ⟨hsome, hiff⟩ := hquad hbegins
      exact hiff.mp (hall (htls.mpr hscheme) host hhost hsome
        (isLoopbackHost_iff.mpr (Or.inr (Or.inr hbegins))))
    · intro hall hscheme host hhost _ hloopback
      rcases isLoopbackHost_iff.mp hloopback with hlocal | hsix | hbegins
      · exact Or.inl hlocal
      · exact Or.inr (Or.inl hsix)
      · exact Or.inr (Or.inr (hall _ _ _ host h (htls.mp hscheme) hhost hbegins))
  · constructor
    · intro _ scheme authority remainder host h
      exact (hnone _ _ _ h).elim
    · intro _ host port
      have hnot : ¬(connectWebSocket strictLoopback url = .ok (.dials host port true) ∨
          issueRestQuery strictLoopback url = .ok (.dials host port true)) := by
        intro hdials
        obtain ⟨parsed, hok, hvalid, -⟩ := passed_of_dials hdials
        rw [hparse] at hok
        cases hok
        cases hvalid
      exact ⟨fun h => (hnot (Or.inl h)).elim, fun h => (hnot (Or.inr h)).elim⟩

/-- A name that begins like the loopback is dialled. -/
theorem loopbackEnforced_fails :
    connectWebSocket strictLoopback (ascii "wss://127.evil.example/ws") =
        .ok (.dials (ascii "127.evil.example") 443 true) ∧
      ¬IsLoopback (ascii "127.evil.example") ∧
      ¬LoopbackEnforced (ascii "wss://127.evil.example/ws") := by
  have hdials : connectWebSocket strictLoopback (ascii "wss://127.evil.example/ws") =
      .ok (.dials (ascii "127.evil.example") 443 true) := by decide +kernel
  have hoctet : ∀ n ≤ 255, byteOf 'e' ∉ decimalText n := by decide +kernel
  have hdots : byteOf 'e' ∉ ascii "127." ∧ byteOf 'e' ∉ ascii "." := by decide +kernel
  have hother : ¬IsLoopback (ascii "127.evil.example") := by
    rintro (h | h | ⟨b, hb, c, hc, d, hd, h⟩)
    · revert h
      decide +kernel
    · revert h
      decide +kernel
    · -- no letter stands in a dotted quad
      have hmem : byteOf 'e' ∈ ascii "127.evil.example" := by decide +kernel
      rw [h] at hmem
      simp only [List.mem_append, hdots.1, hdots.2, hoctet b hb, hoctet c hc, hoctet d hd,
        or_self] at hmem
  exact ⟨hdials, hother, fun h => hother ((h _ 443).1 hdials)⟩

end AsyncNetworkClient

end TradeBot
