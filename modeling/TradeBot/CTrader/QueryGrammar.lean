import Mathlib.Data.List.Nodup
import Mathlib.Data.List.Perm.Basic
import Mathlib.Data.List.Perm.Subperm
import TradeBot.CTrader.CorrelationOnce
import TradeBot.Library.Fallible
import TradeBot.Library.FormEncoding
import TradeBot.Library.TextCuts

/-!
# The grammar of callback queries

Exactly which byte strings the correlation guard takes for a callback, as a grammar of their
parameters, and that the order of the parameters does not matter.
-/

namespace TradeBot

open Library

namespace CTraderOAuthCorrelationGuard

section Encoding

/-- The test for a hexadecimal character decides whether it has a value. -/
theorem isHex_iff {c : UInt8} : isHex c = true ↔ ∃ value, HexDigit c value := by
  have hdigit : isHex c = true ↔ (0x30 ≤ c.toNat ∧ c.toNat ≤ 0x39) ∨
      (0x61 ≤ c.toNat ∧ c.toNat ≤ 0x66) ∨ (0x41 ≤ c.toNat ∧ c.toNat ≤ 0x46) := by
    unfold isHex
    rw [Bool.or_eq_true, Bool.or_eq_true, decide_eq_true_iff, decide_eq_true_iff,
      decide_eq_true_iff, or_assoc]
    exact Iff.rfl
  rw [hdigit]
  constructor
  · rintro (h | h | h)
    · exact ⟨c.toNat - 0x30, by unfold HexDigit; omega⟩
    · exact ⟨c.toNat - 0x61 + 10, by unfold HexDigit; omega⟩
    · exact ⟨c.toNat - 0x41 + 10, by unfold HexDigit; omega⟩
  · rintro ⟨value, h⟩
    unfold HexDigit at h
    omega

/-- `hasValidEncoding` decides the grammar of percent-encoded text. -/
theorem hasValidEncoding_iff {text : Bytes} : hasValidEncoding text = true ↔ WellEncoded text := by
  constructor
  · intro h
    fun_induction hasValidEncoding text with
    | case1 => exact .nil
    | case2 => cases h
    | case3 first second rest hcontrol ih =>
      simp only [Bool.and_eq_true] at h
      obtain ⟨⟨hfirst, hsecond⟩, hrest⟩ := h
      obtain ⟨v, hv⟩ := isHex_iff.mp hfirst
      obtain ⟨w, hw⟩ := isHex_iff.mp hsecond
      exact .escape hv hw (ih hrest)
    | case4 => cases h
    | case5 c rest hcontrol hpercent ih =>
      rw [not_or, UInt8.not_lt] at hcontrol
      exact .plain hcontrol.1 hcontrol.2 hpercent (ih h)
  · intro h
    induction h with
    | nil => rfl
    | plain hlow hdelete hpercent _ ih =>
      rw [hasValidEncoding.eq_def]
      dsimp only
      rw [if_neg (not_or.mpr ⟨UInt8.not_lt.mpr hlow, hdelete⟩), if_neg hpercent]
      exact ih
    | escape hhigh hlow _ ih =>
      rw [hasValidEncoding.eq_def]
      dsimp only
      rw [if_neg (by decide), if_pos rfl, isHex_iff.mpr ⟨_, hhigh⟩, isHex_iff.mpr ⟨_, hlow⟩, ih]
      rfl

end Encoding

section Parameters

/-- A spelled parameter is split at its first `=`, which is not part of the name. -/
theorem span_spelled {name value : Bytes} (hname : byteOf '=' ∉ name) :
    (spelled name value).span (· != byteOf '=') = (name, byteOf '=' :: value) :=
  span_of_first hname

/-- So it is cut into the name and value that it was spelled from. -/
theorem cutParameter_spelled {name value : Bytes} (hempty : name ≠ []) (hname : byteOf '=' ∉ name) :
    cutParameter (spelled name value) = some (name, value) := by
  unfold cutParameter
  rw [span_spelled hname]
  cases name with
  | nil => exact (hempty rfl).elim
  | cons c name => rfl

/-- Cutting succeeds on spelled parameters with a name, and on no others. -/
theorem cutParameter_eq_some_iff {parameter name value : Bytes} :
    cutParameter parameter = some (name, value) ↔
      parameter = spelled name value ∧ name ≠ [] ∧ byteOf '=' ∉ name := by
  constructor
  · intro h
    obtain ⟨hspelled, hname⟩ := cutParameter_eq_some h
    refine ⟨hspelled, ?_, hname⟩
    rintro rfl
    rw [hspelled] at h
    cases h
  · rintro ⟨rfl, hempty, hname⟩
    exact cutParameter_spelled hempty hname

/-- A parameter whose name and value a callback may have. -/
structure ReadableParameter (p : Bytes × Bytes) : Prop where
  named : p.1 ≠ []
  plain : byteOf '=' ∉ p.1
  encodedName : WellEncoded p.1
  encodedValue : WellEncoded p.2
  given : p.1 = ascii "code" ∨ p.1 = ascii "state" ∨ p.1 = ascii "error" → p.2 ≠ []

/-- The scan with one more parameter. -/
def QueryScan.take (scan : QueryScan) (p : Bytes × Bytes) : QueryScan where
  names := scan.names ++ [p.1]
  hasCode := scan.hasCode || decide (p.1 = ascii "code")
  hasError := scan.hasError || decide (p.1 = ascii "error")
  state := if p.1 = ascii "state" then p.2 else scan.state

/-- Exactly when a turn of the loop takes a parameter with a name and a value. -/
private theorem scanParameter_spelled {scan scan' : QueryScan} {p : Bytes × Bytes}
    (hempty : p.1 ≠ []) (hplain : byteOf '=' ∉ p.1)
    (hmany : scan.names.length ≠ maxQueryParameters) :
    scanParameter scan (spelled p.1 p.2) = .ok scan' ↔
      ReadableParameter p ∧ p.1 ∉ scan.names ∧ scan' = scan.take p := by
  have hreadable : ReadableParameter p ↔ hasValidEncoding p.1 = true ∧
      hasValidEncoding p.2 = true ∧
        (p.1 = ascii "code" ∨ p.1 = ascii "state" ∨ p.1 = ascii "error" → p.2 ≠ []) := by
    rw [hasValidEncoding_iff, hasValidEncoding_iff]
    constructor
    · intro h
      exact ⟨h.encodedName, h.encodedValue, h.given⟩
    · rintro ⟨hname, hvalue, hgiven⟩
      exact ⟨hempty, hplain, hname, hvalue, hgiven⟩
  have hstate : ascii "state" ≠ ascii "code" := by decide
  have herror : ascii "error" ≠ ascii "code" := by decide
  have herror' : ascii "error" ≠ ascii "state" := by decide
  rw [hreadable]
  clear hreadable
  unfold scanParameter QueryScan.take
  rw [if_neg hmany, cutParameter_spelled hempty hplain]
  dsimp only
  -- only that the three names differ matters
  generalize ascii "code" = codeName at *
  generalize ascii "error" = errorName at *
  generalize ascii "state" = stateName at *
  cases hasValidEncoding p.1 with
  | false => simp
  | true =>
    cases hasValidEncoding p.2 with
    | false => simp
    | true =>
      by_cases hfresh : p.1 ∈ scan.names
      · simp [hfresh]
      · rcases eq_or_ne p.1 codeName with rfl | hcode
        · cases p.2 <;> simp [hfresh, hstate.symm, herror.symm, eq_comm]
        · rcases eq_or_ne p.1 stateName with rfl | hstate
          · cases p.2 <;> simp [hfresh, hcode, herror'.symm, eq_comm]
          · rcases eq_or_ne p.1 errorName with rfl | herror
            · cases p.2 <;> simp [hfresh, hcode, hstate, eq_comm]
            · simp [hfresh, hcode, hstate, herror, eq_comm]

/-- Exactly when a turn of the loop goes on, and with what. -/
theorem scanParameter_eq_ok_iff {scan scan' : QueryScan} {parameter : Bytes} :
    scanParameter scan parameter = .ok scan' ↔
      scan.names.length ≠ maxQueryParameters ∧ ∃ p : Bytes × Bytes,
        parameter = spelled p.1 p.2 ∧ ReadableParameter p ∧ p.1 ∉ scan.names ∧
          scan' = scan.take p := by
  constructor
  · intro h
    have hmany : scan.names.length ≠ maxQueryParameters := by
      intro hmany
      unfold scanParameter at h
      rw [if_pos hmany] at h
      cases h
    obtain ⟨p, hcut⟩ : ∃ p, cutParameter parameter = some p := by
      rw [← Option.ne_none_iff_exists']
      intro hnone
      unfold scanParameter at h
      rw [if_neg hmany, hnone] at h
      cases h
    obtain ⟨rfl, hempty, hplain⟩ := cutParameter_eq_some_iff.mp hcut
    exact ⟨hmany, p, rfl, (scanParameter_spelled hempty hplain hmany).mp h⟩
  · rintro ⟨hmany, p, rfl, htaken⟩
    exact (scanParameter_spelled htaken.1.named htaken.1.plain hmany).mpr htaken

/-- Parameters that the loop can take one after the other. -/
structure Parameters (parameters : List (Bytes × Bytes)) : Prop where
  readable : ∀ p ∈ parameters, ReadableParameter p
  distinct : (parameters.map Prod.fst).Nodup
  many : parameters.length ≤ maxQueryParameters

/-- The pieces of a query that spells parameters. -/
def pieces (parameters : List (Bytes × Bytes)) : List Bytes :=
  parameters.map fun p => spelled p.1 p.2

/-- What the loop has seen after parameters. -/
def scanned (parameters : List (Bytes × Bytes)) : QueryScan := parameters.foldl QueryScan.take {}

/-- Scanning one more parameter is one more step of the scan. -/
theorem scanned_append (parameters : List (Bytes × Bytes)) (p : Bytes × Bytes) :
    scanned (parameters ++ [p]) = (scanned parameters).take p := by
  rw [scanned, List.foldl_append]
  rfl

/-- The scan keeps every name it has seen, in order. -/
@[simp] theorem names_scanned (parameters : List (Bytes × Bytes)) :
    (scanned parameters).names = parameters.map Prod.fst := by
  induction parameters using List.reverseRecOn with
  | nil => rfl
  | append_singleton parameters p ih =>
    rw [scanned_append, List.map_append, ← ih]
    rfl

/-- A list of parameters is grown by a readable one of a new name while there is room for it. -/
theorem parameters_append {parameters : List (Bytes × Bytes)} {p : Bytes × Bytes} :
    Parameters (parameters ++ [p]) ↔ Parameters parameters ∧ ReadableParameter p ∧
      p.1 ∉ parameters.map Prod.fst ∧ parameters.length ≠ maxQueryParameters := by
  constructor
  · intro h
    have hdistinct := h.distinct
    have hmany := h.many
    rw [List.map_append, List.nodup_append] at hdistinct
    rw [List.length_append, List.length_singleton] at hmany
    refine ⟨⟨?_, hdistinct.1, by omega⟩, ?_, ?_, by omega⟩
    · exact fun q hq => h.readable q (List.mem_append_left _ hq)
    · exact h.readable p (List.mem_append_right _ List.mem_cons_self)
    · intro hmem
      exact hdistinct.2.2 _ hmem _ List.mem_cons_self rfl
  · rintro ⟨h, hp, hfresh, hmany⟩
    refine ⟨?_, ?_, ?_⟩
    · intro q hq
      rcases List.mem_append.mp hq with hq | hq
      · exact h.readable q hq
      · rw [List.mem_singleton.mp hq]
        exact hp
    · rw [List.map_append, List.nodup_append]
      refine ⟨h.distinct, List.nodup_singleton _, fun name hname other hother heq => ?_⟩
      rw [heq, List.mem_singleton.mp hother] at hname
      exact hfresh hname
    · have hlength := h.many
      rw [List.length_append, List.length_singleton]
      omega

/-- The loop goes through exactly the pieces that spell such parameters. -/
theorem foldlM_eq_ok_iff {texts : List Bytes} {scan : QueryScan} :
    texts.foldlM scanParameter {} = .ok scan ↔
      ∃ parameters, Parameters parameters ∧ texts = pieces parameters ∧
        scan = scanned parameters := by
  induction texts using List.reverseRecOn generalizing scan with
  | nil =>
    constructor
    · intro h
      cases h
      exact ⟨[], ⟨by simp, by simp, Nat.zero_le _⟩, rfl, rfl⟩
    · rintro ⟨parameters, -, htexts, rfl⟩
      rw [List.map_eq_nil_iff.mp htexts.symm]
      rfl
  | append_singleton texts text ih =>
    have hfold : (texts ++ [text]).foldlM scanParameter {} = .ok scan ↔
        ∃ before, texts.foldlM scanParameter {} = .ok before ∧
          scanParameter before text = .ok scan := by
      rw [List.foldlM_append, bind_eq_ok]
      simp only [List.foldlM_cons, List.foldlM_nil, bind_pure]
    rw [hfold]
    constructor
    · rintro ⟨before, hbefore, hstep⟩
      obtain ⟨parameters, hparameters, rfl, rfl⟩ := ih.mp hbefore
      obtain ⟨hmany, p, rfl, hp, hfresh, rfl⟩ := scanParameter_eq_ok_iff.mp hstep
      rw [names_scanned] at hmany hfresh
      rw [List.length_map] at hmany
      refine ⟨parameters ++ [p], parameters_append.mpr ⟨hparameters, hp, hfresh, hmany⟩, ?_,
        (scanned_append parameters p).symm⟩
      rw [pieces, pieces, List.map_append]
      rfl
    · rintro ⟨parameters, hparameters, htexts, rfl⟩
      induction parameters using List.reverseRecOn with
      | nil => simp [pieces] at htexts
      | append_singleton parameters p _ =>
        rw [pieces, List.map_append] at htexts
        obtain ⟨rfl, htext⟩ := List.append_inj' htexts rfl
        obtain ⟨hparameters, hp, hfresh, hmany⟩ := parameters_append.mp hparameters
        refine ⟨scanned parameters, ih.mpr ⟨parameters, hparameters, rfl, rfl⟩, ?_⟩
        rw [scanParameter_eq_ok_iff, names_scanned, List.length_map]
        injection htext with htext
        exact ⟨hmany, p, htext, hp, hfresh, scanned_append parameters p⟩

end Parameters

section Grammar

/-- **The grammar of callback queries**: parameters between `&` signs, each a name and a value cut
at the first equals sign. -/
structure CallbackQuery (query : Bytes) (parameters : List (Bytes × Bytes)) : Prop where
  text : query = [byteOf '&'].intercalate (pieces parameters)
  start : query.head? ≠ some (byteOf '?')
  stop : query.getLast? ≠ some (byteOf '&')
  few : 2 ≤ parameters.length
  many : parameters.length ≤ 16
  named : ∀ p ∈ parameters, p.1 ≠ []
  cut : ∀ p ∈ parameters, byteOf '=' ∉ p.1 ∧ byteOf '&' ∉ p.1 ∧ byteOf '&' ∉ p.2
  encoded : ∀ p ∈ parameters, WellEncoded p.1 ∧ WellEncoded p.2
  distinct : (parameters.map Prod.fst).Nodup
  code : ∃ value ≠ [], (ascii "code", value) ∈ parameters
  state : ∃ value ≠ [], (ascii "state", value) ∈ parameters
  noError : ascii "error" ∉ parameters.map Prod.fst

/-- Where `parseQuery` matches. -/
theorem parseQuery_matched {query : Bytes} :
    (parseQuery query).decision = .correlationMatchedCodeDiscarded ↔
      query ≠ [] ∧ query.head? ≠ some (byteOf '?') ∧ query.getLast? ≠ some (byteOf '&') ∧
        ∃ scan, (query.splitOn (byteOf '&')).foldlM scanParameter {} = .ok scan ∧
          scan.hasError = false ∧ scan.state ≠ [] ∧ scan.hasCode = true := by
  have hguard : (query.isEmpty || query.head? == some (byteOf '?') ||
      query.getLast? == some (byteOf '&')) = true ↔
        ¬(query ≠ [] ∧ query.head? ≠ some (byteOf '?') ∧
          query.getLast? ≠ some (byteOf '&')) := by
    simp only [Bool.or_eq_true, List.isEmpty_iff, beq_iff_eq]
    tauto
  unfold parseQuery
  by_cases h : query ≠ [] ∧ query.head? ≠ some (byteOf '?') ∧ query.getLast? ≠ some (byteOf '&')
  · rw [if_neg (fun hg => hguard.mp hg h)]
    cases hfold : (query.splitOn (byteOf '&')).foldlM scanParameter {} with
    | error decision =>
      simpa using foldlM_error hfold
    | ok scan =>
      simp only [Except.ok.injEq, exists_eq_left', h.1, h.2.1, h.2.2, ne_eq, not_false_eq_true,
        true_and]
      cases scan.hasError <;> cases hcode : scan.hasCode <;> cases hstate : scan.state <;> simp
  · rw [if_pos (hguard.mpr h)]
    constructor
    · intro hmatched
      cases hmatched
    · rintro ⟨hempty, hstart, hstop, -⟩
      exact (h ⟨hempty, hstart, hstop⟩).elim

/-- The flags that the loop has set. -/
theorem flags_scanned (parameters : List (Bytes × Bytes)) :
    ((scanned parameters).hasCode = true ↔ ascii "code" ∈ parameters.map Prod.fst) ∧
      ((scanned parameters).hasError = true ↔ ascii "error" ∈ parameters.map Prod.fst) := by
  induction parameters using List.reverseRecOn with
  | nil => simp [scanned]
  | append_singleton parameters p ih =>
    have hlast (name : Bytes) :
        name ∈ (parameters ++ [p]).map Prod.fst ↔ name ∈ parameters.map Prod.fst ∨ p.1 = name := by
      rw [List.map_append, List.mem_append, List.map_cons, List.map_nil, List.mem_singleton,
        eq_comm (a := name)]
    rw [scanned_append, hlast, hlast, ← ih.1, ← ih.2, QueryScan.take, Bool.or_eq_true,
      decide_eq_true_iff, Bool.or_eq_true, decide_eq_true_iff]
    exact ⟨Iff.rfl, Iff.rfl⟩

/-- The separators in a spelled parameter are those of its name and its value. -/
theorem separator_mem_spelled {name value : Bytes} :
    byteOf '&' ∈ spelled name value ↔ byteOf '&' ∈ name ∨ byteOf '&' ∈ value := by
  unfold spelled
  rw [List.mem_append, List.mem_cons]
  exact or_congr_right ⟨fun h => h.resolve_left (by decide), Or.inr⟩

/-- Joined pieces are split where they were joined, when none of them has a `&`. -/
theorem splitOn_pieces {parameters : List (Bytes × Bytes)} (hsome : parameters ≠ [])
    (hplain : ∀ p ∈ parameters, byteOf '&' ∉ p.1 ∧ byteOf '&' ∉ p.2) :
    ([byteOf '&'].intercalate (pieces parameters)).splitOn (byteOf '&') = pieces parameters := by
  apply List.splitOn_intercalate
  · intro text htext hmem
    obtain ⟨p, hp, rfl⟩ := List.mem_map.mp htext
    rcases separator_mem_spelled.mp hmem with h | h
    · exact (hplain p hp).1 h
    · exact (hplain p hp).2 h
  · exact fun h => hsome (List.map_eq_nil_iff.mp h)

/-- The pieces of a query of the grammar. -/
theorem CallbackQuery.splitOn {query : Bytes} {parameters : List (Bytes × Bytes)}
    (h : CallbackQuery query parameters) : query.splitOn (byteOf '&') = pieces parameters := by
  rw [h.text]
  apply splitOn_pieces
  · rintro rfl
    exact absurd h.few (by decide)
  · exact fun p hp => (h.cut p hp).2

/-- The loop takes the parameters of a query of the grammar. -/
theorem CallbackQuery.parameters {query : Bytes} {parameters : List (Bytes × Bytes)}
    (h : CallbackQuery query parameters) : Parameters parameters := by
  refine ⟨fun p hp => ?_, h.distinct, h.many⟩
  refine ⟨h.named p hp, (h.cut p hp).1, (h.encoded p hp).1, (h.encoded p hp).2, ?_⟩
  -- the value of a name that occurs once
  have hvalue {name : Bytes} (hgiven : ∃ value ≠ [], (name, value) ∈ parameters)
      (hname : p.1 = name) : p.2 ≠ [] := by
    obtain ⟨value, hvalue, hmem⟩ := hgiven
    rwa [List.inj_on_of_nodup_map h.distinct hp hmem hname]
  rintro (hcode | hstate | herror)
  · exact hvalue h.code hcode
  · exact hvalue h.state hstate
  · exact (h.noError (herror ▸ List.mem_map_of_mem hp)).elim

/-- Parameters that the loop takes up to a match. -/
theorem callbackQuery_of_parameters {query : Bytes} {parameters : List (Bytes × Bytes)}
    (hstart : query.head? ≠ some (byteOf '?')) (hstop : query.getLast? ≠ some (byteOf '&'))
    (hparameters : Parameters parameters) (hpieces : query.splitOn (byteOf '&') = pieces parameters)
    (hcode : ascii "code" ∈ parameters.map Prod.fst)
    (hstate : ascii "state" ∈ parameters.map Prod.fst)
    (herror : ascii "error" ∉ parameters.map Prod.fst) : CallbackQuery query parameters where
  text := by rw [← hpieces, List.intercalate_splitOn]
  start := hstart
  stop := hstop
  few := by
    have hnodup : [ascii "code", ascii "state"].Nodup := by decide
    have hsub : [ascii "code", ascii "state"] ⊆ parameters.map Prod.fst := by
      simp [hcode, hstate]
    simpa using (hnodup.subperm hsub).length_le
  many := hparameters.many
  named := fun p hp => (hparameters.readable p hp).named
  cut := fun p hp => by
    have hplain : byteOf '&' ∉ spelled p.1 p.2 := by
      have hpiece : spelled p.1 p.2 ∈ query.splitOn (byteOf '&') := by
        rw [hpieces]
        exact List.mem_map_of_mem (f := fun p => spelled p.1 p.2) hp
      exact notMem_of_mem_splitOn hpiece
    rw [separator_mem_spelled, not_or] at hplain
    exact ⟨(hparameters.readable p hp).plain, hplain⟩
  encoded := fun p hp => ⟨(hparameters.readable p hp).encodedName,
    (hparameters.readable p hp).encodedValue⟩
  distinct := hparameters.distinct
  code := by
    obtain ⟨p, hp, hname⟩ := List.mem_map.mp hcode
    exact ⟨p.2, (hparameters.readable p hp).given (.inl hname), hname ▸ hp⟩
  state := by
    obtain ⟨p, hp, hname⟩ := List.mem_map.mp hstate
    exact ⟨p.2, (hparameters.readable p hp).given (.inr (.inl hname)), hname ▸ hp⟩
  noError := herror

/-- A query is accepted exactly when it is a callback query of the grammar. -/
theorem parseQuery_matched_iff {query : Bytes} :
    (parseQuery query).decision = .correlationMatchedCodeDiscarded ↔
      ∃ parameters, CallbackQuery query parameters := by
  rw [parseQuery_matched]
  constructor
  · rintro ⟨-, hstart, hstop, scan, hfold, herror, hstate, hcode⟩
    obtain ⟨parameters, hparameters, hpieces, rfl⟩ := foldlM_eq_ok_iff.mp hfold
    have hnamed := (scanned_of_foldlM hfold).named.mpr hstate
    rw [names_scanned] at hnamed
    refine ⟨parameters, callbackQuery_of_parameters hstart hstop hparameters hpieces
      ((flags_scanned parameters).1.mp hcode) hnamed ?_⟩
    rw [← (flags_scanned parameters).2, herror]
    exact Bool.false_ne_true
  · rintro ⟨parameters, h⟩
    have hfold := foldlM_eq_ok_iff.mpr ⟨parameters, h.parameters, h.splitOn, rfl⟩
    have hmem {name : Bytes} (hgiven : ∃ value ≠ [], (name, value) ∈ parameters) :
        name ∈ parameters.map Prod.fst := by
      obtain ⟨value, -, hvalue⟩ := hgiven
      exact List.mem_map_of_mem (f := Prod.fst) hvalue
    refine ⟨?_, h.start, h.stop, _, hfold, ?_, ?_, (flags_scanned parameters).1.mpr (hmem h.code)⟩
    · rintro rfl
      have hfew := h.few
      have hone := congrArg List.length h.splitOn
      rw [pieces, List.length_map, List.splitOn_nil, List.length_singleton] at hone
      omega
    · rw [← Bool.not_eq_true, (flags_scanned parameters).2]
      exact h.noError
    · apply (scanned_of_foldlM hfold).named.mp
      rw [names_scanned]
      exact hmem h.state

end Grammar

section Order

/-- The value of a state parameter is the state that `parseQuery` reports. -/
theorem CallbackQuery.state_iff {query : Bytes} {parameters : List (Bytes × Bytes)}
    (h : CallbackQuery query parameters) (value : Bytes) :
    (ascii "state", value) ∈ parameters ↔ value = (parseQuery query).state := by
  rw [← parseQuery_state (parseQuery_matched_iff.mpr ⟨parameters, h⟩), h.splitOn]
  constructor
  · exact List.mem_map_of_mem (f := fun p : Bytes × Bytes => spelled p.1 p.2)
  · intro hmem
    obtain ⟨p, hp, hspelled⟩ := List.mem_map.mp hmem
    obtain ⟨hname, hvalue⟩ := spelled_injective (h.cut p hp).1 (by decide) hspelled
    rw [← hname, ← hvalue]
    exact hp

/-- Nothing is reported but the state of a match. -/
theorem state_of_not_matched {query : Bytes}
    (h : (parseQuery query).decision ≠ .correlationMatchedCodeDiscarded) :
    (parseQuery query).state = [] := by
  revert h
  unfold parseQuery
  repeat' split
  all_goals first | exact fun _ => rfl | exact fun h => (h rfl).elim

/-- The order of the parameters does not matter. -/
theorem Parameters.perm {parameters parameters' : List (Bytes × Bytes)} (h : Parameters parameters)
    (hperm : parameters.Perm parameters') : Parameters parameters' where
  readable := fun p hp => h.readable p (hperm.mem_iff.mpr hp)
  distinct := (hperm.map Prod.fst).nodup_iff.mp h.distinct
  many := hperm.length_eq ▸ h.many

/-- The parameters of a query whose pieces are in another order. -/
theorem CallbackQuery.reorder {query query' : Bytes} {parameters : List (Bytes × Bytes)}
    (h : CallbackQuery query parameters) (hstart : query'.head? ≠ some (byteOf '?'))
    (hperm : (query.splitOn (byteOf '&')).Perm (query'.splitOn (byteOf '&'))) :
    ∃ parameters', parameters.Perm parameters' ∧ CallbackQuery query' parameters' := by
  rw [h.splitOn] at hperm
  have hspelled : List.Forall₂ (fun text p => text = spelled p.1 p.2) (pieces parameters)
      parameters := by
    rw [pieces, List.forall₂_map_left_iff]
    exact List.forall₂_same.mpr fun _ _ => rfl
  obtain ⟨parameters', hforall, hparameters⟩ := List.perm_comp_forall₂ hperm.symm hspelled
  have hpieces : query'.splitOn (byteOf '&') = pieces parameters' := by
    rw [← List.forall₂_eq_eq_eq, pieces, List.forall₂_map_right_iff]
    exact hforall
  have hnames (name : Bytes) : name ∈ parameters'.map Prod.fst ↔ name ∈ parameters.map Prod.fst :=
    (hparameters.map Prod.fst).mem_iff
  have hname {name : Bytes} (hgiven : ∃ value ≠ [], (name, value) ∈ parameters) :
      name ∈ parameters'.map Prod.fst := by
    obtain ⟨value, -, hvalue⟩ := hgiven
    exact (hnames name).mpr (List.mem_map_of_mem (f := Prod.fst) hvalue)
  refine ⟨parameters', hparameters.symm, callbackQuery_of_parameters hstart ?_
    (h.parameters.perm hparameters.symm) hpieces (hname h.code) (hname h.state) ?_⟩
  · -- no piece is empty
    intro hstop
    have hmem := nil_mem_splitOn hstop
    rw [hpieces] at hmem
    obtain ⟨p, -, hp⟩ := List.mem_map.mp hmem
    exact List.append_ne_nil_of_right_ne_nil p.1 (List.cons_ne_nil _ _) hp
  · rw [hnames]
    exact h.noError

/-- **The grammar of callback queries and the order of their parameters.** `parseQuery` matches
exactly the queries of the grammar, it reports the value of the state parameter, and neither
depends on the order of the parameters, as long as no question mark comes first. -/
theorem parseQuery_grammar (query : Bytes) :
    ((parseQuery query).decision = .correlationMatchedCodeDiscarded ↔
        ∃ parameters, CallbackQuery query parameters) ∧
      (∀ parameters, CallbackQuery query parameters →
        ∀ value, (ascii "state", value) ∈ parameters ↔ value = (parseQuery query).state) ∧
      ∀ query', (query.splitOn (byteOf '&')).Perm (query'.splitOn (byteOf '&')) →
        query.head? ≠ some (byteOf '?') → query'.head? ≠ some (byteOf '?') →
          ((parseQuery query).decision = .correlationMatchedCodeDiscarded ↔
            (parseQuery query').decision = .correlationMatchedCodeDiscarded) ∧
          (parseQuery query).state = (parseQuery query').state := by
  refine ⟨parseQuery_matched_iff, fun parameters h => h.state_iff, ?_⟩
  intro query' hperm hstart hstart'
  have hiff : (parseQuery query).decision = .correlationMatchedCodeDiscarded ↔
      (parseQuery query').decision = .correlationMatchedCodeDiscarded := by
    rw [parseQuery_matched_iff, parseQuery_matched_iff]
    constructor
    · rintro ⟨parameters, h⟩
      obtain ⟨parameters', -, h'⟩ := h.reorder hstart' hperm
      exact ⟨parameters', h'⟩
    · rintro ⟨parameters, h⟩
      obtain ⟨parameters', -, h'⟩ := h.reorder hstart hperm.symm
      exact ⟨parameters', h'⟩
  refine ⟨hiff, ?_⟩
  by_cases hmatched : (parseQuery query).decision = .correlationMatchedCodeDiscarded
  · obtain ⟨parameters, h⟩ := parseQuery_matched_iff.mp hmatched
    obtain ⟨parameters', hparameters, h'⟩ := h.reorder hstart' hperm
    rw [← h'.state_iff, ← hparameters.mem_iff, h.state_iff]
  · rw [state_of_not_matched hmatched, state_of_not_matched (fun h => hmatched (hiff.mpr h))]

/-- A callback and the same one with its parameters swapped. -/
theorem parseQuery_grammar_swapped :
    (∃ parameters, CallbackQuery (ascii "code=X&state=Y") parameters ∧
        (ascii "state", ascii "Y") ∈ parameters) ∧
      (parseQuery (ascii "state=Y&code=X")).decision = .correlationMatchedCodeDiscarded ∧
      (parseQuery (ascii "state=Y&code=X")).state = ascii "Y" := by
  have hmatched : (parseQuery (ascii "code=X&state=Y")).decision =
      .correlationMatchedCodeDiscarded := by decide +kernel
  have hstate : (parseQuery (ascii "code=X&state=Y")).state = ascii "Y" := by decide +kernel
  obtain ⟨hiff, hvalue, horder⟩ := parseQuery_grammar (ascii "code=X&state=Y")
  obtain ⟨parameters, h⟩ := hiff.mp hmatched
  obtain ⟨hsame, hreported⟩ := horder (ascii "state=Y&code=X") (by decide +kernel)
    (by decide +kernel) (by decide +kernel)
  exact ⟨⟨parameters, h, (hvalue parameters h _).mpr hstate.symm⟩, hsame.mp hmatched,
    hreported.symm.trans hstate⟩

end Order

end CTraderOAuthCorrelationGuard

end TradeBot
