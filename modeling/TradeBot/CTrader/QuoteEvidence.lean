import TradeBot.CTrader.Gate7Proof

/-!
# What a Gate 7 quote is evidence of

What each operation of the proof can do, the evidence that stands behind each phase, and from
these the history behind a quote.
-/

namespace TradeBot

open Library

/-- A demo account of the expected broker with an id that can be used. -/
def Gate7AccountRecord.IsFiboDemo (account : Gate7AccountRecord) : Prop :=
  account.accountId.any CTraderGate7Proof.isUsableAccountId = true ∧
    account.isLive = some false ∧ account.brokerTitleShort = some "FIBO"

instance (account : Gate7AccountRecord) : Decidable account.IsFiboDemo :=
  inferInstanceAs (Decidable (_ ∧ _ ∧ _))

/-- A light symbol that is enabled, not archived, and has the canonical name. -/
def Gate7LightSymbol.IsEnabledXauusd (archivedSymbolIds : List Int64) (symbol : Gate7LightSymbol) :
    Prop :=
  symbol.enabled = some true ∧ symbol.archived = false ∧
    symbol.symbolId.all (fun symbolId => !archivedSymbolIds.contains symbolId) = true ∧
    symbol.symbolName.any CTraderGate7Proof.isCanonicalXauusd = true

instance (archivedSymbolIds : List Int64) (symbol : Gate7LightSymbol) :
    Decidable (symbol.IsEnabledXauusd archivedSymbolIds) :=
  inferInstanceAs (Decidable (_ ∧ _ ∧ _ ∧ _))

/-- A light symbol has an id that can be used. -/
def Gate7LightSymbol.IsIdentified (symbol : Gate7LightSymbol) : Prop :=
  symbol.symbolId.any CTraderGate7Proof.isUsableProviderId = true

instance (symbol : Gate7LightSymbol) : Decidable symbol.IsIdentified :=
  inferInstanceAs (Decidable (_ = true))

namespace CTraderGate7Proof

section Evidence

/-- An account list that selects an account for a connection generation. -/
structure AccountSelected (generation : UInt64) (evidence : Gate7AccountListEvidence)
    (accountId : Int64) : Prop where
  own : evidence.connectionGeneration = generation
  nonzero : generation ≠ 0
  current : evidence.currentConnectionGeneration = true
  correlated : evidence.correlationMatched = true
  owned : evidence.tokenOwned = true
  trading : evidence.tradingScope = true
  unique : ∃ account id, evidence.accounts.filter (·.IsFiboDemo) = [account] ∧
    account.accountId = some id ∧ id.toInt64 = accountId

/-- A list of light symbols that selects a symbol. -/
structure SymbolSelected (generation : UInt64) (accountId : Int64)
    (evidence : Gate7SymbolsListEvidence) (symbolId : Int64) (symbolName : String) : Prop where
  own : evidence.connectionGeneration = generation
  current : evidence.currentConnectionGeneration = true
  correlated : evidence.correlationMatched = true
  account : evidence.accountId = accountId
  unique : ∃ symbol, evidence.symbols.filter (fun symbol =>
      symbol.IsEnabledXauusd evidence.archivedSymbolIds ∧ symbol.IsIdentified) = [symbol] ∧
    symbol.symbolId = some symbolId ∧ symbol.symbolName = some symbolName

/-- A list of full symbols that gives the instrument of a symbol. -/
structure InstrumentProved (generation : UInt64) (accountId symbolId : Int64)
    (symbolName : String) (evidence : Gate7FullSymbolEvidence) (instrument : InstrumentSpec)
    (pipPosition : Int32) : Prop where
  own : evidence.connectionGeneration = generation
  current : evidence.currentConnectionGeneration = true
  correlated : evidence.correlationMatched = true
  account : evidence.accountId = accountId
  unarchived : symbolId ∉ evidence.archivedSymbolIds
  unique : ∃ symbol metadata,
    evidence.symbols.filter (fun symbol => symbol.symbolId = some symbolId) = [symbol] ∧
    (∀ name, symbol.symbolName = some name → name = symbolName) ∧
    symbol.enabled ≠ some false ∧ symbol.archived ≠ some true ∧
    fullMetadata symbol = some metadata ∧ metadata.isValid = true ∧
    instrument = instrumentSpec symbolName metadata ∧ pipPosition = metadata.pipPosition

/-- The acknowledgement of the subscription to one symbol. -/
structure Subscribed (generation : UInt64) (accountId symbolId : Int64)
    (evidence : Gate7SubscriptionEvidence) : Prop where
  own : evidence.connectionGeneration = generation
  current : evidence.currentConnectionGeneration = true
  correlated : evidence.correlationMatched = true
  account : evidence.accountId = accountId
  symbol : evidence.symbolId = symbolId
  single : evidence.requestedSymbolCount = 1

/-- A spot event that carries the whole quote. -/
structure Quoted (generation : UInt64) (accountId symbolId : Int64) (symbolName : String)
    (instrument : InstrumentSpec) (pipPosition : Int32) (evidence : Gate7SpotEvidence)
    (quote : Gate7QuoteEvidence) : Prop where
  own : evidence.connectionGeneration = generation
  current : evidence.currentConnectionGeneration = true
  matched : evidence.subscriptionMatched = true
  account : evidence.accountId = accountId
  symbol : evidence.symbolId = symbolId
  complete : ∃ bid ask timestamp, evidence.bid = some bid ∧ evidence.ask = some ask ∧
    evidence.timestamp = some timestamp ∧ bid ≤ ask ∧
    normalizeSpotPrice bid (Int32.ofNat instrument.tickSize.scale) = some quote.bid ∧
    normalizeSpotPrice ask (Int32.ofNat instrument.tickSize.scale) = some quote.ask ∧
    (classifyTimestampDetailed timestamp.toUInt64 evidence.receiptTimestampNs).proof =
      some quote.timestamp
  named : quote.canonicalSymbol = "XAUUSD" ∧ quote.executionAlias = symbolName
  metadata : quote.instrument = instrument ∧ quote.pipPosition = pipPosition
  spread : quote.spread = ⟨quote.ask.units - quote.bid.units, quote.bid.scale⟩

end Evidence

section Effects

variable {proof : CTraderGate7Proof}

/-- What an operation can do: nothing but its report, the end of the proof, or one step to the
next phase with the evidence that the step needs. -/
inductive Effect (proof : CTraderGate7Proof) (c : Call) : CTraderGate7Proof × Gate7Decision → Prop
  | absorbed (lastDecision : Gate7Decision) (hterminal : proof.isTerminal = true)
    (hc : ∀ id, c ≠ .acceptAccountAuthentication id) :
    Effect proof c ({ proof with lastDecision := lastDecision }, .alreadyTerminal)
  | waits (decision : Gate7Decision) (hphase : proof.phase = .spot) :
    Effect proof c ({ proof with lastDecision := decision }, decision)
  | ends (decision : Gate7Decision)
    (hterminal : proof.isTerminal = true → ∃ id, c = .acceptAccountAuthentication id) :
    Effect proof c (proof.finish decision)
  | listed (evidence : Gate7AccountListEvidence) (accountId : Int64)
    (hc : c = .acceptAccountList evidence) (hphase : proof.phase = .accountList)
    (h : AccountSelected proof.connectionGeneration evidence accountId) :
    Effect proof c
      ({ proof with
        accountId := accountId
        phase := .accountAuthentication
        lastDecision := .accountAuthenticationReady }, .accountAuthenticationReady)
  | authenticated (hc : c = .acceptAccountAuthentication proof.accountId)
    (hphase : proof.phase = .accountAuthentication) :
    Effect proof c
      ({ proof with
        phase := .symbolsList
        lastDecision := .symbolListReady }, .symbolListReady)
  | resolved (evidence : Gate7SymbolsListEvidence) (symbolId : Int64) (symbolName : String)
    (hc : c = .acceptSymbolsList evidence) (hphase : proof.phase = .symbolsList)
    (h : SymbolSelected proof.connectionGeneration proof.accountId evidence symbolId symbolName) :
    Effect proof c
      ({ proof with
        symbolId := symbolId
        symbolName := symbolName
        phase := .fullSymbol
        lastDecision := .fullSymbolReady }, .fullSymbolReady)
  | described (evidence : Gate7FullSymbolEvidence) (instrument : InstrumentSpec)
    (pipPosition : Int32) (hc : c = .acceptFullSymbol evidence) (hphase : proof.phase = .fullSymbol)
    (h : InstrumentProved proof.connectionGeneration proof.accountId proof.symbolId
      proof.symbolName evidence instrument pipPosition) :
    Effect proof c
      ({ proof with
        instrument := some instrument
        pipPosition := pipPosition
        phase := .subscription
        lastDecision := .subscriptionReady }, .subscriptionReady)
  | subscribed (evidence : Gate7SubscriptionEvidence) (hc : c = .acceptSubscription evidence)
    (hphase : proof.phase = .subscription)
    (h : Subscribed proof.connectionGeneration proof.accountId proof.symbolId evidence) :
    Effect proof c
      ({ proof with
        subscriptionReady := true
        phase := .spot
        lastDecision := .subscriptionReady }, .subscriptionReady)
  | quoted (evidence : Gate7SpotEvidence) (instrument : InstrumentSpec)
    (quote : Gate7QuoteEvidence) (hc : c = .acceptSpot evidence) (hphase : proof.phase = .spot)
    (hinstrument : proof.instrument = some instrument)
    (h : Quoted proof.connectionGeneration proof.accountId proof.symbolId proof.symbolName
      instrument proof.pipPosition evidence quote) :
    Effect proof c
      ({ proof.clearSensitiveState with
        quoteEvidence := some quote
        phase := .complete
        lastDecision := .quoteProofSucceeded }, .quoteProofSucceeded)

/-- Evidence that passes the transport check is of the proof's own, current connection, and answers
the request. -/
theorem validateTransportEvidence_eq_ready {generation : UInt64}
    {currentGeneration correlationMatched : Bool}
    (h : proof.validateTransportEvidence generation currentGeneration correlationMatched = .ready) :
    generation = proof.connectionGeneration ∧ generation ≠ 0 ∧ currentGeneration = true ∧
      correlationMatched = true := by
  unfold validateTransportEvidence at h
  split at h
  · cases h
  rename_i hgeneration
  split at h
  · cases h
  rename_i hcorrelation
  simp only [Bool.or_eq_true, Bool.not_eq_true', beq_iff_eq, bne_iff_ne, not_or, not_not,
    Bool.not_eq_false] at hgeneration hcorrelation
  exact ⟨hgeneration.2, hgeneration.1.2, hgeneration.1.1, hcorrelation⟩

/-- The check of an account finds its identifier in a demo account of the broker only. -/
theorem fiboDemoAccount_eq_some {account : Gate7AccountRecord} {id : UInt64}
    (h : fiboDemoAccount account = some id) : account.accountId = some id ∧ account.IsFiboDemo := by
  unfold fiboDemoAccount at h
  split at h
  · cases h
  rename_i accountId hid
  split at h
  · cases h
  rename_i husable
  split at h
  · cases h
  rename_i hlive
  split at h
  · cases h
  rename_i title htitle
  split at h
  · cases h
  rename_i hname
  injection h with h
  subst h
  simp only [Bool.or_eq_true, Bool.not_eq_true', bne_iff_ne, not_or, not_not] at hname
  refine ⟨hid, ?_, not_not.mp hlive, by rw [htitle, hname.2]⟩
  rw [hid]
  simpa using husable

/-- The check of an account succeeds exactly on a demo account of the broker. -/
theorem isSome_fiboDemoAccount (account : Gate7AccountRecord) :
    (fiboDemoAccount account).isSome = decide account.IsFiboDemo := by
  rw [Bool.eq_iff_iff, decide_eq_true_iff]
  constructor
  · intro h
    obtain ⟨id, hid⟩ := Option.isSome_iff_exists.mp h
    exact (fiboDemoAccount_eq_some hid).2
  · rintro ⟨hid, hlive, htitle⟩
    obtain ⟨id, haccount, husable⟩ := exists_of_any hid
    unfold fiboDemoAccount
    have hsafe : isSafeText "FIBO" = true := by decide
    simp [haccount, hlive, htitle, husable, hsafe]

/-- A proof in any other phase than the last two is not terminal. -/
theorem isTerminal_of_phase_ne {phase : Phase} (hphase : proof.phase = phase)
    (hcomplete : phase ≠ .complete) (hterminal : phase ≠ .terminal) : proof.isTerminal = false := by
  unfold isTerminal
  rw [hphase]
  simp [hcomplete, hterminal]

/-- Finishing a proof records no evidence. -/
theorem effect_finish {c : Call} (h : ¬proof.isTerminal = true) (decision : Gate7Decision) :
    Effect proof c (proof.finish decision) :=
  .ends decision (fun hterminal => (h hterminal).elim)

/-- The effect of a list of accounts. -/
theorem effect_acceptAccountList (evidence : Gate7AccountListEvidence) :
    Effect proof (.acceptAccountList evidence) (proof.acceptAccountList evidence) := by
  unfold acceptAccountList
  split
  · exact .absorbed _ ‹_› (by intro id h; cases h)
  rename_i hactive
  split
  · exact effect_finish hactive _
  rename_i hphase
  dsimp only
  split
  · exact effect_finish hactive _
  rename_i htransport
  split
  · exact effect_finish hactive _
  rename_i howned
  split
  · exact effect_finish hactive _
  rename_i htrading
  split
  · exact effect_finish hactive _
  split
  · exact effect_finish hactive _
  rename_i hone
  obtain ⟨hown, hnonzero, hcurrent, hcorrelated⟩ :=
    validateTransportEvidence_eq_ready (not_not.mp htransport)
  obtain ⟨account, hfilter, hselect⟩ :=
    filter_eq_singleton (filterMap_eq_singleton (not_not.mp hone))
  simp only [isSome_fiboDemoAccount] at hfilter
  refine .listed evidence _ rfl (not_not.mp hphase)
    { own := hown
      nonzero := hown ▸ hnonzero
      current := hcurrent
      correlated := hcorrelated
      owned := by simpa using howned
      trading := by simpa using htrading
      unique := ⟨account, _, hfilter, (fiboDemoAccount_eq_some hselect).1, rfl⟩ }

/-- The effect of the answer to an authentication. -/
theorem effect_acceptAccountAuthentication (responseAccountId : Int64) :
    Effect proof (.acceptAccountAuthentication responseAccountId)
      (proof.acceptAccountAuthentication responseAccountId) := by
  unfold acceptAccountAuthentication
  split
  · exact .ends _ (fun _ => ⟨responseAccountId, rfl⟩)
  · rename_i hmatched
    obtain ⟨hphase, -, heq⟩ := not_not.mp hmatched
    exact .authenticated (by rw [heq]) hphase

/-- The check of a symbol finds identifier and name of an enabled, identified XAUUSD only. -/
theorem canonicalLightSymbol_eq_some {archivedSymbolIds : List Int64} {symbol : Gate7LightSymbol}
    {symbolId : Int64} {symbolName : String}
    (h : canonicalLightSymbol archivedSymbolIds symbol = some (symbolId, symbolName)) :
    symbol.symbolId = some symbolId ∧ symbol.symbolName = some symbolName ∧
      symbol.IsEnabledXauusd archivedSymbolIds ∧ symbol.IsIdentified := by
  unfold canonicalLightSymbol at h
  split at h
  · rename_i id name hid hname
    split at h
    · cases h
    rename_i hlisted
    split at h
    · cases h
    rename_i hcanonical
    injection h with h
    injection h with hid' hname'
    subst hid' hname'
    simp only [Bool.or_eq_true, Bool.not_eq_true', bne_iff_ne, not_or, not_not,
      Bool.not_eq_true, Bool.not_eq_false] at hlisted hcanonical
    obtain ⟨⟨⟨husable, henabled⟩, harchived⟩, hkept⟩ := hlisted
    refine ⟨hid, hname, ⟨henabled, harchived, ?_, ?_⟩, ?_⟩
    · rw [hid, Option.all_some, hkept]
      rfl
    · rw [hname]
      exact hcanonical
    · unfold Gate7LightSymbol.IsIdentified
      rw [hid]
      exact husable
  · cases h

/-- The check of a symbol succeeds exactly on an enabled, identified XAUUSD. -/
theorem isSome_canonicalLightSymbol (archivedSymbolIds : List Int64) (symbol : Gate7LightSymbol) :
    (canonicalLightSymbol archivedSymbolIds symbol).isSome =
      decide (symbol.IsEnabledXauusd archivedSymbolIds ∧ symbol.IsIdentified) := by
  rw [Bool.eq_iff_iff, decide_eq_true_iff]
  constructor
  · intro h
    obtain ⟨⟨symbolId, symbolName⟩, hselect⟩ := Option.isSome_iff_exists.mp h
    exact (canonicalLightSymbol_eq_some hselect).2.2
  · rintro ⟨⟨henabled, harchived, hkept, hcanonical⟩, hidentified⟩
    obtain ⟨symbolId, hid, husable⟩ := exists_of_any hidentified
    obtain ⟨symbolName, hname, hname'⟩ := exists_of_any hcanonical
    rw [hid, Option.all_some] at hkept
    unfold canonicalLightSymbol
    rw [hid, hname]
    simp only [husable, henabled, harchived, hname']
    simpa using hkept

/-- The effect of a list of symbols. -/
theorem effect_acceptSymbolsList (evidence : Gate7SymbolsListEvidence) :
    Effect proof (.acceptSymbolsList evidence) (proof.acceptSymbolsList evidence) := by
  unfold acceptSymbolsList
  split
  · exact .absorbed _ ‹_› (by intro id h; cases h)
  rename_i hactive
  split
  · exact effect_finish hactive _
  rename_i hphase
  dsimp only
  split
  · exact effect_finish hactive _
  rename_i htransport
  split
  · exact effect_finish hactive _
  rename_i haccount
  split
  · exact effect_finish hactive _
  split
  · exact effect_finish hactive _
  split
  · exact effect_finish hactive _
  rename_i hone
  obtain ⟨hown, hnonzero, hcurrent, hcorrelated⟩ :=
    validateTransportEvidence_eq_ready (not_not.mp htransport)
  have hfound := filterMap_eq_singleton (not_not.mp hone)
  obtain ⟨symbol, hfilter, hselect⟩ := filter_eq_singleton hfound
  simp only [isSome_canonicalLightSymbol] at hfilter
  rw [findSome_eq_some hfound, Option.getD_some]
  obtain ⟨hid, hname, -, -⟩ := canonicalLightSymbol_eq_some hselect
  split
  · -- the retained symbol does not matter once the proof has ended
    exact .ends _ (fun hterminal => (hactive hterminal).elim)
  · exact .resolved evidence _ _ rfl (not_not.mp hphase)
      { own := hown
        current := hcurrent
        correlated := hcorrelated
        account := not_not.mp (not_or.mp haccount).2
        unique := ⟨symbol, hfilter, hid, hname⟩ }

/-- The effect of the full data of a symbol. -/
theorem effect_acceptFullSymbol (evidence : Gate7FullSymbolEvidence) :
    Effect proof (.acceptFullSymbol evidence) (proof.acceptFullSymbol evidence) := by
  unfold acceptFullSymbol
  split
  · exact .absorbed _ ‹_› (by intro id h; cases h)
  rename_i hactive
  split
  · exact effect_finish hactive _
  rename_i hphase
  dsimp only
  split
  · exact effect_finish hactive _
  rename_i htransport
  split
  · exact effect_finish hactive _
  rename_i haccount
  split
  · exact effect_finish hactive _
  rename_i hunarchived
  obtain ⟨hown, hnonzero, hcurrent, hcorrelated⟩ :=
    validateTransportEvidence_eq_ready (not_not.mp htransport)
  split
  · rename_i symbol hfilter
    split
    · exact effect_finish hactive _
    rename_i hname
    split
    · exact effect_finish hactive _
    rename_i henabled
    split
    · exact effect_finish hactive _
    rename_i harchived
    split
    · exact effect_finish hactive _
    rename_i metadata hmetadata
    split
    · exact effect_finish hactive _
    rename_i hvalid
    have hnamed : ∀ name, symbol.symbolName = some name → name = proof.symbolName := by
      intro name hsome
      simp only [hsome, Option.isSome_some, Bool.true_and, bne_iff_ne, not_not,
        Option.some.injEq] at hname
      exact hname
    exact .described evidence _ _ rfl (not_not.mp hphase)
      { own := hown
        current := hcurrent
        correlated := hcorrelated
        account := not_not.mp (not_or.mp haccount).1
        unarchived := by simpa using hunarchived
        unique := ⟨symbol, metadata, hfilter, hnamed, henabled, harchived, hmetadata,
          by simpa using hvalid, rfl, rfl⟩ }
  · exact effect_finish hactive _

/-- The effect of the answer to a subscription. -/
theorem effect_acceptSubscription (evidence : Gate7SubscriptionEvidence) :
    Effect proof (.acceptSubscription evidence) (proof.acceptSubscription evidence) := by
  unfold acceptSubscription
  split
  · exact .absorbed _ ‹_› (by intro id h; cases h)
  rename_i hactive
  split
  · exact effect_finish hactive _
  rename_i hphase
  dsimp only
  split
  · exact effect_finish hactive _
  rename_i htransport
  split
  · exact effect_finish hactive _
  rename_i hmatched
  obtain ⟨hown, hnonzero, hcurrent, hcorrelated⟩ :=
    validateTransportEvidence_eq_ready (not_not.mp htransport)
  obtain ⟨haccount, -, hsymbol, -, hsingle⟩ := not_not.mp hmatched
  exact .subscribed evidence rfl (not_not.mp hphase)
    { own := hown
      current := hcurrent
      correlated := hcorrelated
      account := haccount
      symbol := hsymbol
      single := hsingle }

/-- A quote with both sides, of the right connection and subscription, completes the evidence or
ends the proof. -/
theorem effect_acceptSides (hactive : ¬proof.isTerminal = true) (hphase : proof.phase = .spot)
    {evidence : Gate7SpotEvidence} {rawBid rawAsk : UInt64} (hbid : evidence.bid = some rawBid)
    (hask : evidence.ask = some rawAsk) (hown : evidence.connectionGeneration =
      proof.connectionGeneration) (hcurrent : evidence.currentConnectionGeneration = true)
    (hmatched : evidence.subscriptionMatched = true) (haccount : evidence.accountId =
      proof.accountId) (hsymbol : evidence.symbolId = proof.symbolId) :
    Effect proof (.acceptSpot evidence) (proof.acceptSides evidence rawBid rawAsk) := by
  unfold acceptSides
  split
  · exact effect_finish hactive _
  rename_i hcrossed
  split
  · exact effect_finish hactive _
  rename_i instrument hinstrument
  dsimp only
  split
  · rename_i bid ask hbid' hask'
    split
    · exact effect_finish hactive _
    split
    · exact .waits _ hphase
    rename_i timestamp htimestamp
    split
    · exact effect_finish hactive _
    rename_i classified hclassified
    split
    · exact effect_finish hactive _
    exact .quoted evidence instrument _ rfl hphase hinstrument
      { own := hown
        current := hcurrent
        matched := hmatched
        account := haccount
        symbol := hsymbol
        complete := ⟨rawBid, rawAsk, timestamp, hbid, hask, htimestamp,
          UInt64.not_lt.mp hcrossed, hbid', hask', hclassified⟩
        named := ⟨rfl, rfl⟩
        metadata := ⟨rfl, rfl⟩
        spread := rfl }
  · exact effect_finish hactive _

/-- The effect of a spot event. -/
theorem effect_acceptSpot (evidence : Gate7SpotEvidence) :
    Effect proof (.acceptSpot evidence) (proof.acceptSpot evidence) := by
  unfold acceptSpot
  split
  · exact .absorbed _ ‹_› (by intro id h; cases h)
  rename_i hactive
  split
  · exact effect_finish hactive _
  rename_i hphase
  have hspot := not_not.mp (not_or.mp hphase).1
  split
  · exact effect_finish hactive _
  rename_i hgeneration
  split
  · exact effect_finish hactive _
  rename_i hmatched
  split
  · exact effect_finish hactive _
  rename_i haccount
  split
  · exact effect_finish hactive _
  rename_i hsymbol
  split
  · exact effect_finish hactive _
  split
  · exact effect_finish hactive _
  split
  · rename_i rawBid rawAsk hbid hask
    simp only [not_or, Bool.not_eq_true', not_not, Bool.not_eq_false] at hgeneration
    exact effect_acceptSides hactive hspot hbid hask hgeneration.2 hgeneration.1
      (by simpa using hmatched) (not_not.mp (not_or.mp haccount).1)
      (not_not.mp (not_or.mp hsymbol).1)
  · dsimp only
    split
    · exact effect_finish hactive _
    · exact .waits _ hspot

/-- Every operation has one of the effects. -/
theorem effect_call (c : Call) : Effect proof c (proof.call c) := by
  cases c with
  | acceptAccountList evidence => exact effect_acceptAccountList evidence
  | acceptAccountAuthentication id => exact effect_acceptAccountAuthentication id
  | acceptSymbolsList evidence => exact effect_acceptSymbolsList evidence
  | acceptFullSymbol evidence => exact effect_acceptFullSymbol evidence
  | acceptSubscription evidence => exact effect_acceptSubscription evidence
  | acceptSpot evidence => exact effect_acceptSpot evidence
  | terminal decision =>
    change Effect proof _ (proof.terminal decision)
    unfold terminal
    split
    · exact .absorbed _ ‹_› (by intro id h; cases h)
    · exact effect_finish ‹_› _

end Effects

section History

/-- Operations with their reports. -/
abbrev Events := List (Call × Gate7Decision)

/-- `events` is an accepted account list. -/
def AfterAccounts (generation : UInt64) (events : Events) (accountId : Int64) : Prop :=
  ∃ evidence, AccountSelected generation evidence accountId ∧
    events = [(.acceptAccountList evidence, .accountAuthenticationReady)]

/-- `events` goes up to the echo of the account. -/
def AfterEcho (generation : UInt64) (events : Events) (accountId : Int64) : Prop :=
  ∃ before, AfterAccounts generation before accountId ∧
    events = before ++ [(.acceptAccountAuthentication accountId, .symbolListReady)]

/-- `events` goes up to an accepted list of light symbols. -/
def AfterSymbols (generation : UInt64) (events : Events) (accountId symbolId : Int64)
    (symbolName : String) : Prop :=
  ∃ before evidence, AfterEcho generation before accountId ∧
    SymbolSelected generation accountId evidence symbolId symbolName ∧
    events = before ++ [(.acceptSymbolsList evidence, .fullSymbolReady)]

/-- `events` goes up to an accepted list of full symbols. -/
def AfterFull (generation : UInt64) (events : Events) (accountId symbolId : Int64)
    (symbolName : String) (instrument : InstrumentSpec) (pipPosition : Int32) : Prop :=
  ∃ before evidence, AfterSymbols generation before accountId symbolId symbolName ∧
    InstrumentProved generation accountId symbolId symbolName evidence instrument pipPosition ∧
    events = before ++ [(.acceptFullSymbol evidence, .subscriptionReady)]

/-- `events` goes up to the acknowledged subscription. -/
def AfterSubscription (generation : UInt64) (events : Events) (accountId symbolId : Int64)
    (symbolName : String) (instrument : InstrumentSpec) (pipPosition : Int32) : Prop :=
  ∃ before evidence,
    AfterFull generation before accountId symbolId symbolName instrument pipPosition ∧
    Subscribed generation accountId symbolId evidence ∧
    events = before ++ [(.acceptSubscription evidence, .subscriptionReady)]

/-- `events` goes up to the spot event that gave a quote. -/
def AfterSpot (generation : UInt64) (events : Events) (quote : Gate7QuoteEvidence) : Prop :=
  ∃ before evidence accountId symbolId symbolName instrument pipPosition,
    AfterSubscription generation before accountId symbolId symbolName instrument pipPosition ∧
    Quoted generation accountId symbolId symbolName instrument pipPosition evidence quote ∧
    events = before ++ [(.acceptSpot evidence, .quoteProofSucceeded)]

/-- The accepted operations behind the state of a proof, phase by phase. -/
def Behind (generation : UInt64) (events : Events) (proof : CTraderGate7Proof) : Prop :=
  match proof.phase with
  | .accountList => events = []
  | .accountAuthentication => AfterAccounts generation events proof.accountId
  | .symbolsList => AfterEcho generation events proof.accountId
  | .fullSymbol => AfterSymbols generation events proof.accountId proof.symbolId proof.symbolName
  | .subscription =>
    ∃ instrument, proof.instrument = some instrument ∧
      AfterFull generation events proof.accountId proof.symbolId proof.symbolName instrument
        proof.pipPosition
  | .spot =>
    ∃ instrument, proof.instrument = some instrument ∧
      AfterSubscription generation events proof.accountId proof.symbolId proof.symbolName
        instrument proof.pipPosition
  | .complete => ∃ quote, proof.quoteEvidence = some quote ∧ AfterSpot generation events quote
  | .terminal => True

/-- Nothing of the account and the symbol is retained. -/
structure Cleared (proof : CTraderGate7Proof) : Prop where
  accountId : proof.accountId = 0
  symbolId : proof.symbolId = 0
  pipPosition : proof.pipPosition = 0
  symbolName : proof.symbolName = ""
  instrument : proof.instrument = none
  subscriptionReady : proof.subscriptionReady = false

/-- What the operations so far say about the proof of a connection generation. -/
structure History (generation : UInt64) (past : Events) (proof : CTraderGate7Proof) : Prop where
  own : proof.phase ≠ .terminal → proof.connectionGeneration = generation
  behind : ∃ events, events.Sublist past ∧ Behind generation events proof
  unquoted : proof.phase ≠ .complete → proof.quoteEvidence = none
  cleared : proof.isTerminal = true → proof.Cleared

/-- A new proof has no history. -/
theorem history_empty (generation : UInt64) :
    History generation [] { connectionGeneration := generation } where
  own := fun _ => rfl
  behind := ⟨[], List.Sublist.refl _, rfl⟩
  unquoted := fun _ => rfl
  cleared := by intro h; cases h

/-- Finishing a proof keeps its history, whatever the decision is. -/
theorem History.finish {generation : UInt64} {past : Events} {proof : CTraderGate7Proof}
    (decision : Gate7Decision) : History generation past (proof.finish decision).1 where
  own := fun h => (h rfl).elim
  behind := ⟨[], List.nil_sublist past, trivial⟩
  unquoted := fun _ => rfl
  cleared := fun _ => ⟨rfl, rfl, rfl, rfl, rfl, rfl⟩

/-- A step to the next phase, with the events that stand behind it. -/
theorem History.advance {generation : UInt64} {past : Events} {proof proof' : CTraderGate7Proof}
    (h : History generation past proof) (hactive : proof.isTerminal = false)
    (hactive' : proof'.isTerminal = false)
    (hgeneration : proof'.connectionGeneration = proof.connectionGeneration)
    (hquote : proof'.quoteEvidence = proof.quoteEvidence) {event : Call × Gate7Decision}
    (hbehind : ∀ events, Behind generation events proof →
      Behind generation (events ++ [event]) proof') :
    History generation (past ++ [event]) proof' := by
  obtain ⟨events, hsublist, hevents⟩ := h.behind
  simp only [isTerminal, Bool.or_eq_false_iff, decide_eq_false_iff_not] at hactive
  exact
    { own := fun _ => by rw [hgeneration, h.own hactive.2]
      behind := ⟨events ++ [event], hsublist.append (List.Sublist.refl _), hbehind events hevents⟩
      unquoted := fun _ => by rw [hquote, h.unquoted hactive.1]
      cleared := fun hterminal => by
        rw [hactive'] at hterminal
        cases hterminal }

/-- An operation that only reports leaves the history as it is. -/
theorem History.report {generation : UInt64} {past : Events} {proof : CTraderGate7Proof}
    (h : History generation past proof) (event : Call × Gate7Decision)
    (lastDecision : Gate7Decision) :
    History generation (past ++ [event]) { proof with lastDecision := lastDecision } := by
  obtain ⟨events, hsublist, hevents⟩ := h.behind
  exact
    { own := h.own
      behind := ⟨events, hsublist.trans (List.sublist_append_left past _), hevents⟩
      unquoted := h.unquoted
      cleared := fun hterminal =>
        let ⟨h₁, h₂, h₃, h₄, h₅, h₆⟩ := h.cleared hterminal
        ⟨h₁, h₂, h₃, h₄, h₅, h₆⟩ }

/-- Every call extends the history by itself and its answer. -/
theorem History.next {generation : UInt64} {past : Events} {proof : CTraderGate7Proof}
    (h : History generation past proof) (c : Call) :
    History generation (past ++ [(c, machine.output proof c)]) (machine.next proof c) := by
  have heffect := @effect_call proof c
  change History generation (past ++ [(c, (proof.call c).2)]) (proof.call c).1
  generalize proof.call c = result at *
  cases heffect with
  | absorbed lastDecision hterminal hc => exact h.report _ _
  | waits decision hphase => exact h.report _ _
  | ends decision hterminal => exact .finish decision
  | listed evidence accountId hc hphase hselected =>
    rw [h.own (by rw [hphase]; decide)] at hselected
    subst hc
    apply History.advance h (isTerminal_of_phase_ne hphase (by decide) (by decide))
    iterate 3 exact rfl
    intro events hevents
    unfold Behind at hevents
    rw [hphase] at hevents
    obtain rfl : events = [] := hevents
    exact ⟨evidence, hselected, rfl⟩
  | authenticated hc hphase =>
    subst hc
    apply History.advance h (isTerminal_of_phase_ne hphase (by decide) (by decide))
    iterate 3 exact rfl
    intro events hevents
    unfold Behind at hevents
    rw [hphase] at hevents
    exact ⟨events, hevents, rfl⟩
  | resolved evidence symbolId symbolName hc hphase hselected =>
    rw [h.own (by rw [hphase]; decide)] at hselected
    subst hc
    apply History.advance h (isTerminal_of_phase_ne hphase (by decide) (by decide))
    iterate 3 exact rfl
    intro events hevents
    unfold Behind at hevents
    rw [hphase] at hevents
    exact ⟨events, evidence, hevents, hselected, rfl⟩
  | described evidence instrument pipPosition hc hphase hproved =>
    rw [h.own (by rw [hphase]; decide)] at hproved
    subst hc
    apply History.advance h (isTerminal_of_phase_ne hphase (by decide) (by decide))
    iterate 3 exact rfl
    intro events hevents
    unfold Behind at hevents
    rw [hphase] at hevents
    exact ⟨instrument, rfl, events, evidence, hevents, hproved, rfl⟩
  | subscribed evidence hc hphase hsubscribed =>
    rw [h.own (by rw [hphase]; decide)] at hsubscribed
    subst hc
    apply History.advance h (isTerminal_of_phase_ne hphase (by decide) (by decide))
    iterate 3 exact rfl
    intro events hevents
    unfold Behind at hevents
    rw [hphase] at hevents
    obtain ⟨instrument, hinstrument, hevents⟩ := hevents
    exact ⟨instrument, hinstrument, events, evidence, hevents, hsubscribed, rfl⟩
  | quoted evidence instrument quote hc hphase hinstrument hquoted =>
    have hgeneration := h.own (by rw [hphase]; decide)
    rw [hgeneration] at hquoted
    subst hc
    obtain ⟨events, hsublist, hevents⟩ := h.behind
    unfold Behind at hevents
    rw [hphase] at hevents
    obtain ⟨instrument', hinstrument', hevents⟩ := hevents
    obtain rfl : instrument' = instrument := by
      rw [hinstrument] at hinstrument'
      exact (Option.some.inj hinstrument').symm
    exact
      { own := fun _ => hgeneration
        behind := ⟨_, hsublist.append (List.Sublist.refl _), quote, rfl, events, evidence, _, _, _,
          _, _, hevents, hquoted, rfl⟩
        unquoted := fun hphase' => (hphase' rfl).elim
        cleared := fun _ => ⟨rfl, rfl, rfl, rfl, rfl, rfl⟩ }

/-- Every proof has the history of the calls that made it. -/
theorem history (generation : UInt64) (calls : List Call) :
    History generation (machine.trace { connectionGeneration := generation } calls)
      (machine.run { connectionGeneration := generation } calls) :=
  Machine.history_run (fun _ _ c h => h.next c) (history_empty generation) calls

/-- **What a quote is evidence of.** Over every sequence of operations: behind a quote there are
an accepted account list, the echo of its account, an accepted list of light symbols, an
accepted list of full symbols, an accepted subscription and one accepted spot event, in this
order, all of the proof's own connection generation; and a proof that has ended retains nothing
of the account and the symbol. -/
theorem quote_evidence (generation : UInt64) (calls : List Call) :
    (∀ quote, (machine.run { connectionGeneration := generation } calls).quoteEvidence =
        some quote →
      ∃ accounts accountId symbols symbolId symbolName full instrument pipPosition subscription
        spot,
        List.Sublist
          [(Call.acceptAccountList accounts, Gate7Decision.accountAuthenticationReady),
            (Call.acceptAccountAuthentication accountId, Gate7Decision.symbolListReady),
            (Call.acceptSymbolsList symbols, Gate7Decision.fullSymbolReady),
            (Call.acceptFullSymbol full, Gate7Decision.subscriptionReady),
            (Call.acceptSubscription subscription, Gate7Decision.subscriptionReady),
            (Call.acceptSpot spot, Gate7Decision.quoteProofSucceeded)]
          (machine.trace { connectionGeneration := generation } calls) ∧
        AccountSelected generation accounts accountId ∧
        SymbolSelected generation accountId symbols symbolId symbolName ∧
        InstrumentProved generation accountId symbolId symbolName full instrument pipPosition ∧
        Subscribed generation accountId symbolId subscription ∧
        Quoted generation accountId symbolId symbolName instrument pipPosition spot quote) ∧
    ((machine.run { connectionGeneration := generation } calls).isTerminal = true →
      (machine.run { connectionGeneration := generation } calls).Cleared) := by
  have hhistory := history generation calls
  refine ⟨fun quote hquote => ?_, hhistory.cleared⟩
  have hphase : (machine.run { connectionGeneration := generation } calls).phase = .complete := by
    by_contra hphase
    rw [hhistory.unquoted hphase] at hquote
    cases hquote
  obtain ⟨events, hsublist, hevents⟩ := hhistory.behind
  unfold Behind at hevents
  rw [hphase] at hevents
  obtain ⟨quote', hquote', hevents⟩ := hevents
  obtain rfl : quote' = quote := by
    rw [hquote] at hquote'
    exact (Option.some.inj hquote').symm
  obtain ⟨_, spot, accountId, symbolId, symbolName, instrument, pipPosition, hevents, hquoted,
    rfl⟩ := hevents
  obtain ⟨_, subscription, hevents, hsubscribed, rfl⟩ := hevents
  obtain ⟨_, full, hevents, hproved, rfl⟩ := hevents
  obtain ⟨_, symbols, hevents, hresolved, rfl⟩ := hevents
  obtain ⟨_, hevents, rfl⟩ := hevents
  obtain ⟨accounts, hselected, rfl⟩ := hevents
  exact ⟨accounts, accountId, symbols, symbolId, symbolName, full, instrument, pipPosition,
    subscription, spot, hsublist, hselected, hresolved, hproved, hsubscribed, hquoted⟩

end History

section Example

/-- A complete run, with more light symbols in the list than the one that it takes. -/
def quoteRun (others : List Gate7LightSymbol) : List Call :=
  [.acceptAccountList
      { connectionGeneration := 7
        currentConnectionGeneration := true
        correlationMatched := true
        tokenOwned := true
        tradingScope := true
        accounts := [⟨some 42, some false, some "FIBO"⟩] },
    .acceptAccountAuthentication 42,
    .acceptSymbolsList
      { connectionGeneration := 7
        currentConnectionGeneration := true
        correlationMatched := true
        accountId := 42
        symbols := ⟨some 9, some "XAUUSD", some true, false⟩ :: others },
    .acceptFullSymbol
      { connectionGeneration := 7
        currentConnectionGeneration := true
        correlationMatched := true
        accountId := 42
        symbols := [{
          symbolId := some 9
          digits := some 2
          pipPosition := some 1
          minVolume := some 100
          maxVolume := some 10000
          stepVolume := some 100
          lotSize := some 10000 }] },
    .acceptSubscription
      { connectionGeneration := 7
        currentConnectionGeneration := true
        correlationMatched := true
        accountId := 42
        symbolId := 9
        requestedSymbolCount := 1 },
    .acceptSpot
      { connectionGeneration := 7
        currentConnectionGeneration := true
        subscriptionMatched := true
        accountId := 42
        symbolId := 9
        bid := some 240000000
        ask := some 240050000
        timestamp := some 1700000000
        receiptTimestampNs := 1700000001000000000 }]

/-- The quote stands although two enabled light symbols have the canonical name: the code skips
the one without an id. -/
theorem quote_unidentified_symbol :
    (machine.run { connectionGeneration := 7 }
        (quoteRun [⟨none, some "XAU/USD", some true, false⟩])).quoteEvidence.isSome = true ∧
    ∀ symbols, Call.acceptSymbolsList symbols ∈
        quoteRun [⟨none, some "XAU/USD", some true, false⟩] →
      (symbols.symbols.filter (·.IsEnabledXauusd symbols.archivedSymbolIds)).length = 2 := by
  refine ⟨by decide +kernel, ?_⟩
  intro symbols hsymbols
  simp only [quoteRun, List.mem_cons, reduceCtorEq, false_or, or_false,
    Call.acceptSymbolsList.injEq, List.not_mem_nil] at hsymbols
  subst hsymbols
  decide

end Example

section Absorption

/-- An operation on a proof that has ended reports so and changes nothing that is seen of it. -/
structure Absorbs (proof : CTraderGate7Proof) (c : Call) : Prop where
  report : machine.output proof c = .alreadyTerminal
  phase : (machine.next proof c).phase = proof.phase
  quoteEvidence : (machine.next proof c).quoteEvidence = proof.quoteEvidence

/-- A terminal proof absorbs every call but the answer to an authentication. -/
theorem absorbs_of_ne {proof : CTraderGate7Proof} (hterminal : proof.isTerminal = true) {c : Call}
    (hc : ∀ id, c ≠ .acceptAccountAuthentication id) : Absorbs proof c := by
  have hphases : proof.phase = .complete ∨ proof.phase = .terminal := by
    simpa [isTerminal] using hterminal
  have hne : ∀ phase, phase ≠ .complete → phase ≠ .terminal → proof.phase ≠ phase := by
    rintro phase h₁ h₂ rfl
    exact hphases.elim h₁ h₂
  have heffect := @effect_call proof c
  suffices h : (proof.call c).2 = .alreadyTerminal ∧ (proof.call c).1.phase = proof.phase ∧
      (proof.call c).1.quoteEvidence = proof.quoteEvidence from ⟨h.1, h.2.1, h.2.2⟩
  generalize proof.call c = result at *
  cases heffect with
  | absorbed lastDecision _ _ => exact ⟨rfl, rfl, rfl⟩
  | waits decision hphase => exact (hne _ (by decide) (by decide) hphase).elim
  | ends decision hauthentication =>
    obtain ⟨id, hid⟩ := hauthentication hterminal
    exact (hc id hid).elim
  | listed _ _ _ hphase => exact (hne _ (by decide) (by decide) hphase).elim
  | authenticated _ hphase => exact (hne _ (by decide) (by decide) hphase).elim
  | resolved _ _ _ _ hphase => exact (hne _ (by decide) (by decide) hphase).elim
  | described _ _ _ _ hphase => exact (hne _ (by decide) (by decide) hphase).elim
  | subscribed _ _ hphase => exact (hne _ (by decide) (by decide) hphase).elim
  | quoted _ _ _ _ hphase => exact (hne _ (by decide) (by decide) hphase).elim

/-- The echo of an account is not absorbed: `acceptAccountAuthenticationImpl` has no check for a
proof that has ended. -/
theorem not_absorbs_authentication {proof : CTraderGate7Proof}
    (hterminal : proof.isTerminal = true) (id : Int64) :
    ¬Absorbs proof (.acceptAccountAuthentication id) := by
  intro h
  have hreport := h.report
  change (proof.acceptAccountAuthentication id).2 = _ at hreport
  unfold acceptAccountAuthentication at hreport
  rw [if_pos] at hreport
  · cases hreport
  · rintro ⟨hphase, -⟩
    rw [isTerminal_of_phase_ne hphase (by decide) (by decide)] at hterminal
    cases hterminal

/-- **What a proof that has ended absorbs.** It absorbs an operation exactly when that is not the
echo of an account, and it absorbs every sequence of such operations. -/
theorem absorbs_iff (proof : CTraderGate7Proof) (hterminal : proof.isTerminal = true) :
    (∀ c, Absorbs proof c ↔ ∀ id, c ≠ .acceptAccountAuthentication id) ∧
    ∀ calls : List Call, (∀ c ∈ calls, ∀ id, c ≠ .acceptAccountAuthentication id) →
      machine.Along Absorbs proof calls ∧
      (machine.run proof calls).phase = proof.phase ∧
      (machine.run proof calls).quoteEvidence = proof.quoteEvidence := by
  constructor
  · intro c
    constructor
    · rintro h id rfl
      exact not_absorbs_authentication hterminal id h
    · exact absorbs_of_ne hterminal
  · intro calls hcalls
    induction calls generalizing proof with
    | nil => exact ⟨trivial, rfl, rfl⟩
    | cons c calls ih =>
      have habsorbs := absorbs_of_ne hterminal (hcalls c List.mem_cons_self)
      have hnext : (machine.next proof c).isTerminal = true := by
        unfold isTerminal at hterminal ⊢
        rw [habsorbs.phase]
        exact hterminal
      obtain ⟨halong, hphase, hquote⟩ :=
        ih _ hnext fun c' hc' => hcalls c' (List.mem_cons_of_mem c hc')
      exact ⟨⟨habsorbs, halong⟩, hphase.trans habsorbs.phase, hquote.trans habsorbs.quoteEvidence⟩

/-- A proof that was completed by a quote absorbs all calls but those answers. -/
theorem absorbs_iff_quoteRun :
    (∀ c, Absorbs (machine.run { connectionGeneration := 7 } (quoteRun [])) c ↔
      ∀ id, c ≠ .acceptAccountAuthentication id) ∧
    ∀ calls : List Call, (∀ c ∈ calls, ∀ id, c ≠ .acceptAccountAuthentication id) →
      machine.Along Absorbs (machine.run { connectionGeneration := 7 } (quoteRun [])) calls ∧
      (machine.run (machine.run { connectionGeneration := 7 } (quoteRun [])) calls).phase =
        (machine.run { connectionGeneration := 7 } (quoteRun [])).phase ∧
      (machine.run (machine.run { connectionGeneration := 7 } (quoteRun [])) calls).quoteEvidence =
        (machine.run { connectionGeneration := 7 } (quoteRun [])).quoteEvidence :=
  absorbs_iff _ (by decide +kernel)

/-- A late echo destroys an established quote. -/
theorem late_echo_destroys_quote :
    (machine.run { connectionGeneration := 7 } (quoteRun [])).phase = .complete ∧
    (machine.run { connectionGeneration := 7 } (quoteRun [])).quoteEvidence.isSome = true ∧
    machine.output (machine.run { connectionGeneration := 7 } (quoteRun []))
      (.acceptAccountAuthentication 42) = .invalidAccountIdentifier ∧
    (machine.next (machine.run { connectionGeneration := 7 } (quoteRun []))
      (.acceptAccountAuthentication 42)).phase = .terminal ∧
    (machine.next (machine.run { connectionGeneration := 7 } (quoteRun []))
      (.acceptAccountAuthentication 42)).quoteEvidence = none := by
  decide +kernel

end Absorption

end CTraderGate7Proof

end TradeBot
