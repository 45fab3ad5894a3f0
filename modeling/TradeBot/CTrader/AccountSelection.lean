import TradeBot.CTrader.Gate6Proof
import TradeBot.Library.Fallible

/-!
# The account that the Gate 6 proof selects

What each operation of the proof can do, and the history behind the account id that it gives out.
-/

namespace TradeBot

open Library

namespace CTraderGate6AccountProof

section Lists

/-- The demo account of a record that has a title. -/
def demoCandidate (account : Gate6AccountRecord) : Option VolatileCandidate :=
  if account.isLive = some false then
    account.brokerTitleShort.map fun title => ⟨account.accountId, title⟩
  else none

/-- The titled demo accounts of a list. -/
def demoCandidates (evidence : Gate6AccountListEvidence) : List VolatileCandidate :=
  evidence.accounts.filterMap demoCandidate

/-- An account adds a candidate exactly when it is a demo account, and at most one. -/
theorem addCandidate_eq_ok {candidates candidates' : List VolatileCandidate}
    {account : Gate6AccountRecord} (h : addCandidate candidates account = .ok candidates') :
    candidates' = candidates ++ (demoCandidate account).toList := by
  unfold addCandidate at h
  unfold demoCandidate
  split at h
  · rename_i hlive
    rw [if_neg hlive]
    cases h
    exact (List.append_nil candidates).symm
  rename_i hlive
  rw [if_pos (not_not.mp hlive)]
  split at h
  · rename_i htitle
    rw [htitle]
    cases h
    exact (List.append_nil candidates).symm
  rename_i title htitle
  rw [htitle]
  split at h
  · cases h
  split at h
  · cases h
  · cases h
    rfl

/-- The candidates of a list are its demo accounts, in the order of the list. -/
theorem candidates_eq {candidates : List VolatileCandidate} {evidence : Gate6AccountListEvidence}
    (h : evidence.accounts.foldlM addCandidate [] = .ok candidates) :
    candidates = demoCandidates evidence := by
  rw [eq_foldl_of_foldlM (fun _ _ _ => addCandidate_eq_ok) h]
  have haccumulate : ∀ (accounts : List Gate6AccountRecord) (front : List VolatileCandidate),
      accounts.foldl (fun candidates account => candidates ++ (demoCandidate account).toList)
        front = front ++ accounts.filterMap demoCandidate := by
    intro accounts
    induction accounts with
    | nil => exact fun front => (List.append_nil front).symm
    | cons account accounts ih =>
      intro front
      rw [List.foldl_cons, ih, List.append_assoc]
      cases hselect : demoCandidate account with
      | none => rw [List.filterMap_cons_none hselect, Option.toList_none, List.nil_append]
      | some candidate =>
        rw [List.filterMap_cons_some hselect, Option.toList_some, List.singleton_append]
  exact haccumulate evidence.accounts []

/-- The id of a titled demo account with one title. -/
def approvedAccount (title : String) (account : Gate6AccountRecord) : Option UInt64 :=
  (demoCandidate account).bind fun candidate =>
    if candidate.brokerTitleShort = title then some candidate.accountId else none

/-- Counting accounts of the approved title is a search for its matches. -/
theorem countApproved_eq_ok {title : String} {found found' : UInt64 × ℕ}
    {account : Gate6AccountRecord} (h : countApproved title found account = .ok found') :
    found' = matchStep (approvedAccount title) found account := by
  unfold countApproved at h
  unfold matchStep approvedAccount demoCandidate
  split at h
  · rename_i hlive
    rw [if_neg hlive]
    cases h
    rfl
  rename_i hlive
  rw [if_pos (not_not.mp hlive)]
  split at h
  · rename_i htitle
    rw [htitle]
    cases h
    rfl
  rename_i other htitle
  rw [htitle]
  split at h
  · cases h
  split at h
  · rename_i hother
    cases h
    simp only [Option.map_some, Option.bind_some, if_neg hother]
  rename_i hother
  split at h
  · cases h
  · cases h
    simp only [Option.map_some, Option.bind_some, if_pos (not_not.mp hother)]

/-- A list in which one account with a title is counted has one demo account of that title. -/
theorem approved_unique {title : String} {found : UInt64 × ℕ} {evidence : Gate6AccountListEvidence}
    (h : evidence.accounts.foldlM (countApproved title) (0, 0) = .ok found) (hone : found.2 = 1) :
    (demoCandidates evidence).filter (·.brokerTitleShort = title) = [⟨found.1, title⟩] := by
  have hfound : found = lastMatch (approvedAccount title) 0 evidence.accounts :=
    eq_foldl_of_foldlM (fun _ _ _ => countApproved_eq_ok) h
  rw [hfound] at hone ⊢
  have hmatch := filterMap_eq_singleton hone
  generalize (lastMatch (approvedAccount title) 0 evidence.accounts).1 = id at *
  have hsplit : evidence.accounts.filterMap (approvedAccount title) =
      (demoCandidates evidence).filterMap fun candidate =>
        if candidate.brokerTitleShort = title then some candidate.accountId else none := by
    unfold demoCandidates
    rw [List.filterMap_filterMap]
    rfl
  rw [hsplit] at hmatch
  obtain ⟨candidate, hfilter, hcandidate⟩ := filter_eq_singleton hmatch
  have htitle : candidate.brokerTitleShort = title := by
    by_contra hne
    rw [if_neg hne] at hcandidate
    cases hcandidate
  rw [if_pos htitle] at hcandidate
  have hsame : (fun candidate : VolatileCandidate => decide (candidate.brokerTitleShort = title)) =
      fun candidate => (if candidate.brokerTitleShort = title then some candidate.accountId
        else none).isSome := by
    funext candidate
    by_cases heq : candidate.brokerTitleShort = title
    · rw [if_pos heq, decide_eq_true heq, Option.isSome_some]
    · rw [if_neg heq, decide_eq_false heq, Option.isSome_none]
  rw [hsame, hfilter, ← htitle, ← Option.some.inj hcandidate]

/-- Sorted candidates without neighbouring twins have increasing titles, so that no title occurs
twice. -/
theorem pairwise_lt_of_hasTwins {candidates : List VolatileCandidate}
    (hsorted : candidates.Pairwise fun lhs rhs => titleOrder lhs rhs = true)
    (h : hasTwins candidates = false) :
    (candidates.map (·.brokerTitleShort)).Pairwise (· < ·) := by
  induction candidates with
  | nil => exact List.Pairwise.nil
  | cons first rest ih =>
    rw [List.map_cons, List.pairwise_cons]
    rw [List.pairwise_cons] at hsorted
    cases rest with
    | nil => exact ⟨fun title htitle => (List.not_mem_nil htitle).elim, List.Pairwise.nil⟩
    | cons second rest =>
      rw [hasTwins, Bool.or_eq_false_iff] at h
      have htail := ih hsorted.2 h.2
      refine ⟨?_, htail⟩
      have hle := hsorted.1 second List.mem_cons_self
      simp only [titleOrder, Bool.not_eq_true', decide_eq_false_iff_not, not_lt] at hle
      have hlt : first.brokerTitleShort < second.brokerTitleShort :=
        lt_of_le_of_ne hle (by simpa using h.1)
      rw [List.map_cons, List.pairwise_cons] at htail
      intro title htitle
      rw [List.map_cons, List.mem_cons] at htitle
      rcases htitle with rfl | htitle
      · exact hlt
      · exact hlt.trans (htail.1 title htitle)

/-- Sorted candidates without equal neighbours have pairwise distinct titles. -/
theorem titles_nodup {candidates : List VolatileCandidate}
    (h : hasTwins (candidates.mergeSort titleOrder) = false) :
    (candidates.map (·.brokerTitleShort)).Nodup := by
  have hsorted : (candidates.mergeSort titleOrder).Pairwise
      fun lhs rhs => titleOrder lhs rhs = true := by
    apply List.pairwise_mergeSort
    · intro a b c hab hbc
      simp only [titleOrder, Bool.not_eq_true', decide_eq_false_iff_not, not_lt] at hab hbc ⊢
      exact hab.trans hbc
    · intro a b
      simp only [titleOrder, Bool.or_eq_true, Bool.not_eq_true', decide_eq_false_iff_not, not_lt]
      exact le_total _ _
  have hnodup := (pairwise_lt_of_hasTwins hsorted h).imp fun hlt => ne_of_lt hlt
  exact ((List.mergeSort_perm candidates titleOrder).map _).nodup_iff.mp hnodup

end Lists

section Effects

/-- The evidence of an account list that is accepted. -/
structure Valid (evidence : Gate6AccountListEvidence) : Prop where
  current : evidence.currentConnectionGeneration = true
  correlated : evidence.correlationMatched = true
  owned : evidence.tokenOwned = true
  trading : evidence.tradingScope = true

/-- Evidence that the proof accepts is valid evidence in the words of the specification. -/
theorem valid_of_validateEvidence {evidence : Gate6AccountListEvidence}
    (h : validateEvidence evidence = .ready) : Valid evidence := by
  unfold validateEvidence at h
  split at h
  · cases h
  rename_i hcurrent
  split at h
  · cases h
  rename_i hcorrelated
  split at h
  · cases h
  rename_i howned
  split at h
  · cases h
  rename_i htrading
  exact ⟨by simpa using hcurrent, by simpa using hcorrelated, by simpa using howned,
    by simpa using htrading⟩

/-- The titles of the titled demo accounts of a list. -/
def demoTitles (evidence : Gate6AccountListEvidence) : List String :=
  (demoCandidates evidence).map (·.brokerTitleShort)

variable {proof : CTraderGate6AccountProof}

/-- What an operation can do: nothing but its report, the end of the proof, or one step to the
next phase with what the step needs. -/
inductive Effect (proof : CTraderGate6AccountProof) (c : Call) :
    CTraderGate6AccountProof × Gate6Decision → Prop
  | absorbed (hterminal : proof.isTerminal = true) : Effect proof c proof.replay
  | ends (decision : Gate6Decision) (hactive : proof.isTerminal = false) :
    Effect proof c (proof.finish decision)
  | listed (evidence : Gate6AccountListEvidence) (candidates : List VolatileCandidate)
    (safeCandidates : List Gate6SafeCandidate) (hc : c = .acceptGate6A evidence)
    (hphase : proof.phase = .gate6AReady) (hvalid : Valid evidence)
    (hnodup : (demoTitles evidence).Nodup)
    (hcandidates : ∀ candidate ∈ candidates, candidate.brokerTitleShort ∈ demoTitles evidence) :
    Effect proof c
      ({ proof.clearAccountIdentifiers with
        volatileCandidates := candidates
        safeCandidates := safeCandidates
        phase := .awaitingWade
        lastDecision := .awaitingWadeCheckpoint }, .awaitingWadeCheckpoint)
  | confirmed (title : String) (hc : c = .confirmWadeSelection title)
    (hphase : proof.phase = .awaitingWade)
    (hcandidate : ∃ candidate ∈ proof.volatileCandidates, candidate.brokerTitleShort = title) :
    Effect proof c
      ({ proof.clearAccountIdentifiers with
        approvedBrokerTitle := title
        safeCandidates := []
        phase := .gate6BReady
        lastDecision := .readyForGate6B }, .readyForGate6B)
  | selected (evidence : Gate6AccountListEvidence) (accountId : UInt64)
    (hc : c = .acceptGate6B evidence) (hphase : proof.phase = .gate6BReady)
    (hvalid : Valid evidence)
    (hunique : (demoCandidates evidence).filter
      (·.brokerTitleShort = proof.approvedBrokerTitle) = [⟨accountId, proof.approvedBrokerTitle⟩]) :
    Effect proof c
      ({ proof with
        selectedAccountId := accountId
        phase := .accountAuthReady
        lastDecision := .readyForAccountAuthentication }, .readyForAccountAuthentication)
  | authenticated (responseAccountId : Int64)
    (hc : c = .acceptAccountAuthentication responseAccountId)
    (hphase : proof.phase = .accountAuthReady) (hpositive : 0 < responseAccountId)
    (hecho : responseAccountId.toUInt64 = proof.selectedAccountId) :
    Effect proof c
      ({ proof.clearAll with
        phase := .complete
        lastDecision := .accountProofSucceeded }, .accountProofSucceeded)

/-- What the first gate does with a list of accounts. -/
theorem effect_acceptGate6A (evidence : Gate6AccountListEvidence) :
    Effect proof (.acceptGate6A evidence) (proof.acceptGate6A evidence) := by
  unfold acceptGate6A
  split
  · exact .absorbed ‹_›
  rename_i hactive
  have hends := fun decision => @Effect.ends proof (.acceptGate6A evidence) decision
    (Bool.eq_false_iff.mpr hactive)
  split
  · exact hends _
  rename_i hphase
  split
  · exact hends _
  rename_i hvalid
  split
  · exact hends _
  rename_i candidates hcandidates
  split
  · exact hends _
  dsimp only
  split
  · exact hends _
  rename_i htwins
  obtain rfl := candidates_eq hcandidates
  refine .listed evidence _ _ rfl (not_not.mp hphase)
    (valid_of_validateEvidence (not_not.mp hvalid)) (titles_nodup (by simpa using htwins)) ?_
  intro candidate hcandidate
  exact List.mem_map_of_mem (List.mem_mergeSort.mp hcandidate)

/-- What the confirmation of a selected title does. -/
theorem effect_confirmWadeSelection (title : String) :
    Effect proof (.confirmWadeSelection title) (proof.confirmWadeSelection title) := by
  unfold confirmWadeSelection
  split
  · exact .absorbed ‹_›
  rename_i hactive
  have hends := fun decision => @Effect.ends proof (.confirmWadeSelection title) decision
    (Bool.eq_false_iff.mpr hactive)
  split
  · exact hends _
  rename_i hphase
  split
  · exact hends _
  rename_i hcandidate
  refine .confirmed title rfl (not_not.mp (not_or.mp hphase).1) ?_
  simpa using hcandidate

/-- What the second gate does with a list of accounts. -/
theorem effect_acceptGate6B (evidence : Gate6AccountListEvidence) :
    Effect proof (.acceptGate6B evidence) (proof.acceptGate6B evidence) := by
  unfold acceptGate6B
  split
  · exact .absorbed ‹_›
  rename_i hactive
  have hends := fun decision => @Effect.ends proof (.acceptGate6B evidence) decision
    (Bool.eq_false_iff.mpr hactive)
  split
  · exact hends _
  rename_i hphase
  split
  · exact hends _
  rename_i hvalid
  split
  · exact hends _
  rename_i found hfound
  split
  · exact hends _
  split
  · exact hends _
  rename_i hone
  exact .selected evidence _ rfl (not_not.mp (not_or.mp hphase).1)
    (valid_of_validateEvidence (not_not.mp hvalid)) (approved_unique hfound (not_not.mp hone))

/-- Every operation has one of the effects. -/
theorem effect_call (c : Call) : Effect proof c (proof.call c) := by
  cases c with
  | acceptGate6A evidence => exact effect_acceptGate6A evidence
  | confirmWadeSelection title => exact effect_confirmWadeSelection title
  | acceptGate6B evidence => exact effect_acceptGate6B evidence
  | acceptAccountAuthentication id =>
    change Effect proof _ (proof.acceptAccountAuthentication id)
    unfold acceptAccountAuthentication
    split
    · exact .absorbed ‹_›
    rename_i hactive
    split
    · exact .ends _ (Bool.eq_false_iff.mpr hactive)
    rename_i hmatches
    obtain ⟨hphase, hpositive, hecho⟩ := not_not.mp hmatches
    exact .authenticated id rfl hphase hpositive hecho
  | cancel =>
    change Effect proof _ proof.cancel
    unfold cancel
    split
    · exact .absorbed ‹_›
    · exact .ends _ (Bool.eq_false_iff.mpr ‹_›)

end Effects

section History

/-- Operations with their reports. -/
abbrev Events := List (Call × Gate6Decision)

/-- `events` is an accepted first list that has a title. -/
def AfterGate6A (events : Events) (title : String) : Prop :=
  ∃ evidence, Valid evidence ∧ (demoTitles evidence).Nodup ∧ title ∈ demoTitles evidence ∧
    events = [(.acceptGate6A evidence, .awaitingWadeCheckpoint)]

/-- `events` goes up to the confirmation of a title. -/
def AfterConfirmation (events : Events) (title : String) : Prop :=
  ∃ before, AfterGate6A before title ∧
    events = before ++ [(.confirmWadeSelection title, .readyForGate6B)]

/-- `events` goes up to the second list, which has one account of the title. -/
def AfterGate6B (events : Events) (title : String) (accountId : UInt64) : Prop :=
  ∃ before evidence, AfterConfirmation before title ∧ Valid evidence ∧
    (demoCandidates evidence).filter (·.brokerTitleShort = title) = [⟨accountId, title⟩] ∧
    events = before ++ [(.acceptGate6B evidence, .readyForAccountAuthentication)]

/-- The accepted operations behind the state of a proof, phase by phase. -/
def Behind (past : Events) (proof : CTraderGate6AccountProof) : Prop :=
  match proof.phase with
  | .gate6AReady => True
  | .awaitingWade =>
    ∀ candidate ∈ proof.volatileCandidates,
      ∃ events, events.Sublist past ∧ AfterGate6A events candidate.brokerTitleShort
  | .gate6BReady =>
    ∃ events, events.Sublist past ∧ AfterConfirmation events proof.approvedBrokerTitle
  | .accountAuthReady =>
    ∃ events, events.Sublist past ∧
      AfterGate6B events proof.approvedBrokerTitle proof.selectedAccountId
  | .complete => True
  | .terminal => True

/-- No id, no candidate and no title is retained. -/
structure Cleared (proof : CTraderGate6AccountProof) : Prop where
  volatileCandidates : proof.volatileCandidates = []
  safeCandidates : proof.safeCandidates = []
  approvedBrokerTitle : proof.approvedBrokerTitle = ""
  selectedAccountId : proof.selectedAccountId = 0

/-- What the operations so far say about the proof. -/
structure History (past : Events) (proof : CTraderGate6AccountProof) : Prop where
  behind : Behind past proof
  cleared : proof.isTerminal = true → proof.Cleared

/-- Before the first call nothing is claimed about the past. -/
theorem history_empty : History [] {} where
  behind := trivial
  cleared := by intro h; cases h

/-- Every call carries the history on. -/
theorem History.next {past : Events} {proof : CTraderGate6AccountProof} (h : History past proof)
    (c : Call) : History (past ++ [(c, machine.output proof c)]) (machine.next proof c) := by
  have heffect := @effect_call proof c
  change History (past ++ [(c, (proof.call c).2)]) (proof.call c).1
  have hbehind := h.behind
  generalize proof.call c = result at *
  cases heffect with
  | absorbed hterminal =>
    have hcleared := h.cleared hterminal
    refine ⟨?_, fun _ => ⟨hcleared.1, hcleared.2, hcleared.3, hcleared.4⟩⟩
    have hphases : proof.phase = .terminal ∨ proof.phase = .complete := by
      simpa [isTerminal] using hterminal
    change Behind _ { proof with lastDecision := .alreadyTerminal }
    unfold Behind
    rcases hphases with hphase | hphase
    · simp only [hphase]
    · simp only [hphase]
  | ends decision hactive => exact ⟨trivial, fun _ => ⟨rfl, rfl, rfl, rfl⟩⟩
  | listed evidence candidates safeCandidates hc hphase hvalid hnodup hcandidates =>
    subst hc
    refine ⟨?_, fun hterminal => by cases hterminal⟩
    intro candidate hcandidate
    exact ⟨_, List.sublist_append_right past _, evidence, hvalid, hnodup,
      hcandidates candidate hcandidate, rfl⟩
  | confirmed title hc hphase hcandidate =>
    subst hc
    refine ⟨?_, fun hterminal => by cases hterminal⟩
    unfold Behind at hbehind
    rw [hphase] at hbehind
    obtain ⟨candidate, hmem, rfl⟩ := hcandidate
    obtain ⟨events, hsublist, hevents⟩ := hbehind candidate hmem
    exact ⟨_, hsublist.append (List.Sublist.refl _), events, hevents, rfl⟩
  | selected evidence accountId hc hphase hvalid hunique =>
    subst hc
    refine ⟨?_, fun hterminal => by cases hterminal⟩
    unfold Behind at hbehind
    rw [hphase] at hbehind
    obtain ⟨events, hsublist, hevents⟩ := hbehind
    exact ⟨_, hsublist.append (List.Sublist.refl _), events, evidence, hevents, hvalid, hunique,
      rfl⟩
  | authenticated id hc hphase hpositive hecho => exact ⟨trivial, fun _ => ⟨rfl, rfl, rfl, rfl⟩⟩

/-- The history of a proof holds after any sequence of calls. -/
theorem history (calls : List Call) : History (machine.trace {} calls) (machine.run {} calls) :=
  Machine.history_run (fun _ _ c h => h.next c) history_empty calls

/-- A proof that has ended keeps its phase, and every operation reports that it has ended. -/
theorem ended_run {proof : CTraderGate6AccountProof} (hterminal : proof.isTerminal = true)
    (calls : List Call) : (machine.run proof calls).phase = proof.phase ∧
      ∀ decision ∈ machine.outputs proof calls, decision = .alreadyTerminal := by
  induction calls generalizing proof with
  | nil => exact ⟨rfl, fun decision h => (List.not_mem_nil h).elim⟩
  | cons c calls ih =>
    have hcall : proof.call c = proof.replay := by
      cases c <;> exact if_pos hterminal
    have hnext : machine.next proof c = { proof with lastDecision := .alreadyTerminal } :=
      congrArg Prod.fst hcall
    have houtput : machine.output proof c = .alreadyTerminal := congrArg Prod.snd hcall
    rw [Machine.run_cons, Machine.outputs_cons, hnext, houtput, List.forall_mem_cons]
    obtain ⟨hphase, houtputs⟩ :=
      @ih { proof with lastDecision := .alreadyTerminal } hterminal
    exact ⟨hphase, rfl, houtputs⟩

/-- The proof completes only on the echo of the id that it gives out. -/
theorem completes_on_echo {proof : CTraderGate6AccountProof} {c : Call}
    (hbefore : proof.phase ≠ .complete) (hafter : (machine.next proof c).phase = .complete) :
    ∃ id, c = .acceptAccountAuthentication id ∧ proof.accountIdForAuthentication = some id := by
  have heffect := @effect_call proof c
  change (proof.call c).1.phase = .complete at hafter
  generalize proof.call c = result at *
  cases heffect with
  | absorbed hterminal => exact (hbefore hafter).elim
  | ends decision hactive => cases hafter
  | listed _ _ _ hc hphase => cases hafter
  | confirmed _ hc hphase => cases hafter
  | selected _ _ hc hphase => cases hafter
  | authenticated id hc hphase hpositive hecho =>
    refine ⟨id, hc, ?_⟩
    have husable : isUsableAccountId proof.selectedAccountId = true := by
      rw [← hecho, isUsableAccountId, decide_eq_true_iff]
      refine ⟨?_, Int64.toUInt64_le (Int64.le_of_lt hpositive) (Int64.le_maxValue id)⟩
      apply UInt64.pos_iff_ne_zero.mpr
      intro hzero
      have hid : id = 0 := by rw [← Int64.toInt64_toUInt64 id, hzero]; rfl
      rw [hid] at hpositive
      exact Int64.lt_irrefl hpositive
    unfold accountIdForAuthentication
    rw [if_neg, ← hecho, Int64.toInt64_toUInt64]
    rintro (hne | hunusable)
    · exact hne hphase
    · rw [husable] at hunusable
      cases hunusable

/-- **The account that is selected.** Over every sequence of operations: an id is given out only
after an accepted first list with pairwise distinct titles, the confirmation of one of them, and
an accepted second list that has one demo account of that title, which has the id; the proof
completes only on the echo of that id; a proof that has ended stays as it is; and then no id, no
candidate and no title is retained. -/
theorem selection_safe (calls : List Call) :
    (∀ id, (machine.run {} calls).accountIdForAuthentication = some id →
      ∃ first title second,
        List.Sublist
          [(Call.acceptGate6A first, Gate6Decision.awaitingWadeCheckpoint),
            (Call.confirmWadeSelection title, Gate6Decision.readyForGate6B),
            (Call.acceptGate6B second, Gate6Decision.readyForAccountAuthentication)]
          (machine.trace {} calls) ∧
        Valid first ∧ (demoTitles first).Nodup ∧ title ∈ demoTitles first ∧ Valid second ∧
        (demoCandidates second).filter (·.brokerTitleShort = title) = [⟨id.toUInt64, title⟩]) ∧
    (∀ before c after, calls = before ++ c :: after →
      (machine.run {} before).phase ≠ .complete →
      (machine.next (machine.run {} before) c).phase = .complete →
      ∃ id, c = .acceptAccountAuthentication id ∧
        (machine.run {} before).accountIdForAuthentication = some id) ∧
    (∀ before after, calls = before ++ after → (machine.run {} before).isTerminal = true →
      (machine.run {} calls).phase = (machine.run {} before).phase ∧
      ∀ decision ∈ machine.outputs (machine.run {} before) after, decision = .alreadyTerminal) ∧
    ((machine.run {} calls).isTerminal = true → (machine.run {} calls).Cleared) := by
  have hhistory := history calls
  refine ⟨fun id hid => ?_, ?_, ?_, hhistory.cleared⟩
  · unfold accountIdForAuthentication at hid
    split at hid
    · cases hid
    rename_i hready
    have hphase := not_not.mp (not_or.mp hready).1
    have hbehind := hhistory.behind
    unfold Behind at hbehind
    rw [hphase] at hbehind
    obtain ⟨_, hsublist, _, second, hevents, hvalid, hunique, rfl⟩ := hbehind
    obtain ⟨_, hevents, rfl⟩ := hevents
    obtain ⟨first, hvalid₁, hnodup, htitle, rfl⟩ := hevents
    refine ⟨first, _, second, hsublist, hvalid₁, hnodup, htitle, hvalid, ?_⟩
    rw [hunique, ← Option.some.inj hid, UInt64.toUInt64_toInt64]
  · rintro before c after - hbefore hafter
    exact completes_on_echo hbefore hafter
  · rintro before after rfl hterminal
    rw [Machine.run_append]
    exact ended_run hterminal after

end History

end CTraderGate6AccountProof

end TradeBot
