import Mathlib.Data.List.TakeDrop
import Mathlib.Data.List.TakeWhile
import TradeBot.CTrader.OAuthCorrelation

/-!
# The correlation guard matches once

What a call of the guard can do, and from it what every sequence of calls does: one match at
most, for the armed value only, and nothing after the guard has ended.
-/

namespace TradeBot

open Library

namespace CTraderOAuthCorrelationGuard

section Query

/-- The parameter with a name and a value, as a query spells it. -/
def spelled (name value : Bytes) : Bytes := name ++ byteOf '=' :: value

/-- A parameter is cut at its first equals sign. -/
theorem cutParameter_eq_some {parameter name value : Bytes}
    (h : cutParameter parameter = some (name, value)) :
    parameter = spelled name value ∧ byteOf '=' ∉ name := by
  unfold cutParameter at h
  rw [List.span_eq_takeWhile_dropWhile] at h
  have hsplit := @List.takeWhile_append_dropWhile _ (· != byteOf '=') parameter
  have hname : byteOf '=' ∉ parameter.takeWhile (· != byteOf '=') := by
    intro hmem
    simpa using List.mem_takeWhile_imp hmem
  have hrest := @List.head?_dropWhile_not _ (· != byteOf '=') parameter
  revert h
  generalize parameter.takeWhile (· != byteOf '=') = front at *
  generalize parameter.dropWhile (· != byteOf '=') = rest at *
  intro h
  cases rest with
  | nil => cases h
  | cons c rest =>
    have hc : c = byteOf '=' := by simpa using hrest
    cases front with
    | nil => cases h
    | cons b front =>
      injection h with h
      injection h with h₁ h₂
      subst h₁ h₂ hc
      exact ⟨hsplit.symm, hname⟩

/-- A parameter is spelled by one name, when no name has an equals sign. -/
theorem spelled_injective {name name' value value' : Bytes} (hname : byteOf '=' ∉ name)
    (hname' : byteOf '=' ∉ name') (h : spelled name value = spelled name' value') :
    name = name' ∧ value = value' := by
  have htake : ∀ {n v : Bytes}, byteOf '=' ∉ n → (spelled n v).takeWhile (· != byteOf '=') = n := by
    intro n v hn
    unfold spelled
    rw [List.takeWhile_append_of_pos, List.takeWhile_cons_of_neg (by simp), List.append_nil]
    intro c hc
    have : c ≠ byteOf '=' := fun heq => hn (heq ▸ hc)
    simpa using this
  have hnames : name = name' := by rw [← htake hname, h, htake hname']
  subst hnames
  have hvalues := List.append_cancel_left h
  injection hvalues with _ hvalues
  exact ⟨rfl, hvalues⟩

/-- What the loop of `parseQuery` knows of the pieces that it has taken: the value of the
state parameter, and that there is only one. -/
structure Scanned (pieces : List Bytes) (scan : QueryScan) : Prop where
  named : ascii "state" ∈ scan.names ↔ scan.state ≠ []
  piece : ∀ value, spelled (ascii "state") value ∈ pieces ↔ scan.state = value ∧ value ≠ []

/-- Nothing has been scanned at first. -/
theorem scanned_empty : Scanned [] {} where
  named := by simp
  piece value := by
    constructor
    · intro h
      cases h
    · rintro ⟨rfl, h⟩
      exact (h rfl).elim

/-- A parameter that the loop accepts. -/
theorem scanParameter_eq_ok {scan scan' : QueryScan} {parameter : Bytes}
    (h : scanParameter scan parameter = .ok scan') :
    ∃ name value, parameter = spelled name value ∧ byteOf '=' ∉ name ∧ name ∉ scan.names ∧
      scan'.names = scan.names ++ [name] ∧
      if name = ascii "state" then value ≠ [] ∧ scan'.state = value
      else scan'.state = scan.state := by
  have hcode : ascii "code" ≠ ascii "state" := by decide
  have herror : ascii "error" ≠ ascii "state" := by decide
  unfold scanParameter at h
  -- only that the three names differ matters
  generalize ascii "code" = codeName at h hcode
  generalize ascii "error" = errorName at h herror
  generalize ascii "state" = stateName at h hcode herror ⊢
  split at h
  · cases h
  cases hcut : cutParameter parameter with
  | none =>
    rw [hcut] at h
    cases h
  | some pair =>
    obtain ⟨name, value⟩ := pair
    rw [hcut] at h
    obtain ⟨hspelled, hname⟩ := cutParameter_eq_some hcut
    dsimp only at h
    split at h
    · cases h
    split at h
    · cases h
    rename_i hfresh
    refine ⟨name, value, hspelled, hname, hfresh, ?_⟩
    split at h
    · rename_i heq
      subst heq
      split at h
      · cases h
      · cases h
        exact ⟨rfl, by rw [if_neg hcode]⟩
    split at h
    · rename_i heq
      subst heq
      split at h
      · cases h
      · rename_i hvalue
        cases h
        exact ⟨rfl, by rw [if_pos rfl]; exact ⟨by simpa using hvalue, rfl⟩⟩
    rename_i hstate
    split at h
    · rename_i heq
      subst heq
      split at h
      · cases h
      · cases h
        exact ⟨rfl, by rw [if_neg herror]⟩
    · cases h
      exact ⟨rfl, by rw [if_neg hstate]⟩

/-- A parameter that is scanned extends what has been scanned. -/
theorem Scanned.next {pieces : List Bytes} {scan scan' : QueryScan} {parameter : Bytes}
    (hscanned : Scanned pieces scan) (h : scanParameter scan parameter = .ok scan') :
    Scanned (pieces ++ [parameter]) scan' := by
  obtain ⟨name, value, rfl, hname, hfresh, hnames, hstate⟩ := scanParameter_eq_ok h
  have hplain : byteOf '=' ∉ ascii "state" := by decide
  constructor
  · rw [hnames, List.mem_append, List.mem_singleton]
    by_cases heq : name = ascii "state"
    · rw [if_pos heq] at hstate
      rw [hstate.2]
      exact ⟨fun _ => hstate.1, fun _ => Or.inr heq.symm⟩
    · rw [if_neg heq] at hstate
      rw [hstate, ← hscanned.named]
      exact ⟨fun h => h.resolve_right (Ne.symm heq), Or.inl⟩
  · intro other
    rw [List.mem_append, List.mem_singleton, hscanned.piece other]
    by_cases heq : name = ascii "state"
    · rw [if_pos heq] at hstate
      have hnone : scan.state = [] := by
        by_contra hsome
        exact hfresh (heq ▸ hscanned.named.mpr hsome)
      subst heq
      rw [hnone, hstate.2]
      constructor
      · rintro (⟨rfl, hother⟩ | hspelled)
        · exact (hother rfl).elim
        · obtain ⟨_, rfl⟩ := spelled_injective hplain hplain hspelled
          exact ⟨rfl, hstate.1⟩
      · rintro ⟨rfl, _⟩
        exact Or.inr rfl
    · rw [if_neg heq] at hstate
      rw [hstate]
      constructor
      · rintro (hold | hspelled)
        · exact hold
        · exact (heq (spelled_injective hplain hname hspelled).1.symm).elim
      · exact Or.inl

/-- A scan that succeeds has scanned all of its parameters. -/
theorem scanned_of_foldlM {pieces : List Bytes} {scan : QueryScan}
    (h : pieces.foldlM scanParameter {} = .ok scan) : Scanned pieces scan := by
  induction pieces using List.reverseRecOn generalizing scan with
  | nil =>
    cases h
    exact scanned_empty
  | append_singleton pieces parameter ih =>
    rw [List.foldlM_append] at h
    cases hfold : pieces.foldlM scanParameter {} with
    | error decision =>
      rw [hfold] at h
      cases h
    | ok scan₁ =>
      rw [hfold] at h
      change [parameter].foldlM scanParameter scan₁ = .ok scan at h
      simp only [List.foldlM_cons, List.foldlM_nil, bind_pure] at h
      exact (ih hfold).next h

/-- The decision that ends the loop is a rejection. -/
theorem scanParameter_error {scan : QueryScan} {parameter : Bytes} {decision : Decision}
    (h : scanParameter scan parameter = .error decision) :
    decision ≠ .correlationMatchedCodeDiscarded := by
  unfold scanParameter at h
  generalize ascii "code" = codeName at h
  generalize ascii "error" = errorName at h
  generalize ascii "state" = stateName at h
  repeat' split at h
  all_goals
    cases h
    try decide

/-- A scan that fails does not report a match. -/
theorem foldlM_error {pieces : List Bytes} {scan : QueryScan} {decision : Decision}
    (h : pieces.foldlM scanParameter scan = .error decision) :
    decision ≠ .correlationMatchedCodeDiscarded := by
  induction pieces generalizing scan with
  | nil => cases h
  | cons parameter pieces ih =>
    rw [List.foldlM_cons] at h
    cases hscan : scanParameter scan parameter with
    | error other =>
      rw [hscan] at h
      cases h
      exact scanParameter_error hscan
    | ok scan' =>
      rw [hscan] at h
      exact ih h

/-- A query that `parseQuery` accepts has one state parameter, and its value is the state
returned. -/
theorem parseQuery_state {query : Bytes}
    (h : (parseQuery query).decision = .correlationMatchedCodeDiscarded) (value : Bytes) :
    spelled (ascii "state") value ∈ query.splitOn (byteOf '&') ↔
      value = (parseQuery query).state := by
  revert h
  unfold parseQuery
  split
  · intro h
    cases h
  cases hfold : (query.splitOn (byteOf '&')).foldlM scanParameter {} with
  | error decision => exact fun h => (foldlM_error hfold h).elim
  | ok scan =>
    have hscanned := scanned_of_foldlM hfold
    dsimp only
    split
    · split <;> intro h <;> cases h
    split
    · intro h
      cases h
    rename_i hstate
    split
    · intro h
      cases h
    intro _
    rw [hscanned.piece]
    constructor
    · exact fun h => h.1.symm
    · rintro rfl
      exact ⟨rfl, by simpa using hstate⟩

end Query

section Calls

variable {guard : CTraderOAuthCorrelationGuard}

/-- The callbacks that the guard matches. -/
structure Accepts (guard : CTraderOAuthCorrelationGuard) (request : CallbackRequest) (now : ℤ) :
    Prop where
  armed : guard.phase = .armed
  since : guard.armedAt ≤ now
  before : now < guard.expiresAt
  remoteAddress : request.remoteAddress = loopbackAddress
  method : request.method = ascii "GET"
  host : request.host = callbackHost
  path : request.path = callbackPath
  state : ∀ value, spelled (ascii "state") value ∈ request.rawQuery.splitOn (byteOf '&') ↔
    value = guard.state

/-- The comparison in constant time decides equality. -/
theorem constantTimeEqual_iff {expected actual : Bytes} :
    constantTimeEqual expected actual = true ↔ expected = actual := by
  unfold constantTimeEqual
  split
  · rename_i hlength
    constructor
    · intro h
      cases h
    · rintro rfl
      exact (hlength rfl).elim
  · rename_i hlength
    rw [decide_eq_true_iff, differences_eq_zero_iff (not_not.mp hlength)]

/-- A match gets past a check whose failure is no match. -/
private theorem passes {p : Prop} [Decidable p]
    {failed rest : CTraderOAuthCorrelationGuard × Decision}
    (hfailed : failed.2 ≠ .correlationMatchedCodeDiscarded)
    (h : (if p then failed else rest).2 = .correlationMatchedCodeDiscarded) :
    ¬p ∧ rest.2 = .correlationMatchedCodeDiscarded := by
  by_cases hp : p
  · rw [if_pos hp] at h
    exact absurd h hfailed
  · rw [if_neg hp] at h
    exact ⟨hp, h⟩

/-- A callback is reported as a match only where the guard accepts it. -/
theorem consume_matched {request : CallbackRequest} {now : ℤ}
    (h : (guard.consume request now).2 = .correlationMatchedCodeDiscarded) :
    guard.Accepts request now := by
  unfold consume at h
  obtain ⟨hunarmed, h⟩ := passes (by rintro ⟨⟩) h
  obtain ⟨hterminal, h⟩ := passes (by rintro ⟨⟩) h
  have harmed : guard.phase = .armed := by
    cases hphase : guard.phase with
    | unarmed => exact (hunarmed hphase).elim
    | armed => rfl
    | terminal => exact (hterminal hphase).elim
  obtain ⟨hsince, h⟩ := passes (by rintro ⟨⟩) h
  obtain ⟨hbefore, h⟩ := passes (by rintro ⟨⟩) h
  obtain ⟨hremote, h⟩ := passes (by rintro ⟨⟩) h
  obtain ⟨hmethod, h⟩ := passes (by rintro ⟨⟩) h
  obtain ⟨hhost, h⟩ := passes (by rintro ⟨⟩) h
  obtain ⟨hpath, h⟩ := passes (by rintro ⟨⟩) h
  dsimp only at h
  have hparsed : ¬(parseQuery request.rawQuery).decision ≠ .correlationMatchedCodeDiscarded := by
    intro hparsed
    rw [if_pos hparsed] at h
    exact hparsed h
  rw [if_neg hparsed] at h
  obtain ⟨hequal, -⟩ := passes (by rintro ⟨⟩) h
  have hstate : guard.state = (parseQuery request.rawQuery).state :=
    constantTimeEqual_iff.mp (by simpa using hequal)
  exact
    { armed := harmed
      since := not_lt.mp hsince
      before := not_le.mp hbefore
      remoteAddress := not_not.mp hremote
      method := not_not.mp hmethod
      host := not_not.mp hhost
      path := not_not.mp hpath
      state := fun value => by rw [hstate, parseQuery_state (not_not.mp hparsed)] }

/-- The secret is stored only while the guard is armed. -/
def Quiet (guard : CTraderOAuthCorrelationGuard) : Prop := guard.phase ≠ .armed → guard.state = []

/-- `call` arms the guard at a time with an entropy. -/
def Call.Arms (armedAt : ℤ) (entropy : Vector UInt8 32) : Call → Prop
  | .arm _ now bytes => now = armedAt ∧ bytes = some entropy
  | .armWithEntropy _ now bytes => now = armedAt ∧ bytes = entropy
  | _ => False

/-- What a call can do: it arms the unarmed guard, it leaves an armed guard waiting, or the
guard has ended after it. -/
inductive Effect (guard : CTraderOAuthCorrelationGuard) (c : Call) :
    CTraderOAuthCorrelationGuard × Answer → Prop
  | arms (armedAt : ℤ) (entropy : Vector UInt8 32) (hphase : guard.phase = .unarmed)
    (hc : c.Arms armedAt entropy) :
    Effect guard c
      ({ state := base64UrlEncode entropy.toList
         armedAt := armedAt
         expiresAt := armedAt + correlationLifetime
         phase := .armed
         lastDecision := .armed }, .armed true)
  | waits (now : ℤ) (hc : c = .expireIfDue now) (hphase : guard.phase = .armed) :
    Effect guard c ({ guard with lastDecision := .armed }, .decided .armed)
  | ends (guard' : CTraderOAuthCorrelationGuard) (answer : Answer)
    (hphase : guard'.phase = .terminal) (hstate : guard'.state = [])
    (hanswer : answer ≠ .armed true)
    (hmatched : answer = .decided .correlationMatchedCodeDiscarded →
      ∃ request now, c = .consume request now ∧ guard.Accepts request now) :
    Effect guard c (guard', answer)

/-- The effect of arming a guard that has been armed before. -/
theorem effect_rejectRearming (h : guard.Quiet) (hphase : guard.phase ≠ .unarmed) (c : Call) :
    Effect guard c (guard.rejectRearming.map id .armed) := by
  unfold rejectRearming
  split
  · exact .ends _ _ rfl rfl (by decide) (fun h => by cases h)
  · rename_i harmed
    have hterminal : guard.phase = .terminal := by
      cases hp : guard.phase with
      | unarmed => exact (hphase hp).elim
      | armed => exact (harmed hp).elim
      | terminal => rfl
    exact .ends _ _ hterminal (h harmed) (by decide) (fun h => by cases h)

/-- The effect of arming a guard with 32 bytes of entropy. -/
theorem effect_armWithEntropy (h : guard.Quiet) (binding : ListenerBinding) (now : ℤ)
    (entropy : Vector UInt8 32) {c : Call} (hc : c.Arms now entropy) :
    Effect guard c ((guard.armWithEntropy binding now entropy).map id .armed) := by
  unfold armWithEntropy
  split
  · exact effect_rejectRearming h ‹_› c
  rename_i hphase
  have hunarmed := not_not.mp hphase
  have hstate : guard.state = [] := h (by rw [hunarmed]; decide)
  split
  · exact .ends _ _ rfl hstate (by decide) (fun h => by cases h)
  split
  · exact .ends _ _ rfl hstate (by decide) (fun h => by cases h)
  · exact .arms now entropy hunarmed hc

/-- The effect of a decision that ends the attempt. -/
theorem effect_finish (guard' : CTraderOAuthCorrelationGuard) {decision : Decision} {c : Call}
    (h : decision = .correlationMatchedCodeDiscarded →
      ∃ request now, c = .consume request now ∧ guard.Accepts request now) :
    Effect guard c ((guard'.finish decision).map id .decided) :=
  .ends _ _ rfl rfl (by intro h; cases h) (fun hd => h (by injection hd))

/-- A guard that has ended answers that it has. -/
theorem effect_terminal (h : guard.Quiet) (hphase : guard.phase = .terminal) (c : Call) :
    Effect guard c ({ guard with lastDecision := .alreadyTerminal }, .decided .alreadyTerminal) :=
  .ends _ _ hphase (h (by rw [hphase]; decide)) (by decide) (fun h => by cases h)

/-- A chain of checks ends in one decision. -/
private theorem finishes_ite {p : Prop} [Decidable p] {decision : Decision}
    {rest : CTraderOAuthCorrelationGuard × Decision}
    (h : ∃ decision, rest = guard.finish decision) :
    ∃ last, (if p then guard.finish decision else rest) = guard.finish last := by
  split
  · exact ⟨decision, rfl⟩
  · exact h

/-- A callback that reaches a guard which has not ended ends it, whatever is decided. -/
theorem consume_eq_finish (hterminal : guard.phase ≠ .terminal) (request : CallbackRequest)
    (now : ℤ) : ∃ decision, guard.consume request now = guard.finish decision := by
  unfold consume
  rw [if_neg hterminal]
  iterate 9 apply finishes_ite
  exact ⟨_, rfl⟩

/-- The effect of a callback. -/
theorem effect_consume (h : guard.Quiet) (request : CallbackRequest) (now : ℤ) :
    Effect guard (.consume request now) ((guard.consume request now).map id .decided) := by
  have hmatched := @consume_matched guard request now
  have hend : ∀ decision, guard.consume request now = guard.finish decision →
      Effect guard (.consume request now) ((guard.consume request now).map id .decided) := by
    intro decision heq
    rw [heq]
    apply effect_finish guard
    intro hd
    exact ⟨request, now, rfl, hmatched (by rw [heq]; exact hd)⟩
  by_cases hterminal : guard.phase = .terminal
  · have heq : guard.consume request now =
        ({ guard with lastDecision := .alreadyTerminal }, .alreadyTerminal) := by
      unfold consume
      rw [if_neg (by rw [hterminal]; decide), if_pos hterminal]
    rw [heq]
    exact effect_terminal h hterminal _
  · obtain ⟨decision, heq⟩ := consume_eq_finish hterminal request now
    exact hend decision heq

/-- The effect of a look at the clock. -/
theorem effect_expireIfDue (h : guard.Quiet) (now : ℤ) :
    Effect guard (.expireIfDue now) ((guard.expireIfDue now).map id .decided) := by
  unfold expireIfDue
  split
  · exact effect_finish guard (by intro h; cases h)
  rename_i hunarmed
  split
  · exact effect_terminal h ‹_› _
  rename_i hterminal
  split
  · exact effect_finish guard (by intro h; cases h)
  split
  · have harmed : guard.phase = .armed := by
      cases hphase : guard.phase with
      | unarmed => exact (hunarmed hphase).elim
      | armed => rfl
      | terminal => exact (hterminal hphase).elim
    exact .waits now rfl harmed
  · exact effect_finish guard (by intro h; cases h)

/-- Every call has one of the effects. -/
theorem effect_call (h : guard.Quiet) (c : Call) : Effect guard c (guard.call c) := by
  cases c with
  | arm binding now entropy =>
    change Effect guard _ ((guard.arm binding now entropy).map id .armed)
    unfold arm
    split
    · exact effect_rejectRearming h ‹_› _
    rename_i hphase
    cases entropy with
    | none =>
      have hstate : guard.state = [] := h (by rw [not_not.mp hphase]; decide)
      exact .ends _ _ rfl hstate (by decide) (fun h => by cases h)
    | some entropy => exact effect_armWithEntropy h binding now entropy ⟨rfl, rfl⟩
  | armWithEntropy binding now entropy =>
    exact effect_armWithEntropy h binding now entropy ⟨rfl, rfl⟩
  | consume request now => exact effect_consume h request now
  | expireIfDue now => exact effect_expireIfDue h now
  | cancel =>
    change Effect guard _ (guard.cancel.map id .decided)
    unfold cancel
    split
    · exact effect_terminal h ‹_› _
    · exact effect_finish guard (by intro h; cases h)

/-- Every consumed callback ends the guard. -/
theorem consume_terminal (request : CallbackRequest) (now : ℤ) :
    (guard.consume request now).1.phase = .terminal := by
  by_cases hterminal : guard.phase = .terminal
  · unfold consume
    rw [if_neg (by rw [hterminal]; decide), if_pos hterminal]
    exact hterminal
  · obtain ⟨decision, heq⟩ := consume_eq_finish hterminal request now
    rw [heq]
    rfl

end Calls

section Runs

/-- What the calls so far say about the guard. -/
structure History (past : List (Call × Answer)) (guard : CTraderOAuthCorrelationGuard) : Prop where
  quiet : guard.Quiet
  armed : guard.phase = .armed → guard.expiresAt = guard.armedAt + correlationLifetime ∧
    ∃ entropy c, (c, .armed true) ∈ past ∧ c.Arms guard.armedAt entropy ∧
      guard.state = base64UrlEncode entropy.toList
  unmatched : guard.phase ≠ .terminal →
    (past.map Prod.snd).count (.decided .correlationMatchedCodeDiscarded) = 0
  once : (past.map Prod.snd).count (.decided .correlationMatchedCodeDiscarded) ≤ 1

/-- A new guard has no history. -/
theorem history_empty : History [] {} where
  quiet := fun _ => rfl
  armed := by intro h; cases h
  unmatched := fun _ => rfl
  once := Nat.zero_le 1

/-- Every call extends the history by itself and its answer. -/
theorem History.next {past : List (Call × Answer)} {guard : CTraderOAuthCorrelationGuard}
    (h : History past guard) (c : Call) :
    History (past ++ [(c, machine.output guard c)]) (machine.next guard c) := by
  have heffect := effect_call h.quiet c
  change History (past ++ [(c, (guard.call c).2)]) (guard.call c).1
  generalize guard.call c = result at *
  cases heffect with
  | arms armedAt entropy hphase hc =>
    have hunmatched := h.unmatched (by rw [hphase]; decide)
    exact
      { quiet := fun hp => (hp rfl).elim
        armed := fun _ => ⟨rfl, entropy, c, by simp, hc, rfl⟩
        unmatched := fun _ => by simpa using hunmatched
        once := by simp [hunmatched] }
  | waits now hc hphase =>
    have hunmatched := h.unmatched (by rw [hphase]; decide)
    obtain ⟨hexpires, entropy, c', hpast, harms, hstate⟩ := h.armed hphase
    exact
      { quiet := h.quiet
        armed := fun _ => ⟨hexpires, entropy, c', List.mem_append_left _ hpast, harms, hstate⟩
        unmatched := fun _ => by simpa using hunmatched
        once := by simp [hunmatched] }
  | ends guard' answer hphase hstate hanswer hmatched =>
    refine ⟨fun _ => hstate, ?_, fun hp => (hp hphase).elim, ?_⟩
    · intro hp
      rw [hphase] at hp
      cases hp
    · rw [List.map_append, List.count_append]
      by_cases heq : answer = .decided .correlationMatchedCodeDiscarded
      · obtain ⟨_, _, _, haccepts⟩ := hmatched heq
        have hunmatched := h.unmatched (by rw [haccepts.armed]; decide)
        simp [hunmatched, heq]
      · have hlast := List.count_eq_zero.mpr
          (show Answer.decided .correlationMatchedCodeDiscarded ∉ [answer] by
            simpa using Ne.symm heq)
        have := h.once
        simp only [List.map_cons, List.map_nil]
        omega

/-- Every guard has the history of the calls that made it. -/
theorem history (calls : List Call) : History (machine.trace {} calls) (machine.run {} calls) :=
  Machine.history_run (fun _ _ c h => h.next c) history_empty calls

/-- A guard that has ended stays so, and no later call arms it. -/
theorem terminal_next {guard : CTraderOAuthCorrelationGuard} (h : guard.Quiet)
    (hphase : guard.phase = .terminal) (c : Call) :
    machine.output guard c ≠ .armed true ∧ (machine.next guard c).phase = .terminal := by
  have heffect := effect_call h c
  change (guard.call c).2 ≠ .armed true ∧ (guard.call c).1.phase = .terminal
  generalize guard.call c = result at *
  cases heffect with
  | arms armedAt entropy hunarmed =>
    rw [hphase] at hunarmed
    cases hunarmed
  | waits now hc harmed =>
    rw [hphase] at harmed
    cases harmed
  | ends guard' answer hterminal hstate hanswer => exact ⟨hanswer, hterminal⟩

/-- A guard that has ended is never armed again. -/
theorem terminal_run {guard : CTraderOAuthCorrelationGuard} (h : guard.Quiet)
    (hphase : guard.phase = .terminal) (calls : List Call) :
    Answer.armed true ∉ machine.outputs guard calls ∧
      (machine.run guard calls).phase = .terminal := by
  induction calls generalizing guard with
  | nil => exact ⟨List.not_mem_nil, hphase⟩
  | cons c calls ih =>
    obtain ⟨houtput, hnext⟩ := terminal_next h hphase c
    have hquiet : (machine.next guard c).Quiet := by
      have heffect := effect_call h c
      change (guard.call c).1.Quiet
      change (guard.call c).1.phase = .terminal at hnext
      generalize guard.call c = result at *
      cases heffect with
      | arms => cases hnext
      | waits => exact h
      | ends guard' answer hterminal hstate => exact fun _ => hstate
    obtain ⟨houtputs, hrun⟩ := ih hquiet hnext
    refine ⟨?_, hrun⟩
    rw [Machine.outputs_cons, List.mem_cons, not_or]
    exact ⟨Ne.symm houtput, houtputs⟩

/-- **The guard is one-shot.** Over every sequence of calls of a new guard: at most one match is
returned; a match is for a callback consumed within the lifetime of the value that an earlier
call armed, from the loopback address, with the expected method, host and path, whose query
has that value as its only state; every consumed callback ends the guard; the value is stored
only while the guard is armed; and a guard that has ended stays so and is never armed again. -/
theorem matches_once (calls : List Call) :
    (machine.outputs {} calls).count (.decided .correlationMatchedCodeDiscarded) ≤ 1 ∧
    (∀ before request now after, calls = before ++ .consume request now :: after →
      (machine.next (machine.run {} before) (.consume request now)).phase = .terminal ∧
      (machine.output (machine.run {} before) (.consume request now) =
          .decided .correlationMatchedCodeDiscarded →
        ∃ armedAt entropy c, (c, .armed true) ∈ machine.trace {} before ∧
          c.Arms armedAt entropy ∧
          (machine.run {} before).state = base64UrlEncode entropy.toList ∧
          armedAt ≤ now ∧ now < armedAt + correlationLifetime ∧
          request.remoteAddress = loopbackAddress ∧ request.method = ascii "GET" ∧
          request.host = callbackHost ∧ request.path = callbackPath ∧
          ∀ value, spelled (ascii "state") value ∈ request.rawQuery.splitOn (byteOf '&') ↔
            value = base64UrlEncode entropy.toList)) ∧
    ((machine.run {} calls).phase ≠ .armed → (machine.run {} calls).state = []) ∧
    ∀ before after, calls = before ++ after → (machine.run {} before).phase = .terminal →
      (machine.run {} calls).phase = .terminal ∧
        Answer.armed true ∉ machine.outputs (machine.run {} before) after := by
  have hhistory := history calls
  refine ⟨?_, ?_, hhistory.quiet, ?_⟩
  · rw [← Machine.map_snd_trace]
    exact hhistory.once
  · rintro before request now after -
    have hbefore := history before
    refine ⟨consume_terminal request now, fun hmatched => ?_⟩
    have haccepts := consume_matched (Answer.decided.inj hmatched)
    obtain ⟨hexpires, entropy, c, hpast, harms, hstate⟩ := hbefore.armed haccepts.armed
    have hlate := haccepts.before
    rw [hexpires] at hlate
    refine ⟨_, entropy, c, hpast, harms, hstate, haccepts.since, hlate, haccepts.remoteAddress,
      haccepts.method, haccepts.host, haccepts.path, fun value => ?_⟩
    rw [haccepts.state value, hstate]
  · rintro before after rfl hterminal
    obtain ⟨houtputs, hrun⟩ := terminal_run (history before).quiet hterminal after
    rw [Machine.run_append]
    exact ⟨hrun, houtputs⟩

end Runs

end CTraderOAuthCorrelationGuard

end TradeBot
