import TradeBot.Checkpoint.Portfolios

/-!
# Identifiers of resting orders

An identifier is given out once between two restorations, and no two orders of the queue have the
same one. A restored queue and its next identifier come from outside: they have been checked.
-/

namespace TradeBot

open Library Financial

namespace StateSerializer

/-- An order that passes its check has a new identifier. -/
theorem checkOrder_eq_ok {seen seen' : Finset ℕ × ℕ} {order : OrderRecord}
    (h : checkOrder seen order = .ok seen') : order.orderId ≠ 0 ∧ order.orderId ∉ seen.1 ∧
      seen' = (insert order.orderId seen.1, max seen.2 order.orderId) := by
  simp only [checkOrder, bind_eq_ok, failIf_eq_ok, pure_eq_ok, Bool.or_eq_false_iff,
    decide_eq_false_iff_not] at h
  obtain ⟨_, hchecks, rfl⟩ := h
  exact ⟨hchecks.1.1.1.1.1.1.1.1.1.1.1.2, hchecks.2, rfl⟩

/-- Orders that pass the loop have different identifiers up to the largest one. -/
theorem foldlM_checkOrder_eq_ok {orders : List OrderRecord} {seen seen' : Finset ℕ × ℕ}
    (h : orders.foldlM checkOrder seen = .ok seen') :
    (∀ order ∈ orders, order.orderId ≠ 0 ∧ order.orderId ∉ seen.1 ∧ order.orderId ≤ seen'.2) ∧
      (orders.map OrderRecord.orderId).Nodup ∧ seen.2 ≤ seen'.2 := by
  induction orders generalizing seen with
  | nil =>
    cases h
    exact ⟨fun _ horder => (List.not_mem_nil horder).elim, List.nodup_nil, le_refl _⟩
  | cons order orders ih =>
    rw [List.foldlM_cons, bind_eq_ok] at h
    obtain ⟨middle, hfirst, hrest⟩ := h
    obtain ⟨hpos, hnew, rfl⟩ := checkOrder_eq_ok hfirst
    obtain ⟨horders, hnodup, hle⟩ := ih hrest
    have hbound : max seen.2 order.orderId ≤ seen'.2 := hle
    refine ⟨?_, ?_, ?_⟩
    · rw [List.forall_mem_cons]
      refine ⟨⟨hpos, hnew, ?_⟩, fun o ho => ?_⟩
      · exact (le_max_right _ _).trans hbound
      · obtain ⟨hne, hunseen, hmax⟩ := horders o ho
        exact ⟨hne, fun hmem => hunseen (Finset.mem_insert_of_mem hmem), hmax⟩
    · rw [List.map_cons, List.nodup_cons]
      refine ⟨fun hmem => ?_, hnodup⟩
      obtain ⟨o, ho, hid⟩ := List.mem_map.mp hmem
      apply (horders o ho).2.1
      rw [hid]
      exact Finset.mem_insert_self _ _
    · exact (le_max_left _ _).trans hbound

end StateSerializer

namespace PortfolioManager

/-- A snapshot that passes its checks. -/
structure ValidatedSnapshot where
  snapshot : Snapshot
  validated : StateSerializer.validatePortfolio snapshot = .ok ()

/-- A restored portfolio has the queue of the snapshot. -/
theorem restoreState_queue {snapshot : Snapshot} {pm : PortfolioManager}
    (h : restoreState snapshot = .ok pm) :
    pm.pendingOrders = snapshot.pendingOrders ∧ pm.nextOrderId = snapshot.nextOrderId := by
  simp only [restoreState, bind_eq_ok, pure_eq_ok] at h
  obtain ⟨_, -, _, -, _, -, _, -, _, -, _, -, _, -, _, -, rfl⟩ := h
  exact ⟨rfl, rfl⟩

/-- A validated snapshot is restored with its identifiers in order. -/
theorem ValidatedSnapshot.numbered (s : ValidatedSnapshot) {pm : PortfolioManager}
    (h : restoreState s.snapshot = .ok pm) : pm.Numbered := by
  have hvalidated := s.validated
  simp only [StateSerializer.validatePortfolio, bind_eq_ok, StateSerializer.failIf_eq_ok,
    decide_eq_false_iff_not, not_le] at hvalidated
  obtain ⟨_, -, _, -, ⟨seen, largest⟩, horders, _, hlargest, -⟩ := hvalidated
  obtain ⟨hids, hnodup, -⟩ := StateSerializer.foldlM_checkOrder_eq_ok horders
  obtain ⟨hqueue, hnext⟩ := restoreState_queue h
  refine ⟨?_, fun order horder => ?_, fun order horder => ?_, ?_⟩
  · rw [hnext]
    exact (Nat.zero_le _).trans_lt hlargest
  · rw [hqueue] at horder
    exact Nat.pos_of_ne_zero (hids order horder).1
  · rw [hqueue] at horder
    rw [hnext]
    exact (hids order horder).2.2.trans_lt hlargest
  · rw [hqueue]
    exact hnodup

/-- A call of the portfolio, or the restoration of a snapshot that passes its checks. -/
inductive RestoringInput where
  | call (i : Input)
  | restoreState (s : ValidatedSnapshot)

/-- What a call hands back, or the exception of a restoration. -/
inductive RestoringOutput where
  | returned (o : Output)
  | restored (exception : Option StdException)

/-- The portfolio under its calls and under restorations. -/
def restoring : Machine PortfolioManager RestoringInput RestoringOutput where
  step pm
    | .call i =>
      let (pm', o) := trading.step pm i
      (pm', .returned o)
    | .restoreState s => match PortfolioManager.restoreState s.snapshot with
      | .ok pm' => (pm', .restored none)
      | .error e => (pm, .restored (some e))

/-- The identifier that a call gives to an accepted order. -/
def issuedId : RestoringOutput → Option ℕ
  | .returned (.placed orderId) => if orderId = 0 then none else some orderId
  | _ => none

variable {pm : PortfolioManager}

/-- A call keeps the identifiers of the queue different. -/
theorem Numbered.call (h : pm.Numbered) (i : Input) : (trading.next pm i).Numbered := by
  cases i with
  | account c =>
    unfold Machine.next
    simp only [trading]
    split
    · next pm' hcall =>
      obtain ⟨hqueue, hnext⟩ := call_queue c hcall
      exact h.congr hqueue hnext
    · exact h
  | placePendingOrder order => exact h.place order
  | cancelPendingOrder orderId => exact h.cancel orderId
  | evaluatePendingOrders symbol high low close timestamp =>
    exact h.evaluate symbol high low close timestamp

/-- Calls and restorations keep the identifiers of the queue different. -/
theorem Numbered.step (h : pm.Numbered) (i : RestoringInput) : (restoring.next pm i).Numbered := by
  cases i with
  | call i => exact h.call i
  | restoreState s =>
    unfold Machine.next
    simp only [restoring]
    split
    · next pm' hrestored => exact s.numbered hrestored
    · exact h

/-- A call gives out no identifier and keeps the next one, or it gives out the next one. -/
theorem issuedId_call (pm : PortfolioManager) (i : Input) :
    issuedId (restoring.output pm (.call i)) = none ∧
        (trading.next pm i).nextOrderId = pm.nextOrderId ∨
      (issuedId (restoring.output pm (.call i)) = none ∨
          issuedId (restoring.output pm (.call i)) = some pm.nextOrderId) ∧
        (trading.next pm i).nextOrderId = pm.nextOrderId + 1 := by
  unfold Machine.next Machine.output
  cases i with
  | account c =>
    left
    simp only [restoring, trading]
    split
    · next pm' hcall => exact ⟨rfl, (call_queue c hcall).2⟩
    · exact ⟨rfl, rfl⟩
  | placePendingOrder order =>
    simp only [restoring, trading]
    rcases pm.placePendingOrder_cases order with hrefused | ⟨_, _, _, _, _, -, -, -, -, hplaced⟩
    · rw [hrefused]
      exact .inl ⟨rfl, rfl⟩
    · rw [hplaced]
      refine .inr ⟨?_, rfl⟩
      dsimp only [issuedId]
      split
      · exact .inl rfl
      · exact .inr rfl
  | cancelPendingOrder orderId =>
    simp only [restoring, trading]
    rcases pm.cancelPendingOrder_cases orderId with hmissed | hfound
    · rw [hmissed]
      exact .inl ⟨rfl, rfl⟩
    · rw [hfound]
      exact .inl ⟨rfl, rfl⟩
  | evaluatePendingOrders symbol high low close timestamp => exact .inl ⟨rfl, rfl⟩

/-- The identifiers that calls give out without a restoration, in order. -/
def issued (pm : PortfolioManager) (calls : List Input) : List ℕ :=
  (restoring.outputs pm (calls.map .call)).filterMap issuedId

/-- The ids of a run are that of its first call, if it gave one, and those of the rest. -/
theorem issued_cons (pm : PortfolioManager) (i : Input) (calls : List Input) :
    issued pm (i :: calls) =
      (issuedId (restoring.output pm (.call i))).toList ++ issued (trading.next pm i) calls := by
  unfold issued
  rw [List.map_cons, Machine.outputs_cons, List.filterMap_cons]
  change _ = _ ++ ((restoring.outputs (restoring.next pm (.call i)) _).filterMap issuedId)
  cases issuedId (restoring.output pm (.call i)) <;> rfl

/-- The identifiers that are given out start from the next one and increase. -/
theorem issued_increasing (pm : PortfolioManager) (calls : List Input) :
    (∀ id ∈ issued pm calls, pm.nextOrderId ≤ id) ∧ (issued pm calls).Pairwise (· < ·) := by
  induction calls generalizing pm with
  | nil => exact ⟨fun _ hid => (List.not_mem_nil hid).elim, List.Pairwise.nil⟩
  | cons i calls ih =>
    obtain ⟨hlater, hincreasing⟩ := ih (trading.next pm i)
    rw [issued_cons]
    rcases issuedId_call pm i with ⟨hnone, hnext⟩ | ⟨hnone | hsome, hnext⟩
    · rw [hnone, Option.toList_none, List.nil_append]
      rw [hnext] at hlater
      exact ⟨hlater, hincreasing⟩
    · rw [hnone, Option.toList_none, List.nil_append]
      refine ⟨fun id hid => ?_, hincreasing⟩
      have hle := hlater id hid
      omega
    · rw [hsome, Option.toList_some, List.singleton_append, List.pairwise_cons,
        List.forall_mem_cons]
      refine ⟨⟨le_refl _, fun id hid => ?_⟩, fun id hid => ?_, hincreasing⟩
      · have hle := hlater id hid
        omega
      · have hle := hlater id hid
        omega

/-- **The queue of resting orders.** A candle splits every queue into fills of orders of its
symbol and orders that stay, which keeps the order and changes trailing stops of the symbol only.
After every run of calls and restorations of snapshots that pass their checks the identifiers of
the queue are positive, different and below the next one, and from there on calls give out, until
the next restoration, larger and larger identifiers from the next one on. -/
theorem pending_queue :
    (∀ (pm : PortfolioManager) (symbol : String) (high low close : Double) (timestamp : ℕ),
      Splits (KeptAs symbol) (FilledAs symbol timestamp) pm.pendingOrders
        (pm.evaluatePendingOrders symbol high low close timestamp).1.pendingOrders
        (pm.evaluatePendingOrders symbol high low close timestamp).2) ∧
    ∀ (capital : Money) (inputs : List RestoringInput),
      (restoring.run (fresh capital) inputs).Numbered ∧
      ∀ calls : List Input,
        (∀ id ∈ issued (restoring.run (fresh capital) inputs) calls,
          (restoring.run (fresh capital) inputs).nextOrderId ≤ id) ∧
        (issued (restoring.run (fresh capital) inputs) calls).Pairwise (· < ·) := by
  refine ⟨fun pm symbol high low close timestamp =>
    splits_evaluateQueue symbol high low close timestamp pm.pendingOrders,
    fun capital inputs => ⟨?_, ?_⟩⟩
  · exact restoring.invariant_run (I := Numbered) (fun _ i h => h.step i) (numbered_fresh capital)
      inputs
  · exact issued_increasing _

end PortfolioManager

end TradeBot
