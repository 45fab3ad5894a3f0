import TradeBot.Lifecycle.Records
import Mathlib.Data.Finset.Card
import Mathlib.Algebra.Order.Group.Multiset

/-!
# The audit trail

Every applied event leaves one entry in the trail of its order, under a key that was
never used before. So the applied keys are the keys of all trails, each once, the
trail ends in the state of its record, and it follows the transition table except
where a rejected cancel returns to the state before the request.
-/

namespace TradeBot

open Library

/-- The states of two consecutive audit entries, after the entries before them: a move of
the transition table, or the return of a rejected cancel. -/
def AuditFollows (before : List LifecycleAuditEntry) (a b : LifecycleAuditEntry) : Prop :=
  canTransition a.state b.state = true ∨
    a.state = .cancelRequested ∧ before.getLast?.map (·.state) = some b.state

/-- Every two consecutive entries of a trail follow each other. -/
def AuditLinked (trail : List LifecycleAuditEntry) : Prop :=
  ∀ before a b after, trail = before ++ a :: b :: after → AuditFollows before a b

/-- The trail of the record is linked and ends in its state; while a cancel is pending, the
entry before is that of the state it would restore. -/
structure OrderLifecycleRecord.Audited (record : OrderLifecycleRecord) : Prop where
  linked : AuditLinked record.auditHistory
  last_eq : ∃ entries entry, record.auditHistory = entries ++ [entry] ∧
    entry.state = record.state ∧ (record.state = .cancelRequested →
      entries.getLast?.map (·.state) = some record.preCancelState)

/-- One entry is linked. -/
private theorem auditLinked_singleton (entry : LifecycleAuditEntry) : AuditLinked [entry] := by
  intro before a b after hsplit
  have hlength := congrArg List.length hsplit
  simp only [List.length_append, List.length_cons, List.length_nil] at hlength
  omega

/-- A trail stays linked when an entry follows its last one. -/
theorem auditLinked_concat {entries : List LifecycleAuditEntry} {last entry : LifecycleAuditEntry}
    (h : AuditLinked (entries ++ [last])) (hlast : AuditFollows entries last entry) :
    AuditLinked (entries ++ [last] ++ [entry]) := by
  intro before a b after hsplit
  rcases List.eq_nil_or_concat after with rfl | ⟨after, c, rfl⟩
  · have hends : entries ++ [last] ++ [entry] = before ++ [a] ++ [b] := by
      rw [hsplit, List.append_assoc]
      rfl
    obtain ⟨hinit, hentry⟩ := List.append_inj' hends rfl
    obtain ⟨hbefore, ha⟩ := List.append_inj' hinit rfl
    cases hentry
    cases ha
    rw [← hbefore]
    exact hlast
  · have hends : entries ++ [last] ++ [entry] = before ++ a :: b :: after ++ [c] := by
      rw [hsplit, List.concat_eq_append, List.append_assoc]
      rfl
    obtain ⟨hinit, -⟩ := List.append_inj' hends rfl
    exact h before a b after hinit

namespace OrderLifecycleStore

/-- The event keys of all audit entries of all records. -/
def auditKeys (store : OrderLifecycleStore) : Multiset String :=
  KeyedMap.total (fun _ (record : OrderLifecycleRecord) =>
    (record.auditHistory.map (·.eventKey) : Multiset String)) store.records

/-- The number of all audit entries of all records. -/
def auditCount (store : OrderLifecycleStore) : ℕ :=
  KeyedMap.total (fun _ (record : OrderLifecycleRecord) => record.auditHistory.length)
    store.records

/-- The keys and the trails of a store tell the same events: the applied keys are the
disjoint union of the keys of the trails, and each trail leads to the state of its
record. -/
structure AuditComplete (store : OrderLifecycleStore) : Prop where
  keys_nodup : store.auditKeys.Nodup
  keys_eq : store.auditKeys.toFinset = store.appliedEventKeys
  card_eq : store.appliedEventKeys.card = store.auditCount
  last_state : ∀ localOrderId record, store.find localOrderId = some record →
    record.auditHistory.getLast?.map (·.state) = some record.state
  linked : ∀ localOrderId record, store.find localOrderId = some record →
    AuditLinked record.auditHistory

/-- The trail of a new record is its first entry. -/
theorem audited_newRecord (request : OrderRequest) : (newRecord request).Audited := by
  refine ⟨auditLinked_singleton _, [], _, rfl, rfl, ?_⟩
  intro hcancel
  cases hcancel

/-- A decision extends a linked trail. -/
theorem audited_of_advances {op : Operation} {event : Event} {record next : OrderLifecycleRecord}
    (hadvances : Advances op event record next) (h : record.Audited) : next.Audited := by
  obtain ⟨entry, haudit, hstate, -, -⟩ := hadvances.audited
  obtain ⟨entries, last, htrail, hlast, hpending⟩ := h.last_eq
  have hlinked := h.linked
  rw [htrail] at haudit hlinked
  refine ⟨?_, entries ++ [last], entry, haudit, hstate, fun hcancel => ?_⟩
  · rw [haudit]
    apply auditLinked_concat hlinked
    rw [AuditFollows, hlast, hstate]
    rcases hadvances.moved with hmove | ⟨hrequested, hrestored, -⟩
    · exact Or.inl hmove
    · right
      rw [hrestored]
      exact ⟨hrequested, hpending hrequested⟩
  · rw [List.getLast?_concat, Option.map_some, hlast, hadvances.preCancelState_eq, if_pos hcancel]

/-- Every record of every reachable store has its audited trail. -/
theorem every_audited_run (ops : List Operation) :
    (lifecycle.run empty ops).Every OrderLifecycleRecord.Audited := by
  refine Machine.invariant_run (I := Every OrderLifecycleRecord.Audited) ?_ (every_empty _) ops
  intro store op h
  apply h.next fun request _ => audited_newRecord request
  intro event record next hevent _ _ _ hdecision haudited
  exact audited_of_advances (decision_advances hevent hdecision) haudited

/-- A commit under a new key adds it to the keys. -/
private theorem val_commit {store : OrderLifecycleStore} {eventKey : String}
    (hfresh : eventKey ∉ store.appliedEventKeys) (localOrderId : ℕ)
    (record : OrderLifecycleRecord) :
    (store.commit localOrderId record eventKey).appliedEventKeys.val =
      eventKey ::ₘ store.appliedEventKeys.val :=
  Finset.insert_val_of_notMem hfresh

/-- One step keeps the applied keys equal to the keys of the trails. -/
theorem auditKeys_next {store : OrderLifecycleStore} (op : Operation)
    (h : store.auditKeys = store.appliedEventKeys.val) :
    (lifecycle.next store op).auditKeys = (lifecycle.next store op).appliedEventKeys.val := by
  rcases step_cases store op with ⟨hsame, -⟩ | ⟨request, rfl, hfind, -, hnext, hdone⟩ |
    ⟨event, record, next, hevent, hfind, -, hfresh, haccepted, hnext, -⟩
  · rw [hsame]
    exact h
  · have hfresh : request.idempotencyKey ∉ store.appliedEventKeys := by
      rcases hcreate : store.create request with ⟨store', success⟩
      rcases create_cases hcreate with ⟨-, hrefused⟩ | ⟨-, -, -, -, hnew, -, -⟩
      · rw [Machine.output] at hdone
        simp only [lifecycle, hcreate, hrefused, Prod.map_apply] at hdone
        cases hdone
      · exact hnew
    rw [hnext, val_commit hfresh, ← h]
    have hnew : request.localOrderId ∉ store.records := AList.lookup_eq_none.mp hfind
    rw [auditKeys, commit, KeyedMap.total_insert_of_notMem _ hnew]
    rfl
  · rw [hnext, val_commit hfresh, ← h]
    obtain ⟨entry, haudit, -, hkey, -⟩ := (decision_advances hevent haccepted).audited
    rw [auditKeys, auditKeys, commit, KeyedMap.total_insert, KeyedMap.total_eq_add_erase _ hfind,
      haudit, List.map_append, ← Multiset.coe_add, List.map_singleton, hkey,
      Multiset.coe_singleton, ← Multiset.singleton_add]
    ac_rfl

/-- The applied keys of every reachable store are the keys of its trails. -/
theorem auditKeys_run (ops : List Operation) :
    (lifecycle.run empty ops).auditKeys = (lifecycle.run empty ops).appliedEventKeys.val := by
  refine Machine.invariant_run
    (I := fun store : OrderLifecycleStore => store.auditKeys = store.appliedEventKeys.val)
    ?_ rfl ops
  intro store op h
  exact auditKeys_next op h

/-- Every entry has one key. -/
theorem card_auditKeys (store : OrderLifecycleStore) :
    store.auditKeys.card = store.auditCount := by
  have hcard := KeyedMap.map_total (fun _ (record : OrderLifecycleRecord) =>
    (record.auditHistory.map (·.eventKey) : Multiset String)) store.records Multiset.cardHom
  rw [Multiset.cardHom_apply] at hcard
  rw [auditKeys, hcard]
  simp only [Multiset.cardHom_apply, Multiset.coe_card, List.length_map, auditCount]

/-- **Every run leaves a complete audit trail.** -/
theorem auditComplete_run (ops : List Operation) : (lifecycle.run empty ops).AuditComplete := by
  have hkeys := auditKeys_run ops
  have hrecords := every_audited_run ops
  refine ⟨?_, ?_, ?_, ?_, ?_⟩
  · rw [hkeys]
    exact (lifecycle.run empty ops).appliedEventKeys.nodup
  · rw [hkeys]
    exact Finset.val_toFinset _
  · rw [← card_auditKeys, hkeys]
    rfl
  · intro localOrderId record hfind
    obtain ⟨entries, entry, htrail, hstate, -⟩ := (hrecords localOrderId record hfind).last_eq
    rw [htrail, List.getLast?_concat, Option.map_some, hstate]
  · intro localOrderId record hfind
    exact (hrecords localOrderId record hfind).linked

end OrderLifecycleStore

end TradeBot
