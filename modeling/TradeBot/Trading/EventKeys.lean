import TradeBot.Library.NumberedTexts
import TradeBot.Lifecycle.Decisions
import TradeBot.PaperBroker

/-!
# The event keys that the gateway and the paper adapter make

For each order the gateway makes two keys and the paper adapter three, all from the
order's identifier. Keys of different orders or of different kinds are different texts,
and a caller that avoids their prefixes never hits one.
-/

namespace TradeBot

open Library

/-- The events for which a key is made from an order's identifier. -/
inductive EventKind where
  | risk
  | submit
  | acknowledgement
  | fill
  | cancelResult
  deriving DecidableEq

namespace EventKind

/-- The text before the identifier. -/
def stem : EventKind → String
  | .risk => "gateway-risk-"
  | .submit => "gateway-submit-"
  | .acknowledgement => "ack-"
  | .fill => "fill-"
  | .cancelResult => "cancel-result-"

/-- The text after the identifier. -/
def ending : EventKind → String
  | .fill => "-1"
  | _ => ""

/-- The key of an event of an order. -/
def key (kind : EventKind) (localOrderId : ℕ) : String :=
  kind.stem ++ toString localOrderId ++ kind.ending

/-- The key under which the gateway marks a risk check. -/
theorem key_risk (localOrderId : ℕ) : risk.key localOrderId = BrokerGateway.riskKey localOrderId :=
  String.append_empty

/-- The key under which it marks a submission. -/
theorem key_submit (localOrderId : ℕ) :
    submit.key localOrderId = BrokerGateway.submitKey localOrderId :=
  String.append_empty

/-- The key of an acknowledgement of the paper adapter. -/
theorem key_acknowledgement (localOrderId : ℕ) :
    acknowledgement.key localOrderId = "ack-" ++ toString localOrderId :=
  String.append_empty

/-- The key of its cancel result. -/
theorem key_cancelResult (localOrderId : ℕ) :
    cancelResult.key localOrderId = "cancel-result-" ++ toString localOrderId :=
  String.append_empty

/-- A key begins with the stem of its kind. -/
theorem stem_beginsWith (kind : EventKind) (localOrderId : ℕ) :
    BeginsWith kind.stem (kind.key localOrderId) :=
  (beginsWith_append _ _).append _

/-- No stem begins another one. -/
private theorem eq_of_stems (kind other : EventKind) :
    BeginsWith kind.stem other.stem → kind = other := by
  cases kind <;> cases other <;> decide

/-- A key determines its kind and its order. -/
theorem key_inj {kind other : EventKind} {localOrderId otherId : ℕ} :
    kind.key localOrderId = other.key otherId ↔ kind = other ∧ localOrderId = otherId := by
  constructor
  · intro h
    have hstem := kind.stem_beginsWith localOrderId
    rw [h] at hstem
    have hkind : kind = other := by
      rcases hstem.comparable (other.stem_beginsWith otherId) with hle | hle
      · exact eq_of_stems kind other hle
      · exact (eq_of_stems other kind hle).symm
    subst hkind
    exact ⟨rfl, numbered_injective kind.stem kind.ending h⟩
  · rintro ⟨rfl, rfl⟩
    rfl

/-- Keys are never empty, so the store records them. -/
theorem key_ne_empty (kind : EventKind) (localOrderId : ℕ) : kind.key localOrderId ≠ "" := by
  intro h
  have hstem := kind.stem_beginsWith localOrderId
  rw [h] at hstem
  have hnil : kind.stem.toList = [] := List.prefix_nil.mp hstem
  cases kind <;> revert hnil <;> decide

end EventKind

/-- The prefixes of the keys that the gateway and the paper adapter make themselves. -/
def internalPrefixes : List String := ["gateway-", "ack-", "fill-", "cancel-result-"]

/-- The key begins with no internal prefix. -/
def AvoidsInternal (eventKey : String) : Prop :=
  ∀ stem ∈ internalPrefixes, ¬BeginsWith stem eventKey

instance (eventKey : String) : Decidable (AvoidsInternal eventKey) :=
  inferInstanceAs (Decidable (∀ stem ∈ internalPrefixes, ¬_))

/-- Every stem begins with one of the internal prefixes. -/
private theorem prefix_of_stem (kind : EventKind) :
    ∃ stem ∈ internalPrefixes, BeginsWith stem kind.stem := by
  cases kind <;> decide

/-- A key that avoids the internal prefixes is none of the keys made here. -/
theorem AvoidsInternal.ne_key {eventKey : String} (h : AvoidsInternal eventKey)
    (kind : EventKind) (localOrderId : ℕ) : eventKey ≠ kind.key localOrderId := by
  rintro rfl
  obtain ⟨stem, hstem, hbegins⟩ := prefix_of_stem kind
  exact h stem hstem (hbegins.trans (kind.stem_beginsWith localOrderId))

end TradeBot
