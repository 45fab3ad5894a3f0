import Mathlib.Data.List.Count
import Mathlib.Data.List.Perm.Basic
import Mathlib.Data.List.Nodup

/-!
# Resources that move between places

A fixed stock of resources is spread over some places, each of which holds a list. No resource
is lost and none is held twice: the places together hold the stock.
-/

namespace TradeBot.Library

variable {Resource : Type*}

/-- The places together hold the stock. -/
def Custody (stock : List Resource) (places : List (List Resource)) : Prop :=
  places.flatten.Perm stock

/-- What a place holds belongs to the stock. -/
theorem Custody.mem {stock : List Resource} {places : List (List Resource)}
    (h : Custody stock places) {place : List Resource} (hplace : place ∈ places)
    {resource : Resource} (hmem : resource ∈ place) : resource ∈ stock :=
  List.Perm.subset h (List.mem_flatten_of_mem hplace hmem)

/-- The stock in one place. -/
theorem Custody.of_first (stock : List Resource) : ∀ places : List (List Resource),
    (∀ place ∈ places, place = []) → Custody stock (stock :: places)
  | places, h => by
    rw [Custody, List.flatten_cons, List.flatten_eq_nil_iff.mpr h, List.append_nil]

variable [DecidableEq Resource]

/-- A resource of the stock is held once. -/
theorem Custody.count_eq {stock : List Resource} {places : List (List Resource)}
    (h : Custody stock places) (hstock : stock.Nodup) {resource : Resource}
    (hmem : resource ∈ stock) : places.flatten.count resource = 1 := by
  rw [List.Perm.count_eq h]
  exact List.count_eq_one_of_mem hstock hmem

/-- A move that holds each resource as often as before keeps the custody. -/
theorem Custody.move {stock : List Resource} {places places' : List (List Resource)}
    (h : Custody stock places)
    (hmove : ∀ resource, places'.flatten.count resource = places.flatten.count resource) :
    Custody stock places' :=
  (List.perm_iff_count.mpr hmove).trans h

end TradeBot.Library
