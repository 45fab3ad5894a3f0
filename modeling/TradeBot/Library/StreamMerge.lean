import Mathlib.Algebra.GroupWithZero.Nat
import Mathlib.Data.List.GetD
import Mathlib.Data.List.MinMax
import Mathlib.Data.Multiset.Bind
import Mathlib.Tactic.Common

/-!
# Merging streams through a priority queue

A queue holds one entry of each stream and hands out one with the least key; which of
several with that key comes first is left to the queue. The order in which the elements of
all streams come out depends on the streams alone, contains each of them once, and is
sorted when the streams are.
-/

namespace TradeBot.Library

/-- A priority queue: which elements it holds, and that it hands out one of the least key. -/
structure PriorityQueue (α : Type) (key : α → ℕ) where
  Queue : Type
  empty : Queue
  push : α → Queue → Queue
  pop : Queue → Option (α × Queue)
  contents : Queue → Multiset α
  contents_empty : contents empty = 0
  contents_push : ∀ a q, contents (push a q) = a ::ₘ contents q
  contents_of_pop_none : ∀ q, pop q = none → contents q = 0
  contents_of_pop : ∀ q a q', pop q = some (a, q') → contents q = a ::ₘ contents q'
  key_le_of_pop : ∀ q a q', pop q = some (a, q') → ∀ b ∈ contents q, key a ≤ key b

namespace PriorityQueue

/-- Elements in the order in which they were pushed; of equal keys the earliest comes first. -/
def list {α : Type} [DecidableEq α] (key : α → ℕ) : PriorityQueue α key where
  Queue := List α
  empty := []
  push a q := q ++ [a]
  pop q := (q.argmin key).map fun a => (a, q.erase a)
  contents q := (q : Multiset α)
  contents_empty := rfl
  contents_push a q := by
    rw [← Multiset.coe_add, add_comm]
    rfl
  contents_of_pop_none q h := by
    rw [Option.map_eq_none_iff, List.argmin_eq_none] at h
    rw [h, Multiset.coe_nil]
  contents_of_pop q a q' h := by
    obtain ⟨b, hb, heq⟩ := Option.map_eq_some_iff.mp h
    cases heq
    rw [← Multiset.coe_erase, Multiset.cons_erase]
    exact List.argmin_mem hb
  key_le_of_pop q a q' h := by
    obtain ⟨b, hb, heq⟩ := Option.map_eq_some_iff.mp h
    cases heq
    intro c hc
    exact List.le_of_mem_argmin hc hb

end PriorityQueue

/-- A stream of which the first element has been read. -/
structure Stream (α : Type) where
  head : α
  rest : List α
  deriving DecidableEq

namespace Stream

variable {α : Type}

/-- The elements of a stream. -/
def elements (s : Stream α) : List α := s.head :: s.rest

end Stream

section Merging

variable {α : Type} {key : α → ℕ} (queue : PriorityQueue (Stream α) fun s => key s.head)

/-- The queue after the next element of a stream was read, where there is one. -/
def readNext (elements : List α) (q : queue.Queue) : queue.Queue :=
  match elements with
  | [] => q
  | a :: rest => queue.push ⟨a, rest⟩ q

/-- The loop that handles the elements as the queue hands them out, up to an error. -/
def dispatch {ε σ : Type} (handle : σ → α → Except ε σ) :
    ℕ → queue.Queue → σ → Except ε σ
  | 0, _, s => .ok s
  | fuel + 1, q, s =>
    match queue.pop q with
    | none => .ok s
    | some (top, q) => do
      let s ← handle s top.head
      dispatch handle fuel (readNext queue top.rest q) s

/-- The order in which the queue hands the elements out. -/
def merged : ℕ → queue.Queue → List α
  | 0, _ => []
  | fuel + 1, q =>
    match queue.pop q with
    | none => []
    | some (top, q) => top.head :: merged fuel (readNext queue top.rest q)

/-- The loop handles the elements in the order of the merge. -/
theorem dispatch_eq_foldlM {ε σ : Type} (handle : σ → α → Except ε σ) (fuel : ℕ)
    (q : queue.Queue) (s : σ) :
    dispatch queue handle fuel q s = (merged queue fuel q).foldlM handle s := by
  induction fuel generalizing q s with
  | zero => rfl
  | succ fuel ih =>
    simp only [dispatch, merged]
    split
    · rfl
    · next top q' _ =>
      rw [List.foldlM_cons]
      congr 1
      funext s'
      exact ih _ _

/-- The elements of the streams in a queue. -/
def queued (q : queue.Queue) : Multiset α :=
  (queue.contents q).bind fun s => (s.elements : Multiset α)

/-- Reading a stream queues its elements. -/
theorem queued_readNext (elements : List α) (q : queue.Queue) :
    queued queue (readNext queue elements q) = elements + queued queue q := by
  cases elements with
  | nil => exact (zero_add _).symm
  | cons a rest =>
    rw [readNext, queued, queue.contents_push, Multiset.cons_bind]
    rfl

variable {queue} in
/-- The element that comes out first, and those that stay. -/
theorem queued_of_pop {q q' : queue.Queue} {top : Stream α}
    (hpop : queue.pop q = some (top, q')) :
    queued queue q = top.head ::ₘ queued queue (readNext queue top.rest q') := by
  rw [queued_readNext, queued, queue.contents_of_pop q top q' hpop, Multiset.cons_bind,
    Stream.elements, ← Multiset.cons_coe, Multiset.cons_add]
  rfl

/-- With enough fuel the merge contains every element once. -/
theorem merged_eq_queued {fuel : ℕ} {q : queue.Queue}
    (hfuel : (queued queue q).card ≤ fuel) :
    (merged queue fuel q : Multiset α) = queued queue q := by
  induction fuel generalizing q with
  | zero =>
    rw [Nat.le_zero, Multiset.card_eq_zero] at hfuel
    rw [hfuel]
    rfl
  | succ fuel ih =>
    simp only [merged]
    split
    · next hpop =>
      rw [queued, queue.contents_of_pop_none q hpop]
      rfl
    · next top q' hpop =>
      have hqueued := queued_of_pop hpop
      rw [hqueued, Multiset.card_cons, Nat.add_le_add_iff_right] at hfuel
      rw [hqueued, ← ih hfuel]
      rfl

/-- The streams in a queue are sorted. -/
def SortedStreams (q : queue.Queue) : Prop :=
  ∀ s ∈ queue.contents q, s.elements.Pairwise fun a b => key a ≤ key b

variable {queue}

/-- In a queue of sorted streams the element that comes out first has the least key. -/
theorem SortedStreams.head_le {q q' : queue.Queue} {top : Stream α} (h : SortedStreams queue q)
    (hpop : queue.pop q = some (top, q')) {a : α} (ha : a ∈ queued queue q) :
    key top.head ≤ key a := by
  obtain ⟨s, hs, ha⟩ := Multiset.mem_bind.mp ha
  have hhead := queue.key_le_of_pop q top q' hpop s hs
  rcases List.mem_cons.mp (Multiset.mem_coe.mp ha) with rfl | hrest
  · exact hhead
  · exact hhead.trans ((List.pairwise_cons.mp (h s hs)).1 a hrest)

/-- Reading a sorted stream keeps the queued streams sorted. -/
theorem SortedStreams.readNext {q : queue.Queue} {elements : List α}
    (h : SortedStreams queue q) (hsorted : elements.Pairwise fun a b => key a ≤ key b) :
    SortedStreams queue (readNext queue elements q) := by
  cases elements with
  | nil => exact h
  | cons a rest =>
    intro s hs
    rw [Library.readNext, queue.contents_push, Multiset.mem_cons] at hs
    rcases hs with rfl | hs
    · exact hsorted
    · exact h s hs

/-- Taking the first element of the earliest stream and reading on keeps the streams sorted. -/
theorem SortedStreams.of_pop {q q' : queue.Queue} {top : Stream α}
    (h : SortedStreams queue q) (hpop : queue.pop q = some (top, q')) :
    SortedStreams queue (Library.readNext queue top.rest q') := by
  have hcontents := queue.contents_of_pop q top q' hpop
  refine SortedStreams.readNext (fun s hs => ?_) ?_
  · apply h
    rw [hcontents]
    exact Multiset.mem_cons_of_mem hs
  · have htop : top.elements.Pairwise fun a b => key a ≤ key b := by
      apply h
      rw [hcontents]
      exact Multiset.mem_cons_self top _
    exact (List.pairwise_cons.mp htop).2

/-- The merge of sorted streams is sorted. -/
theorem SortedStreams.merged_sorted {fuel : ℕ} {q : queue.Queue} (h : SortedStreams queue q)
    (hfuel : (queued queue q).card ≤ fuel) :
    (merged queue fuel q).Pairwise fun a b => key a ≤ key b := by
  induction fuel generalizing q with
  | zero => exact List.Pairwise.nil
  | succ fuel ih =>
    simp only [merged]
    split
    · exact List.Pairwise.nil
    · next top q' hpop =>
      have hqueued := queued_of_pop hpop
      rw [hqueued, Multiset.card_cons, Nat.add_le_add_iff_right] at hfuel
      refine List.pairwise_cons.mpr ⟨fun a ha => h.head_le hpop ?_, ih (h.of_pop hpop) hfuel⟩
      rw [hqueued, ← merged_eq_queued queue hfuel]
      exact Multiset.mem_cons_of_mem ha

section Seeding

variable (queue)

/-- The queue with the first element of every stream. -/
def seed (streams : List (List α)) : queue.Queue :=
  streams.foldl (fun q elements => readNext queue elements q) queue.empty

/-- The number of elements of all streams. -/
def count (streams : List (List α)) : ℕ := (streams.map List.length).sum

/-- The elements of all streams, merged. -/
def mergedStreams (streams : List (List α)) : List α :=
  merged queue (count streams) (seed queue streams)

/-- Reading several streams queues the elements of all of them. -/
private theorem queued_foldl (streams : List (List α)) (q : queue.Queue) :
    queued queue (streams.foldl (fun q elements => readNext queue elements q) q) =
      queued queue q + (streams.flatten : Multiset α) := by
  induction streams generalizing q with
  | nil => exact (add_zero _).symm
  | cons elements streams ih =>
    rw [List.foldl_cons, ih, queued_readNext, List.flatten_cons, ← Multiset.coe_add,
      add_comm (elements : Multiset α), add_assoc]

/-- At the start the elements of all streams are queued. -/
theorem queued_seed (streams : List (List α)) :
    queued queue (seed queue streams) = (streams.flatten : Multiset α) := by
  rw [seed, queued_foldl, queued, queue.contents_empty, Multiset.zero_bind, zero_add]

/-- At the start as many elements are queued as there are. -/
theorem card_queued_seed (streams : List (List α)) :
    (queued queue (seed queue streams)).card = count streams := by
  rw [queued_seed, Multiset.coe_card, List.length_flatten, count]

/-- Reading sorted streams keeps the queued streams sorted. -/
private theorem sortedStreams_foldl {streams : List (List α)} {q : queue.Queue}
    (hq : SortedStreams queue q)
    (hsorted : ∀ elements ∈ streams, elements.Pairwise fun a b => key a ≤ key b) :
    SortedStreams queue (streams.foldl (fun q elements => readNext queue elements q) q) := by
  induction streams generalizing q with
  | nil => exact hq
  | cons elements streams ih =>
    rw [List.forall_mem_cons] at hsorted
    exact ih (hq.readNext hsorted.1) hsorted.2

/-- The merge contains every element of the streams once. -/
theorem mergedStreams_perm (streams : List (List α)) :
    (mergedStreams queue streams).Perm streams.flatten := by
  rw [← Multiset.coe_eq_coe, mergedStreams,
    merged_eq_queued queue (card_queued_seed queue streams).le, queued_seed]

/-- The merge of sorted streams is sorted. -/
theorem mergedStreams_sorted {streams : List (List α)}
    (hsorted : ∀ elements ∈ streams, elements.Pairwise fun a b => key a ≤ key b) :
    (mergedStreams queue streams).Pairwise fun a b => key a ≤ key b := by
  have hempty : SortedStreams queue queue.empty := by
    intro s hs
    rw [queue.contents_empty] at hs
    exact absurd hs (Multiset.notMem_zero s)
  exact (sortedStreams_foldl queue hempty hsorted).merged_sorted (card_queued_seed queue streams).le

end Seeding

section Order

/-- A list is made of all streams: each of its elements comes from one of them, and those that
come from one are its elements in their order. -/
def Interleaves (streams : List (List α)) (order : List α) : Prop :=
  ∃ owned : List (ℕ × α), owned.map Prod.snd = order ∧
    ∀ i, (owned.filter fun p => p.1 = i).map Prod.snd = streams.getD i []

/-- What is left of a stream, when there is something left. -/
def toStream : List α → Option (Stream α)
  | [] => none
  | a :: rest => some ⟨a, rest⟩

/-- A list is the stream of its elements when it has a first one. -/
theorem toStream_eq_some {elements : List α} {s : Stream α} :
    toStream elements = some s ↔ elements = s.elements := by
  cases elements with
  | nil => exact ⟨nofun, nofun⟩
  | cons a rest =>
    unfold toStream Stream.elements
    rw [Option.some.injEq, List.cons.injEq]
    constructor
    · rintro rfl
      exact ⟨rfl, rfl⟩
    · rintro ⟨rfl, rfl⟩
      rfl

/-- The queue holds the pending element of each stream that is not exhausted. -/
def Pending (queue : PriorityQueue (Stream α) fun s => key s.head) (remaining : List (List α))
    (q : queue.Queue) : Prop :=
  queue.contents q = (remaining.filterMap toStream : List (Stream α))

/-- Reading a list adds its stream to the queue, if it has a first element. -/
theorem contents_readNext (elements : List α) (q : queue.Queue) :
    queue.contents (readNext queue elements q) =
      ((toStream elements).toList : Multiset (Stream α)) + queue.contents q := by
  cases elements with
  | nil => exact (zero_add _).symm
  | cons a rest => exact queue.contents_push ⟨a, rest⟩ q

/-- One list among others is the stream of its elements and those of the others. -/
theorem filterMap_split (before after : List (List α)) (elements : List α) :
    (((before ++ elements :: after).filterMap toStream : List (Stream α)) : Multiset (Stream α)) =
      ((toStream elements).toList : Multiset (Stream α)) +
        ((before ++ after).filterMap toStream : List (Stream α)) := by
  rw [List.filterMap_append, List.filterMap_append, List.filterMap_cons]
  cases toStream elements with
  | none => exact (zero_add _).symm
  | some s => exact Multiset.coe_eq_coe.mpr List.perm_middle

/-- **One turn.** The element that is handed out is the next one of some stream, and the queue
holds afterwards what is pending of the rest. -/
theorem Pending.of_pop {remaining : List (List α)} {q q' : queue.Queue} {top : Stream α}
    (h : Pending queue remaining q) (hpop : queue.pop q = some (top, q')) :
    ∃ i, i < remaining.length ∧ remaining.getD i [] = top.elements ∧
      Pending queue (remaining.set i top.rest) (readNext queue top.rest q') := by
  have hcontents := queue.contents_of_pop q top q' hpop
  have hmem : top ∈ remaining.filterMap toStream := by
    rw [← Multiset.mem_coe, ← h, hcontents]
    exact Multiset.mem_cons_self top _
  obtain ⟨elements, helements, htop⟩ := List.mem_filterMap.mp hmem
  obtain rfl := toStream_eq_some.mp htop
  obtain ⟨before, after, rfl⟩ := List.append_of_mem helements
  refine ⟨before.length, by rw [List.length_append, List.length_cons]; omega, ?_, ?_⟩
  · rw [List.getD_append_right _ _ _ _ le_rfl, Nat.sub_self, List.getD_cons_zero]
  · unfold Pending at h ⊢
    rw [hcontents, filterMap_split, htop, Option.toList_some, Multiset.coe_singleton,
      Multiset.singleton_add, Multiset.cons_inj_right] at h
    rw [contents_readNext, h, List.set_append_right _ _ le_rfl, Nat.sub_self, List.set_cons_zero,
      filterMap_split]

/-- An empty queue has exhausted all streams. -/
theorem Pending.exhausted {remaining : List (List α)} {q : queue.Queue}
    (h : Pending queue remaining q) (hempty : queue.contents q = 0) : Interleaves remaining [] := by
  refine ⟨[], rfl, fun i => ?_⟩
  unfold Pending at h
  rw [hempty, eq_comm, Multiset.coe_eq_zero, List.filterMap_eq_nil_iff] at h
  by_cases hi : i < remaining.length
  · have hnone := h remaining[i] (List.getElem_mem hi)
    rw [List.getD_eq_getElem _ _ hi]
    cases helements : remaining[i] with
    | nil => rfl
    | cons a rest =>
      rw [helements] at hnone
      cases hnone
  · rw [List.getD_eq_default _ _ (Nat.not_lt.mp hi)]
    rfl

/-- A queue without queued elements has no streams. -/
theorem contents_eq_zero {q : queue.Queue} (h : queued queue q = 0) : queue.contents q = 0 := by
  by_contra hne
  obtain ⟨s, hs⟩ := Multiset.exists_mem_of_ne_zero hne
  have hhead : s.head ∈ queued queue q := Multiset.mem_bind.mpr ⟨s, hs, List.mem_cons_self⟩
  rw [h] at hhead
  exact absurd hhead (Multiset.notMem_zero _)

/-- **The order within each stream.** With enough fuel the merge hands out what is left of every
stream, in its order. -/
theorem Pending.interleaves {fuel : ℕ} {remaining : List (List α)} {q : queue.Queue}
    (h : Pending queue remaining q) (hfuel : (queued queue q).card ≤ fuel) :
    Interleaves remaining (merged queue fuel q) := by
  induction fuel generalizing remaining q with
  | zero =>
    rw [Nat.le_zero, Multiset.card_eq_zero] at hfuel
    exact h.exhausted (contents_eq_zero hfuel)
  | succ fuel ih =>
    simp only [merged]
    split
    · next hpop => exact h.exhausted (queue.contents_of_pop_none q hpop)
    · next top q' hpop =>
      obtain ⟨i, hi, hnext, hpending⟩ := h.of_pop hpop
      rw [queued_of_pop hpop, Multiset.card_cons, Nat.add_le_add_iff_right] at hfuel
      obtain ⟨owned, horder, howned⟩ := ih hpending hfuel
      refine ⟨(i, top.head) :: owned, by rw [List.map_cons, horder], fun j => ?_⟩
      have hrest := howned j
      rw [List.getD_eq_getElem?_getD, List.getElem?_set] at hrest
      rw [List.filter_cons]
      by_cases hij : i = j
      · rw [if_pos hij, if_pos hi, Option.getD_some] at hrest
        rw [if_pos (decide_eq_true hij), List.map_cons, hrest, ← hij, hnext]
        rfl
      · rw [if_neg hij, ← List.getD_eq_getElem?_getD] at hrest
        rw [if_neg (by simpa using hij), hrest]

/-- Reading further streams adds them to what is pending. -/
theorem pending_foldl {streams remaining : List (List α)} {q : queue.Queue}
    (h : Pending queue remaining q) :
    Pending queue (remaining ++ streams)
      (streams.foldl (fun q elements => readNext queue elements q) q) := by
  induction streams generalizing remaining q with
  | nil => rwa [List.append_nil]
  | cons elements streams ih =>
    rw [List.foldl_cons, ← List.singleton_append, ← List.append_assoc]
    apply ih
    unfold Pending at h ⊢
    rw [contents_readNext, h, filterMap_split, List.append_nil]

/-- The merge hands out every stream once, in its order. -/
theorem mergedStreams_interleaves (queue : PriorityQueue (Stream α) fun s => key s.head)
    (streams : List (List α)) : Interleaves streams (mergedStreams queue streams) := by
  have hempty : Pending queue [] queue.empty := queue.contents_empty
  exact (pending_foldl hempty).interleaves (card_queued_seed queue streams).le

end Order

section Turns

variable (queue)

/-- The queue after a number of turns of the loop. -/
def turns : ℕ → queue.Queue → queue.Queue
  | 0, q => q
  | count + 1, q =>
    match queue.pop q with
    | none => q
    | some (top, q) => turns count (readNext queue top.rest q)

/-- The loop ends exactly when nothing is left in the queue. -/
theorem pop_eq_none_iff (q : queue.Queue) :
    queue.pop q = none ↔ (queued queue q).card = 0 := by
  constructor
  · intro hpop
    rw [queued, queue.contents_of_pop_none q hpop]
    rfl
  · intro hcard
    cases hpop : queue.pop q with
    | none => rfl
    | some p =>
      obtain ⟨top, q'⟩ := p
      rw [queued_of_pop hpop, Multiset.card_cons] at hcard
      omega

/-- Every turn hands out one element, as long as there is one. -/
theorem card_queued_turns (k : ℕ) (q : queue.Queue) :
    (queued queue (turns queue k q)).card = (queued queue q).card - k := by
  induction k generalizing q with
  | zero => rfl
  | succ k ih =>
    unfold turns
    cases hpop : queue.pop q with
    | none =>
      rw [(pop_eq_none_iff queue q).mp hpop, Nat.zero_sub]
    | some p =>
      obtain ⟨top, q'⟩ := p
      dsimp only
      rw [ih, queued_of_pop hpop, Multiset.card_cons]
      omega

/-- What the first turns hand out. -/
theorem merged_eq_take {k fuel : ℕ} (hk : k ≤ fuel) (q : queue.Queue) :
    merged queue k q = (merged queue fuel q).take k := by
  induction k generalizing fuel q with
  | zero => rfl
  | succ k ih =>
    obtain ⟨fuel, rfl⟩ := Nat.exists_eq_add_of_le' hk
    rw [← Nat.add_assoc] at hk ⊢
    simp only [merged]
    split
    · exact List.take_nil.symm
    · rw [List.take_succ_cons, ih (Nat.le_add_left k fuel)]

/-- **The end of the loop.** After a number of turns the queue is empty exactly when all elements
of the streams have been handed out. -/
theorem pop_turns_seed (streams : List (List α)) (k : ℕ) :
    queue.pop (turns queue k (seed queue streams)) = none ↔ count streams ≤ k := by
  rw [pop_eq_none_iff, card_queued_turns, card_queued_seed]
  omega

end Turns

end Merging

end TradeBot.Library
