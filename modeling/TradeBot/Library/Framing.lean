import Mathlib.Data.List.Basic
import Mathlib.Data.Nat.Notation
import Mathlib.Tactic.Common

/-!
# Frames in a growing buffer

A decoder takes frames from the front of a buffer that grows at its end, until no frame is
complete or a frame closes the stream. Where more input changes neither a complete frame nor a
closing one, the frames do not depend on the pieces in which the input arrives.
-/

namespace TradeBot.Library

/-- A way to take frames from the front of a buffer. -/
structure Framing (β Frame : Type*) where
  /-- The first frame and what follows it, when it is complete. -/
  pop : List β → Option (Frame × List β)
  /-- Nothing is read after such a frame. -/
  closes : Frame → Bool
  shrinks : ∀ {xs frame rest}, pop xs = some (frame, rest) → rest.length < xs.length
  appends : ∀ {xs frame rest}, pop xs = some (frame, rest) → closes frame = false →
    ∀ more, pop (xs ++ more) = some (frame, rest ++ more)
  closed : ∀ {xs frame rest}, pop xs = some (frame, rest) → closes frame = true →
    ∀ more, ∃ rest', pop (xs ++ more) = some (frame, rest')

namespace Framing

variable {β Frame : Type*} (F : Framing β Frame)

/-- The frames of a buffer, and what is left of it unless a frame has closed the stream. -/
def drain (xs : List β) : List Frame × Option (List β) :=
  match h : F.pop xs with
  | none => ([], some xs)
  | some (frame, rest) =>
    if F.closes frame then ([frame], none)
    else
      have := F.shrinks h
      (frame :: (drain rest).1, (drain rest).2)
termination_by xs.length

/-- One more piece of the input. -/
def feed : Option (List β) → List β → List Frame × Option (List β)
  | none, _ => ([], none)
  | some buffer, chunk => F.drain (buffer ++ chunk)

/-- The input in pieces. -/
def feedAll : Option (List β) → List (List β) → List Frame × Option (List β)
  | buffer, [] => ([], buffer)
  | buffer, chunk :: chunks =>
    let fed := F.feed buffer chunk
    let later := feedAll fed.2 chunks
    (fed.1 ++ later.1, later.2)

variable {F}

/-- Without a complete frame nothing is drained. -/
theorem drain_of_none {xs : List β} (h : F.pop xs = none) : F.drain xs = ([], some xs) := by
  rw [drain]
  split
  · rfl
  · rename_i heq
    rw [h] at heq
    cases heq

/-- A closing frame is the last one. -/
theorem drain_of_closes {xs rest : List β} {frame : Frame} (h : F.pop xs = some (frame, rest))
    (hcloses : F.closes frame = true) : F.drain xs = ([frame], none) := by
  rw [drain]
  split
  · rename_i heq
    rw [h] at heq
    cases heq
  · rename_i heq
    rw [h] at heq
    cases heq
    rw [if_pos hcloses]

/-- After any other frame the rest is drained. -/
theorem drain_of_some {xs rest : List β} {frame : Frame} (h : F.pop xs = some (frame, rest))
    (hopen : F.closes frame = false) :
    F.drain xs = (frame :: (F.drain rest).1, (F.drain rest).2) := by
  rw [drain]
  split
  · rename_i heq
    rw [h] at heq
    cases heq
  · rename_i heq
    rw [h] at heq
    cases heq
    rw [if_neg (by rw [hopen]; exact Bool.false_ne_true)]

/-- **Induction rule.** A property of every buffer follows from the three ways in which draining
goes on. -/
theorem drain_induction {P : List β → Prop} (hnone : ∀ xs, F.pop xs = none → P xs)
    (hcloses : ∀ xs frame rest, F.pop xs = some (frame, rest) → F.closes frame = true → P xs)
    (hsome : ∀ xs frame rest, F.pop xs = some (frame, rest) → F.closes frame = false → P rest →
      P xs) (xs : List β) : P xs := by
  induction hlength : xs.length using Nat.strongRecOn generalizing xs with
  | ind n ih =>
    cases hpop : F.pop xs with
    | none => exact hnone xs hpop
    | some popped =>
      obtain ⟨frame, rest⟩ := popped
      cases hframe : F.closes frame with
      | true => exact hcloses xs frame rest hpop hframe
      | false =>
        have hshrinks := F.shrinks hpop
        exact hsome xs frame rest hpop hframe (ih rest.length (by omega) rest rfl)

/-- What is left of a buffer has no complete frame. -/
theorem pop_drain {xs rest : List β} (h : (F.drain xs).2 = some rest) : F.pop rest = none := by
  induction xs using F.drain_induction with
  | hnone xs hpop =>
    rw [drain_of_none hpop] at h
    cases h
    exact hpop
  | hcloses xs frame rest hpop hframe =>
    rw [drain_of_closes hpop hframe] at h
    cases h
  | hsome xs frame rest hpop hframe ih =>
    rw [drain_of_some hpop hframe] at h
    exact ih h

/-- Draining more input is draining what was left, followed by it. -/
theorem drain_append (xs more : List β) :
    F.drain (xs ++ more) =
      ((F.drain xs).1 ++ (F.feed (F.drain xs).2 more).1, (F.feed (F.drain xs).2 more).2) := by
  induction xs using F.drain_induction with
  | hnone xs hpop =>
    rw [drain_of_none hpop]
    rfl
  | hcloses xs frame rest hpop hframe =>
    obtain ⟨rest', hpop'⟩ := F.closed hpop hframe more
    rw [drain_of_closes hpop hframe, drain_of_closes hpop' hframe]
    rfl
  | hsome xs frame rest hpop hframe ih =>
    rw [drain_of_some hpop hframe, drain_of_some (F.appends hpop hframe more) hframe, ih]
    rfl

/-- A closed framing reads nothing. -/
theorem feedAll_none (chunks : List (List β)) : F.feedAll none chunks = ([], none) := by
  induction chunks with
  | nil => rfl
  | cons chunk chunks ih =>
    rw [feedAll, feed, ih]
    rfl

/-- **Chunking rule.** Feeding a drained buffer in pieces is draining the whole input at once. -/
theorem feedAll_eq {buffer : List β} (h : F.pop buffer = none) (chunks : List (List β)) :
    F.feedAll (some buffer) chunks = F.drain (buffer ++ chunks.flatten) := by
  induction chunks generalizing buffer with
  | nil => rw [feedAll, List.flatten_nil, List.append_nil, drain_of_none h]
  | cons chunk chunks ih =>
    rw [feedAll, List.flatten_cons, ← List.append_assoc, drain_append, feed]
    cases hrest : (F.drain (buffer ++ chunk)).2 with
    | none =>
      rw [feedAll_none]
      rfl
    | some rest =>
      rw [ih (pop_drain hrest)]
      rfl

end Framing

end TradeBot.Library
