import TradeBot.Library.Machine

/-!
# At-most-once application of redelivered inputs

A component that remembers the inputs it has accepted can be handed them again
without effect. `AtMostOnce` is the local form of that promise: an accepted input
settles, stays settled, and is absorbed from then on. From it follows the
two-run statement: redeliveries inserted anywhere into a run are answered as
duplicates, and the rest of the run cannot tell that they were there.
-/

namespace TradeBot.Library

variable {State Input Output : Type*}

/-- The inputs of a tagged run. The tag `true` marks a redelivery. -/
def delivered (deliveries : List (Input × Bool)) : List Input := deliveries.map Prod.fst

/-- The inputs of a tagged run that are not redeliveries. -/
def originals (deliveries : List (Input × Bool)) : List Input :=
  (deliveries.filter fun d => !d.2).map Prod.fst

namespace Machine

variable (M : Machine State Input Output)

/-- The outputs of a tagged run, each with the tag of its input. -/
def taggedOutputs : State → List (Input × Bool) → List (Output × Bool)
  | _, [] => []
  | s, (i, tag) :: deliveries => (M.output s i, tag) :: taggedOutputs (M.next s i) deliveries

/-- An input occurs in a run and was accepted where it occurred. -/
def AcceptedIn (accepts : Output → Prop) (s : State) (inputs : List Input) (i : Input) : Prop :=
  ∃ before after, inputs = before ++ i :: after ∧ accepts (M.output (M.run s before) i)

/-- Every input tagged as a redelivery satisfies `keyed` and was accepted
earlier in the same run. -/
def RedeliversAccepted (accepts : Output → Prop) (keyed : Input → Prop) (s : State)
    (deliveries : List (Input × Bool)) : Prop :=
  ∀ before i after, deliveries = before ++ (i, true) :: after →
    keyed i ∧ M.AcceptedIn accepts s (delivered before) i

variable {M}

/-- A run may be followed by the redelivery of an input that it accepted. -/
theorem redeliversAccepted_concat {accepts : Output → Prop} {keyed : Input → Prop} {s : State}
    {inputs : List Input} {i : Input} (hkeyed : keyed i)
    (haccepted : M.AcceptedIn accepts s inputs i) :
    M.RedeliversAccepted accepts keyed s (inputs.map (·, false) ++ [(i, true)]) := by
  have huntagged : delivered (inputs.map (·, false)) = inputs := by
    rw [delivered, List.map_map]
    exact List.map_id inputs
  have hwhole : keyed i ∧ M.AcceptedIn accepts s (delivered (inputs.map (·, false))) i := by
    rw [huntagged]
    exact ⟨hkeyed, haccepted⟩
  intro before j after hsplit
  rcases List.append_eq_append_iff.mp hsplit with ⟨tail, rfl, htail⟩ | ⟨tail, hmap, htail⟩
  · cases tail with
    | nil =>
      obtain ⟨rfl, -⟩ := Prod.mk.inj (List.cons.inj htail).1
      rwa [List.append_nil]
    | cons d tail => simp at htail
  · cases tail with
    | nil =>
      obtain ⟨rfl, -⟩ := Prod.mk.inj (List.cons.inj htail).1
      rw [List.append_nil] at hmap
      rwa [← hmap]
    | cons d tail =>
      obtain ⟨rfl, -⟩ := List.cons.inj htail
      have hmem : (j, true) ∈ inputs.map (·, false) := by
        rw [hmap]
        exact List.mem_append_right _ List.mem_cons_self
      simp at hmem

end Machine

/-- The local promise of a deduplicating component: an accepted keyed input is
settled, a settled input stays settled whatever happens, and a settled input is
answered as a duplicate and moves nothing. -/
structure AtMostOnce (M : Machine State Input Output) (accepts : Output → Prop)
    (keyed : Input → Prop) (duplicate : Output) where
  /-- The state remembers the input. -/
  settled : State → Input → Prop
  settles : ∀ {s i}, keyed i → accepts (M.output s i) → settled (M.next s i) i
  stays : ∀ {s i} (j : Input), settled s i → settled (M.next s j) i
  absorbs : ∀ {s i}, settled s i → M.step s i = (s, duplicate)

namespace AtMostOnce

variable {M : Machine State Input Output} {accepts : Output → Prop} {keyed : Input → Prop}
  {duplicate : Output}

/-- Induction on the tagged run. `known` holds the inputs that are settled where
the remaining run starts; an accepted input joins it after its own step. -/
private theorem redelivery_of_known (promise : AtMostOnce M accepts keyed duplicate)
    (deliveries : List (Input × Bool)) (s : State) (known : Input → Prop)
    (hknown : ∀ i, known i → promise.settled s i)
    (hre : ∀ before i after, deliveries = before ++ (i, true) :: after →
      known i ∨ (keyed i ∧ M.AcceptedIn accepts s (delivered before) i)) :
    M.run s (delivered deliveries) = M.run s (originals deliveries) ∧
      ((M.taggedOutputs s deliveries).filter fun o => !o.2).map Prod.fst =
        M.outputs s (originals deliveries) ∧
      ∀ o ∈ M.taggedOutputs s deliveries, o.2 = true → o.1 = duplicate := by
  induction deliveries generalizing s known with
  | nil => exact ⟨rfl, rfl, by simp [Machine.taggedOutputs]⟩
  | cons d deliveries ih =>
    obtain ⟨i, tag⟩ := d
    let known' : Input → Prop := fun j => known j ∨ (j = i ∧ keyed j ∧ accepts (M.output s i))
    have hknown' : ∀ j, known' j → promise.settled (M.next s i) j := by
      rintro j (hj | ⟨rfl, hkeyed, haccepts⟩)
      · exact promise.stays i (hknown j hj)
      · exact promise.settles hkeyed haccepts
    have hre' : ∀ before j after, deliveries = before ++ (j, true) :: after →
        known' j ∨ (keyed j ∧ M.AcceptedIn accepts (M.next s i) (delivered before) j) := by
      intro before j after heq
      have h := hre ((i, tag) :: before) j after (by rw [heq, List.cons_append])
      rcases h with hj | ⟨hkeyed, earlier, later, hsplit, haccepts⟩
      · exact Or.inl (Or.inl hj)
      · cases earlier with
        | nil =>
          obtain ⟨rfl, -⟩ := List.cons.inj hsplit
          exact Or.inl (Or.inr ⟨rfl, hkeyed, haccepts⟩)
        | cons k earlier =>
          obtain ⟨rfl, htail⟩ := List.cons.inj hsplit
          exact Or.inr ⟨hkeyed, earlier, later, htail, haccepts⟩
    obtain ⟨hrun, houts, hdup⟩ := ih (M.next s i) known' hknown' hre'
    cases tag with
    | false =>
      refine ⟨by simpa [delivered, originals] using hrun, ?_, ?_⟩
      · simpa [Machine.taggedOutputs, originals] using houts
      · intro o ho htag
        rcases List.mem_cons.mp ho with rfl | ho
        · cases htag
        · exact hdup o ho htag
    | true =>
      have hsettled : promise.settled s i := by
        rcases hre [] i deliveries rfl with hi | ⟨-, earlier, later, hsplit, -⟩
        · exact hknown i hi
        · simp [delivered] at hsplit
      have hstep := promise.absorbs hsettled
      have hnext : M.next s i = s := by rw [Machine.next, hstep]
      have hout : M.output s i = duplicate := by rw [Machine.output, hstep]
      rw [hnext] at hrun houts
      refine ⟨by simpa [delivered, originals, hnext] using hrun, ?_, ?_⟩
      · simpa [Machine.taggedOutputs, originals, hnext] using houts
      · intro o ho htag
        rcases List.mem_cons.mp ho with rfl | ho
        · exact hout
        · exact hdup o ho htag

/-- **At-most-once application.** Whatever run redeliveries of accepted inputs
are inserted into, and wherever they are inserted, the final state is that of the
run without them, so is every other output, and each redelivery is answered as a
duplicate. -/
theorem redelivery (promise : AtMostOnce M accepts keyed duplicate) {s : State}
    {deliveries : List (Input × Bool)}
    (hre : M.RedeliversAccepted accepts keyed s deliveries) :
    M.run s (delivered deliveries) = M.run s (originals deliveries) ∧
      ((M.taggedOutputs s deliveries).filter fun o => !o.2).map Prod.fst =
        M.outputs s (originals deliveries) ∧
      ∀ o ∈ M.taggedOutputs s deliveries, o.2 = true → o.1 = duplicate :=
  redelivery_of_known promise deliveries s (fun _ => False) (fun _ h => h.elim)
    (fun before i after heq => Or.inr (hre before i after heq))

end AtMostOnce

end TradeBot.Library
