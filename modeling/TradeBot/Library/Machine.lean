import Mathlib.Data.List.Induction
import Mathlib.Tactic.Common

/-!
# Deterministic machines and their runs

A component that is driven by calls is a machine: each input moves the state
and yields an output. The rules here carry a fact about one step to every run.
`Along` states a property of each step of a run in the state before that step,
so an assumption about the inputs of a run is a hypothesis `Along C`.
-/

namespace TradeBot.Library

/-- A deterministic machine over arbitrary states, inputs and outputs. -/
structure Machine (State Input Output : Type*) where
  /-- One input moves the state and yields an output. -/
  step : State → Input → State × Output

namespace Machine

variable {State Input Output : Type*} (M : Machine State Input Output)

/-- The state after one input. -/
def next (s : State) (i : Input) : State := (M.step s i).1

/-- The output of one input. -/
def output (s : State) (i : Input) : Output := (M.step s i).2

/-- The state after a list of inputs. -/
def run (s : State) (inputs : List Input) : State := inputs.foldl M.next s

/-- The outputs of a list of inputs, in order. -/
def outputs : State → List Input → List Output
  | _, [] => []
  | s, i :: inputs => M.output s i :: outputs (M.next s i) inputs

/-- The inputs of a run, each with its output. -/
def trace : State → List Input → List (Input × Output)
  | _, [] => []
  | s, i :: inputs => (i, M.output s i) :: trace (M.next s i) inputs

/-- Every step of a run has the property `P`, stated in the state before it. -/
def Along (P : State → Input → Prop) : State → List Input → Prop
  | _, [] => True
  | s, i :: inputs => P s i ∧ Along P (M.next s i) inputs

/-- Without inputs a run stays where it starts. -/
@[simp] theorem run_nil (s : State) : M.run s [] = s := rfl

/-- A run takes the step of its first input and goes on from there. -/
@[simp] theorem run_cons (s : State) (i : Input) (inputs : List Input) :
    M.run s (i :: inputs) = M.run (M.next s i) inputs := rfl

/-- A run over two lists of inputs is the run over the second from where the first ends. -/
theorem run_append (s : State) (first second : List Input) :
    M.run s (first ++ second) = M.run (M.run s first) second := by
  simp only [run, List.foldl_append]

/-- Without inputs there are no outputs. -/
@[simp] theorem outputs_nil (s : State) : M.outputs s [] = [] := rfl

/-- The outputs of a run are that of its first step and those of the rest. -/
@[simp] theorem outputs_cons (s : State) (i : Input) (inputs : List Input) :
    M.outputs s (i :: inputs) = M.output s i :: M.outputs (M.next s i) inputs := rfl

/-- The outputs of a run over two lists are those of its two parts. -/
theorem outputs_append (s : State) (first second : List Input) :
    M.outputs s (first ++ second) = M.outputs s first ++ M.outputs (M.run s first) second := by
  induction first generalizing s with
  | nil => rfl
  | cons i first ih =>
    rw [List.cons_append, outputs_cons, ih, outputs_cons, List.cons_append, run_cons]

/-- Without inputs the trace is empty. -/
@[simp] theorem trace_nil (s : State) : M.trace s [] = [] := rfl

/-- The trace of a run is its first step and the trace of the rest. -/
@[simp] theorem trace_cons (s : State) (i : Input) (inputs : List Input) :
    M.trace s (i :: inputs) = (i, M.output s i) :: M.trace (M.next s i) inputs := rfl

/-- The trace of a run over two lists is made of those of its two parts. -/
theorem trace_append (s : State) (first second : List Input) :
    M.trace s (first ++ second) = M.trace s first ++ M.trace (M.run s first) second := by
  induction first generalizing s with
  | nil => rfl
  | cons i first ih => rw [List.cons_append, trace_cons, ih, trace_cons, List.cons_append, run_cons]

/-- The outputs of a run can be read off its trace. -/
theorem map_snd_trace (s : State) (inputs : List Input) :
    (M.trace s inputs).map Prod.snd = M.outputs s inputs := by
  induction inputs generalizing s with
  | nil => rfl
  | cons i inputs ih => rw [trace_cons, List.map_cons, ih, outputs_cons]

/-- Every property holds along the run without inputs. -/
@[simp] theorem along_nil (P : State → Input → Prop) (s : State) : M.Along P s [] := trivial

/-- A property holds along a run when it holds of the first step and along the rest. -/
@[simp] theorem along_cons (P : State → Input → Prop) (s : State) (i : Input)
    (inputs : List Input) :
    M.Along P s (i :: inputs) ↔ P s i ∧ M.Along P (M.next s i) inputs := Iff.rfl

instance decidableAlong {P : State → Input → Prop} [∀ s i, Decidable (P s i)] :
    ∀ s inputs, Decidable (M.Along P s inputs)
  | _, [] => inferInstanceAs (Decidable True)
  | s, i :: inputs =>
    have : Decidable (M.Along P (M.next s i) inputs) := decidableAlong (M.next s i) inputs
    inferInstanceAs (Decidable (P s i ∧ M.Along P (M.next s i) inputs))

variable {M}

/-- A property of each step can be read off at any point of the run. -/
theorem Along.at_split {P : State → Input → Prop} {s : State} {before after : List Input}
    {i : Input} (h : M.Along P s (before ++ i :: after)) : P (M.run s before) i := by
  induction before generalizing s with
  | nil => exact h.1
  | cons j before ih => exact ih h.2

/-- A property that holds at every point of a run holds of each step. -/
theorem along_of_splits {P : State → Input → Prop} {s : State} {inputs : List Input}
    (h : ∀ before i after, inputs = before ++ i :: after → P (M.run s before) i) :
    M.Along P s inputs := by
  induction inputs generalizing s with
  | nil => trivial
  | cons j inputs ih =>
    refine ⟨h [] j inputs rfl, ih fun before i after heq => ?_⟩
    exact h (j :: before) i after (by rw [heq, List.cons_append])

/-- A property that holds along a run holds along its beginning. -/
theorem Along.prefix {P : State → Input → Prop} {s : State} {before after : List Input}
    (h : M.Along P s (before ++ after)) : M.Along P s before := by
  induction before generalizing s with
  | nil => trivial
  | cons j before ih => exact ⟨h.1, ih h.2⟩

/-- A property that holds along a run holds along its end. -/
theorem Along.suffix {P : State → Input → Prop} {s : State} {before after : List Input}
    (h : M.Along P s (before ++ after)) : M.Along P (M.run s before) after := by
  induction before generalizing s with
  | nil => exact h
  | cons j before ih => exact ih h.2

/-- **Invariant rule.** What every step preserves, every run preserves. -/
theorem invariant_run {I : State → Prop} (hstep : ∀ s i, I s → I (M.next s i))
    {s : State} (hs : I s) (inputs : List Input) : I (M.run s inputs) := by
  induction inputs generalizing s with
  | nil => exact hs
  | cons i inputs ih => exact ih (hstep s i hs)

/-- **Conditional invariant rule.** What every step meeting `C` preserves, every
run whose steps all meet `C` preserves. -/
theorem invariant_run_of_along {I : State → Prop} {C : State → Input → Prop}
    (hstep : ∀ s i, I s → C s i → I (M.next s i)) {s : State} (hs : I s)
    {inputs : List Input} (hC : M.Along C s inputs) : I (M.run s inputs) := by
  induction inputs generalizing s with
  | nil => exact hs
  | cons i inputs ih => exact ih (hstep s i hs hC.1) hC.2

/-- **History rule.** A property of the calls so far and of the state, which every step
carries from a history to the longer one, holds after every run. -/
theorem history_run {P : List (Input × Output) → State → Prop}
    (hstep : ∀ past s i, P past s → P (past ++ [(i, M.output s i)]) (M.next s i)) {s : State}
    (hs : P [] s) (inputs : List Input) : P (M.trace s inputs) (M.run s inputs) := by
  induction inputs using List.reverseRecOn with
  | nil => exact hs
  | append_singleton inputs i ih =>
    rw [trace_append, run_append]
    exact hstep _ _ i ih

/-- What an invariant and the condition of a step give for that step holds along
every run whose steps meet the condition. -/
theorem along_of_invariant {I : State → Prop} {C P : State → Input → Prop}
    (hstep : ∀ s i, I s → C s i → I (M.next s i)) (hP : ∀ s i, I s → C s i → P s i)
    {s : State} (hs : I s) {inputs : List Input} (hC : M.Along C s inputs) :
    M.Along P s inputs := by
  induction inputs generalizing s with
  | nil => trivial
  | cons i inputs ih => exact ⟨hP s i hs hC.1, ih (hstep s i hs hC.1) hC.2⟩

/-- Two properties that agree under an invariant and a condition on the inputs, which the second
one keeps, hold along the same runs of such inputs. -/
theorem along_iff_of_forall {I : State → Prop} {C : Input → Prop} {P Q : State → Input → Prop}
    (hstep : ∀ s i, I s → C i → Q s i → I (M.next s i))
    (hiff : ∀ s i, I s → C i → (P s i ↔ Q s i)) {s : State} (hs : I s) {inputs : List Input}
    (hC : ∀ i ∈ inputs, C i) : M.Along P s inputs ↔ M.Along Q s inputs := by
  induction inputs generalizing s with
  | nil => exact Iff.rfl
  | cons i inputs ih =>
    rw [List.forall_mem_cons] at hC
    rw [along_cons, along_cons, hiff s i hs hC.1]
    exact and_congr_right fun hQ => ih (hstep s i hs hC.1 hQ) hC.2

/-- Two properties that agree under an invariant, which the second one keeps, hold along
the same runs. -/
theorem along_iff_of_invariant {I : State → Prop} {P Q : State → Input → Prop}
    (hstep : ∀ s i, I s → Q s i → I (M.next s i)) (hiff : ∀ s i, I s → (P s i ↔ Q s i))
    {s : State} (hs : I s) (inputs : List Input) : M.Along P s inputs ↔ M.Along Q s inputs :=
  M.along_iff_of_forall (C := fun _ => True) (fun s i hI _ => hstep s i hI)
    (fun s i hI _ => hiff s i hI) hs fun _ _ => trivial

/-- What follows from a property that holds along a run holds along it too. -/
theorem Along.mono {P Q : State → Input → Prop} (hPQ : ∀ s i, P s i → Q s i) {s : State}
    {inputs : List Input} (h : M.Along P s inputs) : M.Along Q s inputs :=
  along_of_invariant (I := fun _ => True) (fun _ _ _ _ => trivial) (fun s i _ => hPQ s i) trivial h

/-- What every input of a list has, every step of its runs has. -/
theorem along_of_forall {Q : Input → Prop} {inputs : List Input} (h : ∀ i ∈ inputs, Q i)
    (s : State) : M.Along (fun _ i => Q i) s inputs := by
  induction inputs generalizing s with
  | nil => trivial
  | cons i inputs ih =>
    exact ⟨h i List.mem_cons_self, ih (fun j hj => h j (List.mem_cons_of_mem i hj)) (M.next s i)⟩

/-- What every output of a run has, every step of it yields. -/
theorem along_of_outputs {Q : Output → Prop} {s : State} {inputs : List Input}
    (h : ∀ o ∈ M.outputs s inputs, Q o) : M.Along (fun s i => Q (M.output s i)) s inputs := by
  induction inputs generalizing s with
  | nil => trivial
  | cons i inputs ih =>
    rw [outputs_cons, List.forall_mem_cons] at h
    exact ⟨h.1, ih h.2⟩

/-- Two properties that hold along a run hold along it together. -/
theorem Along.and {P Q : State → Input → Prop} {s : State} {inputs : List Input}
    (hP : M.Along P s inputs) (hQ : M.Along Q s inputs) :
    M.Along (fun s i => P s i ∧ Q s i) s inputs := by
  induction inputs generalizing s with
  | nil => trivial
  | cons i inputs ih => exact ⟨⟨hP.1, hQ.1⟩, ih hP.2 hQ.2⟩

/-- **Exact condition rule.** Where a step that meets `C` keeps the invariant and any other step
breaks `Q`, which the invariant gives, `Q` holds in every state of a run exactly when all its
steps meet `C`. -/
theorem forall_prefix_iff_along {I Q : State → Prop} {C : State → Input → Prop}
    (hQ : ∀ s, I s → Q s) (hstep : ∀ s i, I s → C s i → I (M.next s i))
    (hbreak : ∀ s i, I s → ¬C s i → ¬Q (M.next s i)) {s : State} (hs : I s)
    (inputs : List Input) :
    (∀ before after, inputs = before ++ after → Q (M.run s before)) ↔ M.Along C s inputs := by
  constructor
  · intro h
    induction inputs generalizing s with
    | nil => trivial
    | cons i inputs ih =>
      have hC : C s i := by
        by_contra hC
        exact hbreak s i hs hC (h [i] inputs rfl)
      refine ⟨hC, ih (hstep s i hs hC) fun before after heq => ?_⟩
      exact h (i :: before) after (by rw [heq, List.cons_append])
  · rintro h before after rfl
    have hbefore := h.prefix
    exact hQ _ (invariant_run_of_along hstep hs hbefore)

/-- **Relation rule.** A reflexive and transitive relation that every step meeting
`C` respects relates the ends of every run whose steps meet `C`. -/
theorem relation_run_of_along {R : State → State → Prop} {C : State → Input → Prop}
    (hrefl : ∀ s, R s s) (htrans : ∀ {s t u}, R s t → R t u → R s u)
    (hstep : ∀ s i, C s i → R s (M.next s i)) {s : State} {inputs : List Input}
    (hC : M.Along C s inputs) : R s (M.run s inputs) := by
  induction inputs generalizing s with
  | nil => exact hrefl s
  | cons i inputs ih => exact htrans (hstep s i hC.1) (ih hC.2)

/-- **Lockstep rule.** Two machines that answer one input alike and stay related, whenever the
step of the first meets `C`, answer every run alike and stay related along it. -/
theorem lockstep {State' : Type*} {N : Machine State' Input Output} {R : State → State' → Prop}
    {C : State → Input → Prop} (hstep : ∀ s t i, R s t → C s i →
      M.output s i = N.output t i ∧ R (M.next s i) (N.next t i)) {s : State} {t : State'}
    (h : R s t) {inputs : List Input} (hC : M.Along C s inputs) :
    M.outputs s inputs = N.outputs t inputs ∧ R (M.run s inputs) (N.run t inputs) := by
  induction inputs generalizing s t with
  | nil => exact ⟨rfl, h⟩
  | cons i inputs ih =>
    obtain ⟨houtput, hnext⟩ := hstep s t i h hC.1
    obtain ⟨houtputs, hrun⟩ := ih hnext hC.2
    exact ⟨by rw [outputs_cons, outputs_cons, houtput, houtputs], hrun⟩

/-- Runs with the same outputs have the same trace. -/
theorem trace_congr {State' : Type*} {N : Machine State' Input Output} {s : State} {t : State'}
    {inputs : List Input} (h : M.outputs s inputs = N.outputs t inputs) :
    M.trace s inputs = N.trace t inputs := by
  induction inputs generalizing s t with
  | nil => rfl
  | cons i inputs ih =>
    rw [outputs_cons, outputs_cons, List.cons.injEq] at h
    rw [trace_cons, trace_cons, h.1, ih h.2]

/-- A state is reachable when some run from the initial state ends in it. -/
def Reachable (M : Machine State Input Output) (initial s : State) : Prop :=
  ∃ inputs, M.run initial inputs = s

/-- A step from a reachable state leads to a reachable one. -/
theorem Reachable.next {initial s : State} (h : M.Reachable initial s) (i : Input) :
    M.Reachable initial (M.next s i) := by
  obtain ⟨inputs, rfl⟩ := h
  exact ⟨inputs ++ [i], by rw [run_append, run_cons, run_nil]⟩

end Machine

/-- **Counter rule.** What each round of a loop over a counter carries to the next number, the
loop carries from its first number to the end. -/
theorem foldl_range'_induct {State : Type*} {P : ℕ → State → Prop} {f : State → ℕ → State}
    {start count : ℕ} {s : State} (hs : P start s)
    (hstep : ∀ i s, start ≤ i → i < start + count → P i s → P (i + 1) (f s i)) :
    P (start + count) ((List.range' start count).foldl f s) := by
  induction count with
  | zero => exact hs
  | succ count ih =>
    have hbefore := ih fun i s hstart hlt => hstep i s hstart (by omega)
    rw [List.range'_1_concat, List.foldl_append]
    exact hstep (start + count) _ (Nat.le_add_right start count) (by omega) hbefore

end TradeBot.Library
