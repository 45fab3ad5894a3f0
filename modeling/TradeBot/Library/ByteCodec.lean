import TradeBot.Library.SortedMaps

/-!
# Reading back what was written

A reader takes symbols from the front of its input and may fail. It reads back a value from
symbols when it gives the value and leaves whatever follows them, and it reads it back under
a limit when it does so within the limit and fails beyond it. The rules compose this along
sequences, counted lists and counted maps; words of any width are written with their lowest
byte first.
-/

namespace TradeBot.Library

universe u v

variable {β : Type u} {ε : Type v} {α γ : Type u}

/-- A computation that reads symbols from the front of its input. -/
abbrev Reader (β : Type u) (ε : Type v) (α : Type u) := StateT (List β) (Except ε) α

namespace Reader

/-- A reader that fails. -/
def fail (error : ε) : Reader β ε α := fun _ => .error error

/-- A reader that fails unless a condition holds. -/
def require (condition : Bool) (error : ε) : Reader β ε PUnit :=
  if condition then pure PUnit.unit else fail error

/-- Reading what was written gives the value and leaves what follows. -/
def ReadsBack (r : Reader β ε α) (written : List β) (a : α) : Prop :=
  ∀ rest, r (written ++ rest) = .ok (a, rest)

/-- A value that is not written is read back from nothing. -/
theorem readsBack_pure (a : α) : (pure a : Reader β ε α).ReadsBack [] a := fun _ => rfl

/-- **Sequence rule.** -/
theorem ReadsBack.bind {r : Reader β ε α} {f : α → Reader β ε γ} {written written' : List β}
    {a : α} {c : γ} (h : r.ReadsBack written a) (h' : (f a).ReadsBack written' c) :
    (r >>= f).ReadsBack (written ++ written') c := by
  intro rest
  rw [List.append_assoc]
  change (r (written ++ (written' ++ rest)) >>= fun p => f p.1 p.2) = _
  rw [h]
  exact h' rest

/-- A condition that holds reads nothing. -/
theorem ReadsBack.require {condition : Bool} {error : ε} {f : PUnit → Reader β ε γ}
    {written : List β} {c : γ} (hcondition : condition = true)
    (h : (f PUnit.unit).ReadsBack written c) :
    (Reader.require condition error >>= f).ReadsBack written c := by
  intro rest
  rw [Reader.require, if_pos hcondition]
  exact h rest

/-- Reading what was written gives the value within a limit, and fails beyond it. -/
def ReadsWithin (limit : Prop) (r : Reader β ε α) (written : List β) (a : α) : Prop :=
  (limit → r.ReadsBack written a) ∧ (¬limit → ∀ rest, ∃ e, r (written ++ rest) = .error e)

/-- What is read back without conditions is read back within any limit. -/
theorem ReadsBack.within {r : Reader β ε α} {written : List β} {a : α}
    (h : r.ReadsBack written a) : ReadsWithin True r written a :=
  ⟨fun _ => h, fun hfalse => absurd trivial hfalse⟩

/-- Within a limit, what reads at all reads back. -/
theorem ReadsWithin.limit_of_ok {limit : Prop} {r : Reader β ε α} {written rest : List β}
    {a : α} {out : α × List β} (h : ReadsWithin limit r written a)
    (hok : r (written ++ rest) = .ok out) : limit := by
  by_contra hlimit
  obtain ⟨e, he⟩ := h.2 hlimit rest
  rw [he] at hok
  cases hok

/-- The limit may be replaced by an equivalent one. -/
theorem ReadsWithin.congr {limit limit' : Prop} {r : Reader β ε α} {written : List β} {a : α}
    (h : ReadsWithin limit r written a) (hlimit : limit' ↔ limit) :
    ReadsWithin limit' r written a := by
  rwa [ReadsWithin, hlimit]

/-- A failing first part fails the sequence. -/
theorem bind_error {r : Reader β ε α} {f : α → Reader β ε γ} {input : List β} {e : ε}
    (h : r input = .error e) : (r >>= f) input = .error e := by
  change (r input >>= fun p => f p.1 p.2) = _
  rw [h]
  rfl

/-- **Sequence rule under limits.** -/
theorem ReadsWithin.bind {limit limit' : Prop} {r : Reader β ε α} {f : α → Reader β ε γ}
    {written written' : List β} {a : α} {c : γ} (h : ReadsWithin limit r written a)
    (h' : ReadsWithin limit' (f a) written' c) :
    ReadsWithin (limit ∧ limit') (r >>= f) (written ++ written') c := by
  refine ⟨fun ⟨hlimit, hlimit'⟩ => (h.1 hlimit).bind (h'.1 hlimit'), fun hnot rest => ?_⟩
  rw [List.append_assoc]
  by_cases hlimit : limit
  · obtain ⟨e, he⟩ := h'.2 (fun hlimit' => hnot ⟨hlimit, hlimit'⟩) rest
    refine ⟨e, ?_⟩
    change (r (written ++ (written' ++ rest)) >>= fun p => f p.1 p.2) = _
    rw [h.1 hlimit]
    exact he
  · obtain ⟨e, he⟩ := h.2 hlimit (written' ++ rest)
    exact ⟨e, bind_error he⟩

/-- The sequence rule under limits for a list of writes. -/
theorem ReadsWithin.cons {limit limit' : Prop} {r : Reader β ε α} {f : α → Reader β ε γ}
    {written : List β} {writes : List (List β)} {a : α} {c : γ}
    (h : ReadsWithin limit r written a) (h' : ReadsWithin limit' (f a) writes.flatten c) :
    ReadsWithin (limit ∧ limit') (r >>= f) (written :: writes).flatten c := by
  rw [List.flatten_cons]
  exact h.bind h'

/-- The sequence rule under limits for a reader of two writes. -/
theorem ReadsWithin.cons_cons {limit limit' : Prop} {r : Reader β ε α} {f : α → Reader β ε γ}
    {first second : List β} {writes : List (List β)} {a : α} {c : γ}
    (h : ReadsWithin limit r (first ++ second) a)
    (h' : ReadsWithin limit' (f a) writes.flatten c) :
    ReadsWithin (limit ∧ limit') (r >>= f) (first :: second :: writes).flatten c := by
  rw [List.flatten_cons, List.flatten_cons, ← List.append_assoc]
  exact h.bind h'

/-- The sequence rule for a first part without a limit. -/
theorem ReadsBack.cons {limit : Prop} {r : Reader β ε α} {f : α → Reader β ε γ}
    {written : List β} {writes : List (List β)} {a : α} {c : γ} (h : r.ReadsBack written a)
    (h' : ReadsWithin limit (f a) writes.flatten c) :
    ReadsWithin limit (r >>= f) (written :: writes).flatten c :=
  (h.within.cons h').congr (by rw [true_and])

/-- A condition that holds reads nothing. -/
theorem ReadsWithin.require {limit : Prop} {condition : Bool} {error : ε}
    {f : PUnit → Reader β ε γ} {written : List β} {c : γ} (hcondition : condition = true)
    (h : ReadsWithin limit (f PUnit.unit) written c) :
    ReadsWithin limit (Reader.require condition error >>= f) written c := by
  have heq : (Reader.require condition error >>= f) = f PUnit.unit := by
    rw [Reader.require, if_pos hcondition]
    rfl
  rwa [heq]

/-- The end of a sequence. -/
theorem readsWithin_last {a c : α} (h : a = c) :
    ReadsWithin True (pure a : Reader β ε α) ([] : List (List β)).flatten c := by
  rw [h]
  exact (readsBack_pure c).within

/-- A number of values of one kind. -/
def many (r : Reader β ε α) : ℕ → Reader β ε (List α)
  | 0 => pure []
  | n + 1 => do
    let a ← r
    let as ← many r n
    return a :: as

/-- **List rule.** What is read back within a limit for every entry is read back for the list
when all entries are within their limits. An entry need not be read back as it was written. -/
theorem readsWithin_many {γ : Type u} {limit : α → Prop} {r : Reader β ε γ} {write : α → List β}
    {f : α → γ} {xs : List α} (h : ∀ x ∈ xs, ReadsWithin (limit x) r (write x) (f x)) :
    ReadsWithin (∀ x ∈ xs, limit x) (many r xs.length) (xs.flatMap write) (xs.map f) := by
  induction xs with
  | nil => exact (readsBack_pure []).within.congr (by simp)
  | cons x xs ih =>
    rw [List.forall_mem_cons] at h
    rw [List.flatMap_cons, List.map_cons]
    refine (h.1.bind ?_).congr List.forall_mem_cons
    rw [← List.append_nil (List.flatMap write xs)]
    have hend : ReadsWithin True (pure (f x :: xs.map f) : Reader β ε (List γ)) []
        (f x :: xs.map f) := (readsBack_pure (f x :: xs.map f)).within
    exact ((ih h.2).bind hend).congr (by rw [and_true])

section Maps

variable {κ ι : Type u} [DecidableEq κ]

/-- A number of entries of a map; a key that comes twice is an error. -/
def entries (r : Reader β ε (κ × ι)) (duplicate : ε) :
    ℕ → KeyedMap κ ι → Reader β ε (KeyedMap κ ι)
  | 0, m => pure m
  | n + 1, m => do
    let e ← r
    require (decide (e.1 ∉ m)) duplicate
    entries r duplicate n (m.insert e.1 e.2)

/-- **Map rule.** What is read back within a limit for every entry is read back for entries
with distinct keys when all of them are within their limits. -/
theorem readsWithin_entries {limit : (Sigma fun _ : κ => ι) → Prop} {r : Reader β ε (κ × ι)}
    {duplicate : ε} {write : (Sigma fun _ : κ => ι) → List β}
    {es : List (Sigma fun _ : κ => ι)} {m : KeyedMap κ ι} (hkeys : es.NodupKeys)
    (hnew : ∀ e ∈ es, e.1 ∉ m)
    (h : ∀ e ∈ es, ReadsWithin (limit e) r (write e) (e.1, e.2)) :
    ReadsWithin (∀ e ∈ es, limit e) (entries r duplicate es.length m) (es.flatMap write)
      (KeyedMap.insertAll m es) := by
  induction es generalizing m with
  | nil => exact (readsBack_pure m).within.congr (by simp)
  | cons e es ih =>
    rw [List.forall_mem_cons] at h hnew
    have hfresh := KeyedMap.notMem_insert_of_nodupKeys hkeys hnew.2
    have hrest := ih (List.nodupKeys_cons.mp hkeys).2 hfresh h.2
    rw [List.flatMap_cons]
    exact (h.1.bind (ReadsWithin.require (decide_eq_true hnew.1) hrest)).congr
      List.forall_mem_cons

end Maps

end Reader

section Words

/-- A word of a width in bytes, its lowest byte first. -/
def littleEndian : ℕ → ℕ → List UInt8
  | 0, _ => []
  | width + 1, n => UInt8.ofNat n :: littleEndian width (n / 256)

/-- The word of bytes, the lowest byte first. -/
def ofLittleEndian : List UInt8 → ℕ
  | [] => 0
  | b :: bytes => b.toNat + 256 * ofLittleEndian bytes

/-- A number is written in as many bytes as asked for. -/
@[simp] theorem length_littleEndian (width n : ℕ) : (littleEndian width n).length = width := by
  induction width generalizing n with
  | zero => rfl
  | succ width ih => rw [littleEndian, List.length_cons, ih]

/-- The bytes of a word give the word back up to its width. -/
theorem ofLittleEndian_littleEndian (width n : ℕ) :
    ofLittleEndian (littleEndian width n) = n % 256 ^ width := by
  induction width generalizing n with
  | zero => rw [pow_zero, Nat.mod_one, littleEndian, ofLittleEndian]
  | succ width ih =>
    rw [littleEndian, ofLittleEndian, ih, UInt8.toNat_ofNat', show 2 ^ 8 = 256 from rfl,
      pow_succ', Nat.mod_mul]

end Words

end TradeBot.Library
