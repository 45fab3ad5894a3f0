import TradeBot.Checkpoint.AtomicWrite

/-!
# Snapshot files are atomic registers

Seen by those who save and load, each file changes at one instant of a save that succeeds, and
never otherwise: not by a save that fails, not by one that a crash cuts off, and not by the
saves that other threads are making. The temporary files carry this. No two calls have the same
one, and no target is one.
-/

namespace TradeBot

open Library

namespace StateSerializer

/-- A path that is not the name of a temporary file. -/
def Plain (path : String) : Prop := ∀ target now sequence, path ≠ temporaryPath target now sequence

/-- A path that does not end in a digit. -/
theorem plain_of_getLast? {path : String} {c : Char} (h : path.toList.getLast? = some c)
    (hdigit : c.isDigit = false) : Plain path := by
  rintro target now sequence rfl
  have hne : (toString sequence.toNat).toList ≠ [] := by
    rw [Nat.toString_eq_ofList_toDigits, String.toList_ofList]
    exact Nat.toDigits_ne_nil
  rw [temporaryPath, String.toList_append, List.getLast?_append_of_ne_nil _ hne] at h
  have hmem := List.mem_of_getLast? h
  rw [isDigit_of_mem_toString hmem] at hdigit
  cases hdigit

/-- The name of a temporary file shows its number. -/
theorem sequence_of_temporaryPath {target target' : String} {now now' : ℤ} {m n : UInt64}
    (h : temporaryPath target now m = temporaryPath target' now' n) : m = n :=
  UInt64.toNat_inj.mp (numbered_last '.' (by decide) h)

namespace AtomicWrite

/-- The call as the registers see it. -/
def registerCall (call : AtomicWrite) : RegisterCall String String :=
  match call.stage with
  | .returning => .effective
  | _ => .pending call.filepath call.contents

/-- The temporary file of a call that has one. -/
def temporary (call : AtomicWrite) : Option String :=
  match call.stage with
  | .opening temporary => some temporary
  | .writing temporary _ => some temporary
  | .replacing temporary => some temporary
  | .removing temporary _ => some temporary
  | _ => none

/-- A call that has a temporary file has not taken effect. -/
theorem pending_of_temporary {call : AtomicWrite} {path : String}
    (h : call.temporary = some path) :
    call.registerCall = .pending call.filepath call.contents := by
  unfold temporary at h
  unfold registerCall
  cases hstage : call.stage with
  | returning =>
    rw [hstage] at h
    cases h
  | _ => rfl

end AtomicWrite

/-- The disk holds the registers: outside the temporary files their values, and what the calls
need for theirs. -/
structure Disk.Tracks (disk : Disk) (r : Registers ℕ String String) : Prop where
  values : ∀ path, Plain path → disk.files path = r.values path
  calls : ∀ thread, r.calls thread = (disk.calls thread).map AtomicWrite.registerCall
  plain : ∀ thread call, disk.calls thread = some call → Plain call.filepath
  numbered : ∀ thread call path, disk.calls thread = some call → call.temporary = some path →
    ∃ target now number, number < disk.sequence ∧ path = temporaryPath target now number
  separate : ∀ thread thread' call call' path, disk.calls thread = some call →
    disk.calls thread' = some call' → call.temporary = some path →
    call'.temporary = some path → thread = thread'
  complete : ∀ thread call path, disk.calls thread = some call →
    call.stage = .replacing path → disk.files path = some call.contents

namespace Disk

variable {disk : Disk} {r : Registers ℕ String String} {thread : ℕ} {call : AtomicWrite}

/-- A disk that has just started tracks registers at rest. -/
theorem tracks_atRest (files : String → Option String) :
    (started files).Tracks (.atRest files) where
  values := fun _ _ => rfl
  calls := fun _ => rfl
  plain := fun _ _ hcall => by cases hcall
  numbered := fun _ _ _ hcall => by cases hcall
  separate := fun _ _ _ _ _ hcall => by cases hcall
  complete := fun _ _ _ hcall => by cases hcall

namespace Tracks

/-- A temporary file is not a register. -/
theorem not_plain (h : disk.Tracks r) (hcall : disk.calls thread = some call) {path : String}
    (htemporary : call.temporary = some path) : ¬Plain path := by
  obtain ⟨target, now, number, -, rfl⟩ := h.numbered thread call path hcall htemporary
  exact fun hplain => hplain target now number rfl

/-- Two calls do not share a temporary file. -/
theorem other_temporary (h : disk.Tracks r) (hcall : disk.calls thread = some call) {path : String}
    (htemporary : call.temporary = some path) {other : ℕ} (hne : other ≠ thread)
    {call' : AtomicWrite} (hcall' : disk.calls other = some call') :
    call'.temporary ≠ some path :=
  fun hshared => hne (h.separate other thread call' call path hcall' hcall hshared htemporary)

/-- **Update rule.** One thread gets another call, or none, and files change. The registers
follow when the call and the files are as they must be and the calls of the others find their
files as they left them. -/
theorem update (h : disk.Tracks r) {r' : Registers ℕ String String}
    {files : String → Option String} {sequence : UInt64} {next : Option AtomicWrite}
    (hsequence : disk.sequence ≤ sequence)
    (hcalls : r'.calls = Function.update r.calls thread (next.map AtomicWrite.registerCall))
    (hvalues : ∀ path, Plain path → files path = r'.values path)
    (hplain : ∀ call ∈ next, Plain call.filepath)
    (hnumbered : ∀ call ∈ next, ∀ path, call.temporary = some path →
      ∃ target now number, number < sequence ∧ path = temporaryPath target now number)
    (hcomplete : ∀ call ∈ next, ∀ path, call.stage = .replacing path →
      files path = some call.contents)
    (hothers : ∀ other ≠ thread, ∀ call, disk.calls other = some call → ∀ path,
      call.temporary = some path →
      files path = disk.files path ∧ ∀ own ∈ next, own.temporary ≠ some path) :
    Tracks ⟨files, sequence, Function.update disk.calls thread next⟩ r' := by
  have hcases {other : ℕ} {call : AtomicWrite}
      (hcall : Function.update disk.calls thread next other = some call) :
      (other = thread ∧ call ∈ next) ∨ (other ≠ thread ∧ disk.calls other = some call) := by
    obtain rfl | hne := eq_or_ne other thread
    · rw [Function.update_self] at hcall
      exact .inl ⟨rfl, hcall⟩
    · rw [Function.update_of_ne hne] at hcall
      exact .inr ⟨hne, hcall⟩
  constructor
  case values => exact hvalues
  case calls =>
    intro other
    rw [hcalls]
    obtain rfl | hne := eq_or_ne other thread
    · simp only [Function.update_self]
    · simp only [Function.update_of_ne hne, h.calls other]
  case plain =>
    intro other call hcall
    obtain ⟨-, hown⟩ | ⟨-, hother⟩ := hcases hcall
    · exact hplain call hown
    · exact h.plain other call hother
  case numbered =>
    intro other call path hcall hpath
    obtain ⟨-, hown⟩ | ⟨-, hother⟩ := hcases hcall
    · exact hnumbered call hown path hpath
    · obtain ⟨target, now, number, hlt, heq⟩ := h.numbered other call path hother hpath
      exact ⟨target, now, number, UInt64.lt_of_lt_of_le hlt hsequence, heq⟩
  case separate =>
    intro first second call₁ call₂ path hcall₁ hcall₂ hpath₁ hpath₂
    obtain ⟨rfl, hown₁⟩ | ⟨hne₁, hother₁⟩ := hcases hcall₁ <;>
      obtain ⟨hsame, hown₂⟩ | ⟨hne₂, hother₂⟩ := hcases hcall₂
    · exact hsame.symm
    · exact absurd hpath₁ ((hothers second hne₂ call₂ hother₂ path hpath₂).2 call₁ hown₁)
    · exact absurd hpath₂ ((hothers first hne₁ call₁ hother₁ path hpath₁).2 call₂ hown₂)
    · exact h.separate first second call₁ call₂ path hother₁ hother₂ hpath₁ hpath₂
  case complete =>
    intro other call path hcall hstage
    obtain ⟨-, hown⟩ | ⟨hne, hother⟩ := hcases hcall
    · exact hcomplete call hown path hstage
    · have hpath : call.temporary = some path := by rw [AtomicWrite.temporary, hstage]
      rw [← h.complete other call path hother hstage]
      exact (hothers other hne call hother path hpath).1

/-- What a call does to its own file and its own stage is not seen. -/
theorem proceed (h : disk.Tracks r) (hcall : disk.calls thread = some call)
    {files : String → Option String} {stage : WriteStage}
    (hfiles : ∀ path, call.temporary ≠ some path → files path = disk.files path)
    (hregister : { call with stage := stage }.registerCall = call.registerCall)
    (htemporary : { call with stage := stage }.temporary = call.temporary)
    (hcomplete : ∀ path, stage = .replacing path → files path = some call.contents) :
    ({ disk with files := files }.proceed thread call stage).Tracks r := by
  refine h.update (UInt64.le_refl _) ?_ ?_ ?_ ?_ ?_ ?_
  · rw [Option.map_some, hregister, ← Option.map_some, ← hcall, ← h.calls thread,
      Function.update_eq_self]
  · intro path hplain
    rw [← h.values path hplain]
    exact hfiles path fun hpath => h.not_plain hcall hpath hplain
  · rintro _ ⟨⟩
    exact h.plain thread call hcall
  · rintro _ ⟨⟩ path hpath
    exact h.numbered thread call path hcall (htemporary ▸ hpath)
  · rintro _ ⟨⟩
    exact hcomplete
  · intro other hne call' hcall' path hpath
    have hown : call.temporary ≠ some path := fun hown =>
      h.other_temporary hcall hown hne hcall' hpath
    refine ⟨hfiles path hown, ?_⟩
    rintro _ ⟨⟩
    rwa [htemporary]

/-- A call that returns without having taken effect leaves the registers. -/
theorem leave (h : disk.Tracks r) (hcall : disk.calls thread = some call)
    {files : String → Option String}
    (hfiles : ∀ path, call.temporary ≠ some path → files path = disk.files path)
    (result : Except String Unit) :
    ({ disk with files := files }.leave thread result).1.Tracks (r.withCall thread none) := by
  refine h.update (UInt64.le_refl _) rfl ?_ ?_ ?_ ?_ ?_
  · intro path hplain
    exact (hfiles path fun hpath => h.not_plain hcall hpath hplain).trans (h.values path hplain)
  · rintro _ ⟨⟩
  · rintro _ ⟨⟩
  · rintro _ ⟨⟩
  · intro other hne call' hcall' path hpath
    refine ⟨hfiles path fun hown => h.other_temporary hcall hown hne hcall' hpath, ?_⟩
    rintro _ ⟨⟩

/-- A call gets a temporary file that no other call has. -/
theorem name (h : disk.Tracks r) (hcall : disk.calls thread = some call)
    (hstage : call.stage = .preparing) (hroom : disk.sequence < disk.sequence + 1) (now : ℤ) :
    ({ disk with sequence := disk.sequence + 1 }.proceed thread call
      (.opening (temporaryPath call.filepath now disk.sequence))).Tracks r := by
  have hregister : call.registerCall = .pending call.filepath call.contents := by
    rw [AtomicWrite.registerCall, hstage]
  refine h.update (UInt64.le_of_lt hroom) ?_ h.values ?_ ?_ ?_ ?_
  · have hcalls := h.calls thread
    rw [hcall, Option.map_some, hregister] at hcalls
    exact (Function.update_eq_self_iff.mpr hcalls.symm).symm
  · rintro _ ⟨⟩
    exact h.plain thread call hcall
  · rintro _ ⟨⟩ path ⟨⟩
    exact ⟨call.filepath, now, disk.sequence, hroom, rfl⟩
  · rintro _ ⟨⟩ path ⟨⟩
  · intro other hne call' hcall' path hpath
    refine ⟨rfl, ?_⟩
    rintro _ ⟨⟩ ⟨⟩
    obtain ⟨target, now', number, hlt, heq⟩ := h.numbered other call' _ hcall' hpath
    rw [sequence_of_temporaryPath heq] at hlt
    exact UInt64.lt_irrefl _ hlt

/-- A temporary file with the whole contents replaces its target: the register takes its new
value. -/
theorem rename (h : disk.Tracks r) (hcall : disk.calls thread = some call) {path : String}
    (hstage : call.stage = .replacing path) :
    (((disk.put call.filepath (disk.files path)).put path none).proceed thread call
      .returning).Tracks (r.commit thread call.filepath call.contents) := by
  have hown : call.temporary = some path := by rw [AtomicWrite.temporary, hstage]
  have hcontents := h.complete thread call path hcall hstage
  have htarget := h.plain thread call hcall
  have hpath := h.not_plain hcall hown
  refine h.update (UInt64.le_refl _) rfl ?_ ?_ ?_ ?_ ?_
  · intro other hplain
    have hne : other ≠ path := by
      rintro rfl
      exact hpath hplain
    change Function.update (Function.update _ _ _) _ _ other = Function.update _ _ _ other
    rw [Function.update_of_ne hne, hcontents]
    obtain rfl | hother := eq_or_ne other call.filepath
    · rw [Function.update_self, Function.update_self]
    · rw [Function.update_of_ne hother, Function.update_of_ne hother, h.values other hplain]
  · rintro _ ⟨⟩
    exact htarget
  · rintro _ ⟨⟩ _ ⟨⟩
  · rintro _ ⟨⟩ _ ⟨⟩
  · intro other hne call' hcall' path' hpath'
    have hnot := h.not_plain hcall' hpath'
    have hdistinct : path' ≠ path := by
      rintro rfl
      exact h.other_temporary hcall hown hne hcall' hpath'
    have hkept : path' ≠ call.filepath := by
      rintro rfl
      exact hnot htarget
    refine ⟨?_, ?_⟩
    · change Function.update (Function.update _ _ _) _ _ path' = _
      rw [Function.update_of_ne hdistinct, Function.update_of_ne hkept]
    · rintro _ ⟨⟩ ⟨⟩

/-- A call that fails is allowed to return its error. -/
theorem fail (h : disk.Tracks r) (hcall : disk.calls thread = some call)
    (hpending : call.registerCall = .pending call.filepath call.contents)
    {files : String → Option String}
    (hfiles : ∀ path, call.temporary ≠ some path → files path = disk.files path) (error : String) :
    let left := { disk with files := files }.leave thread (.error error)
    ∃ next, Registers.protocol.follow r left.2 = some next ∧ left.1.Tracks next := by
  have hregister : r.calls thread = some (.pending call.filepath call.contents) := by
    rw [h.calls thread, hcall, Option.map_some, hpending]
  refine ⟨r.withCall thread none, Registers.protocol.follow_singleton ?_, h.leave hcall hfiles _⟩
  simp only [Registers.protocol, hregister]

/-- **Step of a call.** Whatever the operating system answers, the registers allow what is
seen. -/
theorem answer (h : disk.Tracks r) (hcall : disk.calls thread = some call)
    (hroom : disk.sequence < disk.sequence + 1) (now : ℤ) (reply : Reply) :
    ∃ next, Registers.protocol.follow r (disk.answer thread call now reply).2 = some next ∧
      (disk.answer thread call now reply).1.Tracks next := by
  have hput {path : String} {contents : Option String} (hown : call.temporary = some path) :
      ∀ other, call.temporary ≠ some other →
        Function.update disk.files path contents other = disk.files other := by
    intro other hother
    have hne : other ≠ path := by
      rintro rfl
      exact hother hown
    exact Function.update_of_ne hne _ _
  have hsame : ∀ path, call.temporary ≠ some path → disk.files path = disk.files path :=
    fun _ _ => rfl
  unfold Disk.answer
  cases hstage : call.stage with
  | preparing =>
    have hpending : call.registerCall = .pending call.filepath call.contents := by
      rw [AtomicWrite.registerCall, hstage]
    cases reply with
    | done => exact ⟨r, rfl, h.name hcall hstage hroom now⟩
    | failed message =>
      by_cases hparent : hasParentPath call.filepath = true
      · simp only [hparent, if_true]
        exact h.fail hcall hpending hsame _
      · simp only [hparent]
        exact ⟨r, rfl, h⟩
    | wrote count => exact ⟨r, rfl, h⟩
  | opening path =>
    have hown : call.temporary = some path := by rw [AtomicWrite.temporary, hstage]
    have hpending := AtomicWrite.pending_of_temporary hown
    cases reply with
    | done =>
      refine ⟨r, rfl, h.proceed hcall (hput hown) hpending.symm hown.symm ?_⟩
      rintro _ ⟨⟩
    | failed message => exact h.fail hcall hpending hsame _
    | wrote count => exact ⟨r, rfl, h⟩
  | writing path written =>
    have hown : call.temporary = some path := by rw [AtomicWrite.temporary, hstage]
    have hpending := AtomicWrite.pending_of_temporary hown
    cases reply with
    | done =>
      refine ⟨r, rfl, h.proceed hcall (hput hown) hpending.symm hown.symm ?_⟩
      rintro _ ⟨⟩
      exact Function.update_self _ _ _
    | failed message =>
      refine ⟨r, rfl, h.proceed hcall hsame hpending.symm hown.symm ?_⟩
      rintro _ ⟨⟩
    | wrote count =>
      refine ⟨r, rfl, h.proceed hcall (hput hown) hpending.symm hown.symm ?_⟩
      rintro _ ⟨⟩
  | replacing path =>
    have hown : call.temporary = some path := by rw [AtomicWrite.temporary, hstage]
    have hpending := AtomicWrite.pending_of_temporary hown
    have hcontents := h.complete thread call path hcall hstage
    cases reply with
    | done =>
      refine ⟨_, ?_, h.rename hcall hstage⟩
      have hregister : r.calls thread = some (.pending call.filepath call.contents) := by
        rw [h.calls thread, hcall, Option.map_some, hpending]
      dsimp only
      rw [hcontents]
      refine Registers.protocol.follow_singleton ?_
      simp only [Registers.protocol, hregister, and_self, if_true]
    | failed message =>
      refine ⟨r, rfl, h.proceed hcall hsame hpending.symm hown.symm ?_⟩
      rintro _ ⟨⟩
    | wrote count => exact ⟨r, rfl, h⟩
  | removing path error =>
    have hown : call.temporary = some path := by rw [AtomicWrite.temporary, hstage]
    have hpending := AtomicWrite.pending_of_temporary hown
    cases reply with
    | done => exact h.fail hcall hpending (hput hown) _
    | failed message => exact h.fail hcall hpending hsame _
    | wrote count => exact ⟨r, rfl, h⟩
  | returning =>
    have hregister : r.calls thread = some .effective := by
      rw [h.calls thread, hcall, Option.map_some, AtomicWrite.registerCall, hstage]
    refine ⟨r.withCall thread none, Registers.protocol.follow_singleton ?_,
      h.leave hcall hsame (.ok ())⟩
    simp only [Registers.protocol, hregister]

/-- A thread that has no call begins one. -/
theorem begin_call (h : disk.Tracks r) (thread : ℕ) {filepath : String}
    (hplain : Plain filepath) (contents : String) :
    ({ disk with
      calls := Function.update disk.calls thread (some ⟨filepath, contents, .preparing⟩) }).Tracks
      (r.withCall thread (some (.pending filepath contents))) := by
  refine h.update (UInt64.le_refl _) rfl h.values ?_ ?_ ?_ ?_
  · rintro _ ⟨⟩
    exact hplain
  · rintro _ ⟨⟩ path ⟨⟩
  · rintro _ ⟨⟩ path ⟨⟩
  · intro other hne call' hcall' path hpath
    refine ⟨rfl, ?_⟩
    rintro _ ⟨⟩ ⟨⟩

end Tracks

/-- A call or a load of a file that is not a temporary one. -/
def Proper : DiskInput → Prop
  | .atomicWrite _ filepath _ => Plain filepath
  | .load filepath => Plain filepath
  | _ => True

/-- **Step.** Whatever happens next, the registers allow what is seen. -/
theorem Tracks.step (h : disk.Tracks r) {input : DiskInput} (hproper : Proper input)
    (hroom : disk.sequence < disk.sequence + 1) :
    ∃ next, Registers.protocol.follow r (disk.step input).2 = some next ∧
      (disk.step input).1.Tracks next := by
  unfold Disk.step
  cases input with
  | atomicWrite thread filepath contents =>
    have hregister := h.calls thread
    dsimp only
    cases hcall : disk.calls thread with
    | none =>
      rw [hcall, Option.map_none] at hregister
      refine ⟨_, Registers.protocol.follow_singleton ?_, h.begin_call thread hproper contents⟩
      simp only [Registers.protocol, hregister]
    | some call => exact ⟨r, rfl, h⟩
  | reply thread now reply =>
    dsimp only
    cases hcall : disk.calls thread with
    | none => exact ⟨r, rfl, h⟩
    | some call => exact h.answer hcall hroom now reply
  | load filepath =>
    refine ⟨r, Registers.protocol.follow_singleton ?_, h⟩
    simp only [Registers.protocol, h.values filepath hproper, if_true]
  | crash =>
    refine ⟨.atRest r.values, rfl, ?_⟩
    have hrest := tracks_atRest disk.files
    exact { hrest with values := h.values }

/-- A call takes at most one number. -/
theorem sequence_answer (disk : Disk) (thread : ℕ) (call : AtomicWrite) (now : ℤ) (reply : Reply) :
    (disk.answer thread call now reply).1.sequence = disk.sequence ∨
      (disk.answer thread call now reply).1.sequence = disk.sequence + 1 := by
  unfold answer
  split
  case h_1 => exact .inr rfl
  case h_2 => split <;> exact .inl rfl
  all_goals exact .inl rfl

/-- An input takes one number for temporary files at most. -/
theorem sequence_next_le (disk : Disk) (input : DiskInput) :
    (diskMachine.next disk input).sequence.toNat ≤ disk.sequence.toNat + 1 := by
  have hsucc : (disk.sequence + 1).toNat ≤ disk.sequence.toNat + 1 := by
    rw [UInt64.toNat_add]
    exact Nat.mod_le _ _
  change (disk.step input).1.sequence.toNat ≤ _
  unfold step
  cases input with
  | atomicWrite thread filepath contents =>
    dsimp only
    cases disk.calls thread <;> exact Nat.le_succ _
  | reply thread now reply =>
    dsimp only
    cases disk.calls thread with
    | none => exact Nat.le_succ _
    | some call =>
      obtain hsame | hnext := disk.sequence_answer thread call now reply
      · exact (congrArg UInt64.toNat hsame).le.trans (Nat.le_succ _)
      · exact (congrArg UInt64.toNat hnext).le.trans hsucc
  | load filepath => exact Nat.le_succ _
  | crash => exact Nat.zero_le _

/-- So a run takes at most one for each input. -/
theorem sequence_run_le (disk : Disk) (inputs : List DiskInput) :
    (diskMachine.run disk inputs).sequence.toNat ≤ disk.sequence.toNat + inputs.length := by
  induction inputs generalizing disk with
  | nil => exact Nat.le_refl _
  | cons input inputs ih =>
    have hnext := disk.sequence_next_le input
    have hrun := ih (diskMachine.next disk input)
    rw [Machine.run_cons, List.length_cons]
    omega

/-- The numbers do not run out in a run of fewer steps than there are numbers. -/
theorem room_of_length {files : String → Option String} {inputs : List DiskInput}
    (hlength : inputs.length < UInt64.size) :
    diskMachine.Along (fun disk _ => disk.sequence < disk.sequence + 1) (started files)
      inputs := by
  refine Machine.along_of_splits fun before input after heq => ?_
  have hrun := sequence_run_le (started files) before
  have hbefore : before.length < inputs.length := by
    rw [heq, List.length_append, List.length_cons]
    omega
  have hzero : (started files).sequence.toNat = 0 := rfl
  have hone : (1 : UInt64).toNat = 1 := rfl
  rw [UInt64.lt_iff_toNat_lt, UInt64.toNat_add, hone, Nat.mod_eq_of_lt]
  · omega
  · change _ < UInt64.size
    omega

/-- After every run the files say what the registers do. -/
theorem tracks_run (files : String → Option String) {inputs : List DiskInput}
    (hproper : ∀ input ∈ inputs, Proper input) (hlength : inputs.length < UInt64.size) :
    ∃ r, Registers.protocol.follow (.atRest files)
        (diskMachine.outputs (started files) inputs).flatten = some r ∧
      (diskMachine.run (started files) inputs).Tracks r := by
  have halong := (Machine.along_of_forall hproper (started files)).and (room_of_length hlength)
  refine Protocol.follow_outputs (C := fun disk input =>
    Proper input ∧ disk.sequence < disk.sequence + 1) ?_ (tracks_atRest files) halong
  intro disk input r htracks hinput
  exact htracks.step hinput.1 hinput.2

/-- **Snapshot files are atomic registers.** In a run from any files, what the threads and the
loads see is allowed: a save takes effect at one instant or never, and never after a crash, one
that returns without an error has taken effect, one that returns an error has not, and a load
sees the contents of the last save of that file that took effect, whole. -/
theorem saves_follow_registers (files : String → Option String) {inputs : List DiskInput}
    (hproper : ∀ input ∈ inputs, Proper input) (hlength : inputs.length < UInt64.size) :
    ∃ r, Registers.protocol.follow (.atRest files)
        (diskMachine.outputs (started files) inputs).flatten = some r ∧
      ∀ path, Plain path → (diskMachine.run (started files) inputs).files path = r.values path := by
  obtain ⟨r, hfollow, htracks⟩ := tracks_run files hproper hlength
  exact ⟨r, hfollow, htracks.values⟩

/-- No answer of the operating system begins a call. -/
theorem not_called_answer (disk : Disk) (other : ℕ) (call : AtomicWrite) (now : ℤ) (reply : Reply)
    {filepath contents : String} :
    .called thread filepath contents ∉ (disk.answer other call now reply).2 := by
  unfold answer
  split
  case h_2 => split <;> simp [leave]
  all_goals simp [leave]

/-- A call is seen where a thread begins it. -/
theorem step_of_called {filepath contents : String} {input : DiskInput}
    (h : .called thread filepath contents ∈ (disk.step input).2) :
    input = .atomicWrite thread filepath contents := by
  unfold step at h
  cases input with
  | atomicWrite other filepath' contents' =>
    dsimp only at h
    cases hcall : disk.calls other with
    | none =>
      rw [hcall, List.mem_singleton] at h
      cases h
      rfl
    | some call =>
      rw [hcall] at h
      cases h
  | reply other now reply =>
    dsimp only at h
    cases hcall : disk.calls other with
    | none =>
      rw [hcall] at h
      cases h
    | some call =>
      rw [hcall] at h
      exact absurd h (disk.not_called_answer other call now reply)
  | load filepath' =>
    rw [List.mem_singleton] at h
    cases h
  | crash =>
    rw [List.mem_singleton] at h
    cases h

/-- A save takes effect while another one is writing, and the process ends before the other
one has written everything. -/
def cutOff : List DiskInput := [
  .atomicWrite 0 "state.json" "first",
  .atomicWrite 1 "state.json" "second",
  .reply 0 7 .done,
  .reply 1 7 .done,
  .reply 0 8 .done,
  .reply 1 8 .done,
  .reply 1 8 (.wrote 3),
  .reply 0 8 .done,
  .reply 0 9 .done,
  .reply 0 9 .done,
  .crash,
  .load "state.json"]

/-- No target of the sample is named like a temporary file. -/
theorem proper_cutOff : ∀ input ∈ cutOff, Proper input := by
  have hplain : Plain "state.json" := plain_of_getLast? (c := 'n') rfl rfl
  intro input hinput
  simp only [cutOff, List.mem_cons, List.not_mem_nil, or_false] at hinput
  rcases hinput with rfl | rfl | rfl | rfl | rfl | rfl | rfl | rfl | rfl | rfl | rfl | rfl <;>
    first | exact hplain | exact trivial

/-- After the crash the file still has the text of the save that was renamed into place. -/
theorem saves_follow_registers_cutOff :
    (diskMachine.run (started fun _ => none) cutOff).files "state.json" = some "first" ∧
      ∃ r, Registers.protocol.follow (.atRest fun _ => none)
          (diskMachine.outputs (started fun _ => none) cutOff).flatten = some r ∧
        ∀ path, Plain path →
          (diskMachine.run (started fun _ => none) cutOff).files path = r.values path :=
  ⟨by decide +kernel, saves_follow_registers _ proper_cutOff (by decide)⟩

end Disk

end StateSerializer

end TradeBot
