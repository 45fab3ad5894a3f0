import TradeBot.Library.AtomicRegisters
import TradeBot.Library.NumberedTexts

/-!
# Replacing a snapshot file

`atomicWrite` of `StateSerializer.cpp`, one call of the operating system at a time. Any number
of threads write at once, every call of the system can fail, other threads load in between, and
the process can end at any point. A file is named by its path, and what a process has written
when it ends stays on the disk.
-/

namespace TradeBot

open Library

namespace StateSerializer

/-- The name of a temporary file: the target, the reading of the clock and the number. -/
def temporaryPath (target : String) (now : ℤ) (sequence : UInt64) : String :=
  target ++ ".tmp." ++ toString now ++ "." ++ toString sequence.toNat

/-- The path has a part before the name of the file. -/
def hasParentPath (filepath : String) : Bool := filepath.toList.contains '/'

/-- The answer of the operating system to the call that a thread has made. -/
inductive Reply
  | done
  | failed (message : String)
  | wrote (count : ℕ)

/-- Where `atomicWrite` stands. -/
inductive WriteStage
  /-- The directories are created, if there are any, and the temporary file gets a name. -/
  | preparing
  | opening (temporary : String)
  | writing (temporary : String) (written : ℕ)
  | replacing (temporary : String)
  /-- The temporary file of a call that has failed is removed. -/
  | removing (temporary error : String)
  | returning

/-- A call of `atomicWrite`. -/
structure AtomicWrite where
  filepath : String
  contents : String
  stage : WriteStage := .preparing

/-- The files, and the calls of `atomicWrite` of the threads of the process. -/
structure Disk where
  files : String → Option String
  sequence : UInt64 := 0
  calls : ℕ → Option AtomicWrite := fun _ => none

/-- What is seen from outside. -/
abbrev DiskEvent := RegisterEvent ℕ String String String

/-- What happens next. -/
inductive DiskInput
  | atomicWrite (thread : ℕ) (filepath contents : String)
  | reply (thread : ℕ) (now : ℤ) (reply : Reply)
  | load (filepath : String)
  | crash

namespace Disk

/-- The files, and a process that has just started. -/
def started (files : String → Option String) : Disk := { files := files }

/-- A file gets contents, or is removed. -/
def put (disk : Disk) (path : String) (contents : Option String) : Disk :=
  { disk with files := Function.update disk.files path contents }

/-- The call of a thread moves on. -/
def proceed (disk : Disk) (thread : ℕ) (call : AtomicWrite) (stage : WriteStage) : Disk :=
  { disk with calls := Function.update disk.calls thread (some { call with stage := stage }) }

/-- The call of a thread returns. -/
def leave (disk : Disk) (thread : ℕ) (result : Except String Unit) : Disk × List DiskEvent :=
  ({ disk with calls := Function.update disk.calls thread none }, [.returned thread result])

/-- `atomicWrite` from one answer of the operating system to the next call. -/
def answer (disk : Disk) (thread : ℕ) (call : AtomicWrite) (now : ℤ) (reply : Reply) :
    Disk × List DiskEvent :=
  match call.stage, reply with
  | .preparing, .done =>
    let temporary := temporaryPath call.filepath now disk.sequence
    ({ disk with sequence := disk.sequence + 1 }.proceed thread call (.opening temporary), [])
  | .preparing, .failed message =>
    if hasParentPath call.filepath then
      disk.leave thread (.error ("cannot create snapshot directory: " ++ message))
    else (disk, [])
  | .opening temporary, .done =>
    ((disk.put temporary (some "")).proceed thread call (.writing temporary 0), [])
  | .opening _, .failed _ => disk.leave thread (.error "cannot open snapshot temporary file")
  | .writing temporary written, .wrote count =>
    let reached := String.ofList (call.contents.toList.take (written + count))
    ((disk.put temporary (some reached)).proceed thread call
      (.writing temporary (written + count)), [])
  -- a stream that is good after the flush has written everything
  | .writing temporary _, .done =>
    ((disk.put temporary (some call.contents)).proceed thread call (.replacing temporary), [])
  | .writing temporary _, .failed _ =>
    (disk.proceed thread call (.removing temporary "cannot write complete snapshot"), [])
  | .replacing temporary, .done =>
    (((disk.put call.filepath (disk.files temporary)).put temporary none).proceed thread call
      .returning, (disk.files temporary).toList.map (.committed thread call.filepath))
  | .replacing temporary, .failed message =>
    (disk.proceed thread call
      (.removing temporary ("cannot atomically replace snapshot: " ++ message)), [])
  | .removing temporary error, .done => (disk.put temporary none).leave thread (.error error)
  | .removing _ error, .failed _ => disk.leave thread (.error error)
  | .returning, _ => disk.leave thread (.ok ())
  | _, .wrote _ => (disk, [])

/-- One thing happens. A thread begins a call only when it has none, and a process that is
started again has no calls and numbers its files from zero. -/
def step (disk : Disk) (input : DiskInput) : Disk × List DiskEvent :=
  match input with
  | .atomicWrite thread filepath contents =>
    match disk.calls thread with
    | none =>
      ({ disk with
        calls := Function.update disk.calls thread (some ⟨filepath, contents, .preparing⟩) },
        [.called thread filepath contents])
    | some _ => (disk, [])
  | .reply thread now reply =>
    match disk.calls thread with
    | some call => disk.answer thread call now reply
    | none => (disk, [])
  | .load filepath => (disk, [.observed filepath (disk.files filepath)])
  | .crash => (started disk.files, [.crashed])

end Disk

/-- The disk as a machine. -/
def diskMachine : Machine Disk DiskInput (List DiskEvent) := ⟨Disk.step⟩

end StateSerializer

end TradeBot
