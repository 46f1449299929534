import SkaleAdmin.Library.Interruption
import SkaleAdmin.Library.Looping
import Mathlib.Algebra.Order.BigOperators.Group.Finset
import Mathlib.Logic.Function.Basic

/-! `execute_tasks`, which submits the pipelines of a chain to a pool of threads. -/

namespace SkaleAdmin.Monitor.Tasks

open Interaction

/-- A task is known by its index in the list of the tasks. -/
inductive TaskQuery where
  /-- `task.future.running()`. -/
  | running (index : Nat)
  | needed (index : Nat)
  /-- `int(time.time())`. -/
  | time
  /-- `task.future = executor.submit(task.create_pipeline())`. -/
  | submit (index : Nat)
  | stuckTimeout (index : Nat)
  /-- `task.future.cancel()`. -/
  | cancel (index : Nat)
  | sleep
  | shutdown
  /-- `process_report.ts = value`. -/
  | setTs (value : Int)
  deriving DecidableEq

@[reducible] def TaskQuery.Answer : TaskQuery → Type
  | running _ | needed _ | cancel _ => Bool
  | time | stuckTimeout _ => Int
  | submit _ | sleep | shutdown | setTs _ => Unit

abbrev taskInterface : Interface where
  Query := TaskQuery
  Answer := TaskQuery.Answer

abbrev TaskProgram := Program taskInterface

def pose (query : TaskQuery) : TaskProgram query.Answer :=
  Program.pose (I := taskInterface) query

/-! ### The loop -/

/-- The `start_ts` of the tasks, and the tasks that are stuck. -/
structure LoopState where
  startTs : Nat → Int := fun _ => 0
  stucked : List Nat := []

/-- `not task.future.running() and task.needed and len(stucked) == 0`. -/
def isDue (index : Nat) (state : LoopState) : TaskProgram Bool := do
  if ← pose (.running index) then
    return false
  else if ← pose (.needed index) then
    return state.stucked.length == 0
  else
    return false

def startTask (index : Nat) (state : LoopState) : TaskProgram LoopState := do
  let startTs ← pose .time
  pose (.submit index)
  return { state with startTs := Function.update state.startTs index startTs }

def checkStuck (index : Nat) (state : LoopState) : TaskProgram LoopState := do
  if ← pose (.running index) then
    let now ← pose .time
    let stuckTimeout ← pose (.stuckTimeout index)
    if now - state.startTs index > stuckTimeout then
      let canceled ← pose (.cancel index)
      if canceled then
        return state
      else
        return {
          startTs := Function.update state.startTs index (-1)
          stucked := state.stucked ++ [index] }
    else
      return state
  else
    return state

def checkTask (index : Nat) (state : LoopState) : TaskProgram LoopState := do
  if ← isDue index state then startTask index state else checkStuck index state

def checkTasks : List Nat → LoopState → TaskProgram LoopState
  | [], state => return state
  | index :: indices, state => do
      checkTasks indices (← checkTask index state)

inductive LoopEnd where
  | finished
  /-- An executor needs a worker. -/
  | valueError

/-- `stucked` is looked at after the sleep. -/
def report (state : LoopState) : TaskProgram (LoopState ⊕ LoopEnd) := do
  pose .sleep
  if state.stucked.length > 0 then
    pose .shutdown
    pose (.setTs 0)
    return .inr .finished
  else
    let now ← pose .time
    pose (.setTs now)
    return .inl state

def scan (count : Nat) (state : LoopState) : TaskProgram (LoopState ⊕ LoopEnd) := do
  report (← checkTasks (List.range count) state)

/-! ### The pool -/

inductive Status where
  | pending
  | running
  | finished
  | cancelled
  deriving DecidableEq

def Status.isOver : Status → Bool
  | finished | cancelled => true
  | pending | running => false

/-- The pipelines of each task with the last submitted one, whose future the task holds,
at the head; `ts` is the last value written to the report. -/
structure TaskWorld where
  workers : Nat
  clock : Int := 0
  pipelines : Nat → List Status := fun _ => []
  ts : Option Int := none

inductive TaskMove where
  | tick (clock : Int)
  /-- A worker takes a pipeline. -/
  | begin (index position : Nat)
  /-- The pipeline returns or raises. -/
  | finish (index position : Nat)

def advance (source target : Status) (position : Nat) (statuses : List Status) :
    Option (List Status) :=
  if statuses[position]? = some source then some (statuses.set position target) else none

namespace TaskWorld

def runningCount (world : TaskWorld) : Nat :=
  ∑ index ∈ Finset.range world.workers, (world.pipelines index).count .running

def advanceAt (world : TaskWorld) (source target : Status) (index position : Nat) :
    Option TaskWorld :=
  (advance source target position (world.pipelines index)).map fun statuses =>
    { world with pipelines := Function.update world.pipelines index statuses }

def move (world : TaskWorld) : TaskMove → Option TaskWorld
  | .tick clock => some { world with clock }
  | .begin index position =>
      if world.runningCount < world.workers then
        world.advanceAt .pending .running index position
      else
        none
  | .finish index position => world.advanceAt .running .finished index position

/-- The future of a task that was not submitted yet is pending for ever. -/
def future (world : TaskWorld) (index : Nat) : Status :=
  (world.pipelines index).head?.getD .pending

def submit (world : TaskWorld) (index : Nat) : TaskWorld :=
  { world with
    pipelines := Function.update world.pipelines index (.pending :: world.pipelines index) }

/-- A pipeline that runs or is over cannot be cancelled. -/
def cancel (world : TaskWorld) (index : Nat) : Bool × TaskWorld :=
  match world.pipelines index with
  | [] => (true, world)
  | .pending :: others =>
      (true, { world with
        pipelines := Function.update world.pipelines index (.cancelled :: others) })
  | .cancelled :: _ => (true, world)
  | .running :: _ | .finished :: _ => (false, world)

/-- What a task needs and how long it may run is answered as it comes. -/
def serve (query : TaskQuery) (proposed : query.Answer) (world : TaskWorld) :
    Option (query.Answer × TaskWorld) :=
  match query, proposed with
  | .running index, _ => some (world.future index = .running, world)
  | .needed _, answer => some (answer, world)
  | .time, _ => some (world.clock, world)
  | .submit index, _ =>
      some ((), world.submit index)
  | .stuckTimeout _, answer => some (answer, world)
  | .cancel index, _ => some (world.cancel index)
  | .sleep, _ => some ((), world)
  | .shutdown, _ => some ((), world)
  | .setTs value, _ => some ((), { world with ts := some value })

end TaskWorld

/-- The rounds of the loop are the scans of `count` tasks. -/
def taskHost (count : Nat) :
    Host taskInterface TaskWorld TaskMove LoopState (LoopState ⊕ LoopEnd) where
  move := TaskWorld.move
  serve := TaskWorld.serve
  job := scan count

/-! ### What is noted of a run -/

/-- `detected` where a task has run longer than its `stuck_timeout`, `unneeded` and `late`
where a pipeline was submitted that was not needed or came after that, and `callsAfter`
counts the calls of the loop after it. -/
structure TaskNotes where
  lastNeeded : Option (Nat × Bool) := none
  lastTime : Int := 0
  startedAt : Nat → Int := fun _ => 0
  detected : Bool := false
  unneeded : Bool := false
  late : Bool := false
  callsAfter : Nat := 0

def TaskNotes.note (notes : TaskNotes) : (query : TaskQuery) → query.Answer → TaskNotes
  | .needed index, answer => { notes with lastNeeded := some (index, answer) }
  | .time, now => { notes with lastTime := now }
  | .submit index, _ => { notes with
      startedAt := Function.update notes.startedAt index notes.lastTime
      unneeded := notes.unneeded || decide (notes.lastNeeded ≠ some (index, true))
      late := notes.late || notes.detected }
  | .stuckTimeout index, stuckTimeout => { notes with
      detected := notes.detected || decide (notes.lastTime - notes.startedAt index > stuckTimeout) }
  | _, _ => notes

def TaskNotes.counted (notes : TaskNotes) : TaskNotes :=
  { notes with callsAfter := notes.callsAfter + notes.detected.toNat }

def taskWatch : Host.Watch taskInterface TaskWorld TaskMove LoopState TaskNotes where
  call query answer _ notes := notes.counted.note query answer

abbrev watchedTasks (count : Nat) := (taskHost count).watch taskWatch

/-- A sleep is long enough for a submitted pipeline to start, if a worker is free. -/
def promptWorkers : Host.Discipline taskInterface (TaskWorld × TaskNotes) TaskMove
    LoopState where
  call
    | .sleep, _, world => world.1.workers ≤ world.1.runningCount ∨
        ∀ index < world.1.workers, .pending ∉ world.1.pipelines index
    | _, _, _ => True

def executeTasks (count : Nat) (clock : Int) :
    Looping.Configuration taskInterface (TaskWorld × TaskNotes) (LoopState ⊕ LoopEnd) where
  world := ({ workers := count, clock }, {})
  position := if count = 0 then .closed (.inr .valueError) else .inside (scan count {})

def taskStep (count : Nat) :=
  Looping.step (watchedTasks count) (Sum.getLeft? : LoopState ⊕ LoopEnd → Option LoopState)

end SkaleAdmin.Monitor.Tasks
