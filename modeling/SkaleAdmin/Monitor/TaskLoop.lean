import SkaleAdmin.Monitor.Tasks

/-! No pipeline runs twice at a time, and a stuck task ends the loop. -/

namespace SkaleAdmin.Monitor.Tasks

open Interaction

/-! ### The pipelines of a task -/

/-- Only the last submitted pipeline may be queued or run. -/
def OneOpen (statuses : List Status) : Prop :=
  ∀ status ∈ statuses.tail, status.isOver = true

def AllOver (statuses : List Status) : Prop :=
  ∀ status ∈ statuses, status.isOver = true

theorem OneOpen.count_running {statuses : List Status} (open_ : OneOpen statuses) :
    statuses.count .running ≤ 1 := by
  cases statuses with
  | nil => exact Nat.zero_le 1
  | cons head tail =>
      have none : tail.count .running = 0 := by
        apply List.count_eq_zero.mpr
        intro member
        have closed := open_ _ member
        cases closed
      rw [List.count_cons, none]
      split <;> omega

theorem OneOpen.not_pending {statuses : List Status} (open_ : OneOpen statuses)
    (some : 0 < statuses.count .running) : .pending ∉ statuses := by
  cases statuses with
  | nil => simp
  | cons head tail =>
      have none : Status.running ∉ tail := fun member => by cases open_ _ member
      rw [List.count_cons, List.count_eq_zero.mpr none] at some
      have runs : head = .running := by
        by_contra apart
        simp [apart] at some
      intro member
      rcases List.mem_cons.mp member with same | member
      · rw [runs] at same
        cases same
      · cases open_ _ member

def Begun (statuses : List Status) : Prop :=
  ∃ head tail, statuses = head :: tail ∧ (head = .running ∨ head = .finished)

theorem OneOpen.of_running {statuses : List Status} (open_ : OneOpen statuses)
    (begun : .pending ∉ statuses) :
    if decide (statuses.head?.getD .pending = .running) then Begun statuses
    else AllOver statuses := by
  cases statuses with
  | nil =>
      intro status member
      cases member
  | cons head tail =>
      have closed : head.isOver = true → AllOver (head :: tail) := by
        intro ended status member
        rcases List.mem_cons.mp member with rfl | member
        · exact ended
        · exact open_ status member
      cases head with
      | pending => exact absurd List.mem_cons_self begun
      | running => exact ⟨.running, tail, rfl, .inl rfl⟩
      | finished => exact closed rfl
      | cancelled => exact closed rfl

/-- What is kept where one of the `old` pipelines starts or ends. -/
structure Advanced (old new : List Status) : Prop where
  open_ : OneOpen old → OneOpen new
  pending : .pending ∈ new → .pending ∈ old
  closed : AllOver old → AllOver new
  begun : Begun old → Begun new

theorem Advanced.refl (statuses : List Status) : Advanced statuses statuses :=
  ⟨id, id, id, id⟩

theorem advanced_of_advance {source target : Status} {position : Nat}
    {old new : List Status} (unfinished : source.isOver = false)
    (forward : target = .running ∨ target = .finished)
    (taken : advance source target position old = some new) : Advanced old new := by
  unfold advance at taken
  split at taken
  case isFalse => cases taken
  case isTrue here =>
    obtain rfl := Option.some.inj taken
    have unpending : Status.pending ≠ target := by
      rcases forward with rfl | rfl <;> decide
    cases old with
    | nil => cases here
    | cons head tail =>
        cases position with
        | zero =>
            obtain rfl : head = source := Option.some.inj here
            refine ⟨id, ?_, ?_, fun _ => ⟨target, tail, rfl, forward⟩⟩
            · intro member
              rcases List.mem_cons.mp member with same | member
              · exact absurd same unpending
              · exact List.mem_cons_of_mem _ member
            · intro closed
              have ended := closed head List.mem_cons_self
              rw [unfinished] at ended
              cases ended
        | succ position =>
            have member : source ∈ tail := List.mem_of_getElem? here
            refine ⟨?_, ?_, ?_, ?_⟩
            · intro open_
              have ended := open_ source member
              rw [unfinished] at ended
              cases ended
            · intro queued
              rcases List.mem_cons.mp queued with same | queued
              · exact List.mem_cons.mpr (.inl same)
              · rcases List.mem_or_eq_of_mem_set queued with inside | same
                · exact List.mem_cons_of_mem _ inside
                · exact absurd same unpending
            · intro closed
              have ended := closed source (List.mem_cons_of_mem _ member)
              rw [unfinished] at ended
              cases ended
            · rintro ⟨first, others, same, started⟩
              obtain ⟨rfl, rfl⟩ := List.cons.inj same
              exact ⟨_, _, rfl, started⟩

/-! ### The moves of the world -/

theorem advanceAt_cases {world world' : TaskWorld} {source target : Status}
    {index position : Nat} (unfinished : source.isOver = false)
    (forward : target = .running ∨ target = .finished)
    (taken : world.advanceAt source target index position = some world') (task : Nat) :
    Advanced (world.pipelines task) (world'.pipelines task) := by
  obtain ⟨statuses, advanced, rfl⟩ := Option.map_eq_some_iff.mp taken
  by_cases here : task = index
  · subst here
    dsimp only
    rw [Function.update_self]
    exact advanced_of_advance unfinished forward advanced
  · dsimp only
    rw [Function.update_of_ne here]
    exact .refl _

theorem advanced_of_move {world world' : TaskWorld} {move : TaskMove}
    (taken : world.move move = some world') (task : Nat) :
    Advanced (world.pipelines task) (world'.pipelines task) := by
  cases move with
  | tick clock =>
      cases taken
      exact .refl _
  | begin index position =>
      simp only [TaskWorld.move] at taken
      split at taken
      case isTrue => exact advanceAt_cases rfl (.inl rfl) taken task
      case isFalse => cases taken
  | finish index position => exact advanceAt_cases rfl (.inr rfl) taken task

theorem move_rest {world world' : TaskWorld} {move : TaskMove}
    (taken : world.move move = some world') :
    world'.workers = world.workers ∧ world'.ts = world.ts := by
  have advanced : ∀ {source target index position},
      world.advanceAt source target index position = some world' →
      world'.workers = world.workers ∧ world'.ts = world.ts := by
    intro source target index position taken
    obtain ⟨statuses, _, rfl⟩ := Option.map_eq_some_iff.mp taken
    exact ⟨rfl, rfl⟩
  cases move with
  | tick clock =>
      cases taken
      exact ⟨rfl, rfl⟩
  | begin index position =>
      simp only [TaskWorld.move] at taken
      split at taken
      case isTrue => exact advanced taken
      case isFalse => cases taken
  | finish index position => exact advanced taken

theorem not_pending_of_busy {world : TaskWorld}
    (open_ : ∀ task, OneOpen (world.pipelines task))
    (busy : world.workers ≤ world.runningCount) {task : Nat} (own : task < world.workers) :
    .pending ∉ world.pipelines task := by
  apply (open_ task).not_pending
  by_contra idle
  have none : (world.pipelines task).count .running = 0 := by omega
  have fewer : world.runningCount < ∑ _task ∈ Finset.range world.workers, 1 := by
    apply Finset.sum_lt_sum fun other _ => (open_ other).count_running
    exact ⟨task, Finset.mem_range.mpr own, by omega⟩
  rw [← Finset.card_eq_sum_ones, Finset.card_range] at fewer
  omega

/-! ### What a scan keeps -/

structure TaskKept (count : Nat) (world : TaskWorld × TaskNotes) : Prop where
  workers : world.1.workers = count
  open_ : ∀ task, OneOpen (world.1.pipelines task)
  unneeded : world.2.unneeded = false
  late : world.2.late = false
  after : world.2.callsAfter ≤ 6 * count + 3
  before : world.2.detected = false → world.2.callsAfter = 0

/-- Before the check of a task, `calls` calls of it done: what is queued was submitted in
this scan, and the loop knows of a detection. -/
structure At (index calls : Nat) (state : LoopState) (world : TaskWorld × TaskNotes) : Prop where
  queued : ∀ task, .pending ∈ world.1.pipelines task → task < index
  stuck : state.stucked = [] ↔ world.2.detected = false
  started : world.2.detected = false → state.startTs = world.2.startedAt
  calls : world.2.callsAfter ≤ 6 * index + calls

abbrev TaskStable (count : Nat) (assertion : TaskWorld × TaskNotes → Prop) : Prop :=
  (watchedTasks count).Stable promptWorkers (TaskKept count) assertion

abbrev TaskOutline {τ : Type} (count : Nat) (before : TaskWorld × TaskNotes → Prop)
    (program : TaskProgram τ) (after : τ → TaskWorld × TaskNotes → Prop) : Prop :=
  (watchedTasks count).Outline promptWorkers (TaskKept count) before program after

variable {count : Nat} {τ : Type}

theorem watched_move {world moved : TaskWorld × TaskNotes} {move : TaskMove}
    (taken : (watchedTasks count).move world move = some moved) :
    world.1.move move = some moved.1 ∧ moved.2 = world.2 :=
  Host.watch_move.mp taken

theorem stable_of_advanced {assertion : TaskWorld × TaskNotes → Prop}
    (kept : ∀ world moved notes, (∀ task, Advanced (world.pipelines task)
      (moved.pipelines task)) → moved.ts = world.ts → assertion (world, notes) →
      assertion (moved, notes)) : TaskStable count assertion := by
  intro world moved move _ holds _ taken
  obtain ⟨plain, same⟩ := watched_move taken
  obtain ⟨moved, notes⟩ := moved
  cases same
  exact kept world.1 moved world.2 (advanced_of_move plain) (move_rest plain).2 holds

theorem At.advanced {index calls : Nat} {state : LoopState} {world moved : TaskWorld}
    {notes : TaskNotes} (here : At index calls state (world, notes))
    (advanced : ∀ task, Advanced (world.pipelines task) (moved.pipelines task)) :
    At index calls state (moved, notes) :=
  ⟨fun task queued => here.queued task ((advanced task).pending queued), here.stuck,
    here.started, here.calls⟩

theorem stable_at (index calls : Nat) (state : LoopState) :
    TaskStable count (At index calls state) :=
  stable_of_advanced fun _ _ _ advanced _ here => here.advanced advanced

theorem outline_ask {query : TaskQuery} {before : TaskWorld × TaskNotes → Prop}
    {after : query.Answer → TaskWorld × TaskNotes → Prop}
    (stable : TaskStable count before)
    (served : ∀ (world world' : TaskWorld) (notes : TaskNotes) (proposed answer : query.Answer),
      TaskKept count (world, notes) → before (world, notes) →
      promptWorkers.call query proposed (world, notes) →
      TaskWorld.serve query proposed world = some (answer, world') →
      TaskKept count (world', notes.counted.note query answer) ∧
        after answer (world', notes.counted.note query answer))
    (afterStable : ∀ answer, TaskStable count (after answer)) :
    TaskOutline count before (pose query) after := by
  apply Looping.outline_pose stable _ afterStable
  intro world world' proposed answer kept holds allowed taken
  obtain ⟨plain, noted⟩ := Host.watch_serve.mp taken
  obtain ⟨world', notes'⟩ := world'
  cases noted
  exact served world.1 world' world.2 proposed answer kept holds allowed plain

theorem counted_le {notes : TaskNotes} {bound : Nat} (calls : notes.callsAfter ≤ bound) :
    notes.counted.callsAfter ≤ bound + 1 := by
  have one := Bool.toNat_le notes.detected
  unfold TaskNotes.counted
  dsimp only
  omega

theorem counted_of_undetected {notes : TaskNotes} (calm : notes.detected = false) :
    notes.counted = notes := by
  obtain ⟨lastNeeded, lastTime, startedAt, detected, unneeded, late, callsAfter⟩ := notes
  cases calm
  rfl

section Counting

variable {index calls : Nat} {state : LoopState} {world : TaskWorld} {notes : TaskNotes}

theorem TaskKept.counted (kept : TaskKept count (world, notes))
    (here : At index calls state (world, notes)) (scanned : index < count) (few : calls < 6) :
    TaskKept count (world, notes.counted) := by
  have bound : notes.counted.callsAfter ≤ 6 * index + calls + 1 := counted_le here.calls
  refine ⟨kept.workers, kept.open_, kept.unneeded, kept.late, ?_, ?_⟩
  · change notes.counted.callsAfter ≤ 6 * count + 3
    omega
  · intro calm
    have same : notes.detected = false := calm
    rw [counted_of_undetected same]
    exact kept.before same

theorem At.counted (here : At index calls state (world, notes)) :
    At index (calls + 1) state (world, notes.counted) :=
  ⟨here.queued, here.stuck, here.started, counted_le here.calls⟩

end Counting

/-! ### The check of a task -/

section Check

variable {index : Nat} {state : LoopState} (scanned : index < count)

include scanned

theorem outline_running (calls : Nat) (few : calls < 6) :
    TaskOutline count (At index calls state) (pose (.running index)) fun running world =>
      At index (calls + 1) state world ∧
        if running then Begun (world.1.pipelines index)
        else AllOver (world.1.pipelines index) := by
  apply outline_ask (stable_at index calls state)
  · intro world world' notes proposed answer kept here _ served
    cases served
    refine ⟨kept.counted here scanned few, here.counted, ?_⟩
    exact (kept.open_ index).of_running fun queued =>
      Nat.lt_irrefl index (here.queued index queued)
  · intro running
    apply stable_of_advanced
    rintro world moved notes advanced _ ⟨here, rest⟩
    refine ⟨here.advanced advanced, ?_⟩
    cases running with
    | true => exact (advanced index).begun rest
    | false => exact (advanced index).closed rest

structure Due (index calls : Nat) (state : LoopState) (world : TaskWorld × TaskNotes) :
    Prop where
  at_ : At index calls state world
  closed : AllOver (world.1.pipelines index)
  needed : world.2.lastNeeded = some (index, true)
  undetected : world.2.detected = false

omit scanned in
theorem stable_due (calls : Nat) : TaskStable count (Due index calls state) :=
  stable_of_advanced fun _ _ _ advanced _ due =>
    ⟨due.at_.advanced advanced, (advanced index).closed due.closed, due.needed, due.undetected⟩

theorem outline_needed :
    TaskOutline count
      (fun world => At index 1 state world ∧ AllOver (world.1.pipelines index))
      (pose (.needed index)) fun needed world => At index 2 state world ∧
        AllOver (world.1.pipelines index) ∧ world.2.lastNeeded = some (index, needed) := by
  apply outline_ask
  · exact stable_of_advanced fun _ _ _ advanced _ ⟨here, closed⟩ =>
      ⟨here.advanced advanced, (advanced index).closed closed⟩
  · intro world world' notes proposed answer kept ⟨here, closed⟩ _ served
    cases served
    have counted := kept.counted here scanned (by omega)
    have noted := here.counted
    exact ⟨⟨counted.workers, counted.open_, counted.unneeded, counted.late, counted.after,
      counted.before⟩, ⟨noted.queued, noted.stuck, noted.started, noted.calls⟩, closed, rfl⟩
  · exact fun needed => stable_of_advanced fun _ _ _ advanced _ ⟨here, closed, known⟩ =>
      ⟨here.advanced advanced, (advanced index).closed closed, known⟩

theorem outline_isDue :
    TaskOutline count (At index 0 state) (isDue index state) fun due world =>
      if due then Due index 2 state world else At index 2 state world := by
  apply Host.Outline.bind (outline_running scanned 0 (by omega))
  intro running
  cases running with
  | true =>
      apply Host.Outline.done
      · exact stable_of_advanced fun _ _ _ advanced _ here =>
          ⟨here.1.advanced advanced, (advanced index).begun here.2⟩
      · intro world _ ⟨here, _⟩
        exact ⟨here.queued, here.stuck, here.started, Nat.le_succ_of_le here.calls⟩
  | false =>
      apply Host.Outline.bind (outline_needed scanned)
      intro needed
      have stable : TaskStable count fun world => At index 2 state world ∧
          AllOver (world.1.pipelines index) ∧ world.2.lastNeeded = some (index, needed) :=
        stable_of_advanced fun _ _ _ advanced _ ⟨here, closed, known⟩ =>
          ⟨here.advanced advanced, (advanced index).closed closed, known⟩
      cases needed with
      | false => exact .done stable fun world _ holds => holds.1
      | true =>
          apply Host.Outline.done stable
          intro world _ ⟨here, closed, known⟩
          cases stuck : state.stucked with
          | nil => exact ⟨here, closed, known, here.stuck.mp stuck⟩
          | cons task others => exact here

theorem outline_startTime :
    TaskOutline count (Due index 2 state) (pose .time) fun now world =>
      Due index 3 state world ∧ world.2.lastTime = now := by
  apply outline_ask (stable_due 2)
  · intro world world' notes proposed answer kept due _ served
    cases served
    have counted := kept.counted due.at_ scanned (by omega)
    have noted := due.at_.counted
    exact ⟨⟨counted.workers, counted.open_, counted.unneeded, counted.late, counted.after,
      counted.before⟩, ⟨⟨noted.queued, noted.stuck, noted.started, noted.calls⟩, due.closed,
      due.needed, due.undetected⟩, rfl⟩
  · exact fun now => (stable_due 3).and (stable_of_advanced fun _ _ _ _ _ known => known)

omit scanned in
/-- A pipeline is submitted where the ones before it are over. -/
theorem outline_submit (now : Int) :
    TaskOutline count (fun world => Due index 3 state world ∧ world.2.lastTime = now)
      (pose (.submit index)) fun _ => At (index + 1) 0
        { state with startTs := Function.update state.startTs index now } := by
  apply outline_ask
  · exact (stable_due 3).and (stable_of_advanced fun _ _ _ _ _ known => known)
  · intro world world' notes proposed answer kept ⟨due, known⟩ _ served
    cases served
    have calm : notes.detected = false := due.undetected
    have none : notes.callsAfter = 0 := kept.before calm
    rw [counted_of_undetected calm]
    have open_ : ∀ task, OneOpen ((world.submit index).pipelines task) := by
      intro task
      by_cases here : task = index
      · subst here
        simpa [TaskWorld.submit, OneOpen, AllOver] using due.closed
      · simpa [TaskWorld.submit, here] using kept.open_ task
    have queued : ∀ task, .pending ∈ (world.submit index).pipelines task →
        task < index + 1 := by
      intro task queued
      by_cases here : task = index
      · omega
      · simp only [TaskWorld.submit, Function.update_of_ne here] at queued
        exact Nat.lt_succ_of_lt (due.at_.queued task queued)
    have started := due.at_.started calm
    have needed : notes.lastNeeded = some (index, true) := due.needed
    refine ⟨⟨kept.workers, open_, ?_, ?_, kept.after, kept.before⟩, queued, due.at_.stuck, ?_, ?_⟩
    · simpa [TaskNotes.note, needed] using kept.unneeded
    · simpa [TaskNotes.note, calm] using kept.late
    · intro _
      simp only [TaskNotes.note]
      rw [started, known]
    · simp [TaskNotes.note, none]
  · exact fun _ => stable_at _ _ _

theorem outline_startTask :
    TaskOutline count (Due index 2 state) (startTask index state) (At (index + 1) 0) := by
  apply Host.Outline.bind (outline_startTime scanned)
  intro now
  apply Host.Outline.bind (outline_submit now)
  intro _
  exact .done (stable_at _ _ _) fun _ _ holds => holds

/-- The task has just been found to run for too long. -/
structure Stuck (index : Nat) (world : TaskWorld × TaskNotes) : Prop where
  queued : ∀ task, .pending ∈ world.1.pipelines task → task < index
  begun : Begun (world.1.pipelines index)
  detected : world.2.detected = true
  calls : world.2.callsAfter ≤ 6 * index + 5

omit scanned in
theorem stable_stuck : TaskStable count (Stuck index) :=
  stable_of_advanced fun _ _ _ advanced _ stuck =>
    ⟨fun task queued => stuck.queued task ((advanced task).pending queued),
      (advanced index).begun stuck.begun, stuck.detected, stuck.calls⟩

structure Timed (index calls : Nat) (state : LoopState) (now : Int)
    (world : TaskWorld × TaskNotes) : Prop where
  at_ : At index calls state world
  begun : Begun (world.1.pipelines index)
  read : world.2.lastTime = now

omit scanned in
theorem stable_timed (calls : Nat) (now : Int) :
    TaskStable count (Timed index calls state now) :=
  stable_of_advanced fun _ _ _ advanced _ timed =>
    ⟨timed.at_.advanced advanced, (advanced index).begun timed.begun, timed.read⟩

theorem outline_checkTime :
    TaskOutline count
      (fun world => At index 3 state world ∧ Begun (world.1.pipelines index))
      (pose .time) fun now => Timed index 4 state now := by
  apply outline_ask
  · exact stable_of_advanced fun _ _ _ advanced _ ⟨here, begun⟩ =>
      ⟨here.advanced advanced, (advanced index).begun begun⟩
  · intro world world' notes proposed answer kept ⟨here, begun⟩ _ served
    cases served
    have counted := kept.counted here scanned (by omega)
    have noted := here.counted
    exact ⟨⟨counted.workers, counted.open_, counted.unneeded, counted.late, counted.after,
      counted.before⟩, ⟨noted.queued, noted.stuck, noted.started, noted.calls⟩, begun, rfl⟩
  · exact fun now => stable_timed 4 now

/-- The start that the loop compares with is that of the last submission, so that it
detects what is detected. -/
theorem outline_stuckTimeout (now : Int) :
    TaskOutline count (Timed index 4 state now) (pose (.stuckTimeout index))
      fun stuckTimeout world =>
        if now - state.startTs index > stuckTimeout then Stuck index world
        else At index 5 state world := by
  apply outline_ask (stable_timed 4 now)
  · intro world world' notes proposed answer kept timed _ served
    cases served
    have counted := kept.counted timed.at_ scanned (by omega)
    have noted := timed.at_.counted
    have read : notes.lastTime = now := timed.read
    have compared : (notes.counted.note (.stuckTimeout index) proposed).detected =
        (notes.detected || decide (now - notes.startedAt index > proposed)) := by
      rw [← read]
      rfl
    refine ⟨⟨counted.workers, counted.open_, counted.unneeded, counted.late, counted.after,
      fun calm => ?_⟩, ?_⟩
    · rw [compared, Bool.or_eq_false_iff] at calm
      exact counted.before calm.1
    · split
      case isTrue exceeded =>
        refine ⟨noted.queued, timed.begun, ?_, noted.calls⟩
        rw [compared]
        cases calm : notes.detected with
        | true => rfl
        | false =>
            rw [← timed.at_.started calm]
            exact decide_eq_true exceeded
      case isFalse within =>
        have same : (notes.counted.note (.stuckTimeout index) proposed).detected =
            notes.detected := by
          rw [compared]
          cases calm : notes.detected with
          | true => rfl
          | false =>
              rw [← timed.at_.started calm]
              exact decide_eq_false within
        refine ⟨noted.queued, ?_, ?_, noted.calls⟩
        · rw [same]
          exact noted.stuck
        · intro calm
          exact noted.started (same.symm.trans calm)
  · intro stuckTimeout
    split
    case isTrue => exact stable_stuck
    case isFalse => exact stable_at _ _ _

variable (state) in
theorem outline_cancel :
    TaskOutline count (Stuck index) (pose (.cancel index)) fun canceled world =>
      canceled = false ∧ At (index + 1) 0 { state with
        startTs := Function.update state.startTs index (-1)
        stucked := state.stucked ++ [index] } world := by
  apply outline_ask stable_stuck
  · intro world world' notes proposed answer kept stuck _ served
    have still : world.cancel index = (false, world) := by
      obtain ⟨head, tail, same, begun⟩ := stuck.begun
      unfold TaskWorld.cancel
      rw [same]
      rcases begun with rfl | rfl <;> rfl
    simp only [TaskWorld.serve, still, Option.some.injEq, Prod.mk.injEq] at served
    obtain ⟨rfl, rfl⟩ := served
    have detected : notes.detected = true := stuck.detected
    have calls : notes.counted.callsAfter ≤ 6 * index + 5 + 1 := counted_le stuck.calls
    refine ⟨⟨kept.workers, kept.open_, kept.unneeded, kept.late, ?_, ?_⟩, rfl, ?_, ?_, ?_, ?_⟩
    · change notes.counted.callsAfter ≤ 6 * count + 3
      omega
    · intro calm
      exact absurd (detected.symm.trans calm) (by decide)
    · exact fun task queued => Nat.lt_succ_of_lt (stuck.queued task queued)
    · constructor
      · intro none
        simp at none
      · intro calm
        exact absurd (detected.symm.trans calm) (by decide)
    · intro calm
      exact absurd (detected.symm.trans calm) (by decide)
    · change notes.counted.callsAfter ≤ 6 * (index + 1) + 0
      omega
  · exact fun canceled => (Host.stable_const _).and (stable_at _ _ _)

theorem outline_checkStuck :
    TaskOutline count (At index 2 state) (checkStuck index state) (At (index + 1) 0) := by
  have rest : ∀ {calls : Nat} {world : TaskWorld × TaskNotes}, calls ≤ 6 →
      At index calls state world → At (index + 1) 0 state world := by
    intro calls world few here
    exact ⟨fun task queued => Nat.lt_succ_of_lt (here.queued task queued), here.stuck,
      here.started, by have := here.calls; omega⟩
  apply Host.Outline.bind (outline_running scanned 2 (by omega))
  intro running
  cases running with
  | false =>
      apply Host.Outline.done
      · exact stable_of_advanced fun _ _ _ advanced _ here =>
          ⟨here.1.advanced advanced, (advanced index).closed here.2⟩
      · exact fun world _ here => rest (by omega) here.1
  | true =>
      apply Host.Outline.bind (outline_checkTime scanned)
      intro now
      apply Host.Outline.bind (outline_stuckTimeout scanned now)
      intro stuckTimeout
      split
      case isTrue exceeded =>
        apply Host.Outline.bind (outline_cancel state scanned)
        intro canceled
        cases canceled with
        | true =>
            apply Host.Outline.done ((Host.stable_const _).and (stable_at _ _ _))
            intro world _ ⟨impossible, _⟩
            cases impossible
        | false =>
            exact .done ((Host.stable_const _).and (stable_at _ _ _)) fun _ _ here => here.2
      case isFalse within =>
        exact .done (stable_at _ _ _) fun world _ here => rest (by omega) here

theorem outline_checkTask :
    TaskOutline count (At index 0 state) (checkTask index state) (At (index + 1) 0) := by
  apply Host.Outline.bind (outline_isDue scanned)
  intro due
  cases due with
  | true => exact outline_startTask scanned
  | false => exact outline_checkStuck scanned

end Check

/-! ### A scan -/

theorem outline_checkTasks (index length : Nat) (within : index + length ≤ count)
    (state : LoopState) :
    TaskOutline count (At index 0 state) (checkTasks (List.range' index length) state)
      (At (index + length) 0) := by
  induction length generalizing index state with
  | zero => exact .done (stable_at _ _ _) fun _ _ holds => holds
  | succ length ih =>
      apply Host.Outline.bind (outline_checkTask (by omega))
      intro checked
      have rest := ih (index + 1) (by omega) checked
      rwa [Nat.add_right_comm, Nat.add_assoc] at rest

structure Rested (calls : Nat) (state : LoopState) (world : TaskWorld × TaskNotes) : Prop where
  started : ∀ task, .pending ∉ world.1.pipelines task
  stuck : state.stucked = [] ↔ world.2.detected = false
  startTs : world.2.detected = false → state.startTs = world.2.startedAt
  calls : world.2.callsAfter ≤ calls

theorem stable_rested (calls : Nat) (state : LoopState) :
    TaskStable count (Rested calls state) :=
  stable_of_advanced fun _ _ _ advanced _ rested =>
    ⟨fun task queued => rested.started task ((advanced task).pending queued), rested.stuck,
      rested.startTs, rested.calls⟩

theorem outline_sleep (state : LoopState) :
    TaskOutline count (At count 0 state) (pose .sleep) fun _ => Rested (6 * count + 1) state := by
  apply outline_ask (stable_at _ _ _)
  · intro world world' notes proposed answer kept here prompt served
    cases served
    have calls : notes.counted.callsAfter ≤ 6 * count + 1 := counted_le here.calls
    have started : ∀ task, .pending ∉ world.pipelines task := by
      intro task queued
      have own : task < world.workers := by
        rw [kept.workers]
        exact here.queued task queued
      rcases prompt with busy | started
      · exact not_pending_of_busy kept.open_ busy own queued
      · exact started task own queued
    refine ⟨⟨kept.workers, kept.open_, kept.unneeded, kept.late, ?_, ?_⟩, started, here.stuck,
      here.started, calls⟩
    · change notes.counted.callsAfter ≤ 6 * count + 3
      omega
    · intro calm
      have same : notes.detected = false := calm
      change notes.counted.callsAfter = 0
      rw [counted_of_undetected same]
      exact kept.before same
  · exact fun _ => stable_rested _ _

def Scanning (state : LoopState) (world : TaskWorld × TaskNotes) : Prop :=
  At 0 0 state world ∧ world.2.detected = false

def Ended : LoopState ⊕ LoopEnd → TaskWorld × TaskNotes → Prop
  | .inl _, _ => False
  | .inr .finished, world => world.2.detected = true ∧ world.1.ts = some 0
  | .inr .valueError, world => world.2.detected = false

theorem stable_ended (result : LoopState ⊕ LoopEnd) : TaskStable count (Ended result) := by
  apply stable_of_advanced
  intro world moved notes _ same ended
  match result, ended with
  | .inr .finished, ⟨detected, zero⟩ => exact ⟨detected, same.trans zero⟩
  | .inr .valueError, calm => exact calm

abbrev Handed := Looping.HandedOn
  (Sum.getLeft? : LoopState ⊕ LoopEnd → Option LoopState) Scanning Ended

theorem TaskKept.rested {calls : Nat} {state : LoopState} {world : TaskWorld}
    {notes : TaskNotes} (kept : TaskKept count (world, notes))
    (rested : Rested calls state (world, notes)) (few : calls < 6 * count + 3) :
    TaskKept count (world, notes.counted) ∧ Rested (calls + 1) state (world, notes.counted) := by
  have bound : notes.counted.callsAfter ≤ calls + 1 := counted_le rested.calls
  refine ⟨⟨kept.workers, kept.open_, kept.unneeded, kept.late, ?_, ?_⟩, rested.started,
    rested.stuck, rested.startTs, bound⟩
  · change notes.counted.callsAfter ≤ 6 * count + 3
    omega
  · intro calm
    have same : notes.detected = false := calm
    rw [counted_of_undetected same]
    exact kept.before same

def Written (query : TaskQuery) (calls : Nat) (state : LoopState)
    (world : TaskWorld × TaskNotes) : Prop :=
  Rested calls state world ∧ ∀ value, query = .setTs value → world.1.ts = some value

theorem stable_written (query : TaskQuery) (calls : Nat) (state : LoopState) :
    TaskStable count (Written query calls state) :=
  (stable_rested calls state).and (stable_of_advanced fun _ _ _ _ same written value asked =>
    same.trans (written value asked))

theorem outline_after {query : TaskQuery} (calls : Nat) (state : LoopState)
    (few : calls < 6 * count + 3)
    (after : query = .shutdown ∨ query = .time ∨ ∃ value, query = .setTs value) :
    TaskOutline count (Rested calls state) (pose query) fun _ =>
      Written query (calls + 1) state := by
  apply outline_ask (stable_rested calls state)
  · intro world world' notes proposed answer kept rested _ served
    obtain ⟨kept, rested⟩ := kept.rested rested few
    rcases after with rfl | rfl | ⟨value, rfl⟩ <;> cases served
    · exact ⟨kept, rested, by rintro value ⟨⟩⟩
    · exact ⟨⟨kept.workers, kept.open_, kept.unneeded, kept.late, kept.after, kept.before⟩,
        ⟨rested.started, rested.stuck, rested.startTs, rested.calls⟩, by rintro value ⟨⟩⟩
    · refine ⟨⟨kept.workers, kept.open_, kept.unneeded, kept.late, kept.after, kept.before⟩,
        ⟨rested.started, rested.stuck, rested.startTs, rested.calls⟩, ?_⟩
      intro written same
      cases same
      rfl
  · exact fun answer => stable_written _ _ _

theorem outline_report (state : LoopState) :
    TaskOutline count (At count 0 state) (report state) Handed := by
  apply Host.Outline.bind (outline_sleep state)
  intro _
  have plain : ∀ {query : TaskQuery} {calls : Nat} world, TaskKept count world →
      Written query calls state world → Rested calls state world :=
    fun _ _ written => written.1
  split
  case isTrue stuck =>
    apply Host.Outline.bind (outline_after (6 * count + 1) state (by omega) (.inl rfl))
    intro _
    apply Host.Outline.bind ((outline_after (6 * count + 2) state (by omega)
      (.inr (.inr ⟨0, rfl⟩))).strengthen (stable_written _ _ _) plain)
    intro _
    apply Host.Outline.done (stable_written _ _ _)
    intro world _ ⟨rested, written⟩
    refine ⟨?_, written 0 rfl⟩
    rw [← Bool.not_eq_false]
    intro calm
    rw [rested.stuck.mpr calm] at stuck
    exact absurd stuck (Nat.lt_irrefl 0)
  case isFalse calm =>
    apply Host.Outline.bind (outline_after (6 * count + 1) state (by omega) (.inr (.inl rfl)))
    intro now
    apply Host.Outline.bind ((outline_after (6 * count + 2) state (by omega)
      (.inr (.inr ⟨now, rfl⟩))).strengthen (stable_written _ _ _) plain)
    intro _
    apply Host.Outline.done (stable_written _ _ _)
    intro world kept ⟨rested, _⟩
    have none : state.stucked = [] := List.length_eq_zero_iff.mp (by omega)
    have undetected := rested.stuck.mp none
    refine ⟨⟨?_, rested.stuck, rested.startTs, ?_⟩, undetected⟩
    · exact fun task queued => absurd queued (rested.started task)
    · rw [kept.before undetected]

theorem taskRounds : Looping.Rounds (watchedTasks count)
    (Sum.getLeft? : LoopState ⊕ LoopEnd → Option LoopState) promptWorkers (TaskKept count)
    Scanning Ended := by
  intro state
  have checked : TaskOutline count (At 0 0 state) (checkTasks (List.range count) state)
      (At count 0) := by
    have all := outline_checkTasks 0 count (Nat.zero_add count).le state
    rwa [← List.range_eq_range', Nat.zero_add] at all
  have scanned : TaskOutline count (At 0 0 state) (scan count state) Handed :=
    checked.bind outline_report
  apply scanned.strengthen
  · exact (stable_at 0 0 state).and (stable_of_advanced fun _ _ _ _ _ calm => calm)
  · exact fun _ _ scanning => scanning.1

/-! ### The loop -/

/-- What holds of the loop at any time; calls of it may always be answered. -/
structure TaskSafe (count : Nat) (config : Looping.Configuration taskInterface
    (TaskWorld × TaskNotes) (LoopState ⊕ LoopEnd)) : Prop where
  single : ∀ index, (config.world.1.pipelines index).count .running ≤ 1
  needed : config.world.2.unneeded = false
  noLate : config.world.2.late = false
  goesOn : (∃ result, config.position = .closed result) ∨
    (taskStep count config .next).isSome = true ∨
    ∀ proposed, (taskStep count config (.call proposed)).isSome = true
  ending : config.world.2.callsAfter ≤ 6 * count + 3
  ended : config.world.2.detected = true → ∀ result,
    config.position = .inside (.done result) → result = .inr .finished
  reported : config.world.2.detected = true → ∀ result, config.position = .closed result →
    result = .inr .finished ∧ config.world.1.ts = some 0

theorem goesOn_of_configuration (config : Looping.Configuration taskInterface
    (TaskWorld × TaskNotes) (LoopState ⊕ LoopEnd)) :
    (∃ result, config.position = .closed result) ∨
      (taskStep count config .next).isSome = true ∨
      ∀ proposed, (taskStep count config (.call proposed)).isSome = true := by
  obtain ⟨world, position⟩ := config
  cases position with
  | closed result => exact .inl ⟨result, rfl⟩
  | inside program =>
      cases program with
      | done result =>
          apply Or.inr ∘ Or.inl
          cases result <;> rfl
      | call query next =>
          apply Or.inr ∘ Or.inr
          intro proposed
          cases query <;> rfl

theorem taskSafe_of_proved (config : Looping.Configuration taskInterface
    (TaskWorld × TaskNotes) (LoopState ⊕ LoopEnd))
    (proved : Looping.Proved (watchedTasks count) Sum.getLeft? promptWorkers (TaskKept count)
      Scanning Ended config) : TaskSafe count config := by
  have goesOn := @goesOn_of_configuration count config
  obtain ⟨world, position⟩ := config
  obtain ⟨kept, at_⟩ := proved
  refine ⟨fun index => (kept.open_ index).count_running, kept.unneeded, kept.late, goesOn,
    kept.after, ?_, ?_⟩
  · intro detected result here
    cases here
    obtain ⟨before, holds, outline⟩ := at_
    cases outline with
    | done _ ends =>
        have handed := ends world kept holds
        match result, handed with
        | .inl state, scanning => exact absurd (detected.symm.trans scanning.2) (by decide)
        | .inr .finished, _ => rfl
        | .inr .valueError, calm => exact absurd (detected.symm.trans calm) (by decide)
  · intro detected result here
    cases here
    match result, at_ with
    | .inr .finished, ended => exact ⟨rfl, ended.2⟩
    | .inr .valueError, calm => exact absurd (detected.symm.trans calm) (by decide)

theorem move_taskKept {world moved : TaskWorld × TaskNotes} {move : TaskMove}
    (kept : TaskKept count world) (taken : (watchedTasks count).move world move = some moved) :
    TaskKept count moved := by
  obtain ⟨plain, same⟩ := watched_move taken
  obtain ⟨moved, notes⟩ := moved
  cases same
  exact ⟨(move_rest plain).1.trans kept.workers, fun task =>
    (advanced_of_move plain task).open_ (kept.open_ task), kept.unneeded, kept.late, kept.after,
    kept.before⟩

theorem executeTasks_safe (count : Nat) (clock : Int)
    (labels : List (Looping.Label taskInterface TaskMove))
    (steps : Transition.EachStep (taskStep count) (Looping.Meets promptWorkers)
      (executeTasks count clock) labels) :
    Transition.Always (taskStep count) (TaskSafe count) (executeTasks count clock) labels := by
  apply Looping.always_of_rounds (fun kept _ taken => move_taskKept kept taken) taskRounds
    stable_ended taskSafe_of_proved _ steps
  have kept : TaskKept count (executeTasks count clock).world :=
    ⟨rfl, by simp [executeTasks, OneOpen], rfl, rfl, Nat.zero_le _, fun _ => rfl⟩
  refine ⟨kept, ?_⟩
  by_cases none : count = 0
  · simp only [executeTasks, if_pos none]
    rfl
  · simp only [executeTasks, if_neg none]
    refine ⟨Scanning {}, ⟨⟨?_, ?_, ?_, Nat.zero_le _⟩, rfl⟩, taskRounds {}⟩
    · intro task queued
      cases queued
    · simp
    · intro _
      rfl

instance decidablePrompt : (query : TaskQuery) → (answer : query.Answer) →
    (world : TaskWorld × TaskNotes) → Decidable (promptWorkers.call query answer world)
  | .sleep, _, world => inferInstanceAs (Decidable (world.1.workers ≤ world.1.runningCount ∨
      ∀ index < world.1.workers, .pending ∉ world.1.pipelines index))
  | .running _, _, _ | .needed _, _, _ | .time, _, _ | .submit _, _, _ | .stuckTimeout _, _, _
  | .cancel _, _, _ | .shutdown, _, _ | .setTs _, _, _ => isTrue trivial

instance decidablePromptWorkers (config : Looping.Configuration taskInterface
    (TaskWorld × TaskNotes) (LoopState ⊕ LoopEnd))
    (label : Looping.Label taskInterface TaskMove) :
    Decidable (Looping.Meets promptWorkers config label) :=
  have (world : TaskWorld × TaskNotes) (move : TaskMove) :
      Decidable (promptWorkers.move world move) := isTrue trivial
  have (query : TaskQuery) (answer : query.Answer) (world : TaskWorld × TaskNotes) :
      Decidable (promptWorkers.call query answer world) := decidablePrompt query answer world
  inferInstance

def hourlyAnswers : (query : TaskQuery) → query.Answer
  | .needed _ => true
  | .running _ | .cancel _ => false
  | .time => 0
  | .stuckTimeout _ => 3600
  | .submit _ | .sleep | .shutdown | .setTs _ => ()

/-- The pipeline of the first task is still running after two hours; the second task, whose
pipeline has returned, is checked after that. -/
def stuckRun : List (Looping.Label taskInterface TaskMove) :=
  List.replicate 8 (.call hourlyAnswers) ++ [.move (.begin 0 0), .move (.begin 1 0)] ++
  List.replicate 3 (.call hourlyAnswers) ++
  [.next, .move (.finish 1 0), .move (.tick 7200)] ++
  List.replicate 11 (.call hourlyAnswers) ++ [.next]

theorem stuckRun_safe :
    Transition.Always (taskStep 2) (TaskSafe 2) (executeTasks 2 0) stuckRun ∧
    (Transition.play (taskStep 2) (executeTasks 2 0) stuckRun).map (fun config =>
      (config.world.2.detected, config.world.2.callsAfter, config.world.1.ts,
        config.world.1.pipelines 1)) = some (true, 7, some 0, [.finished]) :=
  ⟨executeTasks_safe 2 0 stuckRun (by decide +kernel), by decide +kernel⟩

end SkaleAdmin.Monitor.Tasks
