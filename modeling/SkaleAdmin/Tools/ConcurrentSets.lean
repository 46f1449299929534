import SkaleAdmin.Tools.ObservedSets

/-! Processes that set and get fields of one JSON file at the same time. -/

namespace SkaleAdmin.Tools

open Interaction PyText
open Interaction.Procedure (Sketch attempt invoke raise sketch_pure sketch_raise
  sketch_bind sketch_attempt sketch_invoke)
open Interaction.Host (stable_const stable_true)
open SkaleAdmin.Config (Document)

/-! ### What holds in every interleaving -/

section Sound

variable {T : Type} (operation : T → Operation) (base : Document) (flawless : Prop)

/-- Where `flawless`, no process is killed and no call fails. -/
def careful : Crew.Discipline fileInterface (Storage T × Notes T) (Kill T) T where
  move _ _ := ¬ flawless
  call _ _ proposed _ := flawless → ∃ reply, proposed = .ok reply

/-- The file holds the document of its history, or a document that was never
finished. -/
inductive Settled (shelf : Shelf T) : Prop
  | whole (text : shelf.text = some (documentAfter operation base shelf.history).text)
  | torn {text : Text} (flawed : ¬ flawless) (found : shelf.text = some text)
      (unreadable : Json.loads text = none)

/-- What a worker still has to write of the document that it makes. -/
def Unwritten (worker : T) (missing : Text) (shelf : Shelf T) : Prop :=
  ∃ written, shelf.text = some written ∧
    (documentAfter operation base (shelf.history ++ [worker])).text = written ++ missing

/-- The worker that has got the lock last has not set its field yet. -/
structure Turn (worker : T) (shelf : Shelf T) : Prop where
  listed : (shelf.history ++ [worker]).Sublist shelf.taken
  last : flawless → shelf.taken = shelf.history ++ [worker]

/-- `missing` is what is left of the document of a worker that has the lock. -/
def Writing (worker : T) : Text → Shelf T → Prop
  | [], shelf =>
      worker ∈ shelf.history ∧
        shelf.text = some (documentAfter operation base shelf.history).text ∧
        (flawless → shelf.taken = shelf.history)
  | missing, shelf =>
      Turn flawless worker shelf ∧ Unwritten operation base worker missing shelf

structure Sound (world : Storage T × Notes T) : Prop where
  obeyed : world.2.trespass = false
  present : ∀ worker, world.1.holder = some worker → world.1.killed worker = false
  unharmed : flawless → ∀ worker, world.1.killed worker = false
  content : Settled operation base flawless (shelf world) ∨
    ∃ worker missing, world.1.holder = some worker ∧ missing ≠ [] ∧
      Unwritten operation base worker missing (shelf world)
  ordered : world.2.history.Sublist world.2.taken
  complete : flawless → world.1.holder = none → world.2.taken = world.2.history
  sets : ∀ worker ∈ world.2.history, ∃ fieldName fieldValue,
    operation worker = .set fieldName fieldValue

variable {operation base flawless} {worker : T} {missing : Text}
  {world world' : Storage T × Notes T}

theorem unreadable_of_unwritten {shelf : Shelf T}
    (unwritten : Unwritten operation base worker missing shelf) (left : missing ≠ []) :
    ∃ text, shelf.text = some text ∧ Json.loads text = none := by
  obtain ⟨written, found, whole⟩ := unwritten
  exact ⟨written, found, Json.loads_cut (Document.wellFormed _) whole left⟩

theorem settled_of_unwritten {shelf : Shelf T} (flawed : ¬ flawless)
    (unwritten : Unwritten operation base worker missing shelf) (left : missing ≠ []) :
    Settled operation base flawless shelf := by
  obtain ⟨text, found, unreadable⟩ := unreadable_of_unwritten unwritten left
  exact .torn flawed found unreadable

theorem Sound.readable (sound : Sound operation base flawless world) {text : Text}
    (found : world.1.text = some text) :
    text = (documentAfter operation base world.2.history).text ∨
      Json.loads text = none := by
  rcases sound.content with (settled | ⟨_, other, unreadable⟩) |
    ⟨_, missing, _, left, unwritten⟩
  · exact .inl (Option.some.inj (found.symm.trans settled))
  · exact .inr (Option.some.inj (found.symm.trans other) ▸ unreadable)
  · obtain ⟨_, other, unreadable⟩ := unreadable_of_unwritten unwritten left
    exact .inr (Option.some.inj (found.symm.trans other) ▸ unreadable)

theorem Sound.exists_text (sound : Sound operation base flawless world) :
    ∃ text, world.1.text = some text := by
  rcases sound.content with (settled | ⟨_, found, _⟩) | ⟨_, _, _, _, written, found, _⟩
  · exact ⟨_, settled⟩
  · exact ⟨_, found⟩
  · exact ⟨_, found⟩

theorem Sound.known {assertion : Shelf T → Prop}
    (sound : Sound operation base flawless world)
    (held : fileLock.Held worker assertion world)
    (alive : world.1.killed worker = false) :
    world.1.holder = some worker ∧ assertion (shelf world) := by
  apply held.known
  · change ¬ world.2.trespass = true
    rw [sound.obeyed]
    exact Bool.false_ne_true
  · change ¬ world.1.killed worker = true
    rw [alive]
    exact Bool.false_ne_true

theorem Sound.settled_of_free (sound : Sound operation base flawless world)
    (free : world.1.holder = none) :
    Settled operation base flawless (shelf world) := by
  rcases sound.content with settled | ⟨_, _, held, _⟩
  · exact settled
  · rw [free] at held
    cases held

variable [DecidableEq T]

theorem Sound.kill (sound : Sound operation base flawless world) (flawed : ¬ flawless)
    (killed : T) :
    Sound operation base flawless ({ world.1.letGo killed with
      killed := Function.update world.1.killed killed true }, world.2) := by
  have settled : Settled operation base flawless (shelf world) ∨
      ∃ worker missing, worker ≠ killed ∧ world.1.holder = some worker ∧ missing ≠ [] ∧
        Unwritten operation base worker missing (shelf world) := by
    rcases sound.content with settled | ⟨worker, missing, held, left, unwritten⟩
    · exact .inl settled
    · by_cases same : worker = killed
      · exact .inl (settled_of_unwritten flawed unwritten left)
      · exact .inr ⟨worker, missing, same, held, left, unwritten⟩
  have spared : ∀ worker, (world.1.letGo killed).holder = some worker →
      worker ≠ killed ∧ world.1.holder = some worker := by
    intro worker held
    unfold Storage.letGo at held
    dsimp only at held
    split at held
    · cases held
    · rename_i other
      refine ⟨?_, held⟩
      rintro rfl
      exact other held
  constructor
  case obeyed => exact sound.obeyed
  case present =>
    intro worker held
    obtain ⟨different, before⟩ := spared worker held
    exact (Function.update_of_ne different ..).trans (sound.present worker before)
  case unharmed => exact fun perfect => absurd perfect flawed
  case content =>
    rcases settled with settled | ⟨worker, missing, different, held, left, unwritten⟩
    · exact .inl settled
    · refine .inr ⟨worker, missing, ?_, left, unwritten⟩
      simp [Storage.letGo, held, different]
  case ordered => exact sound.ordered
  case complete => exact fun perfect => absurd perfect flawed
  case sets => exact sound.sets

theorem Sound.moved {move : Kill T} (sound : Sound operation base flawless world)
    (flawed : ¬ flawless)
    (taken : (observed operation base).move world move = some world') :
    Sound operation base flawless world' := by
  obtain ⟨moved, noted⟩ := Crew.watch_move.mp taken
  obtain ⟨storage', notes'⟩ := world'
  cases noted
  cases move with
  | kill killed =>
      obtain rfl := Option.some.inj moved
      exact sound.kill flawed killed

/-! ### One call after the other -/

abbrev Sketches {α : Type} (operation : T → Operation) (base : Document)
    (flawless : Prop) (worker : T) (before : Storage T × Notes T → Prop) (body : JsonM α)
    (value : α → Storage T × Notes T → Prop)
    (raised : JsonError → Storage T × Notes T → Prop) : Prop :=
  Sketch ((observed operation base).host worker)
    (Crew.rely (careful flawless) (fun _ _ => True) worker)
    (Sound operation base flawless) before body value raised

def Ready (operation : T → Operation) (base : Document) (flawless : Prop) (worker : T)
    (shelf : Shelf T) : Prop :=
  Turn flawless worker shelf ∧ Settled operation base flawless shelf

def Failed (operation : T → Operation) (base : Document) (flawless : Prop)
    (shelf : Shelf T) : Prop :=
  Settled operation base flawless shelf ∧ ¬ flawless

theorem stable_fileHeld (worker : T) (assertion : Shelf T → Prop) :
    ((observed operation base).host worker).Stable
      (Crew.rely (careful flawless) (fun _ _ => True) worker)
      (Sound operation base flawless) (fileLock.Held worker assertion) :=
  Crew.Lock.stable_held guards worker assertion

theorem not_flawless_of_failed {query : FileQuery}
    {proposed : Except JsonError query.Reply}
    (allowed : flawless → ∃ reply, proposed = .ok reply)
    (failed : ∃ error, proposed = .error error) : ¬ flawless := by
  intro perfect
  obtain ⟨reply, fine⟩ := allowed perfect
  obtain ⟨error, failed⟩ := failed
  rw [failed] at fine
  cases fine

theorem acquire_sketches :
    Sketches operation base flawless worker (fun _ => True) (call .acquire)
      (fun _ => fileLock.Held worker (Ready operation base flawless worker))
      (fun _ _ => ¬ flawless) := by
  refine sketch_invoke stable_true ?_ ?_ ?_
  · intro world world' proposed answer sound _ allowed taken
    obtain ⟨alive, ⟨failed, rfl, rfl⟩ | ⟨rfl, free, rfl⟩⟩ := served_acquire taken
    · exact ⟨sound, not_flawless_of_failed allowed failed⟩
    · have settled := sound.settled_of_free free
      refine ⟨?_, .inr (.inr ⟨rfl, ⟨?_, ?_⟩, ?_⟩)⟩
      · constructor
        case obeyed => exact sound.obeyed
        case present =>
          rintro other ⟨⟩
          exact alive
        case unharmed => exact sound.unharmed
        case content =>
          cases settled with
          | whole text => exact .inl (.whole text)
          | torn flawed found unreadable => exact .inl (.torn flawed found unreadable)
        case ordered => exact sound.ordered.trans (List.sublist_append_left ..)
        case complete =>
          rintro _ ⟨⟩
        case sets => exact sound.sets
      · exact sound.ordered.append (List.Sublist.refl _)
      · intro perfect
        change world.2.taken ++ [worker] = world.2.history ++ [worker]
        rw [sound.complete perfect free]
      · cases settled with
        | whole text => exact .whole text
        | torn flawed found unreadable => exact .torn flawed found unreadable
  · intro reply
    exact stable_fileHeld worker _
  · intro error
    exact stable_const _

theorem Sound.see (sound : Sound operation base flawless world) (worker : T) :
    Sound operation base flawless (world.1, { world.2 with
      seen := Function.update world.2.seen worker world.2.history }) :=
  ⟨sound.obeyed, sound.present, sound.unharmed, sound.content, sound.ordered,
    sound.complete, sound.sets⟩

theorem readText_sketches :
    Sketches operation base flawless worker
      (fileLock.Held worker (Ready operation base flawless worker)) (call .readText)
      (fun text => fileLock.Held worker fun shelf =>
        Ready operation base flawless worker shelf ∧ shelf.text = some text)
      (fun _ => fileLock.Held worker (Failed operation base flawless)) := by
  refine sketch_invoke (stable_fileHeld worker _) ?_ ?_ ?_
  · intro world world' proposed answer sound held allowed taken
    obtain ⟨alive, ⟨failed, rfl, rfl⟩ | ⟨missing, rfl, rfl⟩ | ⟨text, found, rfl, rfl⟩⟩ :=
      served_readText taken
    · exact ⟨sound, held.mono fun ready =>
        ⟨ready.2, not_flawless_of_failed allowed failed⟩⟩
    · obtain ⟨text, found⟩ := sound.exists_text
      rw [missing] at found
      cases found
    · obtain ⟨holds, ready⟩ := sound.known held alive
      exact ⟨sound.see worker, .inr (.inr ⟨holds, ready, found⟩)⟩
  · intro text
    exact stable_fileHeld worker _
  · intro error
    exact stable_fileHeld worker _

theorem readJson_sketches :
    Sketches operation base flawless worker
      (fileLock.Held worker (Ready operation base flawless worker)) readJson
      (fun config => fileLock.Held worker fun shelf =>
        Ready operation base flawless worker shelf ∧
          config = .obj (documentAfter operation base shelf.history).fields)
      (fun _ => fileLock.Held worker (Failed operation base flawless)) := by
  refine sketch_bind readText_sketches ?_ fun error => stable_fileHeld worker _
  intro text
  cases read : Json.loads text with
  | none =>
      refine sketch_raise (stable_fileHeld worker _) ?_
      intro world _ held
      refine held.mono ?_
      rintro ⟨⟨turn, settled⟩, found⟩
      refine ⟨settled, ?_⟩
      cases settled with
      | whole text =>
          obtain rfl := Option.some.inj (found.symm.trans text)
          rw [loads_document] at read
          cases read
      | torn flawed _ _ => exact flawed
  | some config =>
      refine sketch_pure (stable_fileHeld worker _) ?_
      intro world _ held
      refine held.mono ?_
      rintro ⟨⟨turn, settled⟩, found⟩
      refine ⟨⟨turn, settled⟩, ?_⟩
      cases settled with
      | whole text =>
          obtain rfl := Option.some.inj (found.symm.trans text)
          rw [loads_document] at read
          exact (Option.some.inj read).symm
      | torn _ other unreadable =>
          obtain rfl := Option.some.inj (found.symm.trans other)
          rw [read] at unreadable
          cases unreadable

theorem openWrite_sketches {text : Text} (left : text ≠ []) :
    Sketches operation base flawless worker
      (fileLock.Held worker fun shelf => Ready operation base flawless worker shelf ∧
        text = (documentAfter operation base (shelf.history ++ [worker])).text)
      (call .openWrite)
      (fun _ => fileLock.Held worker (Writing operation base flawless worker text))
      (fun _ => fileLock.Held worker (Failed operation base flawless)) := by
  refine sketch_invoke (stable_fileHeld worker _) ?_ ?_ ?_
  · intro world world' proposed answer sound held allowed taken
    obtain ⟨alive, ⟨failed, rfl, rfl⟩ | ⟨rfl, rfl⟩⟩ := served_openWrite taken
    · exact ⟨sound, held.mono fun ready =>
        ⟨ready.1.2, not_flawless_of_failed allowed failed⟩⟩
    · obtain ⟨holds, ⟨turn, _⟩, same⟩ := sound.known held alive
      change world.1.holder = some worker at holds
      have unwritten : Unwritten operation base worker text
          { shelf world with text := some [] } := ⟨[], rfl, same.symm⟩
      refine ⟨?_, .inr (.inr ⟨holds, ?_⟩)⟩
      · constructor
        case obeyed => simp [sound.obeyed, holds]
        case present => exact sound.present
        case unharmed => exact sound.unharmed
        case content => exact .inr ⟨worker, text, holds, left, unwritten⟩
        case ordered => exact sound.ordered
        case complete => exact sound.complete
        case sets => exact sound.sets
      · cases text with
        | nil => exact absurd rfl left
        | cons symbol symbols => exact ⟨⟨turn.listed, turn.last⟩, unwritten⟩
  · intro reply
    exact stable_fileHeld worker _
  · intro error
    exact stable_fileHeld worker _

/-- The last character puts the worker into the history. -/
theorem append_sketches {fieldName : Text} {fieldValue : Storable}
    (sets : operation worker = .set fieldName fieldValue) {symbol : Char}
    {symbols : Text} :
    Sketches operation base flawless worker
      (fileLock.Held worker (Writing operation base flawless worker (symbol :: symbols)))
      (call (.append symbol))
      (fun _ => fileLock.Held worker (Writing operation base flawless worker symbols))
      (fun _ => fileLock.Held worker (Failed operation base flawless)) := by
  refine sketch_invoke (stable_fileHeld worker _) ?_ ?_ ?_
  · intro world world' proposed answer sound held allowed taken
    obtain ⟨alive, ⟨failed, rfl, rfl⟩ | ⟨rfl, rfl⟩⟩ := served_append taken
    · have flawed := not_flawless_of_failed allowed failed
      refine ⟨sound, held.mono ?_⟩
      rintro ⟨_, unwritten⟩
      exact ⟨settled_of_unwritten flawed unwritten (List.cons_ne_nil _ _), flawed⟩
    · obtain ⟨holds, turn, written, found, whole⟩ := sound.known held alive
      change world.1.holder = some worker at holds
      change world.1.text = some written at found
      change (documentAfter operation base (world.2.history ++ [worker])).text = _ at whole
      rw [found, Option.getD_some]
      cases symbols with
      | nil =>
          rw [if_pos whole.symm]
          have done : Writing operation base flawless worker []
              ⟨some (written ++ [symbol]), world.2.history ++ [worker], world.2.taken⟩ :=
            ⟨by simp, by rw [whole], turn.last⟩
          refine ⟨?_, .inr (.inr ⟨holds, done⟩)⟩
          constructor
          case obeyed => simp [sound.obeyed, holds]
          case present => exact sound.present
          case unharmed => exact sound.unharmed
          case content => exact .inl (.whole done.2.1)
          case ordered => exact turn.listed
          case complete =>
            intro _ free
            rw [holds] at free
            cases free
          case sets =>
            intro other member
            rcases List.mem_append.mp member with earlier | last
            · exact sound.sets other earlier
            · obtain rfl := List.mem_singleton.mp last
              exact ⟨_, _, sets⟩
      | cons next symbols =>
          have short : written ++ [symbol] ≠
              (documentAfter operation base (world.2.history ++ [worker])).text := by
            rw [whole]
            simp
          rw [if_neg short]
          have unwritten : Unwritten operation base worker (next :: symbols)
              ⟨some (written ++ [symbol]), world.2.history, world.2.taken⟩ :=
            ⟨_, rfl, by rw [whole]; simp⟩
          refine ⟨?_, .inr (.inr ⟨holds, ⟨turn.listed, turn.last⟩, unwritten⟩)⟩
          constructor
          case obeyed => simp [sound.obeyed, holds]
          case present => exact sound.present
          case unharmed => exact sound.unharmed
          case content =>
            exact .inr ⟨worker, _, holds, List.cons_ne_nil _ _, unwritten⟩
          case ordered => exact sound.ordered
          case complete => exact sound.complete
          case sets => exact sound.sets
  · intro reply
    exact stable_fileHeld worker _
  · intro error
    exact stable_fileHeld worker _

theorem writeText_sketches {fieldName : Text} {fieldValue : Storable}
    (sets : operation worker = .set fieldName fieldValue) (text : Text) :
    Sketches operation base flawless worker
      (fileLock.Held worker (Writing operation base flawless worker text))
      (writeText text)
      (fun _ => fileLock.Held worker (Writing operation base flawless worker []))
      (fun _ => fileLock.Held worker (Failed operation base flawless)) := by
  induction text with
  | nil => exact sketch_pure (stable_fileHeld worker _) fun _ _ held => held
  | cons symbol symbols ih =>
      exact sketch_bind (append_sketches sets) (fun _ => ih) fun _ =>
        stable_fileHeld worker _

theorem release_sketches {assertion : Shelf T → Prop}
    {after : Storage T × Notes T → Prop} {raised : JsonError → Storage T × Notes T → Prop}
    (settles : ∀ shelf, assertion shelf → Settled operation base flawless shelf ∧
      (flawless → shelf.taken = shelf.history))
    (leaves : ∀ world, assertion (shelf world) → after (world.1.letGo worker, world.2))
    (stable : ((observed operation base).host worker).Stable
      (Crew.rely (careful flawless) (fun _ _ => True) worker)
      (Sound operation base flawless) after)
    (raisedStable : ∀ error, ((observed operation base).host worker).Stable
      (Crew.rely (careful flawless) (fun _ _ => True) worker)
      (Sound operation base flawless) (raised error)) :
    Sketches operation base flawless worker (fileLock.Held worker assertion)
      (call .release) (fun _ => after) raised := by
  refine sketch_invoke (stable_fileHeld worker _) ?_ (fun _ => stable) raisedStable
  intro world world' proposed answer sound held _ taken
  obtain ⟨alive, rfl, rfl⟩ := served_release taken
  obtain ⟨holds, known⟩ := sound.known held alive
  change world.1.holder = some worker at holds
  obtain ⟨settled, exactly⟩ := settles _ known
  have free : (world.1.letGo worker).holder = none := by
    simp [Storage.letGo, holds]
  refine ⟨?_, leaves world known⟩
  constructor
  case obeyed => exact sound.obeyed
  case present =>
    intro other held
    rw [free] at held
    cases held
  case unharmed => exact sound.unharmed
  case content => exact .inl settled
  case ordered => exact sound.ordered
  case complete => exact fun perfect _ => exactly perfect
  case sets => exact sound.sets

/-! ### Whole operations -/

theorem stable_recorded (worker other : T) :
    ((observed operation base).host worker).Stable
      (Crew.rely (careful flawless) (fun _ _ => True) worker)
      (Sound operation base flawless) fun world => other ∈ world.2.history := by
  apply Crew.stable_of_kept
  · intro world world' move recorded taken
    rw [(Crew.watch_move.mp taken).2]
    exact recorded
  · intro _ query proposed answer world world' _ recorded taken
    exact (history_served taken).subset recorded

theorem stable_seen (worker : T) (assertion : List T → Prop) :
    ((observed operation base).host worker).Stable
      (Crew.rely (careful flawless) (fun _ _ => True) worker)
      (Sound operation base flawless) fun world =>
        world.2.seen worker <+: world.2.history ∧ assertion (world.2.seen worker) := by
  apply Crew.stable_of_kept
  · intro world world' move holds taken
    rw [(Crew.watch_move.mp taken).2]
    exact holds
  · intro other query proposed answer world world' different holds taken
    rw [seen_served different taken]
    exact ⟨holds.1.trans (history_served taken), holds.2⟩

theorem exists_of_setField {config changed : Json.Value} {fieldName : Text}
    {fieldValue : Json.Value} (changes : setField config fieldName fieldValue = .ok changed) :
    ∃ fields, config = .obj fields := by
  unfold setField at changes
  split at changes
  · exact ⟨_, rfl⟩
  · cases changes

theorem change_sketches {fieldName : Text} {fieldValue : Storable}
    (sets : operation worker = .set fieldName fieldValue) :
    Sketches operation base flawless worker
      (fileLock.Held worker (Ready operation base flawless worker))
      (do
        let config ← readJson
        let changed ← liftExcept (setField config fieldName fieldValue)
        writeJson changed)
      (fun _ => fileLock.Held worker (Writing operation base flawless worker []))
      (fun _ => fileLock.Held worker (Failed operation base flawless)) := by
  refine sketch_bind readJson_sketches ?_ fun error => stable_fileHeld worker _
  intro config
  cases changes : setField config fieldName fieldValue with
  | error error =>
      refine sketch_raise (stable_fileHeld worker _) ?_
      intro world _ held
      refine held.mono ?_
      rintro ⟨_, rfl⟩
      cases changes
  | ok changed =>
      obtain ⟨fields, rfl⟩ := exists_of_setField changes
      obtain rfl := Except.ok.inj changes
      have left : Json.dumps (.obj (Json.assign fieldName fieldValue.1 fields)) ≠ [] := by
        obtain ⟨tail, opened⟩ := Json.dumps_obj_cons (Json.assign fieldName fieldValue.1 fields)
        rw [opened]
        exact List.cons_ne_nil _ _
      have writes : Sketches operation base flawless worker
          (fileLock.Held worker fun shelf => Ready operation base flawless worker shelf ∧
            Json.dumps (.obj (Json.assign fieldName fieldValue.1 fields)) =
              (documentAfter operation base (shelf.history ++ [worker])).text)
          (writeJson (.obj (Json.assign fieldName fieldValue.1 fields)))
          (fun _ => fileLock.Held worker (Writing operation base flawless worker []))
          (fun _ => fileLock.Held worker (Failed operation base flawless)) :=
        sketch_bind (openWrite_sketches left) (fun _ => writeText_sketches sets _)
          fun error => stable_fileHeld worker _
      refine Sketch.strengthen writes (stable_fileHeld worker _) ?_
      intro world _ held
      refine held.mono ?_
      rintro ⟨ready, same⟩
      refine ⟨ready, ?_⟩
      rw [documentAfter_append, sets]
      cases same
      rfl

theorem giveUp_sketches {error : JsonError} :
    Sketches operation base flawless worker
      (fileLock.Held worker (Failed operation base flawless))
      (do
        call .release
        raise error : JsonM Unit)
      (fun _ => fileLock.Held worker (Writing operation base flawless worker []))
      (fun _ _ => ¬ flawless) := by
  have lets : Sketches operation base flawless worker
      (fileLock.Held worker (Failed operation base flawless)) (call .release)
      (fun _ _ => ¬ flawless) (fun _ _ => ¬ flawless) :=
    release_sketches (fun _ failed => ⟨failed.1, fun perfect => absurd perfect failed.2⟩)
      (fun _ failed => failed.2) (stable_const _)
      fun _ => stable_const _
  exact sketch_bind lets
    (fun _ => sketch_raise (stable_const _) fun _ _ flawed => flawed)
    fun _ => stable_const _

theorem finish_sketches :
    Sketches operation base flawless worker
      (fileLock.Held worker (Writing operation base flawless worker []))
      (do
        call .release
        pure ())
      (fun _ world => worker ∈ world.2.history) (fun _ _ => ¬ flawless) := by
  have lets : Sketches operation base flawless worker
      (fileLock.Held worker (Writing operation base flawless worker [])) (call .release)
      (fun _ world => worker ∈ world.2.history) (fun _ _ => ¬ flawless) :=
    release_sketches (fun _ done => ⟨.whole done.2.1, done.2.2⟩) (fun _ done => done.1)
      (stable_recorded worker worker) fun _ => stable_const _
  exact sketch_bind lets
    (fun _ => sketch_pure (stable_recorded worker worker) fun _ _ recorded => recorded)
    fun _ => stable_const _

theorem set_sketches {fieldName : Text} {fieldValue : Storable}
    (sets : operation worker = .set fieldName fieldValue) :
    Sketches operation base flawless worker (fun _ => True)
      (JsonObject.set fieldName fieldValue)
      (fun _ world => worker ∈ world.2.history) (fun _ _ => ¬ flawless) := by
  refine sketch_bind acquire_sketches (fun _ => ?_) fun _ => stable_const _
  refine sketch_bind ?_ (fun _ => finish_sketches) fun _ => stable_const _
  refine sketch_attempt _ (change_sketches sets) ?_ ?_ (fun _ => stable_fileHeld worker _)
    fun _ => stable_fileHeld worker _
  · rintro error clause ⟨⟩
    exact giveUp_sketches
  · rintro error ⟨⟩

/-- A worker that reads without the lock finds the document of the history or one
that is not finished. -/
theorem look_sketches :
    Sketches operation base flawless worker (fun _ => True) readJson
      (fun config world => world.2.seen worker <+: world.2.history ∧
        config = .obj (documentAfter operation base (world.2.seen worker)).fields)
      (fun error _ => flawless → error = .jsonDecodeError) := by
  have reads : Sketches operation base flawless worker (fun _ => True) (call .readText)
      (fun text world => world.2.seen worker <+: world.2.history ∧
        (text = (documentAfter operation base (world.2.seen worker)).text ∨
          Json.loads text = none))
      (fun error _ => flawless → error = .jsonDecodeError) := by
    refine sketch_invoke stable_true ?_ ?_ fun _ =>
      stable_const _
    · intro world world' proposed answer sound _ allowed taken
      obtain ⟨_, ⟨failed, rfl, rfl⟩ | ⟨missing, rfl, rfl⟩ | ⟨text, found, rfl, rfl⟩⟩ :=
        served_readText taken
      · exact ⟨sound, fun perfect =>
          absurd perfect (not_flawless_of_failed allowed failed)⟩
      · obtain ⟨text, found⟩ := sound.exists_text
        rw [missing] at found
        cases found
      · refine ⟨sound.see worker, ?_⟩
        simp only [Function.update_self]
        exact ⟨List.prefix_rfl, sound.readable found⟩
    · intro text
      exact stable_seen worker fun seen =>
        text = (documentAfter operation base seen).text ∨ Json.loads text = none
  refine sketch_bind reads ?_ fun _ => stable_const _
  intro text
  cases read : Json.loads text with
  | none =>
      refine sketch_raise (stable_seen worker fun seen =>
        text = (documentAfter operation base seen).text ∨ none = none) ?_
      exact fun _ _ _ _ => rfl
  | some config =>
      refine sketch_pure (stable_seen worker fun seen =>
        text = (documentAfter operation base seen).text ∨ some config = none) ?_
      rintro world _ ⟨seen, rfl | unreadable⟩
      · rw [loads_document] at read
        exact ⟨seen, (Option.some.inj read).symm⟩
      · cases unreadable

theorem get_sketches (fieldName : Text) (view : Json.Value → Json.Value) :
    Sketches operation base flawless worker (fun _ => True)
      (do
        let value ← JsonObject.get fieldName
        pure (view value))
      (fun value world => world.2.seen worker <+: world.2.history ∧
        value = view (fieldAfter operation base fieldName (world.2.seen worker)))
      (fun error _ => flawless → error = .jsonDecodeError) := by
  have gets : Sketches operation base flawless worker (fun _ => True)
      (JsonObject.get fieldName)
      (fun value world => world.2.seen worker <+: world.2.history ∧
        value = fieldAfter operation base fieldName (world.2.seen worker))
      (fun error _ => flawless → error = .jsonDecodeError) := by
    refine sketch_bind look_sketches ?_ fun _ => stable_const _
    intro config
    cases found : getField config fieldName with
    | error error =>
        refine sketch_raise (stable_seen worker fun seen =>
          config = .obj (documentAfter operation base seen).fields) ?_
        rintro world _ ⟨_, rfl⟩
        cases found
    | ok value =>
        refine sketch_pure (stable_seen worker fun seen =>
          config = .obj (documentAfter operation base seen).fields) ?_
        rintro world _ ⟨seen, rfl⟩
        refine ⟨seen, ?_⟩
        rw [← Except.ok.inj found, lookup_documentAfter]
        rfl
  refine sketch_bind gets (fun value => ?_) fun _ => stable_const _
  refine sketch_pure (stable_seen worker fun seen =>
    value = fieldAfter operation base fieldName seen) ?_
  rintro world _ ⟨seen, rfl⟩
  exact ⟨seen, rfl⟩

theorem init_sketches :
    Sketches operation base flawless worker (fun _ => True) JsonObject.init
      (fun _ _ => True) (fun _ _ => False) := by
  have checks : Sketches operation base flawless worker (fun _ => True)
      (call .pathExists) (fun found _ => found = true) (fun _ _ => False) := by
    refine sketch_invoke stable_true ?_ (fun _ =>
      stable_const _) fun _ => stable_const _
    intro world world' proposed answer sound _ _ taken
    obtain ⟨_, rfl, rfl⟩ := served_pathExists taken
    obtain ⟨text, found⟩ := sound.exists_text
    exact ⟨sound, by rw [found]; rfl⟩
  refine sketch_bind checks (fun found => ?_) fun _ => stable_const _
  cases found with
  | true => exact sketch_pure (stable_const _) fun _ _ _ => trivial
  | false =>
      apply Host.Outline.of_unsatisfiable
      rintro world ⟨⟩

/-! ### All interleavings -/

def Done (operation : T → Operation) (base : Document) (flawless : Prop) (worker : T)
    (ended : Outcome JsonError Json.Value × Unit) (world : Storage T × Notes T) : Prop :=
  match operation worker, ended.1 with
  | .get fieldName view, .value value =>
      world.2.seen worker <+: world.2.history ∧
        value = view (fieldAfter operation base fieldName (world.2.seen worker))
  | .all, .value value =>
      world.2.seen worker <+: world.2.history ∧
        value = .obj (documentAfter operation base (world.2.seen worker)).fields
  | .get .., .raised error | .all, .raised error => flawless → error = .jsonDecodeError
  | .set .., .value _ => worker ∈ world.2.history
  | .set .., .raised _ => ¬ flawless
  | .init, .raised _ => False
  | _, _ => True

theorem run_outline (worker : T) :
    ((observed operation base).host worker).Outline
      (Crew.rely (careful flawless) (fun _ _ => True) worker)
      (Sound operation base flawless) (fun _ => True) ((operation worker).run ())
      (Done operation base flawless worker) := by
  cases kind : operation worker with
  | init =>
      have inits : Sketches operation base flawless worker (fun _ => True)
          (Operation.init.run) (fun _ _ => True) (fun _ _ => False) :=
        sketch_bind init_sketches
          (fun _ => sketch_pure stable_true fun _ _ _ => trivial)
          fun _ => stable_const _
      refine Host.Outline.weaken inits ?_
      rintro ⟨outcome, ⟨⟩⟩ world _ ends
      simp only [Done, kind]
      cases outcome with
      | value result => trivial
      | raised error => exact ends
      | running => trivial
  | get fieldName view =>
      refine Host.Outline.weaken (get_sketches fieldName view) ?_
      rintro ⟨outcome, ⟨⟩⟩ world _ ends
      simp only [Done, kind]
      cases outcome with
      | value result => exact ends
      | raised error => exact ends
      | running => trivial
  | set fieldName fieldValue =>
      have setsField : Sketches operation base flawless worker (fun _ => True)
          (Operation.set fieldName fieldValue).run
          (fun _ world => worker ∈ world.2.history) (fun _ _ => ¬ flawless) :=
        sketch_bind (set_sketches kind)
          (fun _ => sketch_pure (stable_recorded worker worker) fun _ _ recorded => recorded)
          fun _ => stable_const _
      refine Host.Outline.weaken setsField ?_
      rintro ⟨outcome, ⟨⟩⟩ world _ ends
      simp only [Done, kind]
      cases outcome with
      | value result => exact ends
      | raised error => exact ends
      | running => trivial
  | all =>
      refine Host.Outline.weaken look_sketches ?_
      rintro ⟨outcome, ⟨⟩⟩ world _ ends
      simp only [Done, kind]
      cases outcome with
      | value result => exact ends
      | raised error => exact ends
      | running => trivial

/-- The file, the history and what the operations returned agree with one order of
the sets, which is the order of the lock. -/
structure Linearized (operation : T → Operation) (base : Document) (flawless : Prop)
    (config : Crew.Configuration fileInterface (Storage T × Notes T) T
      (Outcome JsonError Json.Value × Unit)) : Prop where
  sound : Sound operation base flawless config.world
  done : ∀ worker ended, config.running worker = some (.done ended) →
    Done operation base flawless worker ended config.world

theorem linearized_of_careful
    {labels : List (Crew.Label fileInterface (Kill T) T Unit)}
    (meets : Transition.EachStep (observed operation base).step
      (careful flawless).Meets { world := ({ text := some base.text }, {}) } labels) :
    Transition.Always (observed operation base).step (Linearized operation base flawless)
      { world := ({ text := some base.text }, {}) } labels := by
  have start : Sound operation base flawless ({ text := some base.text }, {}) := by
    constructor
    case obeyed => rfl
    case present => rintro worker ⟨⟩
    case unharmed => exact fun _ _ => rfl
    case content => exact .inl (.whole rfl)
    case ordered => exact List.Sublist.refl _
    case complete => exact fun _ _ => rfl
    case sets => rintro worker ⟨⟩
  have begun : ∀ (worker : T) (job : Unit),
      ((observed operation base).job worker job).Calls (fun _ => True) ∧
      ∃ before : Storage T × Notes T → Prop,
        (∀ world, Sound operation base flawless world → before world) ∧
        ((observed operation base).host worker).Outline
          (Crew.rely (careful flawless) (fun _ _ => True) worker)
          (Sound operation base flawless) before ((observed operation base).job worker job)
          (Done operation base flawless worker) :=
    fun worker _ => ⟨Program.Calls.of_all fun _ => trivial, _, fun _ _ => trivial,
      run_outline worker⟩
  apply Crew.always_of_outlines (fun sound flawed taken => sound.moved flawed taken)
    begun ?_ start meets
  intro config proved
  refine ⟨proved.kept, ?_⟩
  intro worker ended running
  obtain ⟨before, holds, outline⟩ := proved.outlined worker _ running
  cases outline with
  | done _ ends => exact ends _ proved.kept holds

/-- Whatever is killed and whatever fails, the sets take effect one at a time. -/
theorem operations_linearize (operation : T → Operation) (base : Document)
    (labels : List (Crew.Label fileInterface (Kill T) T Unit)) :
    Transition.Always (observed operation base).step (Linearized operation base False)
      { world := ({ text := some base.text }, {}) } labels := by
  apply linearized_of_careful
  refine Transition.eachStep_of_mem (fun config label _ => ?_) _
  cases label with
  | move move => exact id
  | start worker job => trivial
  | stop worker => trivial
  | call worker proposed =>
      unfold Crew.Discipline.Meets
      dsimp only
      split
      · exact False.elim
      · trivial

def Unharmed : Crew.Label fileInterface (Kill T) T Unit → Prop
  | .move _ => False
  | .call _ proposed => ∀ query, ∃ reply, proposed query = .ok reply
  | _ => True

/-- Nothing is lost where the processes come to no harm. -/
structure Lossless (operation : T → Operation) (base : Document)
    (config : Crew.Configuration fileInterface (Storage T × Notes T) T
      (Outcome JsonError Json.Value × Unit)) : Prop where
  /-- Only a read can fail, and only because it comes while a set writes. -/
  raises : ∀ worker error, config.running worker = some (.done (.raised error, ())) →
    error = .jsonDecodeError ∧ (operation worker).apply = fun document => document
  sets : ∀ worker fieldName fieldValue value,
    operation worker = .set fieldName fieldValue →
    config.running worker = some (.done (.value value, ())) →
    worker ∈ config.world.2.history
  gets : ∀ worker fieldName view value, operation worker = .get fieldName view →
    config.running worker = some (.done (.value value, ())) →
    ∃ seen, seen <+: config.world.2.history ∧
      value = view (fieldAfter operation base fieldName seen)
  /-- Once the lock is free the file holds every set for which it was taken. -/
  settled : config.world.1.holder = none →
    config.world.2.taken = config.world.2.history ∧
      config.world.1.text = some (documentAfter operation base config.world.2.taken).text

omit [DecidableEq T] in
theorem lossless_of_linearized
    {config : Crew.Configuration fileInterface (Storage T × Notes T) T
      (Outcome JsonError Json.Value × Unit)}
    (linearized : Linearized operation base True config) :
    Lossless operation base config := by
  obtain ⟨sound, done⟩ := linearized
  constructor
  case raises =>
    intro worker error running
    have ends := done worker _ running
    unfold Done at ends
    cases kind : operation worker with
    | init =>
        rw [kind] at ends
        exact ends.elim
    | get fieldName view =>
        rw [kind] at ends
        exact ⟨ends trivial, rfl⟩
    | set fieldName fieldValue =>
        rw [kind] at ends
        exact absurd trivial ends
    | all =>
        rw [kind] at ends
        exact ⟨ends trivial, rfl⟩
  case sets =>
    intro worker fieldName fieldValue value kind running
    have ends := done worker _ running
    unfold Done at ends
    rw [kind] at ends
    exact ends
  case gets =>
    intro worker fieldName view value kind running
    have ends := done worker _ running
    unfold Done at ends
    rw [kind] at ends
    exact ⟨_, ends⟩
  case settled =>
    intro free
    have complete := sound.complete trivial free
    refine ⟨complete, ?_⟩
    rw [complete]
    cases sound.settled_of_free free with
    | whole text => exact text
    | torn flawed _ _ => exact absurd trivial flawed

/-- Processes that come to no harm lose no set, whatever the order of their calls. -/
theorem sets_never_lost (operation : T → Operation) (base : Document)
    {labels : List (Crew.Label fileInterface (Kill T) T Unit)}
    (unharmed : ∀ label ∈ labels, Unharmed label) :
    Transition.Always (observed operation base).step (Lossless operation base)
      { world := ({ text := some base.text }, {}) } labels := by
  have linearized : Transition.Always (observed operation base).step
      (Linearized operation base True) { world := ({ text := some base.text }, {}) }
      labels := by
    apply linearized_of_careful
    refine Transition.eachStep_of_mem (fun config label member => ?_) _
    have fine := unharmed label member
    cases label with
    | move move => exact fine.elim
    | start worker job => trivial
    | stop worker => trivial
    | call worker proposed =>
        unfold Crew.Discipline.Meets
        dsimp only
        split
        · exact fun _ => fine _
        · trivial
  exact linearized.mono lossless_of_linearized

def granted : (query : FileQuery) → Except JsonError query.Reply
  | .pathExists => .ok true
  | .readText => .ok []
  | .acquire | .release | .openWrite | .append _ => .ok ()

def threeProcesses : Fin 3 → Operation
  | 0 => NodeConfig.setId 7
  | 1 => NodeConfig.setName "node".toList
  | 2 => NodeConfig.id

theorem wellFormed_emptyObject : (Json.Value.obj []).WellFormed :=
  .obj [] List.nodup_nil (by simp)

def emptyDocument : Document := ⟨[], wellFormed_emptyObject⟩

def byTurns : List (Crew.Label fileInterface (Kill (Fin 3)) (Fin 3) Unit) :=
  [.start 0 (), .start 1 (), .start 2 ()] ++ List.replicate 10 (.call 0 granted) ++
    [.call 2 granted] ++ List.replicate 14 (.call 0 granted) ++
    List.replicate 44 (.call 1 granted) ++ [.start 2 (), .call 2 granted]

theorem threeProcesses_never_lost :
    Transition.Always (observed threeProcesses emptyDocument).step
      (Lossless threeProcesses emptyDocument)
      { world := ({ text := some emptyDocument.text }, {}) } byTurns := by
  refine sets_never_lost threeProcesses emptyDocument ?_
  have answered : ∀ query, ∃ reply, granted query = .ok reply := by
    intro query
    cases query <;> exact ⟨_, rfl⟩
  intro label member
  simp only [byTurns, List.mem_append, List.mem_cons, List.not_mem_nil, or_false,
    List.mem_replicate] at member
  rcases member with (((((rfl | rfl | rfl) | ⟨_, rfl⟩) | rfl) | ⟨_, rfl⟩) | ⟨_, rfl⟩) |
    rfl | rfl
  all_goals trivial

end Sound

end SkaleAdmin.Tools
