import SkaleAdmin.Tools.ConcurrentSets

/-! What becomes of a JSON file that was cut short. -/

namespace SkaleAdmin.Tools

open Interaction PyText
open Interaction.Procedure (Sketch attempt raise sketch_pure sketch_raise sketch_bind
  sketch_attempt sketch_invoke)
open Interaction.Host (stable_const stable_true)
open SkaleAdmin.Config (Document)

section Torn

variable {T : Type} [DecidableEq T] {operation : T → Operation} {base : Document}
  {worker : T}

def Holds (text : Text) (world : Storage T × Notes T) : Prop :=
  world.1.text = some text

/-- What a process does where nobody has changed the file. -/
abbrev Meets {α : Type} (operation : T → Operation) (base : Document) (text : Text)
    (worker : T) (body : JsonM α) (value : α → Prop) (raised : Prop) : Prop :=
  Sketch ((observed operation base).host worker)
    (Crew.rely {} (fun _ _ => True) worker) (Holds text) (fun _ => True) body
    (fun result _ => value result) (fun _ _ => raised)

theorem meets_invoke {text : Text} {query : FileQuery} {value : query.Reply → Prop}
    (served : ∀ {proposed answer world world'}, Holds text world →
      (observed operation base).serve worker query proposed world =
        some (answer, world') →
      Holds text world' ∧ ∀ reply, answer = .ok reply → value reply) :
    Meets operation base text worker (call query) value True := by
  refine sketch_invoke stable_true ?_ (fun _ =>
    stable_const _) fun _ => stable_const _
  intro world world' proposed answer holds _ _ taken
  obtain ⟨kept, replies⟩ := served holds taken
  refine ⟨kept, ?_⟩
  cases answer with
  | ok reply => exact replies reply rfl
  | error error => trivial

theorem meets_readJson {text : Text} (unreadable : Json.loads text = none) :
    Meets operation base text worker readJson (fun _ => False) True := by
  have reads : Meets operation base text worker (call .readText)
      (fun found => found = text) True := by
    apply meets_invoke
    intro proposed answer world world' holds taken
    obtain ⟨_, ⟨_, rfl, rfl⟩ | ⟨_, rfl, rfl⟩ | ⟨found, there, rfl, rfl⟩⟩ :=
      served_readText taken
    · exact ⟨holds, by rintro reply ⟨⟩⟩
    · exact ⟨holds, by rintro reply ⟨⟩⟩
    · refine ⟨holds, ?_⟩
      rintro reply ⟨⟩
      exact Option.some.inj (there.symm.trans holds)
  refine sketch_bind reads (fun found => ?_) fun _ => stable_const _
  refine Host.Outline.of_fact (fun _ same => same) fun same => ?_
  subst same
  dsimp only
  rw [unreadable]
  exact Host.Outline.strengthen (sketch_raise (stable_const _) fun _ _ _ => trivial)
    (stable_const _) fun _ _ _ => trivial

theorem meets_read {α : Type} {text : Text} (unreadable : Json.loads text = none)
    (next : Json.Value → JsonM α) (value : α → Prop) :
    Meets operation base text worker (readJson >>= next) value True :=
  sketch_bind (meets_readJson unreadable)
    (fun _ => Host.Outline.of_unsatisfiable fun _ never => never)
    fun _ => stable_const _

theorem meets_set {text : Text} (unreadable : Json.loads text = none) (fieldName : Text)
    (fieldValue : Storable) :
    Meets operation base text worker (JsonObject.set fieldName fieldValue)
      (fun _ => False) True := by
  have takes : Meets operation base text worker (call .acquire) (fun _ => True) True := by
    apply meets_invoke
    intro proposed answer world world' holds taken
    obtain ⟨_, ⟨_, _, rfl⟩ | ⟨_, _, rfl⟩⟩ := served_acquire taken
    · exact ⟨holds, fun _ _ => trivial⟩
    · exact ⟨holds, fun _ _ => trivial⟩
  have lets : Meets operation base text worker (call .release) (fun _ => True) True := by
    apply meets_invoke
    intro proposed answer world world' holds taken
    obtain ⟨_, _, rfl⟩ := served_release taken
    exact ⟨holds, fun _ _ => trivial⟩
  refine sketch_bind takes (fun _ => ?_) fun _ => stable_const _
  have fails : Meets operation base text worker
      (attempt (do
        let config ← readJson
        let changed ← liftExcept (setField config fieldName fieldValue)
        writeJson changed) fun error => some (do
          call .release
          raise error)) (fun _ => False) True := by
    refine sketch_attempt (fun _ _ => True) (meets_read unreadable _ _) ?_ ?_
      (fun _ => stable_const _) fun _ => stable_true
    · rintro error clause ⟨⟩
      exact sketch_bind lets
        (fun _ => sketch_raise (stable_const _) fun _ _ _ => trivial)
        fun _ => stable_const _
    · rintro error ⟨⟩
  exact sketch_bind fails
    (fun _ => Host.Outline.of_unsatisfiable fun _ never => never)
    fun _ => stable_const _

theorem meets_init {text : Text} :
    Meets operation base text worker Operation.init.run (fun _ => True) True := by
  have checks : Meets operation base text worker (call .pathExists)
      (fun found => found = true) True := by
    apply meets_invoke
    intro proposed answer world world' holds taken
    obtain ⟨_, rfl, rfl⟩ := served_pathExists taken
    refine ⟨holds, ?_⟩
    rintro reply ⟨⟩
    rw [show world'.1.text = some text from holds]
    rfl
  have inits : Meets operation base text worker JsonObject.init (fun _ => True) True := by
    refine sketch_bind checks (fun found => ?_) fun _ => stable_const _
    cases found with
    | true => exact sketch_pure (stable_const _) fun _ _ _ => trivial
    | false =>
        apply Host.Outline.of_unsatisfiable
        rintro world ⟨⟩
  exact sketch_bind inits
    (fun _ => sketch_pure (stable_const _) fun _ _ _ => trivial)
    fun _ => stable_const _

theorem meets_run {text : Text} (unreadable : Json.loads text = none)
    (kind : Operation) :
    Meets operation base text worker kind.run (fun _ => kind = .init) True := by
  cases kind with
  | init => exact Sketch.weaken meets_init (fun _ _ _ => rfl) fun _ _ _ => trivial
  | get fieldName view =>
      have gets : Meets operation base text worker (JsonObject.get fieldName)
          (fun _ => False) True := meets_read unreadable _ _
      exact sketch_bind gets
        (fun _ => Host.Outline.of_unsatisfiable fun _ never => never)
        fun _ => stable_const _
  | set fieldName fieldValue =>
      exact sketch_bind (meets_set unreadable fieldName fieldValue)
        (fun _ => Host.Outline.of_unsatisfiable fun _ never => never)
        fun _ => stable_const _
  | all =>
      exact Sketch.weaken (meets_readJson unreadable) (fun _ _ never => never.elim)
        fun _ _ _ => trivial

/-- A file that was cut short stays so: nobody reads it, and no set mends it. -/
theorem torn_for_good (operation : T → Operation) (base : Document) {text : Text}
    (unreadable : Json.loads text = none)
    (labels : List (Crew.Label fileInterface (Kill T) T Unit)) :
    Transition.Always (observed operation base).step
      (fun config => config.world.1.text = some text ∧
        ∀ worker value, config.running worker = some (.done (.value value, ())) →
          operation worker = .init)
      { world := ({ text := some text }, {}) } labels := by
  have begun : ∀ (worker : T) (job : Unit),
      ((observed operation base).job worker job).Calls (fun _ => True) ∧
      ∃ before : Storage T × Notes T → Prop, (∀ world, Holds text world → before world) ∧
        ((observed operation base).host worker).Outline
          (Crew.rely {} (fun _ _ => True) worker) (Holds text) before
          ((observed operation base).job worker job)
          (Interaction.Procedure.Ends (fun _ _ => operation worker = .init)
            fun _ _ => True) :=
    fun worker _ => ⟨Program.Calls.of_all fun _ => trivial, _, fun _ _ => trivial,
      meets_run unreadable (operation worker)⟩
  have moved : ∀ {world world' : Storage T × Notes T} {move : Kill T},
      Holds text world → True →
      (observed operation base).move world move = some world' → Holds text world' := by
    intro world world' move holds _ taken
    obtain ⟨storage, notes⟩ := world
    obtain ⟨storage', notes'⟩ := world'
    obtain ⟨moved, _⟩ := Crew.watch_move.mp taken
    cases move with
    | kill killed =>
        obtain rfl := Option.some.inj moved
        exact holds
  apply Crew.always_of_outlines moved begun ?_
    (show Holds text ({ text := some text }, {}) from rfl)
  · exact Transition.eachStep_of_mem (fun config label _ =>
      Crew.meets_default config label) _
  · intro config proved
    refine ⟨proved.kept, ?_⟩
    intro worker value running
    obtain ⟨before, holds, outline⟩ := proved.outlined worker _ running
    cases outline with
    | done _ ends => exact ends _ proved.kept holds

theorem empty_torn_for_good :
    Transition.Always (observed threeProcesses emptyDocument).step
      (fun config => config.world.1.text = some [] ∧
        ∀ worker value, config.running worker = some (.done (.value value, ())) →
          threeProcesses worker = .init)
      { world := ({ text := some [] }, {}) }
      [.start 0 (), .call 0 granted, .call 0 granted, .call 0 granted] :=
  torn_for_good threeProcesses emptyDocument (by decide) _

end Torn

end SkaleAdmin.Tools
