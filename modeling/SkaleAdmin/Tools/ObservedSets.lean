import SkaleAdmin.Library.JsonPrefix
import SkaleAdmin.Library.Locking
import SkaleAdmin.Tools.JsonObject
import Mathlib.Data.List.Induction

/-! The fields of a JSON file as registers, and what an observer sees of the processes
that set and get them. -/

namespace SkaleAdmin.Tools

open Interaction PyText
open SkaleAdmin.Config (Document)

/-! ### The fields as registers -/

theorem names_assign {name : Text} {value : Json.Value}
    (fields : List (Text × Json.Value)) :
    (Json.assign name value fields).map Prod.fst =
      if name ∈ fields.map Prod.fst then fields.map Prod.fst
      else fields.map Prod.fst ++ [name] := by
  induction fields with
  | nil => rfl
  | cons field fields ih =>
      rw [Json.assign]
      by_cases here : field.1 = name
      · simp [here]
      · rw [if_neg here, List.map_cons, ih]
        by_cases there : name ∈ fields.map Prod.fst
        · simp [there]
        · simp [there, Ne.symm here]

theorem lookup_assign {name other : Text} {value : Json.Value}
    (fields : List (Text × Json.Value)) :
    (Json.assign name value fields).lookup other =
      if other = name then some value else fields.lookup other := by
  induction fields with
  | nil =>
      by_cases same : other = name
      · simp [Json.assign, same]
      · have apart : (other == name) = false := beq_eq_false_iff_ne.mpr same
        simp [Json.assign, List.lookup_cons, apart, same]
  | cons field fields ih =>
      obtain ⟨first, held⟩ := field
      rw [Json.assign]
      by_cases here : first = name
      · subst here
        by_cases same : other = first
        · simp [same]
        · have apart : (other == first) = false := beq_eq_false_iff_ne.mpr same
          simp [List.lookup_cons, apart, same]
      · rw [if_neg here, List.lookup_cons, ih, List.lookup_cons]
        by_cases same : other = first
        · simp [same, here]
        · have apart : (other == first) = false := beq_eq_false_iff_ne.mpr same
          rw [apart]

theorem wellFormed_assign {name : Text} {value : Json.Value}
    {fields : List (Text × Json.Value)} (wellFormed : (Json.Value.obj fields).WellFormed)
    (storable : value.WellFormed) :
    (Json.Value.obj (Json.assign name value fields)).WellFormed := by
  cases wellFormed with
  | obj _ distinct each =>
      have member : ∀ field ∈ Json.assign name value fields,
          field = (name, value) ∨ field ∈ fields := by
        clear distinct each
        induction fields with
        | nil => simp [Json.assign]
        | cons field fields ih =>
            intro other listed
            rw [Json.assign] at listed
            split at listed
            · rcases List.mem_cons.mp listed with same | later
              · exact .inl same
              · exact .inr (List.mem_cons_of_mem _ later)
            · rcases List.mem_cons.mp listed with same | later
              · exact .inr (same ▸ List.mem_cons_self)
              · rcases ih other later with same | found
                · exact .inl same
                · exact .inr (List.mem_cons_of_mem _ found)
      refine .obj _ ?_ ?_
      · rw [names_assign]
        split
        · exact distinct
        · rename_i new
          exact List.nodup_append.mpr ⟨distinct, List.nodup_singleton name, by
            intro one listed two only same
            rw [List.mem_singleton] at only
            exact new (only ▸ same ▸ listed)⟩
      · intro field listed
        rcases member field listed with rfl | found
        · exact storable
        · exact each field found

def assigned (document : Document) (name : Text) (value : Storable) : Document where
  fields := Json.assign name value document.fields
  wellFormed := wellFormed_assign document.wellFormed value.2

def Operation.apply : Operation → Document → Document
  | .set fieldName fieldValue, document => assigned document fieldName fieldValue
  | _, document => document

section Registers

variable {T : Type} (operation : T → Operation) (base : Document)

def documentAfter (history : List T) : Document :=
  history.foldl (fun document worker => (operation worker).apply document) base

def lastSet (fieldName : Text) (history : List T) : Option Json.Value :=
  history.reverse.findSome? fun worker =>
    match operation worker with
    | .set name value => if name = fieldName then some value.1 else none
    | _ => none

/-- What a field holds: the value that was set last or the one it had at first. -/
def fieldAfter (fieldName : Text) (history : List T) : Json.Value :=
  ((lastSet operation fieldName history).or (base.fields.lookup fieldName)).getD .null

variable {operation base}

@[simp] theorem documentAfter_append (history : List T) (worker : T) :
    documentAfter operation base (history ++ [worker]) =
      (operation worker).apply (documentAfter operation base history) := by
  simp [documentAfter]

theorem lastSet_append (fieldName : Text) (history : List T) (worker : T) :
    lastSet operation fieldName (history ++ [worker]) =
      (match operation worker with
        | .set name value => if name = fieldName then some value.1 else none
        | _ => none).or (lastSet operation fieldName history) := by
  unfold lastSet
  rw [List.reverse_append, List.reverse_singleton, List.singleton_append,
    List.findSome?_cons]
  split <;> rename_i found <;> rw [found] <;> rfl

theorem lookup_documentAfter (fieldName : Text) (history : List T) :
    (documentAfter operation base history).fields.lookup fieldName =
      (lastSet operation fieldName history).or (base.fields.lookup fieldName) := by
  induction history using List.reverseRecOn with
  | nil => rfl
  | append_singleton history worker ih =>
      rw [documentAfter_append, lastSet_append]
      cases operation worker with
      | set name value =>
          change (Json.assign name value _).lookup fieldName = _
          rw [lookup_assign, ih]
          by_cases same : fieldName = name
          · simp [same]
          · simp [same, Ne.symm same]
      | init => exact ih
      | get name view => exact ih
      | all => exact ih

theorem loads_document (document : Document) :
    Json.loads document.text = some (.obj document.fields) :=
  Json.loads_dumps document.wellFormed

end Registers

/-! ### What an observer sees -/

/-- `history` are the workers whose values have reached the file, `taken` those that
have got the lock, and `seen` is the history that a worker read last. -/
structure Notes (T : Type) where
  history : List T := []
  taken : List T := []
  seen : T → List T := fun _ => []
  trespass : Bool := false

section Observer

variable {T : Type} [DecidableEq T] (operation : T → Operation) (base : Document)

/-- A value has reached the file with the last character of its document. -/
def observer : Crew.Watch fileInterface (Storage T) (Kill T) T (Notes T) where
  call worker query answer storage notes :=
    match query, answer with
    | .acquire, .ok _ => { notes with taken := notes.taken ++ [worker] }
    | .readText, .ok _ =>
        { notes with seen := Function.update notes.seen worker notes.history }
    | .openWrite, .ok _ =>
        { notes with trespass := notes.trespass || storage.holder != some worker }
    | .append symbol, .ok _ =>
        { notes with
          trespass := notes.trespass || storage.holder != some worker
          history :=
            if storage.text.getD [] ++ [symbol] =
                (documentAfter operation base (notes.history ++ [worker])).text then
              notes.history ++ [worker]
            else notes.history }
    | _, _ => notes

abbrev observed : Crew fileInterface (Storage T × Notes T) (Kill T) T Unit
    (Outcome JsonError Json.Value × Unit) :=
  (processes operation).watch (observer operation base)

structure Shelf (T : Type) where
  text : Option Text
  history : List T
  taken : List T

def shelf (world : Storage T × Notes T) : Shelf T where
  text := world.1.text
  history := world.2.history
  taken := world.2.taken

def fileLock : Crew.Lock (Storage T × Notes T) T (Shelf T) where
  holder world := world.1.holder
  gone world worker := world.1.killed worker = true
  broken world := world.2.trespass = true
  store := shelf

end Observer

section Served

variable {T : Type} [DecidableEq T] {operation : T → Operation} {base : Document}
  {worker : T} {world world' : Storage T × Notes T}

theorem served_pathExists {proposed answer : Except JsonError Bool}
    (taken : (observed operation base).serve worker .pathExists proposed world =
      some (answer, world')) :
    world.1.killed worker = false ∧ answer = .ok world.1.text.isSome ∧
      world' = world := by
  obtain ⟨served, noted⟩ := Crew.watch_serve.mp taken
  obtain ⟨storage, notes⟩ := world
  obtain ⟨storage', notes'⟩ := world'
  cases noted
  simp only [processes, serveFile] at served
  split at served
  · cases served
  · rename_i alive
    cases served
    exact ⟨eq_false_of_ne_true alive, rfl, rfl⟩

theorem served_acquire {proposed answer : Except JsonError Unit}
    (taken : (observed operation base).serve worker .acquire proposed world =
      some (answer, world')) :
    world.1.killed worker = false ∧
      ((∃ error, proposed = .error error) ∧ answer = .error .osError ∧ world' = world ∨
        answer = .ok () ∧ world.1.holder = none ∧
          world' = ({ world.1 with holder := some worker },
            { world.2 with taken := world.2.taken ++ [worker] })) := by
  obtain ⟨served, noted⟩ := Crew.watch_serve.mp taken
  obtain ⟨storage, notes⟩ := world
  obtain ⟨storage', notes'⟩ := world'
  cases noted
  simp only [processes, serveFile] at served
  split at served
  · cases served
  · rename_i alive
    refine ⟨eq_false_of_ne_true alive, ?_⟩
    cases proposed with
    | error error =>
        cases served
        exact .inl ⟨⟨error, rfl⟩, rfl, rfl⟩
    | ok reply =>
        dsimp only at served
        split at served
        · rename_i free
          cases served
          exact .inr ⟨rfl, free, rfl⟩
        · cases served

theorem served_release {proposed answer : Except JsonError Unit}
    (taken : (observed operation base).serve worker .release proposed world =
      some (answer, world')) :
    world.1.killed worker = false ∧ answer = .ok () ∧
      world' = (world.1.letGo worker, world.2) := by
  obtain ⟨served, noted⟩ := Crew.watch_serve.mp taken
  obtain ⟨storage, notes⟩ := world
  obtain ⟨storage', notes'⟩ := world'
  cases noted
  simp only [processes, serveFile] at served
  split at served
  · cases served
  · rename_i alive
    cases served
    exact ⟨eq_false_of_ne_true alive, rfl, rfl⟩

theorem served_readText {proposed answer : Except JsonError Text}
    (taken : (observed operation base).serve worker .readText proposed world =
      some (answer, world')) :
    world.1.killed worker = false ∧
      ((∃ error, proposed = .error error) ∧ answer = .error .osError ∧ world' = world ∨
        world.1.text = none ∧ answer = .error .fileNotFoundError ∧ world' = world ∨
        ∃ text, world.1.text = some text ∧ answer = .ok text ∧
          world' = (world.1, { world.2 with
            seen := Function.update world.2.seen worker world.2.history })) := by
  obtain ⟨served, noted⟩ := Crew.watch_serve.mp taken
  obtain ⟨storage, notes⟩ := world
  obtain ⟨storage', notes'⟩ := world'
  cases noted
  simp only [processes, serveFile] at served
  split at served
  · cases served
  · rename_i alive
    refine ⟨eq_false_of_ne_true alive, ?_⟩
    cases proposed with
    | error error =>
        cases served
        exact .inl ⟨⟨error, rfl⟩, rfl, rfl⟩
    | ok reply =>
        dsimp only at served
        split at served
        · rename_i text found
          cases served
          exact .inr (.inr ⟨text, found, rfl, rfl⟩)
        · rename_i missing
          cases served
          exact .inr (.inl ⟨missing, rfl, rfl⟩)

theorem served_openWrite {proposed answer : Except JsonError Unit}
    (taken : (observed operation base).serve worker .openWrite proposed world =
      some (answer, world')) :
    world.1.killed worker = false ∧
      ((∃ error, proposed = .error error) ∧ answer = .error .osError ∧ world' = world ∨
        answer = .ok () ∧ world' = ({ world.1 with text := some [] },
          { world.2 with
            trespass := world.2.trespass || world.1.holder != some worker })) := by
  obtain ⟨served, noted⟩ := Crew.watch_serve.mp taken
  obtain ⟨storage, notes⟩ := world
  obtain ⟨storage', notes'⟩ := world'
  cases noted
  simp only [processes, serveFile] at served
  split at served
  · cases served
  · rename_i alive
    refine ⟨eq_false_of_ne_true alive, ?_⟩
    cases proposed with
    | error error =>
        cases served
        exact .inl ⟨⟨error, rfl⟩, rfl, rfl⟩
    | ok reply =>
        cases served
        exact .inr ⟨rfl, rfl⟩

theorem served_append {symbol : Char} {proposed answer : Except JsonError Unit}
    (taken : (observed operation base).serve worker (.append symbol) proposed world =
      some (answer, world')) :
    world.1.killed worker = false ∧
      ((∃ error, proposed = .error error) ∧ answer = .error .osError ∧ world' = world ∨
        answer = .ok () ∧
          world' = ({ world.1 with text := some (world.1.text.getD [] ++ [symbol]) },
            { world.2 with
              trespass := world.2.trespass || world.1.holder != some worker
              history :=
                if world.1.text.getD [] ++ [symbol] = (documentAfter operation base
                    (world.2.history ++ [worker])).text then
                  world.2.history ++ [worker]
                else world.2.history })) := by
  obtain ⟨served, noted⟩ := Crew.watch_serve.mp taken
  obtain ⟨storage, notes⟩ := world
  obtain ⟨storage', notes'⟩ := world'
  cases noted
  simp only [processes, serveFile] at served
  split at served
  · cases served
  · rename_i alive
    refine ⟨eq_false_of_ne_true alive, ?_⟩
    cases proposed with
    | error error =>
        cases served
        exact .inl ⟨⟨error, rfl⟩, rfl, rfl⟩
    | ok reply =>
        cases served
        exact .inr ⟨rfl, rfl⟩

theorem spares_write {other : T} {text : Option Text} {history : List T}
    (different : other ≠ worker) :
    fileLock.Spares worker world ({ world.1 with text },
      { world.2 with
        trespass := world.2.trespass || world.1.holder != some other
        history }) := by
  refine ⟨?_, id, ?_⟩
  · intro broken
    change world.2.trespass = true at broken
    simp [fileLock, broken]
  · intro holds
    change world.1.holder = some worker at holds
    exact .inl (by simp [fileLock, holds, Ne.symm different])

theorem guards : fileLock.Guards (observed operation base) where
  moves := by
    intro world world' move taken worker
    obtain ⟨moved, noted⟩ := Crew.watch_move.mp taken
    obtain ⟨storage, notes⟩ := world
    obtain ⟨storage', notes'⟩ := world'
    cases noted
    cases move with
    | kill other =>
        obtain rfl := Option.some.inj moved
        refine ⟨id, ?_, ?_⟩
        · intro gone
          by_cases same : worker = other
          · simp [fileLock, same]
          · simpa [fileLock, Storage.letGo, Function.update_of_ne same] using gone
        · intro holds
          by_cases same : worker = other
          · exact .inr (.inl (by simp [fileLock, same]))
          · refine .inr (.inr ⟨?_, rfl⟩)
            change storage.holder = some worker at holds
            simp [fileLock, Storage.letGo, holds, same]
  serves := by
    intro other query proposed answer world world' taken worker different
    cases query with
    | pathExists =>
        obtain ⟨_, _, rfl⟩ := served_pathExists taken
        exact .refl worker world'
    | acquire =>
        obtain ⟨_, ⟨_, _, rfl⟩ | ⟨_, free, rfl⟩⟩ := served_acquire taken
        · exact .refl worker world'
        · refine ⟨id, id, ?_⟩
          intro holds
          change world.1.holder = some worker at holds
          rw [free] at holds
          cases holds
    | release =>
        obtain ⟨_, _, rfl⟩ := served_release taken
        refine ⟨id, id, ?_⟩
        intro holds
        change world.1.holder = some worker at holds
        refine .inr (.inr ⟨?_, rfl⟩)
        simp [fileLock, Storage.letGo, holds, Ne.symm different]
    | readText =>
        obtain ⟨_, ⟨_, _, rfl⟩ | ⟨_, _, rfl⟩ | ⟨text, _, _, rfl⟩⟩ := served_readText taken
        · exact .refl worker world'
        · exact .refl worker world'
        · exact ⟨id, id, fun holds => .inr (.inr ⟨holds, rfl⟩)⟩
    | openWrite =>
        obtain ⟨_, ⟨_, _, rfl⟩ | ⟨_, rfl⟩⟩ := served_openWrite taken
        · exact .refl worker world'
        · exact spares_write different
    | append symbol =>
        obtain ⟨_, ⟨_, _, rfl⟩ | ⟨_, rfl⟩⟩ := served_append taken
        · exact .refl worker world'
        · exact spares_write different

theorem history_served {query : FileQuery} {proposed answer : Except JsonError query.Reply}
    (taken : (observed operation base).serve worker query proposed world =
      some (answer, world')) : world.2.history <+: world'.2.history := by
  cases query with
  | pathExists =>
      obtain ⟨_, _, rfl⟩ := served_pathExists taken
      exact List.prefix_rfl
  | acquire =>
      obtain ⟨_, ⟨_, _, rfl⟩ | ⟨_, _, rfl⟩⟩ := served_acquire taken
      · exact List.prefix_rfl
      · exact List.prefix_rfl
  | release =>
      obtain ⟨_, _, rfl⟩ := served_release taken
      exact List.prefix_rfl
  | readText =>
      obtain ⟨_, ⟨_, _, rfl⟩ | ⟨_, _, rfl⟩ | ⟨_, _, _, rfl⟩⟩ := served_readText taken
      · exact List.prefix_rfl
      · exact List.prefix_rfl
      · exact List.prefix_rfl
  | openWrite =>
      obtain ⟨_, ⟨_, _, rfl⟩ | ⟨_, rfl⟩⟩ := served_openWrite taken
      · exact List.prefix_rfl
      · exact List.prefix_rfl
  | append symbol =>
      obtain ⟨_, ⟨_, _, rfl⟩ | ⟨_, rfl⟩⟩ := served_append taken
      · exact List.prefix_rfl
      · dsimp only
        split
        · exact List.prefix_append ..
        · exact List.prefix_rfl

theorem seen_served {other : T} {query : FileQuery}
    {proposed answer : Except JsonError query.Reply} (different : other ≠ worker)
    (taken : (observed operation base).serve other query proposed world =
      some (answer, world')) : world'.2.seen worker = world.2.seen worker := by
  cases query with
  | pathExists =>
      obtain ⟨_, _, rfl⟩ := served_pathExists taken
      rfl
  | acquire =>
      obtain ⟨_, ⟨_, _, rfl⟩ | ⟨_, _, rfl⟩⟩ := served_acquire taken
      · rfl
      · rfl
  | release =>
      obtain ⟨_, _, rfl⟩ := served_release taken
      rfl
  | readText =>
      obtain ⟨_, ⟨_, _, rfl⟩ | ⟨_, _, rfl⟩ | ⟨_, _, _, rfl⟩⟩ := served_readText taken
      · rfl
      · rfl
      · exact Function.update_of_ne (Ne.symm different) ..
  | openWrite =>
      obtain ⟨_, ⟨_, _, rfl⟩ | ⟨_, rfl⟩⟩ := served_openWrite taken
      · rfl
      · rfl
  | append symbol =>
      obtain ⟨_, ⟨_, _, rfl⟩ | ⟨_, rfl⟩⟩ := served_append taken
      · rfl
      · rfl

end Served

end SkaleAdmin.Tools
