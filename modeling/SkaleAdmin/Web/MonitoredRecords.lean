import SkaleAdmin.Web.SChainRecord

/-! The rows of the chains of a node while the chains are monitored, cleaned up and
monitored again. -/

namespace SkaleAdmin.Web

structure Rows where
  rows : List SChainRecord := []
  started : Int := 0

namespace Rows

variable (table : Rows)

def getByName (name : String) : Option SChainRecord :=
  table.rows.find? fun row => row .name = name

def added (name : String) : Bool :=
  (table.getByName name).isSome

def add (name : String) (now : Int) : Rows :=
  { table with rows := table.rows ++ [.add name now table.started] }

/-- `save` of an object that was loaded from its row. -/
def save (setter : Setter) (copy : SChainRecord) : Rows :=
  { table with rows := table.rows.map fun row =>
      if (row .name) = copy .name then Table.saved setter copy row else row }

def set (name : String) (setter : Setter) : Rows :=
  match table.getByName name with
  | none => table
  | some record => table.save setter (record.set setter.column setter.value)

def upsertSchainRecord (name : String) (now : Int) : Rows :=
  if table.added name then table else table.add name now

def markSchainDeleted (name : String) : Rows :=
  table.set name setDeleted

def getSchainsNames (includeDeleted : Bool := false) : List String :=
  (table.rows.filter fun row => includeDeleted || !row .isDeleted).map
    fun row => row .name

end Rows

inductive RecordStep where
  /-- `start_tasks` has upserted the record. -/
  | start (name : String) (now : Int)
  /-- `cleanup_schain`, which may raise before it marks the record. -/
  | cleanup (name : String) (now : Int) (returns : Bool)
  /-- The contracts take the node out of the chain or back into it. -/
  | assign (name : String) (onNode : Bool)
  /-- Whoever sets another column of the row. -/
  | set (name : String) (setter : Setter)
      (apart : setter.column ≠ .name ∧ setter.column ≠ .isDeleted)

/-- `monitored` lists the chains whose monitor was started since they were last cleaned
up. -/
structure RecordLife where
  table : Rows := {}
  monitored : List String := []

namespace RecordLife

def next (life : RecordLife) : RecordStep → RecordLife
  | .start name now =>
      { table := life.table.upsertSchainRecord name now
        monitored := name :: life.monitored }
  | .cleanup name now returns =>
      let table := life.table.upsertSchainRecord name now
      if returns then
        { table := table.markSchainDeleted name
          monitored := life.monitored.filter (· ≠ name) }
      else
        { life with table }
  | .assign _ _ => life
  | .set name setter _ => { life with table := life.table.set name setter }

def step (life : RecordLife) (taken : RecordStep) : Option RecordLife :=
  some (life.next taken)

/-- The record is there and is not marked deleted, so that its name is listed. -/
def Lists (life : RecordLife) (name : String) : Prop :=
  (∃ record, life.table.getByName name = some record ∧ record .isDeleted = false) ∧
    name ∈ life.table.getSchainsNames

/-- A chain that is monitored is live. -/
def Live (life : RecordLife) : Prop :=
  ∀ name ∈ life.monitored, life.Lists name

/-- The monitor of a chain is started after the chain was cleaned up. -/
def Restarts (steps : List RecordStep) (name : String) : Prop :=
  ∃ cleaned started : Int,
    [RecordStep.cleanup name cleaned true, .start name started].Sublist steps

end RecordLife

/-! ### Rows -/

namespace Rows

variable {table : Rows} {name other : String} {now : Int} {setter : Setter}

def isDeleted (table : Rows) (name : String) : Bool :=
  (table.getByName name).any fun record => record .isDeleted

theorem name_of_getByName {record : SChainRecord}
    (found : table.getByName name = some record) : record .name = name := by
  simpa using List.find?_some found

theorem getByName_add (missing : table.getByName name = none) :
    (table.add name now).getByName name = some (.add name now table.started) := by
  unfold getByName at missing
  unfold add getByName
  rw [List.find?_append, missing]
  simp [SChainRecord.add]

theorem getByName_add_of_ne (apart : other ≠ name) :
    (table.add name now).getByName other = table.getByName other := by
  unfold add getByName
  rw [List.find?_append]
  have unfound : [SChainRecord.add name now table.started].find?
      (fun row => row .name = other) = none := by
    simp [SChainRecord.add, Ne.symm apart]
  rw [unfound, Option.or_none]

theorem getByName_save {copy : SChainRecord} (unnamed : setter.column ≠ .name) :
    (table.save setter copy).getByName other =
      (table.getByName other).map fun row =>
        if row .name = copy .name then Table.saved setter copy row else row := by
  unfold save getByName
  rw [List.find?_map]
  congr 2
  funext row
  dsimp only [Function.comp]
  split
  · next same =>
    unfold Table.saved
    split
    · rw [SChainRecord.set_of_ne (Ne.symm unnamed)]
    · rw [same]
  · rfl

theorem getByName_set {record : SChainRecord} (unnamed : setter.column ≠ .name)
    (found : table.getByName name = some record) :
    (table.set name setter).getByName name =
      some (record.set setter.column setter.value) := by
  have named := name_of_getByName found
  unfold set
  rw [found]
  dsimp only
  rw [getByName_save unnamed, found, Option.map_some,
    SChainRecord.set_of_ne (Ne.symm unnamed), if_pos rfl]
  unfold Table.saved
  split
  · rw [SChainRecord.set_self]
  · rfl

theorem getByName_set_of_ne (unnamed : setter.column ≠ .name) (apart : other ≠ name) :
    (table.set name setter).getByName other = table.getByName other := by
  unfold set
  split
  · rfl
  · next record found =>
    have named := name_of_getByName found
    rw [getByName_save unnamed, SChainRecord.set_of_ne (Ne.symm unnamed), named]
    cases here : table.getByName other with
    | none => rfl
    | some row =>
        rw [Option.map_some, name_of_getByName here, if_neg apart]

theorem getByName_upsert :
    ∃ record, (table.upsertSchainRecord name now).getByName name = some record ∧
      record .isDeleted = table.isDeleted name := by
  unfold upsertSchainRecord added isDeleted
  cases found : table.getByName name with
  | none => exact ⟨_, getByName_add found, rfl⟩
  | some record => exact ⟨record, found, rfl⟩

theorem getByName_upsert_of_ne (apart : other ≠ name) :
    (table.upsertSchainRecord name now).getByName other = table.getByName other := by
  unfold upsertSchainRecord
  split
  · rfl
  · exact getByName_add_of_ne apart

theorem mem_getSchainsNames {record : SChainRecord}
    (found : table.getByName name = some record) (unmarked : record .isDeleted = false) :
    name ∈ table.getSchainsNames := by
  refine List.mem_map.mpr ⟨record, ?_, name_of_getByName found⟩
  exact List.mem_filter.mpr ⟨List.mem_of_find?_eq_some found, by simp [unmarked]⟩

theorem isDeleted_of_found {record : SChainRecord}
    (found : table.getByName name = some record) :
    table.isDeleted name = record .isDeleted := by
  unfold isDeleted
  rw [found]
  rfl

theorem isDeleted_upsert :
    (table.upsertSchainRecord name now).isDeleted other = table.isDeleted other := by
  by_cases here : other = name
  · subst here
    obtain ⟨record, found, same⟩ := @getByName_upsert table other now
    rw [isDeleted_of_found found, same]
  · unfold isDeleted
    rw [getByName_upsert_of_ne here]

theorem isDeleted_set (unnamed : setter.column ≠ .name)
    (unmarked : setter.column ≠ .isDeleted) :
    (table.set name setter).isDeleted other = table.isDeleted other := by
  by_cases here : other = name
  · subst here
    cases found : table.getByName other with
    | none =>
        unfold set
        rw [found]
    | some record =>
        rw [isDeleted_of_found (getByName_set unnamed found), isDeleted_of_found found,
          SChainRecord.set_of_ne (Ne.symm unmarked)]
  · unfold isDeleted
    rw [getByName_set_of_ne unnamed here]

theorem isDeleted_mark (added : table.added name = true) :
    (table.markSchainDeleted name).isDeleted other =
      (decide (other = name) || table.isDeleted other) := by
  by_cases here : other = name
  · subst here
    obtain ⟨record, found⟩ := Option.isSome_iff_exists.mp added
    have marked : (table.set other setDeleted).getByName other =
        some (record.set .isDeleted true) := getByName_set (by decide) found
    rw [decide_eq_true rfl, Bool.true_or]
    exact (isDeleted_of_found marked).trans SChainRecord.set_self
  · unfold isDeleted markSchainDeleted
    rw [getByName_set_of_ne (by decide) here, decide_eq_false here, Bool.false_or]

theorem added_upsert (kept : table.added other = true ∨ other = name) :
    (table.upsertSchainRecord name now).added other = true := by
  by_cases here : other = name
  · subst here
    obtain ⟨record, found, _⟩ := @getByName_upsert table other now
    exact Option.isSome_iff_exists.mpr ⟨record, found⟩
  · unfold added
    rw [getByName_upsert_of_ne here]
    exact kept.resolve_right here

theorem added_set (unnamed : setter.column ≠ .name) :
    (table.set name setter).added other = table.added other := by
  by_cases here : other = name
  · subst here
    unfold added
    cases found : table.getByName other with
    | none =>
        unfold set
        rw [found]
        exact congrArg Option.isSome found
    | some record =>
        rw [getByName_set unnamed found]
        rfl
  · unfold added
    rw [getByName_set_of_ne unnamed here]

end Rows

/-! ### Lives -/

namespace RecordLife

variable {life : RecordLife} {steps : List RecordStep} {name : String}

/-- The chains that are monitored have rows. -/
def Recorded (life : RecordLife) : Prop :=
  ∀ name ∈ life.monitored, life.table.added name = true

theorem lists_iff (added : life.table.added name = true) :
    life.Lists name ↔ life.table.isDeleted name = false := by
  obtain ⟨record, found⟩ := Option.isSome_iff_exists.mp added
  rw [Rows.isDeleted_of_found found]
  constructor
  · rintro ⟨⟨other, same, unmarked⟩, _⟩
    rw [found] at same
    rw [Option.some.inj same]
    exact unmarked
  · intro unmarked
    exact ⟨⟨record, found, unmarked⟩, Rows.mem_getSchainsNames found unmarked⟩

theorem isDeleted_next (taken : RecordStep) :
    (life.next taken).table.isDeleted name = true ↔
      life.table.isDeleted name = true ∨ ∃ now, taken = .cleanup name now true := by
  cases taken with
  | start other now => simp [next, Rows.isDeleted_upsert]
  | assign other onNode => simp [next]
  | set other setter apart => simp [next, Rows.isDeleted_set apart.1 apart.2]
  | cleanup other now returns =>
      cases returns with
      | false => simp [next, Rows.isDeleted_upsert]
      | true =>
          have added : (life.table.upsertSchainRecord other now).added other = true :=
            Rows.added_upsert (.inr rfl)
          simp only [next, if_true, Rows.isDeleted_mark added, Rows.isDeleted_upsert]
          rw [Bool.or_eq_true, decide_eq_true_eq, or_comm]
          refine or_congr_right ⟨?_, ?_⟩
          · rintro rfl
            exact ⟨now, rfl⟩
          · rintro ⟨now', same⟩
            cases same
            rfl

theorem recorded_next (recorded : Recorded life) (taken : RecordStep) :
    Recorded (life.next taken) := by
  cases taken with
  | start other now =>
      intro name monitored
      apply Rows.added_upsert
      rcases List.mem_cons.mp monitored with here | before
      · exact .inr here
      · exact .inl (recorded name before)
  | assign other onNode => exact recorded
  | set other setter apart =>
      intro name monitored
      exact (Rows.added_set apart.1).trans (recorded name monitored)
  | cleanup other now returns =>
      cases returns with
      | false =>
          intro name monitored
          exact Rows.added_upsert (.inl (recorded name monitored))
      | true =>
          intro name monitored
          apply (Rows.added_set (by decide)).trans
          exact Rows.added_upsert (.inl (recorded name (List.mem_filter.mp monitored).1))

theorem live_iff (recorded : Recorded life) :
    Live life ↔ ∀ name ∈ life.monitored, life.table.isDeleted name = false := by
  unfold Live
  constructor
  · intro live name monitored
    exact (lists_iff (recorded name monitored)).mp (live name monitored)
  · intro unmarked name monitored
    exact (lists_iff (recorded name monitored)).mpr (unmarked name monitored)

def Unmarked (life : RecordLife) : RecordStep → Prop
  | .start name _ => life.table.isDeleted name = false
  | _ => True

theorem live_next_iff (recorded : Recorded life) (live : Live life)
    (taken : RecordStep) : Live (life.next taken) ↔ Unmarked life taken := by
  rw [live_iff recorded] at live
  rw [live_iff (recorded_next recorded taken)]
  have unmarked : ∀ name, life.table.isDeleted name = false →
      (∀ now, taken ≠ .cleanup name now true) →
      (life.next taken).table.isDeleted name = false := by
    intro name before other
    rw [Bool.eq_false_iff, ne_eq, isDeleted_next, not_or, Bool.not_eq_true]
    exact ⟨before, fun ⟨now, same⟩ => other now same⟩
  cases taken with
  | start other now =>
      constructor
      · intro after
        have marked := after other List.mem_cons_self
        rw [Bool.eq_false_iff, ne_eq, isDeleted_next, not_or] at marked
        exact Bool.eq_false_iff.mpr marked.1
      · intro before name monitored
        apply unmarked name _ (by simp)
        rcases List.mem_cons.mp monitored with rfl | listed
        · exact before
        · exact live name listed
  | assign other onNode => exact iff_of_true (fun name => live name) trivial
  | set other setter apart =>
      refine iff_of_true (fun name monitored => ?_) trivial
      exact unmarked name (live name monitored) (by simp)
  | cleanup other now returns =>
      refine iff_of_true (fun name monitored => ?_) trivial
      cases returns with
      | false => exact unmarked name (live name monitored) (by simp)
      | true =>
          obtain ⟨listed, apart⟩ := List.mem_filter.mp monitored
          apply unmarked name (live name listed)
          rintro now' same
          cases same
          simp at apart

/-! ### Sequences -/

theorem unmarked_iff {taken : RecordStep} :
    Unmarked life taken ↔
      ∀ name, life.table.isDeleted name = true → ∀ now, taken ≠ .start name now := by
  constructor
  · rintro unmarked name marked now rfl
    rw [unmarked] at marked
    cases marked
  · intro unstarted
    cases taken with
    | start name now =>
        apply Bool.eq_false_iff.mpr
        intro marked
        exact unstarted name marked now rfl
    | _ => trivial

theorem restarts_cons {taken : RecordStep} :
    Restarts (taken :: steps) name ↔
      ((∃ now, taken = .cleanup name now true) ∧ ∃ now, .start name now ∈ steps) ∨
        Restarts steps name := by
  unfold Restarts
  constructor
  · rintro ⟨cleaned, started, listed⟩
    rcases List.sublist_cons_iff.mp listed with later | ⟨rest, same, later⟩
    · exact .inr ⟨cleaned, started, later⟩
    · cases same
      exact .inl ⟨⟨cleaned, rfl⟩, started, List.singleton_sublist.mp later⟩
  · rintro (⟨⟨cleaned, rfl⟩, started, listed⟩ | ⟨cleaned, started, later⟩)
    · exact ⟨cleaned, started, (List.singleton_sublist.mpr listed).cons_cons _⟩
    · exact ⟨cleaned, started, later.cons _⟩

theorem eachStep_iff :
    Transition.EachStep step Unmarked life steps ↔
      ∀ name, (life.table.isDeleted name = true → ∀ now, .start name now ∉ steps) ∧
        ¬ Restarts steps name := by
  induction steps generalizing life with
  | nil =>
      refine iff_of_true trivial fun name => ⟨fun _ now => by simp, ?_⟩
      rintro ⟨cleaned, started, listed⟩
      cases listed
  | cons taken steps ih =>
      have here : Transition.EachStep step Unmarked life (taken :: steps) ↔
          Unmarked life taken ∧ Transition.EachStep step Unmarked (life.next taken) steps := by
        simp [Transition.EachStep, step]
      rw [here, ih, unmarked_iff, ← forall_and]
      refine forall_congr' fun name => ?_
      rw [isDeleted_next, restarts_cons]
      simp only [List.mem_cons, not_or]
      constructor
      · rintro ⟨unstarted, later, unrestarted⟩
        refine ⟨fun marked now => ⟨Ne.symm (unstarted marked now), later (.inl marked) now⟩,
          ?_, unrestarted⟩
        rintro ⟨cleaned, now, listed⟩
        exact later (.inr cleaned) now listed
      · rintro ⟨unstarted, uncleaned, unrestarted⟩
        refine ⟨fun marked now => Ne.symm (unstarted marked now).1, ?_, unrestarted⟩
        rintro (marked | cleaned) now listed
        · exact (unstarted marked now).2 listed
        · exact uncleaned ⟨cleaned, now, listed⟩

end RecordLife

/-- Along a sequence the monitored chains are live if and only if no chain is monitored
after it was cleaned up. -/
theorem monitored_records_live_iff (started : Int) (steps : List RecordStep) :
    Transition.Always RecordLife.step RecordLife.Live { table := { started } } steps ↔
      ∀ name, ¬ RecordLife.Restarts steps name := by
  have kept : ∀ {life after : RecordLife} {taken : RecordStep}, life.Recorded →
      after.Live → life.step taken = some after → after.Recorded := by
    rintro life after taken recorded _ ⟨⟩
    exact RecordLife.recorded_next recorded taken
  have exact' : ∀ {life after : RecordLife} {taken : RecordStep}, life.Recorded →
      life.Live → life.step taken = some after →
      (after.Live ↔ life.Unmarked taken) := by
    rintro life after taken recorded live ⟨⟩
    exact RecordLife.live_next_iff recorded live taken
  have unmarked : ∀ name, ({ started } : Rows).isDeleted name = false := fun _ => rfl
  rw [Transition.always_iff_eachStep kept exact' (by rintro name ⟨⟩) (by rintro name ⟨⟩),
    RecordLife.eachStep_iff]
  simp [unmarked]

/-- The node is rotated out of a chain, which is cleaned up, and back into it. -/
theorem monitored_record_can_be_deleted :
    ¬ ∀ (started : Int) (steps : List RecordStep),
      Transition.Always RecordLife.step RecordLife.Live { table := { started } } steps := by
  intro claim
  let steps : List RecordStep := [.assign "schain" true, .start "schain" 1,
    .assign "schain" false, .cleanup "schain" 2 true, .assign "schain" true,
    .start "schain" 3]
  have played : (Transition.play RecordLife.step { table := { started := 0 } } steps).map
      (fun life => (life.monitored, life.table.getSchainsNames)) =
        some (["schain"], []) := by decide +kernel
  obtain ⟨life, reached, ended⟩ := Option.map_eq_some_iff.mp played
  obtain ⟨monitored, names⟩ := Prod.mk.inj ended
  have live := (claim 0 steps).at_play reached "schain" (by simp [monitored])
  have listed := live.2
  rw [names] at listed
  cases listed

end SkaleAdmin.Web
