import SkaleAdmin.Config.Checks
import SkaleAdmin.Library.Conduct
import Mathlib.Data.List.AList

/-! The checks that the health API runs for the names of its query. -/

namespace SkaleAdmin.Web

open Interaction Program PyText
open Interaction.Procedure (attempt raise invoke obeys_attempt obeys_bind obeys_invoke
  obeys_invoke_bind obeys_pure obeys_raise)

/-! ### The attributes of the objects with the checks -/

/-- The instances of `ConfigChecks` and of `SkaledChecks` in `_subjects`. -/
inductive Subject where
  | config
  | skaled
  deriving DecidableEq

/-- The properties. -/
def Subject.checks : Subject → List String
  | .config => ["config_dir", "dkg", "external_state", "last_dkg_successful",
      "skaled_node_ips", "upstream_config"]
  | .skaled => ["blocks", "config", "config_updated", "exit_code_ok", "exit_zero",
      "firewall_rules", "ima_container", "process", "rotation_id_updated", "rpc",
      "skaled_container", "upstream_exists", "volume"]

/-- What `__init__` sets. -/
def Subject.fields : Subject → List String
  | .config => ["name", "node_id", "schain_record", "rotation_id", "stream_version",
      "current_nodes", "estate", "_last_dkg_successful", "sync_node", "econfig", "cfm",
      "statsd_client"]
  | .skaled => ["name", "schain_record", "dutils", "container_name", "econfig", "sync_node",
      "rc", "cfm", "statsd_client"]

/-- What `IChecks`, `ABC` and `object` have. -/
def inheritedAttributes : List String :=
  ["get_name", "get_all", "is_healthy", "get_check_names", "_abc_impl", "__abstractmethods__",
    "__class__", "__delattr__", "__dict__", "__dir__", "__doc__", "__eq__", "__format__",
    "__ge__", "__getattribute__", "__getstate__", "__gt__", "__hash__", "__init__",
    "__init_subclass__", "__le__", "__lt__", "__module__", "__ne__", "__new__", "__reduce__",
    "__reduce_ex__", "__repr__", "__setattr__", "__sizeof__", "__slots__", "__str__",
    "__subclasshook__", "__weakref__"]

inductive Attribute where
  | check
  | other
  deriving DecidableEq

/-- What the name stands for in the object. -/
def Subject.attribute (subject : Subject) (name : String) : Option Attribute :=
  if name ∈ subject.checks then some .check
  else if name ∈ subject.fields ∨ name ∈ inheritedAttributes then some .other
  else none

def API_ALLOWED_CHECKS : List String :=
  ["config_dir", "dkg", "config", "volume", "firewall_rules", "skaled_container",
    "exit_code_ok", "rpc", "blocks", "process", "ima_container"]

/-! ### `get_all` -/

inductive CheckException where
  | attributeError
  | otherError

abbrev Statuses := AList fun _ : String => Bool

inductive CheckQuery where
  /-- The property is evaluated. -/
  | evaluate (subject : Subject) (name : String)
  | saveChecksDict (statuses : Statuses)

@[reducible] def CheckQuery.Reply : CheckQuery → Type
  | evaluate _ _ => Bool
  | saveChecksDict _ => Unit

abbrev checkInterface : Interface :=
  fallible CheckQuery CheckQuery.Reply CheckException

abbrev CheckM := Procedure checkInterface Unit CheckException

/-- The value of an attribute: a `CheckRes` with its status, or anything else. -/
inductive AttributeValue where
  | checkRes (status : Bool)
  | other

namespace Subject

variable (subject : Subject)

/-- `getattr(self, name)`. -/
def getattr (name : String) : CheckM AttributeValue :=
  match subject.attribute name with
  | some .check => do
      let status ← invoke (.evaluate subject name)
      return .checkRes status
  | some .other => return .other
  | none => raise .attributeError

/-- `hasattr(self, name)`, which evaluates the attribute. -/
def hasattr (name : String) : CheckM Bool :=
  attempt (do
    let _ ← subject.getattr name
    return true) fun
    | .attributeError => some (pure false)
    | .otherError => none

def status : AttributeValue → CheckM Bool
  | .checkRes status => pure status
  | .other => raise .attributeError

def runChecks : List String → Statuses → CheckM Statuses
  | [], checksStatus => pure checksStatus
  | name :: names, checksStatus => do
      if ← subject.hasattr name then
        let result ← status (← subject.getattr name)
        runChecks names (checksStatus.insert name result)
      else
        runChecks names checksStatus

/-- `IChecks.get_all`, which neither exposes nor saves. -/
def getAll (needed : List String) : CheckM Statuses :=
  subject.runChecks (if needed ≠ [] then needed else subject.checks) ∅

end Subject

structure SChainChecks where
  estate : Option Config.ExternalState

namespace SChainChecks

variable (self : SChainChecks)

def imaLinked : Bool :=
  match self.estate with
  | none => false
  | some estate => estate.imaLinked

/-- `needed or API_ALLOWED_CHECKS`. -/
def allowed (needed : Option (List String)) : List String :=
  if needed.getD [] ≠ [] then needed.getD [] else API_ALLOWED_CHECKS

def saveChecksDict (save : Bool) (plainChecks : Statuses) : CheckM Unit :=
  if save then invoke (CheckQuery.saveChecksDict plainChecks) else pure ()

def getAll (save : Bool) (needed : Option (List String)) : CheckM Statuses := do
  let configChecks ← Subject.config.getAll (allowed needed)
  let skaledChecks ← Subject.skaled.getAll (allowed needed)
  let plainChecks := skaledChecks ∪ configChecks
  let plainChecks :=
    if self.imaLinked then plainChecks else plainChecks.erase "ima_container"
  saveChecksDict save plainChecks
  return plainChecks

end SChainChecks

/-! ### What a run reports -/

/-- The checks answer with statuses in `answers`, and nothing fails by itself. -/
def Answered (answers : String → Bool → Prop) :
    (query : CheckQuery) → Except CheckException query.Reply → Prop
  | .evaluate _ name, .ok status => answers name status
  | .saveChecksDict _, .ok _ => True
  | _, .error _ => False

/-- An attribute error is only known where `raises` holds. -/
def answered (answers : String → Bool → Prop) (raises : Prop) :
    Conduct checkInterface Unit CheckException where
  expected trace := ∀ event ∈ trace, Answered answers event.query event.answer
  allowed _ := True
  known error := error = .attributeError ∧ raises
  keeps _ := raises
  parts given := ⟨fun event member => given event (List.mem_append_left _ member),
    fun event member => given event (List.mem_append_right _ member)⟩

variable {answers : String → Bool → Prop} {raises : Prop} {subject : Subject} {name : String}

theorem not_answered_error {query : CheckQuery} {error : CheckException} :
    ¬ (answered answers raises).expected [⟨query, .error error⟩] := by
  intro expected
  have failed := expected _ List.mem_cons_self
  cases query <;> exact failed

theorem obeys_of_unraised {α : Type} {body : CheckM α} {before : Unit → Prop}
    {after : α → Unit → Prop} (obeys : body.Obeys (answered answers False) before after) :
    body.Obeys (answered answers raises) before after := by
  intro state state' trace outcome holds expected run
  obtain ⟨allowed, ends⟩ := obeys holds expected run
  refine ⟨allowed, ?_⟩
  cases outcome with
  | value result => exact ends
  | raised error => exact ends.1.2.elim
  | running => exact False.elim ends

namespace Subject

theorem hasattr_of_none (absent : subject.attribute name = none) :
    subject.hasattr name = pure false := by
  unfold hasattr getattr
  rw [absent]
  rfl

theorem hasattr_of_other (other : subject.attribute name = some .other) :
    subject.hasattr name = pure true := by
  unfold hasattr getattr
  rw [other]
  rfl

theorem getattr_obeys (check : subject.attribute name = some .check) :
    (subject.getattr name).Obeys (answered answers raises) (fun _ => True)
      fun value _ => ∃ status, value = .checkRes status ∧ answers name status := by
  unfold getattr
  rw [check]
  apply obeys_invoke_bind trivial
  · intro _ _ _ failed
    exact absurd failed not_answered_error
  · intro status expected
    exact obeys_pure fun _ _ => ⟨status, rfl, expected _ List.mem_cons_self⟩

theorem hasattr_obeys (check : subject.attribute name = some .check) :
    (subject.hasattr name).Obeys (answered answers raises) (fun _ => True)
      fun has _ => has = true := by
  apply obeys_of_unraised
  apply obeys_attempt
  · apply obeys_bind _ (getattr_obeys check)
    intro _
    exact obeys_pure fun _ _ => rfl
  · intro _ _ known
    exact known.2.elim

/-- What the loop over the names makes of the statuses before it. -/
structure Extends (subject : Subject) (answers : String → Bool → Prop) (names : List String)
    (before after : Statuses) : Prop where
  attributes : ∀ name ∈ names, subject.attribute name ≠ some .other
  names : ∀ name, name ∈ after ↔ name ∈ before ∨ name ∈ names ∧ name ∈ subject.checks
  statuses : ∀ name status, after.lookup name = some status →
    before.lookup name = some status ∨ answers name status

theorem mem_checks_iff : name ∈ subject.checks ↔ subject.attribute name = some .check := by
  unfold Subject.attribute
  by_cases check : name ∈ subject.checks
  · simp [check]
  · simp only [check, if_false, false_iff]
    split <;> nofun

theorem runChecks_of_none {names : List String} {checksStatus : Statuses}
    (absent : subject.attribute name = none) :
    subject.runChecks (name :: names) checksStatus = subject.runChecks names checksStatus := by
  rw [runChecks, hasattr_of_none absent]
  rfl

theorem runChecks_of_other {names : List String} {checksStatus : Statuses}
    (other : subject.attribute name = some .other) :
    subject.runChecks (name :: names) checksStatus = raise .attributeError := by
  rw [runChecks, hasattr_of_other other, getattr, other]
  rfl

theorem extends_nil {checksStatus : Statuses} :
    subject.Extends answers [] checksStatus checksStatus where
  attributes := nofun
  names := by simp
  statuses _ _ found := .inl found

theorem Extends.skip {names : List String} {before after : Statuses}
    (whole : subject.Extends answers names before after)
    (absent : subject.attribute name = none) :
    subject.Extends answers (name :: names) before after where
  attributes other member := by
    rcases List.mem_cons.mp member with rfl | later
    · rw [absent]
      nofun
    · exact whole.attributes other later
  names other := by
    have apart : name ∉ subject.checks := by
      rw [mem_checks_iff, absent]
      nofun
    rw [whole.names, List.mem_cons]
    constructor
    · rintro (member | ⟨member, check⟩)
      · exact .inl member
      · exact .inr ⟨.inr member, check⟩
    · rintro (member | ⟨rfl | member, check⟩)
      · exact .inl member
      · exact absurd check apart
      · exact .inr ⟨member, check⟩
  statuses := whole.statuses

theorem Extends.insert {names : List String} {before after : Statuses} {status : Bool}
    (whole : subject.Extends answers names (before.insert name status) after)
    (check : subject.attribute name = some .check) (given : answers name status) :
    subject.Extends answers (name :: names) before after where
  attributes other member := by
    rcases List.mem_cons.mp member with rfl | later
    · rw [check]
      nofun
    · exact whole.attributes other later
  names other := by
    rw [whole.names, AList.mem_insert, List.mem_cons]
    constructor
    · rintro ((rfl | member) | ⟨member, listed⟩)
      · exact .inr ⟨.inl rfl, mem_checks_iff.mpr check⟩
      · exact .inl member
      · exact .inr ⟨.inr member, listed⟩
    · rintro (member | ⟨rfl | member, listed⟩)
      · exact .inl (.inr member)
      · exact .inl (.inl rfl)
      · exact .inr ⟨member, listed⟩
  statuses other result found := by
    rcases whole.statuses other result found with earlier | answer
    · by_cases same : other = name
      · subst same
        rw [AList.lookup_insert] at earlier
        cases earlier
        exact .inr given
      · rw [AList.lookup_insert_ne same] at earlier
        exact .inl earlier
    · exact .inr answer

/-- The loop ends with the statuses of the checks among the names, unless one of the names
is that of an attribute which is no check. -/
theorem runChecks_obeys (names : List String) (checksStatus : Statuses)
    (raised : (∃ name ∈ names, subject.attribute name = some .other) → raises) :
    (subject.runChecks names checksStatus).Obeys (answered answers raises) (fun _ => True)
      fun after _ => subject.Extends answers names checksStatus after := by
  induction names generalizing checksStatus with
  | nil => exact obeys_pure fun _ _ => extends_nil
  | cons name names ih =>
      have rest := fun checksStatus => ih checksStatus fun ⟨other, member, kind⟩ =>
        raised ⟨other, List.mem_cons_of_mem _ member, kind⟩
      cases kind : subject.attribute name with
      | none =>
          rw [runChecks_of_none kind]
          exact (rest checksStatus).weaken fun _ _ whole => whole.skip kind
      | some sort =>
          cases sort with
          | other =>
              have may := raised ⟨name, List.mem_cons_self, kind⟩
              rw [runChecks_of_other kind]
              exact obeys_raise ⟨rfl, may⟩ fun _ _ => may
          | check =>
              apply obeys_bind _ (hasattr_obeys kind)
              intro has
              cases has with
              | false =>
                  intro _ _ _ _ absurdity
                  cases absurdity
              | true =>
                  apply obeys_bind _ ((getattr_obeys kind).strengthen fun _ _ => trivial)
                  rintro value state state' trace outcome ⟨status, rfl, given⟩ expected run
                  have whole := (rest (checksStatus.insert name status)).weaken
                    fun _ _ whole => whole.insert kind given
                  exact whole trivial expected run

end Subject

namespace SChainChecks

variable {self : SChainChecks} {save : Bool} {needed : List String}

def Reports (self : SChainChecks) (name : String) : Prop :=
  (∃ subject : Subject, name ∈ subject.checks) ∧
    (name = "ima_container" → self.imaLinked = true)

/-- The statuses of the checks among the names, and nothing else. -/
structure Exactly (checks : SChainChecks) (answers : String → Bool → Prop)
    (names : List String) (statuses : Statuses) : Prop where
  names : ∀ name, name ∈ statuses ↔ name ∈ names ∧ checks.Reports name
  statuses : ∀ name status, statuses.lookup name = some status → answers name status

/-- The name is that of an attribute which is no check. -/
def IsOther (name : String) : Prop :=
  ∃ subject : Subject, subject.attribute name = some .other

theorem getAll_subject_obeys {subject : Subject} {names : List String} (given : names ≠ [])
    (raised : (∃ name ∈ names, IsOther name) → raises) :
    (subject.getAll names).Obeys (answered answers raises) (fun _ => True)
      fun after _ => subject.Extends answers names ∅ after := by
  unfold Subject.getAll
  rw [if_pos given]
  apply Subject.runChecks_obeys
  rintro ⟨name, member, other⟩
  exact raised ⟨name, member, subject, other⟩

/-- The statuses of both objects, without the IMA container where the chain is not linked. -/
theorem exactly_of_extends {names : List String} {configChecks skaledChecks : Statuses}
    (config : Subject.config.Extends answers names ∅ configChecks)
    (skaled : Subject.skaled.Extends answers names ∅ skaledChecks) :
    self.Exactly answers names
      (if self.imaLinked then skaledChecks ∪ configChecks
        else (skaledChecks ∪ configChecks).erase "ima_container") := by
  have member : ∀ name, name ∈ skaledChecks ∪ configChecks ↔
      name ∈ names ∧ ∃ subject : Subject, name ∈ subject.checks := by
    intro name
    rw [AList.mem_union, config.names, skaled.names]
    constructor
    · rintro ((absurdity | ⟨listed, check⟩) | (absurdity | ⟨listed, check⟩))
      · exact absurd absurdity (AList.notMem_empty _)
      · exact ⟨listed, .skaled, check⟩
      · exact absurd absurdity (AList.notMem_empty _)
      · exact ⟨listed, .config, check⟩
    · rintro ⟨listed, subject, check⟩
      cases subject with
      | config => exact .inr (.inr ⟨listed, check⟩)
      | skaled => exact .inl (.inr ⟨listed, check⟩)
  have status : ∀ name status, (skaledChecks ∪ configChecks).lookup name = some status →
      answers name status := by
    intro name status found
    rcases AList.lookup_union_eq_some.mp found with found | ⟨_, found⟩
    · rcases skaled.statuses name status found with absurdity | answer
      · simp at absurdity
      · exact answer
    · rcases config.statuses name status found with absurdity | answer
      · simp at absurdity
      · exact answer
  cases linked : self.imaLinked with
  | true =>
      refine ⟨?_, status⟩
      intro name
      rw [if_pos rfl, member, Reports]
      simp [linked]
  | false =>
      refine ⟨?_, ?_⟩
      · intro name
        rw [if_neg nofun, AList.mem_erase, member, Reports]
        simp only [linked, Bool.false_eq_true, imp_false]
        tauto
      · intro name result found
        rw [if_neg nofun] at found
        by_cases same : name = "ima_container"
        · rw [same, AList.lookup_erase] at found
          cases found
        · rw [AList.lookup_erase_ne same] at found
          exact status name result found

theorem getAll_obeys (self : SChainChecks) (save : Bool) (raises : Prop)
    (given : allowed (some needed) ≠ [])
    (raised : (∃ name ∈ allowed (some needed), IsOther name) → raises) :
    (self.getAll save (some needed)).Obeys (answered answers raises) (fun _ => True)
      fun statuses _ => (∀ name ∈ allowed (some needed), ¬ IsOther name) ∧
        self.Exactly answers (allowed (some needed)) statuses := by
  apply obeys_bind _ (getAll_subject_obeys given raised)
  intro configChecks
  apply obeys_bind fun skaledChecks _ =>
    Subject.config.Extends answers (allowed (some needed)) ∅ configChecks ∧
      Subject.skaled.Extends answers (allowed (some needed)) ∅ skaledChecks
  · intro state state' trace outcome config expected run
    obtain ⟨asked, ends⟩ := getAll_subject_obeys given raised trivial expected run
    refine ⟨asked, ?_⟩
    cases outcome with
    | value skaledChecks => exact ⟨config, ends⟩
    | raised error => exact ends
    | running => exact ends
  intro skaledChecks
  apply obeys_bind fun _ _ =>
    Subject.config.Extends answers (allowed (some needed)) ∅ configChecks ∧
      Subject.skaled.Extends answers (allowed (some needed)) ∅ skaledChecks
  · unfold saveChecksDict
    split
    · apply obeys_invoke trivial
      · intro _ _ _ failed
        exact absurd failed not_answered_error
      · intro _ _ _ holds
        exact holds
    · exact obeys_pure fun _ holds => holds
  intro _
  apply obeys_pure
  rintro _ ⟨config, skaled⟩
  refine ⟨?_, exactly_of_extends config skaled⟩
  rintro name member ⟨subject, other⟩
  cases subject with
  | config => exact config.attributes name member other
  | skaled => exact skaled.attributes name member other

/-- In every run whose checks answer, the call returns the statuses of the checks among
the names. -/
def FiltersExactly (self : SChainChecks) (save : Bool) (needed : List String) : Prop :=
  ∀ (answers : String → Bool → Prop) (trace : Trace checkInterface)
    (outcome : Outcome CheckException Statuses) (state : Unit),
    Runs (self.getAll save (some needed) ()) trace (outcome, state) →
    (∀ event ∈ trace, Answered answers event.query event.answer) →
    ∃ statuses, outcome = .value statuses ∧ self.Exactly answers needed statuses

def passing : Nat → (query : CheckQuery) → Except CheckException query.Reply
  | _, .evaluate _ _ => .ok true
  | _, .saveChecksDict _ => .ok ()

theorem exists_answered_run (self : SChainChecks) (save : Bool) (needed : List String) :
    ∃ (trace : Trace checkInterface) (ended : Outcome CheckException Statuses × Unit),
      Runs (self.getAll save (some needed) ()) trace ended ∧
      ∀ event ∈ trace, Answered (fun _ _ => True) event.query event.answer := by
  let program : Program checkInterface _ := self.getAll save (some needed) ()
  refine ⟨_, _, runs_play passing program 0, ?_⟩
  rintro ⟨query, answer⟩ member
  obtain ⟨clock, given⟩ := answer_of_mem_play member
  change answer = passing clock query at given
  rw [given]
  cases query <;> trivial

theorem allowed_of_ne (given : needed ≠ []) : allowed (some needed) = needed :=
  if_pos given

theorem filtered_of_exactly (claimed : self.FiltersExactly save needed) :
    needed ≠ [] ∧ ∀ name ∈ needed, ¬ IsOther name := by
  obtain ⟨trace, ended, run, answered⟩ := exists_answered_run self save needed
  obtain ⟨statuses, returned, exactly⟩ := claimed _ trace ended.1 ended.2 run answered
  have given : allowed (some needed) ≠ [] := by
    unfold allowed
    split
    · assumption
    · decide
  have obeys := getAll_obeys self save True given (fun _ => trivial) trivial answered run
  rw [returned] at obeys
  obtain ⟨_, others, reports⟩ := obeys
  have filled : needed ≠ [] := by
    rintro rfl
    have reported : "config" ∈ statuses := (reports.names "config").mpr
      ⟨by decide, ⟨.skaled, by decide⟩, nofun⟩
    have listed := ((exactly.names "config").mp reported).1
    cases listed
  rw [allowed_of_ne filled] at others
  exact ⟨filled, others⟩

theorem filtersExactly_of_checks (filled : needed ≠ [])
    (others : ∀ name ∈ needed, ¬ IsOther name) : self.FiltersExactly save needed := by
  intro answers trace outcome state run answered
  rw [← allowed_of_ne filled] at others
  have given : allowed (some needed) ≠ [] := by
    rw [allowed_of_ne filled]
    exact filled
  have obeys := getAll_obeys self save False given
    (fun ⟨name, member, other⟩ => others name member other) trivial answered run
  cases outcome with
  | value statuses =>
      rw [allowed_of_ne filled] at obeys
      exact ⟨statuses, rfl, obeys.2.2⟩
  | raised error => exact obeys.2.1.2.elim
  | running => exact False.elim obeys.2

/-- The filter is exact for a list that is not empty, of names that are not those of other
attributes. -/
theorem getAll_filtersExactly_iff (self : SChainChecks) (save : Bool) (needed : List String) :
    self.FiltersExactly save needed ↔ needed ≠ [] ∧ ∀ name ∈ needed, ¬ IsOther name :=
  ⟨filtered_of_exactly, fun ⟨filled, others⟩ => filtersExactly_of_checks filled others⟩

theorem name_unfiltered :
    ¬ ∃ (self : SChainChecks) (save : Bool), self.FiltersExactly save ["name"] := by
  rintro ⟨self, save, claimed⟩
  exact (filtered_of_exactly claimed).2 "name" List.mem_cons_self ⟨.config, by decide⟩

end SChainChecks

end SkaleAdmin.Web
