import SkaleAdmin.Dkg.AlrightSafety

/-! When `run_dkg` returns with the status DONE. -/

namespace SkaleAdmin.Dkg

open Interaction PyText Program
open Interaction.Procedure (runs_invoke_bind_iff runs_invoke_bind_value)

variable {n : Nat}

def DkgQuery.isCount : DkgQuery → Bool
  | .getNumberOfCompleted => true
  | _ => false

def countOf : Event dkgInterface → Option Nat
  | ⟨.getNumberOfCompleted, .ok completed⟩ => some completed
  | _ => none

/-- The numbers of completed nodes that the contract answered, in order. -/
def completedCounts (trace : Trace dkgInterface) : List Nat :=
  trace.filterMap countOf

@[simp] theorem completedCounts_append (front back : Trace dkgInterface) :
    completedCounts (front ++ back) =
      completedCounts front ++ completedCounts back :=
  List.filterMap_append

theorem completedCounts_eq_nil {trace : Trace dkgInterface}
    (apart : ¬ Poses DkgQuery.isCount trace) : completedCounts trace = [] := by
  apply List.filterMap_eq_nil_iff.mpr
  intro event member
  obtain ⟨query, answer⟩ := event
  cases query with
  | getNumberOfCompleted => exact absurd ⟨_, member, rfl⟩ apart
  | _ => rfl

theorem mem_iff_mem_completedCounts {count : Nat} {trace : Trace dkgInterface} :
    ⟨.getNumberOfCompleted, .ok count⟩ ∈ trace ↔
      count ∈ completedCounts trace := by
  unfold completedCounts
  rw [List.mem_filterMap]
  constructor
  · intro member
    exact ⟨_, member, rfl⟩
  · intro ⟨⟨query, answer⟩, member, same⟩
    cases query <;> cases answer <;> cases same
    exact member

theorem routine_not_count {query : DkgQuery}
    (routine : query.isRoutine = true) : query.isCount = false := by
  cases query <;> first | rfl | cases routine

theorem poll_not_count {query : DkgQuery}
    (poll : query.isPoll = true) : query.isCount = false := by
  cases query <;> first | rfl | cases poll

theorem decision_not_count {query : DkgQuery}
    (decision : query.isDecision = true) : query.isCount = false := by
  cases query <;> first | rfl | cases decision

theorem completedCounts_of_polling {α : Type} {body : ClientM n α}
    (within : body.Within polling) {client client' : DKGClient n}
    {trace : Trace dkgInterface} {outcome : Outcome PyError α}
    (run : Runs (body client) trace (outcome, client')) :
    completedCounts trace = [] := by
  apply completedCounts_eq_nil
  apply within.not_poses _ run
  intro query calls
  exact calls.elim routine_not_count poll_not_count

theorem completedCounts_of_settled {α : Type} {body : ClientM n α}
    (within : body.Within settled) {client client' : DKGClient n}
    {trace : Trace dkgInterface} {outcome : Outcome PyError α}
    (run : Runs (body client) trace (outcome, client')) :
    completedCounts trace = [] :=
  completedCounts_of_polling (within_polling_of_settled within) run

theorem completedCounts_of_generating {α : Type} {body : ClientM n α}
    (within : body.Within generating) {client client' : DKGClient n}
    {trace : Trace dkgInterface} {outcome : Outcome PyError α}
    (run : Runs (body client) trace (outcome, client')) :
    completedCounts trace = [] := by
  apply completedCounts_eq_nil
  apply within.not_poses _ run
  rintro query (routine | rfl)
  · exact routine_not_count routine
  · rfl

theorem completedCounts_of_quiet {α : Type} {body : ClientM n α}
    (within : body.Within quiet) {client client' : DKGClient n}
    {trace : Trace dkgInterface} {outcome : Outcome PyError α}
    (run : Runs (body client) trace (outcome, client')) :
    completedCounts trace = [] :=
  completedCounts_of_settled (within_settled_of_quiet within) run

theorem completedCounts_of_alright {client client' : DKGClient n}
    {trace : Trace dkgInterface} {outcome : Outcome PyError (Fin n → Bool)}
    (run : Runs (initBlsAlright client) trace (outcome, client')) :
    completedCounts trace = [] := by
  apply completedCounts_eq_nil
  apply initBlsAlright_beside.not_poses _ run
  intro query calls
  exact calls.elim routine_not_count decision_not_count

theorem initBlsAwaitCompletion_counts {fuel : Nat} {time : Int}
    {client client' : DKGClient n} {trace : Trace dkgInterface}
    (run : Runs (initBlsAwaitCompletion fuel time client) trace
      (.value (), client')) :
    ∃ count rest, trace = ⟨.getNumberOfCompleted, .ok count⟩ :: rest ∧
      completedCounts rest = [] := by
  simp only [initBlsAwaitCompletion, DKGClient.isEveryoneSentAlgright,
    Procedure.bind_assoc, Procedure.read_bind_apply] at run
  obtain ⟨count, rest, rfl, afterCount⟩ := runs_invoke_bind_value run
  refine ⟨count, rest, rfl, ?_⟩
  rw [Procedure.pure_bind_apply] at afterCount
  split at afterCount
  · refine completedCounts_of_quiet (Procedure.within_bind
      checkNoComplaints_quiet fun noComplaints => ?_) afterCount
    split
    · exact waitForFail_quiet _ _ _
    · exact Procedure.within_pure _
  · exact completedCounts_of_quiet (Procedure.within_pure _) afterCount

/-- The entry of `run_dkg` finds DKG incomplete and its channel closed. -/
def EntersClosed (trace : Trace dkgInterface) : Prop :=
  ∃ (nodes : List SchainNode) (completed : Nat) (rest : Trace dkgInterface),
    completed ≠ nodes.length ∧
    trace = ⟨.getNodesForSchain, .ok nodes⟩ ::
      ⟨.getNumberOfCompleted, .ok completed⟩ ::
      ⟨.isChannelOpened, .ok false⟩ :: rest

/-! ### The common public key -/

def KeyAnswered (trace : Trace dkgInterface) : Prop :=
  ∃ key, ⟨.getCommonPublicKey, .ok key⟩ ∈ trace

theorem keyAnswered_append {front back : Trace dkgInterface} :
    KeyAnswered (front ++ back) ↔ KeyAnswered front ∨ KeyAnswered back := by
  unfold KeyAnswered
  simp only [List.mem_append, exists_or]

theorem not_keyAnswered_of_forall {trace : Trace dkgInterface}
    (other : ∀ event ∈ trace, event.query ≠ .getCommonPublicKey) : ¬ KeyAnswered trace := by
  rintro ⟨key, member⟩
  exact other _ member rfl

theorem not_keyAnswered_of_settled {α : Type} {body : ClientM n α}
    (within : body.Within settled) {client client' : DKGClient n}
    {trace : Trace dkgInterface} {outcome : Outcome PyError α}
    (run : Runs (body client) trace (outcome, client')) : ¬ KeyAnswered trace :=
  not_keyAnswered_of_forall fun event member =>
    routine_ne_commonPublicKey ((within run).1 event member)

theorem keyRequests_answered {client client' : DKGClient n} {trace : Trace dkgInterface}
    {outcome : Outcome PyError (List (List Text) × List Text)}
    (run : Runs ((do
      obtainBlsKey
      let blsPublicKeys ← DKGClient.getBlsPublicKeys
      let commonPublicKey ← getCommonBlsPublicKey
      return (blsPublicKeys, commonPublicKey) :
        ClientM n (List (List Text) × List Text)) client) trace (outcome, client')) :
    KeyAnswered trace ↔ ∃ keys, outcome = .value keys := by
  rcases Procedure.runs_bind_iff.mp run with
    ⟨_, _, obtained, rest, rfl, first, run⟩ | ⟨_, rfl, first⟩ | ⟨rfl, first⟩
  swap
  · simp [not_keyAnswered_of_settled obtainBlsKey_settled first]
  swap
  · simp [not_keyAnswered_of_settled obtainBlsKey_settled first]
  rw [keyAnswered_append,
    or_iff_right (not_keyAnswered_of_settled obtainBlsKey_settled first)]
  rcases Procedure.runs_bind_iff.mp run with
    ⟨_, _, public', rest, rfl, second, run⟩ | ⟨_, rfl, second⟩ | ⟨rfl, second⟩
  swap
  · simp [not_keyAnswered_of_settled getBlsPublicKeys_settled second]
  swap
  · simp [not_keyAnswered_of_settled getBlsPublicKeys_settled second]
  rw [keyAnswered_append,
    or_iff_right (not_keyAnswered_of_settled getBlsPublicKeys_settled second)]
  unfold getCommonBlsPublicKey at run
  rw [Procedure.bind_assoc] at run
  rcases runs_invoke_bind_iff.mp run with ⟨key, rest, rfl, returned⟩ | ⟨_, rfl, rfl, _⟩
  · rw [Procedure.pure_bind_apply] at returned
    obtain ⟨rfl, rfl, _⟩ := Procedure.runs_pure_iff.mp returned
    simp [KeyAnswered]
  · simp [KeyAnswered]

theorem generateBlsKeys_answered {client client' : DKGClient n}
    {trace : Trace dkgInterface} {outcome : Outcome PyError KeysData}
    (run : Runs (generateBlsKeys client) trace (outcome, client')) :
    KeyAnswered trace ↔
      (∃ keys, outcome = .value keys) ∨ outcome = .raised .attributeError := by
  unfold generateBlsKeys at run
  rcases Procedure.runs_bind_iff.mp run with
    ⟨⟨blsPublicKeys, common⟩, middle, front, back, rfl, requested, run⟩ |
    ⟨error, rfl, requested⟩ | ⟨rfl, requested⟩
  · rcases Procedure.runs_attempt_iff.mp requested with
      ⟨_, same, body⟩ | ⟨_, clause, _, _, _, _, handled, _, clauseRun⟩ |
      ⟨_, absurdity, _⟩ | ⟨absurdity, _⟩
    · have answered : KeyAnswered front := (keyRequests_answered body).mpr ⟨_, rfl⟩
      rw [keyAnswered_append, iff_true_left (.inl answered)]
      simp only [DKGClient.setStep, Procedure.modify_bind_apply,
        Procedure.read_bind_apply] at run
      cases found : middle.publicKey with
      | none =>
          simp only [id, found, getOr_none, Procedure.raise_bind_apply] at run
          exact .inr (Procedure.runs_raise_iff.mp run).2.1
      | some publicKey =>
          simp only [id, found, getOr_some, Procedure.pure_bind_apply] at run
          exact .inl ⟨_, (Procedure.runs_pure_iff.mp run).2.1⟩
    · obtain rfl := Option.some.inj handled
      obtain ⟨_, absurdity, _⟩ := Procedure.runs_raise_iff.mp clauseRun
      cases absurdity
    · cases absurdity
    · cases absurdity
  · rcases Procedure.runs_attempt_iff.mp requested with
      ⟨_, absurdity, _⟩ | ⟨cause, clause, _, front, back, rfl, handled, body, clauseRun⟩ |
      ⟨_, _, unhandled, _⟩ | ⟨absurdity, _⟩
    · cases absurdity
    · obtain rfl := Option.some.inj handled
      obtain ⟨rfl, same, _⟩ := Procedure.runs_raise_iff.mp clauseRun
      cases same
      rw [List.append_nil, keyRequests_answered body]
      simp
    · cases unhandled
    · cases absurdity
  · rcases Procedure.runs_attempt_iff.mp requested with
      ⟨_, absurdity, _⟩ | ⟨cause, clause, _, front, back, rfl, handled, body, clauseRun⟩ |
      ⟨_, absurdity, _⟩ | ⟨_, body⟩
    · cases absurdity
    · obtain rfl := Option.some.inj handled
      obtain ⟨_, absurdity, _⟩ := Procedure.runs_raise_iff.mp clauseRun
      cases absurdity
    · cases absurdity
    · rw [keyRequests_answered body]
      simp

/-- A run that returns is DONE exactly when the common public key was answered. -/
theorem done_iff_keyAnswered {fuel rotationId : Nat} {client client' : DKGClient n}
    {trace : Trace dkgInterface} {result : DKGResult}
    (run : Runs (runDkg fuel rotationId client) trace (.value result, client')) :
    result.status = .DONE ↔ KeyAnswered trace := by
  obtain ⟨status, middle, front, back, rfl, procedure, run⟩ :=
    Procedure.runs_bind_value run
  obtain ⟨⟨keysData, ended⟩, last, keys, _, rfl, generation, returned⟩ :=
    Procedure.runs_bind_value run
  obtain ⟨rfl, same, rfl⟩ := Procedure.runs_pure_iff.mp returned
  cases same
  have unanswered : ¬ KeyAnswered front :=
    not_keyAnswered_of_forall (runDkgProcedure_keepsPlace _ _ procedure).1
  have done : finalStatus keysData ended = .DONE ↔ keysData.isSome = true := by
    unfold finalStatus
    split
    · simp [*]
    · split <;> simp [*]
  rw [done, List.append_nil, keyAnswered_append, or_iff_right unanswered]
  unfold runDkgKeyGeneration at generation
  split at generation
  · rcases Procedure.runs_attempt_iff.mp generation with
      ⟨_, same, body⟩ | ⟨error, clause, _, front, back, rfl, handled, body, clauseRun⟩ |
      ⟨_, absurdity, _⟩ | ⟨absurdity, _⟩
    · cases same
      obtain ⟨made, _, _, _, rfl, generated, returned⟩ := Procedure.runs_bind_value body
      obtain ⟨rfl, same, _⟩ := Procedure.runs_pure_iff.mp returned
      cases same
      rw [List.append_nil, generateBlsKeys_answered generated]
      simp
    · cases error <;> cases handled
      obtain ⟨rfl, same, _⟩ := Procedure.runs_pure_iff.mp clauseRun
      cases same
      rcases Procedure.runs_bind_raised body with ⟨_, _, _, _, _, _, returned⟩ | generated
      · obtain ⟨_, absurdity, _⟩ := Procedure.runs_pure_iff.mp returned
        cases absurdity
      · rw [List.append_nil, generateBlsKeys_answered generated]
        simp
    · cases absurdity
    · cases absurdity
  · obtain ⟨rfl, same, _⟩ := Procedure.runs_pure_iff.mp generation
    cases same
    simp [KeyAnswered]

/-! ### The flags of the alright -/

/-- The answers show that the node is completed: the contract has all its data or
took its alright. -/
def Group.ShowsCompleted (group : Group n) (trace : Trace dkgInterface)
    (index : Fin n) : Prop :=
  ⟨.isAllDataReceived (group.nodeIdsDkg index), .ok true⟩ ∈ trace ∨
    ⟨.alright (group.nodeIdsDkg index), .ok ()⟩ ∈ trace

theorem Group.ShowsCompleted.mono {group : Group n} {trace more : Trace dkgInterface}
    {index : Fin n} (shows : group.ShowsCompleted trace index) (contained : trace ⊆ more) :
    group.ShowsCompleted more index :=
  shows.imp (fun member => contained member) fun member => contained member

def Flags (group : Group n) (sent : Fin n → Bool) (trace : Trace dkgInterface)
    (sent' : Fin n → Bool) : Prop :=
  ∀ index, sent' index = true → sent index = true ∨ group.ShowsCompleted trace index

theorem Flags.append {group : Group n} {sent between sent' : Fin n → Bool}
    {front back : Trace dkgInterface} (first : Flags group sent front between)
    (later : Flags group between back sent') : Flags group sent (front ++ back) sent' := by
  intro index flag
  rcases later index flag with flag | shows
  · exact (first index flag).imp_right fun shows =>
      shows.mono (List.subset_append_left _ _)
  · exact .inr (shows.mono (List.subset_append_right _ _))

theorem flags_same (group : Group n) (sent : Fin n → Bool) (trace : Trace dkgInterface) :
    Flags group sent trace sent :=
  fun _ flag => .inl flag

theorem refreshAlright_flags {nodes : List (Fin n)} {sent sent' : Fin n → Bool}
    {client client' : DKGClient n} {trace : Trace dkgInterface}
    (run : Runs (refreshAlright nodes sent client) trace (.value sent', client')) :
    Flags client.group sent trace sent' := by
  induction nodes generalizing sent client trace with
  | nil =>
      obtain ⟨_, same, _⟩ := Procedure.runs_pure_iff.mp run
      cases same
      exact flags_same _ _ _
  | cons node rest ih =>
      unfold refreshAlright at run
      split at run
      · simp only [DKGClient.isAllDataReceived, Procedure.bind_assoc,
          Procedure.read_bind_apply] at run
        obtain ⟨received, later, rfl, refreshed⟩ := runs_invoke_bind_value run
        rw [← List.singleton_append]
        refine Flags.append ?_ (ih refreshed)
        intro index flag
        by_cases same : index = node
        · rw [same, Function.update_self] at flag
          subst same
          subst flag
          exact .inr (.inl (List.mem_singleton_self _))
        · rw [Function.update_of_ne same] at flag
          exact .inl flag
      · exact ih run

theorem alrightRound_flags {start : Int} {sent : Fin n → Bool}
    {client client' : DKGClient n} {trace : Trace dkgInterface}
    {ended : (Fin n → Bool) ⊕ (Fin n → Bool)}
    (run : Runs (alrightRound start sent client) trace (.value ended, client')) :
    ∃ sent', (ended = .inl sent' ∨ ended = .inr sent') ∧
      Flags client.group sent trace sent' := by
  unfold alrightRound at run
  split at run
  · obtain ⟨_, same, _⟩ := Procedure.runs_pure_iff.mp run
    cases same
    exact ⟨sent, .inr rfl, flags_same _ _ _⟩
  rw [Procedure.read_bind_apply] at run
  obtain ⟨_, first, _, _, rfl, checked, run⟩ := Procedure.runs_bind_value run
  obtain ⟨noComplaints, second, _, _, rfl, asked, run⟩ := Procedure.runs_bind_value run
  split at run
  · obtain ⟨_, same, _⟩ := Procedure.runs_pure_iff.mp run
    cases same
    exact ⟨sent, .inr rfl, flags_same _ _ _⟩
  obtain ⟨now, third, _, _, rfl, timed, run⟩ := Procedure.runs_bind_value run
  split at run
  · obtain ⟨_, same, _⟩ := Procedure.runs_pure_iff.mp run
    cases same
    exact ⟨sent, .inr rfl, flags_same _ _ _⟩
  obtain ⟨sent', _, front, _, rfl, refreshed, run⟩ := Procedure.runs_bind_value run
  obtain ⟨_, _, _, _, rfl, _, run⟩ := Procedure.runs_bind_value run
  obtain ⟨_, same, _⟩ := Procedure.runs_pure_iff.mp run
  cases same
  have group : third.group = client.group := by
    have firstKept := congrArg Held.toPlace (checkFailedDkg_quiet _ checked).2
    have secondKept := congrArg Held.toPlace (checkNoComplaints_quiet asked).2
    have thirdKept := congrArg Held.toPlace
      ((quiet_invoke rfl : (getLatestBlockTimestamp : ClientM n Int).Within quiet) timed).2
    exact congrArg Place.group (thirdKept.trans (secondKept.trans firstKept))
  have flags := refreshAlright_flags refreshed
  rw [group] at flags
  refine ⟨sent', .inl rfl, fun index flag => (flags index flag).imp_right fun shows => ?_⟩
  apply shows.mono
  intro event member
  simp [member]

theorem alrightRound_group {start : Int} {sent : Fin n → Bool}
    {client client' : DKGClient n} {trace : Trace dkgInterface}
    {outcome : Outcome PyError ((Fin n → Bool) ⊕ (Fin n → Bool))}
    (run : Runs (alrightRound start sent client) trace (outcome, client')) :
    client'.group = client.group :=
  congrArg (fun held => held.toPlace.group) (alrightRound_quiet _ _ run).2

theorem iterate_alrightRound_flags {start : Int} {fuel : Nat} {sent sent' : Fin n → Bool}
    {client client' : DKGClient n} {trace : Trace dkgInterface}
    (run : Runs (Procedure.iterate (alrightRound start) fuel sent client) trace
      (.value sent', client')) :
    Flags client.group sent trace sent' := by
  induction fuel generalizing sent client trace with
  | zero =>
      obtain ⟨_, absurdity, _⟩ := Procedure.runs_cutOff_iff.mp run
      cases absurdity
  | succ fuel ih =>
      obtain ⟨ended, middle, front, back, rfl, round, run⟩ := Procedure.runs_bind_value run
      obtain ⟨between, ends, flags⟩ := alrightRound_flags round
      rcases ends with rfl | rfl
      · have later := ih run
        rw [alrightRound_group round] at later
        exact flags.append later
      · obtain ⟨rfl, same, _⟩ := Procedure.runs_pure_iff.mp run
        cases same
        rw [List.append_nil]
        exact flags

theorem initBlsCollectAlright_flags {fuel : Nat} {sent sent' : Fin n → Bool}
    {client client' : DKGClient n} {trace : Trace dkgInterface}
    (run : Runs (initBlsCollectAlright fuel sent client) trace (.value sent', client')) :
    Flags client.group sent trace sent' := by
  unfold initBlsCollectAlright at run
  rw [Procedure.read_bind_apply] at run
  obtain ⟨_, first, _, _, rfl, checked, run⟩ := Procedure.runs_bind_value run
  obtain ⟨_, second, _, _, rfl, responded, run⟩ := Procedure.runs_bind_value run
  obtain ⟨start, rest, rfl, afterStart⟩ := runs_invoke_bind_value run
  obtain ⟨collected, third, _, _, rfl, looped, run⟩ :=
    Procedure.runs_bind_value afterStart
  obtain ⟨_, _, _, _, rfl, _, run⟩ := Procedure.runs_bind_value run
  obtain ⟨_, _, _, _, rfl, _, run⟩ := Procedure.runs_bind_value run
  obtain ⟨_, same, _⟩ := Procedure.runs_pure_iff.mp run
  cases same
  have group : second.group = client.group := by
    have firstKept := congrArg Held.toPlace (checkFailedDkg_quiet _ checked).2
    have secondKept := congrArg Held.toPlace (checkResponse_quiet _ responded).2
    exact congrArg Place.group (secondKept.trans firstKept)
  have flags := iterate_alrightRound_flags looped
  rw [group] at flags
  refine fun index flag => (flags index flag).imp_right fun shows => ?_
  apply shows.mono
  intro event member
  simp [member]

/-! ### The decision -/

/-- The contract is asked about the alright of the node and does not let it be
sent. -/
def DKGClient.AlrightRefused (client : DKGClient n) (trace : Trace dkgInterface) : Prop :=
  (∃ answer, ⟨.isAlrightPossible client.nodeIdContract, .ok answer⟩ ∈ trace) ∧
    ¬ permission client <:+: trace

/-- What the decision on the alright leaves behind. -/
inductive Decided (client : DKGClient n) (decision : Trace dkgInterface)
    (sent : Fin n → Bool) : Prop
  | complained (none : sent = fun _ => false)
      (undecided : ∀ event ∈ decision, event.query.isDecision = false)
  | received (shows : client.group.ShowsCompleted decision client.nodeIdDkg)
      (undecided : ∀ event ∈ decision, event.query.isDecision = false)
  | taken (shows : client.group.ShowsCompleted decision client.nodeIdDkg)
      (sends : SendsAlright decision)
  | refused (complaint : Event dkgInterface) (rest : Trace dkgInterface) (answer : Bool)
      (split : decision = complaint ::
        ⟨.isAllDataReceived client.nodeIdContract, .ok false⟩ :: rest)
      (asked : ⟨.isAlrightPossible client.nodeIdContract, .ok answer⟩ ∈ rest)
      (unsent : ¬ SendsAlright decision)

theorem alright_decided {client client' : DKGClient n} {trace : Trace dkgInterface}
    (run : Runs (DKGClient.alright client) trace (.value (), client')) :
    (client.group.ShowsCompleted trace client.nodeIdDkg ∧ SendsAlright trace) ∨
      (∃ answer, ⟨.isAlrightPossible client.nodeIdContract, .ok answer⟩ ∈ trace) ∧
        ¬ SendsAlright trace := by
  unfold DKGClient.alright DKGClient.isChannelOpened at run
  rw [Procedure.read_bind_apply] at run
  obtain ⟨possible, rest, rfl, onPossible⟩ := runs_invoke_bind_value run
  cases possible with
  | false =>
      obtain ⟨rfl, _, _⟩ := Procedure.runs_pure_iff.mp onPossible
      exact .inr ⟨⟨false, List.mem_cons_self⟩, by simp [DkgQuery.isAlright]⟩
  | true =>
      obtain ⟨opened, rest, rfl, onOpened⟩ := runs_invoke_bind_value onPossible
      cases opened with
      | false =>
          obtain ⟨rfl, _, _⟩ := Procedure.runs_pure_iff.mp onOpened
          exact .inr ⟨⟨true, List.mem_cons_self⟩, by simp [DkgQuery.isAlright]⟩
      | true =>
          obtain ⟨sent, rest, rfl, _⟩ := runs_invoke_bind_value onOpened
          refine .inl ⟨.inr ?_, by simp [DkgQuery.isAlright]⟩
          simp [DKGClient.nodeIdContract]

theorem ensureAlright_decided {client client' : DKGClient n} {trace : Trace dkgInterface}
    (run : Runs (ensureAlright client) trace (.value (), client')) :
    (client.group.ShowsCompleted trace client.nodeIdDkg ∧
        ∀ event ∈ trace, event.query.isDecision = false) ∨
      (client.group.ShowsCompleted trace client.nodeIdDkg ∧ SendsAlright trace) ∨
      ∃ rest answer,
        trace = ⟨.isAllDataReceived client.nodeIdContract, .ok false⟩ :: rest ∧
        ⟨.isAlrightPossible client.nodeIdContract, .ok answer⟩ ∈ rest ∧
        ¬ SendsAlright trace := by
  simp only [ensureAlright, DKGClient.isAllDataReceived, Procedure.bind_assoc,
    Procedure.read_bind_apply] at run
  obtain ⟨received, rest, rfl, onReceived⟩ := runs_invoke_bind_value run
  cases received with
  | true =>
      rw [if_pos rfl] at onReceived
      obtain ⟨rfl, _, _⟩ := Procedure.runs_modify_iff.mp onReceived
      refine .inl ⟨.inl List.mem_cons_self, ?_⟩
      intro event member
      rw [List.mem_singleton.mp member]
      rfl
  | false =>
      rw [if_neg Bool.false_ne_true] at onReceived
      rcases alright_decided onReceived with ⟨shows, sends⟩ | ⟨⟨answer, asked⟩, unsent⟩
      · refine .inr (.inl ⟨shows.mono (List.subset_cons_self _ _), ?_⟩)
        exact poses_cons.mpr (.inr sends)
      · refine .inr (.inr ⟨rest, answer, rfl, asked, ?_⟩)
        simpa [DkgQuery.isAlright] using unsent

theorem initBlsAlright_decided {client client' : DKGClient n}
    {decision : Trace dkgInterface} {sent : Fin n → Bool}
    (run : Runs (initBlsAlright client) decision (.value sent, client')) :
    Decided client decision sent ∧
      ∀ index, sent index = true → index = client.nodeIdDkg := by
  unfold initBlsAlright checkNoComplaints at run
  simp only [Procedure.bind_assoc, Procedure.read_bind_apply] at run
  obtain ⟨complaint, rest, rfl, onComplaint⟩ := runs_invoke_bind_value run
  rw [Procedure.pure_bind_apply] at onComplaint
  split at onComplaint
  · obtain ⟨_, _, ensure, _, rfl, ensured, returned⟩ :=
      Procedure.runs_bind_value onComplaint
    obtain ⟨rfl, same, _⟩ := Procedure.runs_pure_iff.mp returned
    cases same
    rw [List.append_nil]
    constructor
    · rcases ensureAlright_decided ensured with
        ⟨shows, undecided⟩ | ⟨shows, sends⟩ | ⟨rest, answer, rfl, asked, unsent⟩
      · apply Decided.received (shows.mono (List.subset_cons_self _ _))
        exact List.forall_mem_cons.mpr ⟨rfl, undecided⟩
      · apply Decided.taken (shows.mono (List.subset_cons_self _ _))
        exact poses_cons.mpr (.inr sends)
      · apply Decided.refused _ rest answer rfl asked
        simpa [DkgQuery.isAlright] using unsent
    · intro index flag
      by_contra other
      have unset : Function.update (fun _ => false) client.nodeIdDkg true index = false :=
        Function.update_of_ne other ..
      exact Bool.false_ne_true (unset.symm.trans flag)
  · obtain ⟨rfl, same, _⟩ := Procedure.runs_pure_iff.mp onComplaint
    cases same
    refine ⟨.complained rfl ?_, fun _ flag => by cases flag⟩
    intro event member
    rw [List.mem_singleton.mp member]
    rfl

theorem alrightRefused_iff {client client' : DKGClient n}
    {before decision after : Trace dkgInterface} {outcome : Outcome PyError (Fin n → Bool)}
    (run : Runs (initBlsAlright client) decision (outcome, client'))
    (undecidedBefore : ∀ event ∈ before, event.query.isDecision = false)
    (undecidedAfter : ∀ event ∈ after, event.query.isDecision = false) :
    client.AlrightRefused (before ++ (decision ++ after)) ↔
      (∃ answer, ⟨.isAlrightPossible client.nodeIdContract, .ok answer⟩ ∈ decision) ∧
        ¬ SendsAlright decision := by
  unfold DKGClient.AlrightRefused
  rw [permission_infix_iff run undecidedBefore undecidedAfter]
  refine and_congr_left fun _ => exists_congr fun answer => ?_
  constructor
  · intro member
    rcases List.mem_append.mp member with early | late
    · cases undecidedBefore _ early
    · rcases List.mem_append.mp late with here | late
      · exact here
      · cases undecidedAfter _ late
  · intro member
    exact List.mem_append_right _ (List.mem_append_left _ member)

/-! ### The count at the end of `init_bls` -/

/-- What the run of `init_bls` tells about the nodes before it asks for the count. -/
structure AsksCount (client : DKGClient n) (init before : Trace dkgInterface) (last : Nat)
    (after : Trace dkgInterface) : Prop where
  split : init = before ++ ⟨.getNumberOfCompleted, .ok last⟩ :: after
  uncountedBefore : completedCounts before = []
  uncountedAfter : completedCounts after = []
  accepted : ∀ entry keys : Trace dkgInterface,
    (∀ event ∈ entry, event.query.isDecision = false) →
    (∀ event ∈ keys, event.query.isDecision = false) →
    ¬ client.AlrightRefused (entry ++ (init ++ keys)) →
    ∀ index, client.group.ShowsCompleted before index
  refused : ∀ entry keys : Trace dkgInterface,
    (∀ event ∈ entry, event.query.isDecision = false) →
    (∀ event ∈ keys, event.query.isDecision = false) →
    client.AlrightRefused (entry ++ (init ++ keys)) →
    ∃ earlier middle,
      before = earlier ++ ⟨.isAllDataReceived client.nodeIdContract, .ok false⟩ :: middle ∧
        ¬ SendsAlright middle

theorem initBlsFinish_parts {fuel : Nat} {time : Int} {sent : Fin n → Bool}
    {client client' : DKGClient n} {trace : Trace dkgInterface}
    (run : Runs (initBlsFinish fuel time sent client) trace (.value (), client')) :
    ∃ collect last after sent',
      trace = collect ++ ⟨.getNumberOfCompleted, .ok last⟩ :: after ∧
      completedCounts collect = [] ∧ completedCounts after = [] ∧
      Flags client.group sent collect sent' ∧ AllTrue sent' ∧
      ¬ SendsAlright collect := by
  unfold initBlsFinish at run
  rw [Procedure.read_bind_apply] at run
  obtain ⟨sent', _, collect, _, rfl, collectRun, run⟩ := Procedure.runs_bind_value run
  obtain ⟨_, _, completion, _, rfl, completionRun, run⟩ := Procedure.runs_bind_value run
  obtain ⟨_, _, resolve, _, rfl, resolveRun, run⟩ := Procedure.runs_bind_value run
  have complete : AllTrue sent' := by
    by_contra incomplete
    rw [if_neg incomplete] at run
    obtain ⟨_, absurdity, _⟩ := Procedure.runs_raise_iff.mp run
    cases absurdity
  rw [if_pos complete] at run
  obtain ⟨rfl, _, _⟩ := Procedure.runs_pure_iff.mp run
  obtain ⟨last, rest, rfl, uncounted⟩ := initBlsAwaitCompletion_counts completionRun
  refine ⟨collect, last, rest ++ (resolve ++ []), sent', by simp, ?_, ?_,
    initBlsCollectAlright_flags collectRun, complete, ?_⟩
  · exact completedCounts_of_quiet (initBlsCollectAlright_quiet _ _) collectRun
  · rw [completedCounts_append, uncounted, List.append_nil,
      completedCounts_of_quiet (initBlsResolveComplaint_quiet _ _) resolveRun]
    rfl
  · exact not_sends_of_undecided
      (quiet_not_decision (initBlsCollectAlright_quiet _ _) collectRun)

theorem undecided_not_received {trace : Trace dkgInterface} {nodeId : Nat} {answer : Bool}
    (undecided : ∀ event ∈ trace, event.query.isDecision = false) :
    ⟨.isAlrightPossible nodeId, .ok answer⟩ ∉ trace := by
  intro member
  cases undecided _ member

theorem Decided.shows_own {client : DKGClient n} {decision : Trace dkgInterface}
    {sent : Fin n → Bool} (decided : Decided client decision sent)
    (flag : sent client.nodeIdDkg = true)
    (accepted : ¬ ((∃ answer, ⟨.isAlrightPossible client.nodeIdContract, .ok answer⟩ ∈ decision) ∧
      ¬ SendsAlright decision)) :
    client.group.ShowsCompleted decision client.nodeIdDkg := by
  cases decided with
  | complained none _ =>
      rw [none] at flag
      cases flag
  | received shows _ => exact shows
  | taken shows _ => exact shows
  | refused complaint rest answer split asked unsent =>
      refine absurd ⟨⟨answer, ?_⟩, unsent⟩ accepted
      rw [split]
      exact List.mem_cons_of_mem _ (List.mem_cons_of_mem _ asked)

theorem Decided.unreceived {client : DKGClient n} {decision : Trace dkgInterface}
    {sent : Fin n → Bool} (decided : Decided client decision sent)
    (asked : ∃ answer, ⟨.isAlrightPossible client.nodeIdContract, .ok answer⟩ ∈ decision)
    (unsent : ¬ SendsAlright decision) :
    ∃ complaint rest, decision =
        complaint :: ⟨.isAllDataReceived client.nodeIdContract, .ok false⟩ :: rest ∧
      ¬ SendsAlright rest := by
  obtain ⟨answer, asked⟩ := asked
  cases decided with
  | complained _ undecided => exact absurd asked (undecided_not_received undecided)
  | received _ undecided => exact absurd asked (undecided_not_received undecided)
  | taken _ sends => exact absurd sends unsent
  | refused complaint rest answer split asked unsent =>
      refine ⟨complaint, rest, split, fun sends => unsent ?_⟩
      rw [split]
      exact poses_cons.mpr (.inr (poses_cons.mpr (.inr sends)))

theorem initBls_asksCount {fuel rotationId : Nat} {client client' : DKGClient n}
    {init : Trace dkgInterface}
    (run : Runs (initBls fuel rotationId client) init (.value (), client')) :
    ∃ before last after, AsksCount client init before last after := by
  obtain ⟨⟨time, result⟩, middle, broadcasts, _, rfl, collected, run⟩ :=
    Procedure.runs_bind_value run
  obtain ⟨_, reached, await, _, rfl, awaited, run⟩ := Procedure.runs_bind_value run
  obtain ⟨sent, later, decision, finish, rfl, decided, finished⟩ :=
    Procedure.runs_bind_value run
  obtain ⟨collect, last, after, sent', rfl, uncounted, uncountedAfter, flags, complete,
    unsent⟩ := initBlsFinish_parts finished
  have place : reached.place = client.place :=
    (congrArg Held.toPlace (initBlsAwait_quiet _ _ awaited).2).trans
      (initBlsBroadcast_polling _ _ collected).2
  have group : reached.group = client.group := congrArg Place.group place
  have node : reached.nodeIdDkg = client.nodeIdDkg := congrArg Place.nodeIdDkg place
  have laterGroup : later.group = client.group :=
    (congrArg (fun held => held.toPlace.group) (initBlsAlright_beside decided).2).trans group
  have sameId : reached.nodeIdContract = client.nodeIdContract := by
    unfold DKGClient.nodeIdContract
    rw [group, node]
  have samePermission := permission_of_await collected awaited
  have undecidedBefore : ∀ event ∈ broadcasts ++ await, event.query.isDecision = false :=
    List.forall_mem_append.mpr ⟨initBlsBroadcast_not_decision collected,
      quiet_not_decision (initBlsAwait_quiet _ _) awaited⟩
  have undecidedAfter := initBlsFinish_not_decision finished
  obtain ⟨ended, own⟩ := initBlsAlright_decided decided
  have refusedIff : ∀ entry keys : Trace dkgInterface,
      (∀ event ∈ entry, event.query.isDecision = false) →
      (∀ event ∈ keys, event.query.isDecision = false) →
      (client.AlrightRefused (entry ++ ((broadcasts ++ (await ++ (decision ++ (collect ++
        ⟨.getNumberOfCompleted, .ok last⟩ :: after)))) ++ keys)) ↔
        (∃ answer, ⟨.isAlrightPossible reached.nodeIdContract, .ok answer⟩ ∈ decision) ∧
          ¬ SendsAlright decision) := by
    intro entry keys undecidedEntry undecidedKeys
    rw [← alrightRefused_iff decided
      (List.forall_mem_append.mpr ⟨undecidedEntry, undecidedBefore⟩)
      (List.forall_mem_append.mpr ⟨undecidedAfter, undecidedKeys⟩)]
    unfold DKGClient.AlrightRefused
    rw [samePermission, sameId]
    simp only [List.append_assoc, List.cons_append]
  refine ⟨broadcasts ++ (await ++ (decision ++ collect)), last, after, by simp, ?_,
    uncountedAfter, ?_, ?_⟩
  · simp only [completedCounts_append, uncounted,
      completedCounts_of_polling (initBlsBroadcast_polling _ _) collected,
      completedCounts_of_quiet (initBlsAwait_quiet _ _) awaited,
      completedCounts_of_alright decided, List.nil_append]
  · intro entry keys undecidedEntry undecidedKeys accepted index
    rw [refusedIff entry keys undecidedEntry undecidedKeys] at accepted
    rw [laterGroup] at flags
    have inside : decision ⊆ broadcasts ++ (await ++ (decision ++ collect)) := by
      intro event member
      simp [member]
    rcases flags index (complete index) with flag | shows
    · have isOwn := own index flag
      rw [isOwn] at flag
      have showsOwn := ended.shows_own flag accepted
      rw [group] at showsOwn
      rw [isOwn]
      exact showsOwn.mono inside
    · apply shows.mono
      intro event member
      simp [member]
  · intro entry keys undecidedEntry undecidedKeys refused
    rw [refusedIff entry keys undecidedEntry undecidedKeys] at refused
    obtain ⟨complaint, rest, split, unsentRest⟩ := ended.unreceived refused.1 refused.2
    refine ⟨broadcasts ++ (await ++ [complaint]), rest ++ collect, ?_, ?_⟩
    · rw [split, sameId]
      simp
    · exact fun sends => (poses_append.mp sends).elim unsentRest unsent

/-! ### The condition -/

/-- The contract counts as completed the nodes that it has all data of, and its
own node only through its alright. -/
structure DKGClient.CountsTruthfully (client : DKGClient n)
    (trace : Trace dkgInterface) : Prop where
  all : ∀ before count after,
    trace = before ++ ⟨.getNumberOfCompleted, .ok count⟩ :: after →
    (∀ index, client.group.ShowsCompleted before index) → count = n
  own : ∀ earlier middle count after,
    trace = earlier ++ ⟨.isAllDataReceived client.nodeIdContract, .ok false⟩ ::
      (middle ++ ⟨.getNumberOfCompleted, .ok count⟩ :: after) →
    ¬ SendsAlright middle → count ≠ n

theorem undecided_of_generating {α : Type} {body : ClientM n α}
    (within : body.Within generating) {client client' : DKGClient n}
    {trace : Trace dkgInterface} {outcome : Outcome PyError α}
    (run : Runs (body client) trace (outcome, client')) :
    ∀ event ∈ trace, event.query.isDecision = false := by
  intro event member
  rcases (within run).1 event member with routine | common
  · exact routine_not_decision routine
  · rw [common]
    rfl

theorem unfailed_of_done {fuel rotationId : Nat} {client client' : DKGClient n}
    {trace : Trace dkgInterface} {result : DKGResult}
    (run : Runs (runDkg fuel rotationId client) trace (.value result, client'))
    (done : result.status = .DONE) :
    ∃ front keys middle, trace = front ++ keys ∧
      Unfailed fuel rotationId client middle front ∧ completedCounts keys = [] ∧
      ∀ event ∈ keys, event.query.isDecision = false := by
  obtain ⟨status, middle, front, back, rfl, procedure, run⟩ :=
    Procedure.runs_bind_value run
  obtain ⟨⟨keysData, ended⟩, last, keys, _, rfl, generation, returned⟩ :=
    Procedure.runs_bind_value run
  obtain ⟨rfl, same, rfl⟩ := Procedure.runs_pure_iff.mp returned
  cases same
  rw [List.append_nil]
  refine ⟨front, keys, middle, rfl, ?_,
    completedCounts_of_generating (runDkgKeyGeneration_generating _) generation,
    undecided_of_generating (runDkgKeyGeneration_generating _) generation⟩
  apply runDkgProcedure_unfailed procedure
  rintro rfl
  -- after a failure no keys are generated
  obtain ⟨_, same, _⟩ := Procedure.runs_pure_iff.mp generation
  cases same
  simp [finalStatus] at done

/-- Of a run that went by the procedure: where its counts stand, and when the
contract counted all nodes. -/
theorem Unfailed.counted_iff {fuel rotationId : Nat} {client client' : DKGClient n}
    {front keys : Trace dkgInterface}
    (unfailed : Unfailed fuel rotationId client client' front)
    (uncounted : completedCounts keys = [])
    (groupSize : ∀ nodes : List SchainNode,
      ⟨.getNodesForSchain, .ok nodes⟩ ∈ front ++ keys → nodes.length = n) :
    ⟨.getNumberOfCompleted, .ok n⟩ ∈ front ++ keys ↔
      ¬ EntersClosed (front ++ keys) ∧
        ∀ last, (completedCounts (front ++ keys))[1]? = some last → last = n := by
  rw [mem_iff_mem_completedCounts, completedCounts_append, uncounted, List.append_nil]
  cases unfailed with
  | fetched nodes fetch split run =>
      have size : nodes.length = n := groupSize nodes (by rw [split]; simp)
      have counts : completedCounts front = [n] := by
        rw [split, ← size]
        exact congrArg (nodes.length :: ·)
          (completedCounts_of_polling fetchAllBroadcastedData_polling run)
      rw [counts, split]
      refine iff_of_true (List.mem_singleton_self n) ⟨?_, by simp⟩
      rintro ⟨_, _, _, incomplete, same⟩
      obtain ⟨sameNodes, same⟩ := List.cons.inj same
      obtain ⟨sameCount, _⟩ := List.cons.inj same
      cases sameNodes
      cases sameCount
      exact incomplete rfl
  | closed nodes completed incomplete split _ =>
      have size : nodes.length = n := groupSize nodes (by rw [split]; simp)
      rw [split]
      apply iff_of_false
      · intro counted
        have same : n = completed := List.mem_singleton.mp counted
        exact incomplete (same.symm.trans size.symm)
      · rintro ⟨notClosed, _⟩
        exact notClosed ⟨nodes, completed, keys, incomplete, rfl⟩
  | performed nodes completed init incomplete split run =>
      have size : nodes.length = n := groupSize nodes (by rw [split]; simp)
      obtain ⟨before, last, after, asks⟩ := initBls_asksCount run
      have initCounts : completedCounts init = [last] := by
        rw [asks.split, completedCounts_append, asks.uncountedBefore]
        exact congrArg (last :: ·) asks.uncountedAfter
      have counts : completedCounts front = [completed, last] := by
        rw [split]
        exact congrArg (completed :: ·) initCounts
      rw [counts, split]
      constructor
      · intro counted
        refine ⟨?_, ?_⟩
        · rintro ⟨_, _, _, _, same⟩
          cases same
        · intro other same
          cases same
          simp only [List.mem_cons, List.not_mem_nil, or_false] at counted
          rcases counted with same | same
          · exact absurd (same.symm.trans size.symm) incomplete
          · exact same.symm
      · rintro ⟨_, lastIsAll⟩
        rw [lastIsAll last rfl]
        simp

/-- Where the counts are truthful, the last one is told by the alright. -/
theorem Unfailed.truthful_iff {fuel rotationId : Nat} {client client' : DKGClient n}
    {front keys : Trace dkgInterface}
    (unfailed : Unfailed fuel rotationId client client' front)
    (uncounted : completedCounts keys = [])
    (undecided : ∀ event ∈ keys, event.query.isDecision = false)
    (truthful : client.CountsTruthfully (front ++ keys)) :
    (¬ EntersClosed (front ++ keys) ∧
      ∀ last, (completedCounts (front ++ keys))[1]? = some last → last = n) ↔
      ¬ EntersClosed (front ++ keys) ∧ ¬ client.AlrightRefused (front ++ keys) := by
  refine and_congr_right fun notClosed => ?_
  cases unfailed with
  | fetched nodes fetch split run =>
      apply iff_of_true
      · intro last second
        rw [completedCounts_append, uncounted, List.append_nil, split] at second
        have counts : completedCounts fetch = [] :=
          completedCounts_of_polling fetchAllBroadcastedData_polling run
        have second : (nodes.length :: completedCounts fetch)[1]? = some last := second
        rw [counts] at second
        cases second
      · rintro ⟨⟨answer, asked⟩, _⟩
        rw [split] at asked
        have unasked : ∀ event ∈ fetch, event.query.isDecision = false := by
          intro event member
          exact ((fetchAllBroadcastedData_polling run).1 event member).elim
            routine_not_decision poll_not_decision
        rcases List.mem_append.mp asked with early | late
        · simp only [List.mem_cons, Event.mk.injEq, reduceCtorEq, false_and, false_or] at early
          exact undecided_not_received unasked early
        · exact undecided_not_received undecided late
  | closed nodes completed incomplete split _ =>
      exact absurd ⟨nodes, completed, keys, incomplete, by rw [split]; rfl⟩ notClosed
  | performed nodes completed init incomplete split run =>
      obtain ⟨before, last, after, asks⟩ := initBls_asksCount run
      let entry : Trace dkgInterface := [⟨.getNodesForSchain, .ok nodes⟩,
        ⟨.getNumberOfCompleted, .ok completed⟩, ⟨.isChannelOpened, .ok true⟩,
        ⟨.isChannelOpened, .ok true⟩]
      have undecidedEntry : ∀ event ∈ entry, event.query.isDecision = false := by
        simp [entry, DkgQuery.isDecision]
      have whole : front ++ keys = entry ++ (init ++ keys) := by
        rw [split]
        rfl
      have second : (completedCounts (front ++ keys))[1]? = some last := by
        rw [whole, completedCounts_append, completedCounts_append, asks.split,
          completedCounts_append, asks.uncountedBefore]
        rfl
      have standing : front ++ keys = (entry ++ before) ++
          ⟨.getNumberOfCompleted, .ok last⟩ :: (after ++ keys) := by
        rw [whole, asks.split]
        simp
      rw [second, whole]
      constructor
      · intro lastIsAll refused
        obtain ⟨earlier, middle, rfl, unsent⟩ :=
          asks.refused entry keys undecidedEntry undecided refused
        apply truthful.own (entry ++ earlier) middle last (after ++ keys) _ unsent
          (lastIsAll last rfl)
        rw [standing]
        simp
      · intro accepted other same
        cases same
        apply truthful.all _ _ _ standing
        intro index
        exact (asks.accepted entry keys undecidedEntry undecided accepted index).mono
          (List.subset_append_right _ _)

/-- `run_dkg` returns DONE only after the contract counted all `n` nodes as
completed, exactly when with the common public key neither the channel was
closed at entry nor another number was counted at the end of `init_bls`; where
the counts are truthful, that is when the alright of the node was not refused. -/
theorem done_only_after_all_completed_iff {fuel rotationId : Nat}
    {client client' : DKGClient n} {trace : Trace dkgInterface}
    {result : DKGResult}
    (run : Runs (runDkg fuel rotationId client) trace (.value result, client'))
    (groupSize : ∀ nodes : List SchainNode,
      ⟨.getNodesForSchain, .ok nodes⟩ ∈ trace → nodes.length = n) :
    ((result.status = .DONE → ⟨.getNumberOfCompleted, .ok n⟩ ∈ trace) ↔
      (KeyAnswered trace → ¬ EntersClosed trace ∧
        ∀ last, (completedCounts trace)[1]? = some last → last = n)) ∧
    (client.CountsTruthfully trace →
      ((result.status = .DONE → ⟨.getNumberOfCompleted, .ok n⟩ ∈ trace) ↔
        (KeyAnswered trace → ¬ EntersClosed trace ∧ ¬ client.AlrightRefused trace))) := by
  rw [← done_iff_keyAnswered run]
  constructor
  · refine imp_congr_right fun done => ?_
    obtain ⟨front, keys, middle, rfl, unfailed, uncounted, _⟩ := unfailed_of_done run done
    exact unfailed.counted_iff uncounted groupSize
  · intro truthful
    refine imp_congr_right fun done => ?_
    obtain ⟨front, keys, middle, rfl, unfailed, uncounted, undecided⟩ :=
      unfailed_of_done run done
    rw [unfailed.counted_iff uncounted groupSize]
    exact unfailed.truthful_iff uncounted undecided truthful

section TwoNodes

def twoNodesAnswer : Event dkgInterface :=
  ⟨.getNodesForSchain, .ok [{ id := 10, publicKey := [] },
    { id := 11, publicKey := [] }]⟩

def channelOpen : Event dkgInterface := ⟨.isChannelOpened, .ok true⟩

def noComplaint : Event dkgInterface :=
  ⟨.getComplaintData, .ok (UINT_CONSTANT, UINT_CONSTANT)⟩

def entered : Trace dkgInterface :=
  [twoNodesAnswer, ⟨.getNumberOfCompleted, .ok 0⟩, channelOpen, channelOpen]

def keysFetched : Trace dkgInterface := [
  ⟨.getBlsPublicKey "bls", .ok []⟩, ⟨.getBlsPublicKey "bls", .ok []⟩,
  ⟨.calculateAllBlsPublicKeys [.hex (pairEvent firstNode).verificationVector,
    .hex (pairEvent secondNode).verificationVector], .ok []⟩,
  ⟨.getCommonPublicKey, .ok []⟩]

def alrightsAwaited : Trace dkgInterface := [
  channelOpen, noComplaint, ⟨.getAlrightStartedTime, .ok 0⟩, channelOpen,
  noComplaint, ⟨.getLatestBlockTimestamp, .ok 5⟩,
  ⟨.isAllDataReceived 11, .ok true⟩, ⟨.sleep 30, .ok ()⟩, noComplaint, noComplaint]

def alrightRefused : Trace dkgInterface := [
  ⟨.isEveryoneBroadcasted, .ok true⟩, channelOpen, noComplaint,
  ⟨.isAllDataReceived 10, .ok false⟩, ⟨.isAlrightPossible 10, .ok false⟩] ++
  alrightsAwaited

def waitedInVain : Trace dkgInterface := [
  ⟨.getNumberOfCompleted, .ok 1⟩, noComplaint,
  ⟨.getLatestBlockTimestamp, .ok 5⟩, ⟨.getDkgTimeout, .ok 10⟩,
  ⟨.getLatestBlockTimestamp, .ok 20⟩, noComplaint]

def incompleteTrace : Trace dkgInterface :=
  entered ++ collection true ++ alrightRefused ++ waitedInVain ++ keysFetched

theorem incompleteTrace_returns :
    Procedure.returns (I := dkgInterface) (runDkg 2 0) twoNodeClient incompleteTrace
      (fun result _ => result.status == .DONE) = true := by
  decide +kernel

theorem twoNodesAnswer_size {nodes : List SchainNode}
    (same : (⟨.getNodesForSchain, .ok nodes⟩ : Event dkgInterface) =
      twoNodesAnswer) : nodes.length = 2 := by
  cases same
  rfl

theorem done_can_be_returned_before_all_completed :
    ¬ ∀ (n fuel rotationId : Nat) (client client' : DKGClient n)
      (trace : Trace dkgInterface) (result : DKGResult),
      Runs (runDkg fuel rotationId client) trace (.value result, client') →
      (∀ nodes : List SchainNode,
        ⟨.getNodesForSchain, .ok nodes⟩ ∈ trace → nodes.length = n) →
      result.status = .DONE → ⟨.getNumberOfCompleted, .ok n⟩ ∈ trace := by
  intro claimed
  obtain ⟨result, client', run, done⟩ := Procedure.runs_of_returns incompleteTrace_returns
  have counted := claimed 2 2 0 twoNodeClient client' _ result run
    (by
      intro nodes member
      apply twoNodesAnswer_size
      simpa [incompleteTrace, entered, collection, alrightRefused, alrightsAwaited,
        waitedInVain, keysFetched, channelOpen, noComplaint, twoNodesAnswer] using member)
    (eq_of_beq done)
  rw [mem_iff_mem_completedCounts] at counted
  have counts : completedCounts incompleteTrace = [0, 1] := rfl
  rw [counts] at counted
  simp at counted

def alrightTaken : Trace dkgInterface := [
  ⟨.isAlrightPossible 10, .ok true⟩, channelOpen, ⟨.alright 10, .ok ()⟩] ++
  alrightsAwaited ++ [⟨.getNumberOfCompleted, .ok 2⟩, noComplaint] ++ keysFetched

def beforeAlright : Trace dkgInterface :=
  entered ++ collection true ++
    [⟨.isEveryoneBroadcasted, .ok true⟩, channelOpen, noComplaint]

def completeTrace : Trace dkgInterface :=
  beforeAlright ++ ⟨.isAllDataReceived 10, .ok false⟩ :: alrightTaken

theorem completeTrace_returns :
    Procedure.returns (I := dkgInterface) (runDkg 2 0) twoNodeClient completeTrace
      (fun result _ => result.status == .DONE) = true := by
  decide +kernel

theorem completeTrace_countsTruthfully : twoNodeClient.CountsTruthfully completeTrace := by
  constructor
  · intro before count after split shows
    have counts := congrArg completedCounts split
    rw [completedCounts_append] at counts
    have counts : [0, 2] = completedCounts before ++ count :: completedCounts after := counts
    cases counted : completedCounts before with
    | cons first rest =>
        rw [counted] at counts
        cases rest with
        | nil => exact (List.cons.inj (List.cons.inj counts).2).1.symm
        | cons _ rest => cases rest <;> cases (List.cons.inj (List.cons.inj counts).2).2
    | nil =>
        -- the count of the entry stands before every answer about a node
        exfalso
        cases before with
        | nil => cases (List.cons.inj split).1
        | cons first before =>
            have rest := (List.cons.inj split).2
            obtain rfl := (List.cons.inj split).1
            cases before with
            | nil => simpa [Group.ShowsCompleted, twoNodesAnswer] using shows 0
            | cons second before =>
                obtain rfl := (List.cons.inj rest).1
                cases counted
  · intro earlier middle count after split unsent
    have once : (⟨.isAllDataReceived 10, .ok false⟩ : Event dkgInterface) ∉
        beforeAlright := by
      simp [beforeAlright, entered, twoNodesAnswer, channelOpen, noComplaint, collection]
    have onceMore : (⟨.isAllDataReceived 10, .ok false⟩ : Event dkgInterface) ∉
        alrightTaken := by
      simp [alrightTaken, alrightsAwaited, keysFetched, channelOpen, noComplaint]
    obtain ⟨_, _, following⟩ :=
      (List.append_cons_inj_of_notMem once onceMore).mp split
    rcases middle with _ | ⟨possible, _ | ⟨opened, _ | ⟨sent, middle⟩⟩⟩
    · cases (List.cons.inj following).1
    · cases (List.cons.inj (List.cons.inj following).2).1
    · cases (List.cons.inj (List.cons.inj (List.cons.inj following).2).2).1
    · have sends := (List.cons.inj (List.cons.inj (List.cons.inj following).2).2).1
      refine absurd ⟨sent, by simp, ?_⟩ unsent
      rw [← sends]
      rfl

theorem completeTrace_done_after_all_completed :
    ⟨.getNumberOfCompleted, .ok 2⟩ ∈ completeTrace := by
  obtain ⟨result, client', run, done⟩ := Procedure.runs_of_returns completeTrace_returns
  apply ((done_only_after_all_completed_iff run _).2 completeTrace_countsTruthfully).mpr _
    (eq_of_beq done)
  · intro nodes member
    apply twoNodesAnswer_size
    simpa [completeTrace, beforeAlright, alrightTaken, alrightsAwaited, entered, collection,
      keysFetched, channelOpen, noComplaint, twoNodesAnswer] using member
  · intro _
    refine ⟨?_, ?_⟩
    · rintro ⟨_, _, _, _, same⟩
      cases same
    · rintro ⟨_, unpermitted⟩
      apply unpermitted
      exact ⟨entered ++ collection true ++ [⟨.isEveryoneBroadcasted, .ok true⟩, channelOpen],
        alrightTaken.drop 2, rfl⟩

end TwoNodes

end SkaleAdmin.Dkg
